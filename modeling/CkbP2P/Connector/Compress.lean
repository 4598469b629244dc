import CkbP2P.Lib.Bytes

/-!
# Compressed messages

A message has a first byte that says whether the rest is compressed.  Short messages are left as
they are, and so are those that the compression fails on.  What is decompressed has the length that
the compressed bytes announce, and no more than `maxUncompressedLen`.

The compression is a parameter.  Operations on buffers that panic out of bounds return `none`.
-/

namespace CkbP2P
namespace Connector

open Lib

/-! ### The compression -/

/-- The compression.  `decompress` fills a buffer of the given length. -/
structure Snappy where
  compressVec : Bytes → Option Bytes
  decompressLen : Bytes → Option ℕ
  decompress : Bytes → (len : ℕ) → Option (Vector UInt8 len)

/-- What was compressed announces its length, and is decompressed into a buffer of that length. -/
structure Snappy.RoundTrips (snappy : Snappy) : Prop where
  decompressLen : ∀ x y, snappy.compressVec x = some y → snappy.decompressLen y = some x.length
  decompress : ∀ x y, snappy.compressVec x = some y →
    ∃ buf, snappy.decompress y x.length = some buf ∧ buf.toList = x

/-! ### Buffers -/

/-- `split_off`: what is left, and what was split off. -/
def splitOff (b : Bytes) (n : ℕ) : Option (Bytes × Bytes) :=
  if n ≤ b.length then some (b.take n, b.drop n) else none

/-- The slice from an index on. -/
def sliceFrom (b : Bytes) (n : ℕ) : Option Bytes := if n ≤ b.length then some (b.drop n) else none

theorem splitOff_one (b : UInt8) (rest : Bytes) : splitOff (b :: rest) 1 = some ([b], rest) :=
  if_pos (Nat.succ_le_succ (Nat.zero_le _))

theorem sliceFrom_one (b : UInt8) (rest : Bytes) : sliceFrom (b :: rest) 1 = some rest :=
  if_pos (Nat.succ_le_succ (Nat.zero_le _))

/-! ### Messages -/

/-- `COMPRESSION_SIZE_THRESHOLD`. -/
def compressionSizeThreshold : ℕ := 1024

/-- `UNCOMPRESS_FLAG`. -/
def uncompressFlag : UInt8 := 0b00000000

/-- `COMPRESS_FLAG`. -/
def compressFlagBit : UInt8 := 0b10000000

/-- `MAX_UNCOMPRESSED_LEN`. -/
def maxUncompressedLen : ℕ := 1 <<< 23

/-- The kinds of errors. -/
inductive ErrorKind where
  | invalidData
  deriving DecidableEq, Repr

/-- A message. -/
structure Message where
  inner : Bytes

namespace Message

variable (snappy : Snappy)

/-- `from_raw`. -/
def fromRaw (data : Bytes) : Message := ⟨uncompressFlag :: data⟩

/-- `from_compressed`. -/
def fromCompressed (data : Bytes) : Message := ⟨data⟩

/-- `set_compress_flag`, on the bytes. -/
def setCompressFlag : Bytes → Option Bytes
  | [] => none
  | _ :: rest => some (compressFlagBit :: rest)

/-- `compress_flag`, on the bytes. -/
def compressFlag : Bytes → Option Bool
  | [] => none
  | b :: _ => some (b &&& compressFlagBit != 0)

/-- `compress`. -/
def compress (m : Message) : Option Bytes :=
  if compressionSizeThreshold < m.inner.length then do
    let (inner, input) ← splitOff m.inner 1
    match snappy.compressVec input with
    | some res => setCompressFlag (inner ++ res)
    | none => some (inner ++ input)
  else some m.inner

/-- `decompress`. -/
def decompress (m : Message) : Option (Except ErrorKind Bytes) :=
  if m.inner.isEmpty then some (.error .invalidData)
  else do
    let compressed ← compressFlag m.inner
    if compressed then
      let data ← sliceFrom m.inner 1
      match snappy.decompressLen data with
      | none => some (.error .invalidData)
      | some len =>
        if maxUncompressedLen < len then some (.error .invalidData)
        else
          match snappy.decompress data len with
          | none => some (.error .invalidData)
          | some buf => some (.ok buf.toList)
    else
      let (_, rest) ← splitOff m.inner 1
      some (.ok rest)

end Message

variable (snappy : Snappy)

/-- `compress`. -/
def compress (src : Bytes) : Option Bytes := (Message.fromRaw src).compress snappy

/-- `decompress`. -/
def decompress (src : Bytes) : Option (Except ErrorKind Bytes) :=
  (Message.fromCompressed src).decompress snappy

variable {snappy}

/-! ### What is sent -/

/-- **The two forms of what is sent.** -/
theorem compress_cases (snappy : Snappy) (x : Bytes) : ∃ y, compress snappy x = some y ∧
    (y = uncompressFlag :: x ∨
      ∃ res, snappy.compressVec x = some res ∧ y = compressFlagBit :: res) := by
  unfold compress Message.compress Message.fromRaw
  split
  · rw [splitOff_one]
    cases hres : snappy.compressVec x with
    | none =>
      -- the message is put together again
      simp only [Option.bind_eq_bind, Option.bind_some, hres]
      exact ⟨uncompressFlag :: x, rfl, .inl rfl⟩
    | some res =>
      simp only [Option.bind_eq_bind, Option.bind_some, hres]
      exact ⟨compressFlagBit :: res, rfl, .inr ⟨res, rfl, rfl⟩⟩
  · exact ⟨uncompressFlag :: x, rfl, .inl rfl⟩

/-! ### What is received -/

/-- What is done with compressed bytes. -/
def inflate (snappy : Snappy) (data : Bytes) : Except ErrorKind Bytes :=
  match snappy.decompressLen data with
  | none => .error .invalidData
  | some len =>
    if maxUncompressedLen < len then .error .invalidData
    else
      match snappy.decompress data len with
      | none => .error .invalidData
      | some buf => .ok buf.toList

/-- **What is done with received bytes**, by the first one; there is no panic. -/
theorem decompress_cons (b : UInt8) (rest : Bytes) : decompress snappy (b :: rest)
    = some (if b &&& compressFlagBit != 0 then inflate snappy rest else .ok rest) := by
  unfold decompress Message.decompress Message.fromCompressed Message.compressFlag
  rw [if_neg (by simp), sliceFrom_one, splitOff_one]
  simp only [Option.bind_eq_bind, Option.bind_some]
  split
  · unfold inflate
    split
    · rfl
    · split
      · rfl
      · split <;> rfl
  · rfl

/-- What is inflated is no longer than allowed. -/
theorem length_inflate_le {data payload : Bytes} (h : inflate snappy data = .ok payload) :
    payload.length ≤ maxUncompressedLen := by
  unfold inflate at h
  split at h
  · cases h
  · next len _ =>
    split at h
    · cases h
    · next hle =>
      split at h
      · cases h
      · next buf _ =>
        cases h
        rw [Vector.length_toList]
        exact Nat.not_lt.mp hle

/-- What was compressed is inflated again, unless it is too long. -/
theorem inflate_of_compressVec (hsnappy : snappy.RoundTrips) {x y : Bytes}
    (h : snappy.compressVec x = some y) : inflate snappy y
      = if maxUncompressedLen < x.length then .error .invalidData else .ok x := by
  obtain ⟨buf, hbuf, hx⟩ := hsnappy.decompress x y h
  rw [inflate, hsnappy.decompressLen x y h]
  dsimp only
  split
  · rfl
  · rw [hbuf]
    exact congrArg _ hx

/-- What was compressed is decompressed again, or refused because it is too long. -/
theorem decompress_compress (hsnappy : snappy.RoundTrips) (x : Bytes) :
    ∃ y, compress snappy x = some y ∧ (decompress snappy y = some (.ok x) ∨
      maxUncompressedLen < x.length ∧ decompress snappy y = some (.error .invalidData)) := by
  obtain ⟨y, hy, rfl | ⟨res, hres, rfl⟩⟩ := compress_cases snappy x
  · refine ⟨_, hy, .inl ?_⟩
    rw [decompress_cons]
    rfl
  · refine ⟨_, hy, ?_⟩
    rw [decompress_cons, if_pos (by decide), inflate_of_compressVec hsnappy hres]
    split
    · next hlong => exact .inr ⟨hlong, rfl⟩
    · exact .inl rfl

/-- **The compression law.**  A payload of at most `maxUncompressedLen` bytes comes back; no payload
comes back as another one; and received bytes never cause a panic, nor more bytes than allowed when
they are compressed. -/
theorem compression_law (snappy : Snappy) (hsnappy : snappy.RoundTrips) :
    (∀ x : Bytes, x.length ≤ 2 ^ 23 →
      ∃ y, compress snappy x = some y ∧ decompress snappy y = some (.ok x)) ∧
    (∀ x : Bytes, ∃ y, compress snappy x = some y ∧
      ∀ x', decompress snappy y = some (.ok x') → x' = x) ∧
    ∀ src : Bytes, ∃ r, decompress snappy src = some r ∧
      ∀ payload, r = .ok payload → Message.compressFlag src = some true →
        payload.length ≤ 2 ^ 23 := by
  refine ⟨?_, ?_, ?_⟩
  · intro x hx
    obtain ⟨y, hy, hok | ⟨hlong, -⟩⟩ := decompress_compress hsnappy x
    · exact ⟨y, hy, hok⟩
    · exact absurd hx (Nat.not_le.mpr hlong)
  · intro x
    obtain ⟨y, hy, hok | ⟨-, herror⟩⟩ := decompress_compress hsnappy x
    · refine ⟨y, hy, fun x' hx' => ?_⟩
      rw [hok] at hx'
      cases hx'
      rfl
    · refine ⟨y, hy, fun x' hx' => ?_⟩
      rw [herror] at hx'
      cases hx'
  · intro src
    cases src with
    | nil => exact ⟨.error .invalidData, rfl, nofun⟩
    | cons b rest =>
      refine ⟨_, decompress_cons b rest, fun payload hpayload hflag => ?_⟩
      rw [if_pos (Option.some.inj hflag)] at hpayload
      exact length_inflate_le hpayload

/-- What snappy makes of 2000 sevens: the length, one seven, and copies of what stands one byte
before, of 64 bytes each and of 15 at the end. -/
def sevensCompressed : Bytes :=
  [0xd0, 0x0f, 0x00, 0x07] ++ (List.replicate 31 [0xfe, 0x01, 0x00]).flatten ++ [0x3a, 0x01, 0x00]

/-- Snappy on 2000 sevens. -/
def snappySevens : Snappy where
  compressVec x := if x = List.replicate 2000 7 then some sevensCompressed else none
  decompressLen y := if y = sevensCompressed then some 2000 else none
  decompress y len :=
    if y = sevensCompressed ∧ len = 2000 then some (Vector.replicate len 7) else none

theorem roundTrips_snappySevens : snappySevens.RoundTrips := by
  have hsevens : ∀ {x y}, snappySevens.compressVec x = some y →
      x = List.replicate 2000 7 ∧ x.length = 2000 ∧ sevensCompressed = y := by
    intro x y h
    obtain ⟨hx, hy⟩ := Option.ite_none_right_eq_some.mp h
    exact ⟨hx, hx ▸ List.length_replicate, Option.some.inj hy⟩
  constructor
  · intro x y h
    obtain ⟨-, hlength, rfl⟩ := hsevens h
    simp only [snappySevens, hlength, if_true]
  · intro x y h
    obtain ⟨hx, hlength, rfl⟩ := hsevens h
    refine ⟨Vector.replicate x.length 7, if_pos ⟨rfl, hlength⟩, ?_⟩
    rw [Vector.toList_replicate, hlength, hx]

theorem compression_law_sevens : ∃ y, compress snappySevens (List.replicate 2000 7) = some y ∧
    decompress snappySevens y = some (.ok (List.replicate 2000 7)) := by
  have hlength : (List.replicate 2000 (7 : UInt8)).length ≤ 2 ^ 23 := by
    rw [List.length_replicate]
    decide
  exact (compression_law snappySevens roundTrips_snappySevens).1 _ hlength

end Connector
end CkbP2P

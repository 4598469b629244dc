import CkbP2P.Lib.Blocks
import CkbP2P.Secio.Handshake

/-!
# Stretching a key

`stretch_key` fills a buffer of any length from a keyed hash.  Its loop hashes a chaining
value together with the seed, copies as much of the hash as there is room for, and moves
the chaining value on.  A slice out of range would panic, and a hash without bytes would
keep the loop going.
-/

namespace CkbP2P
namespace Secio

open Lib Lib.Blocks

/-! ### The loop -/

/-- A keyed hash with its key: what `sign` gives for the data of a context. -/
abbrev Sign := Bytes → Bytes

/-- What becomes of the loop when it does not return. -/
inductive StretchError where
  /-- A slice is out of range, or a copy between slices of different lengths. -/
  | panic
  | outOfFuel
  deriving DecidableEq, Repr

/-- The loop of `stretch_key`, of at most `fuel` rounds. -/
def stretchLoopIn (sign : Sign) : ℕ → Bytes → ℕ → Bytes → Except StretchError Bytes
  | fuel, result, j, a =>
    if j < result.length then
      match fuel with
      | 0 => .error .outOfFuel
      | fuel + 1 =>
        let b := sign (a ++ seed)
        let todo := min b.length (result.length - j)
        match slice b 0 todo with
        | none => .error .panic
        | some source =>
          match copyFromSlice result j (j + todo) source with
          | none => .error .panic
          | some result => stretchLoopIn sign fuel result (j + todo) (sign a)
    else .ok result

/-- `stretch_key`, in the buffer. -/
def stretchKeyIn (sign : Sign) (fuel : ℕ) (result : Bytes) : Except StretchError Bytes :=
  stretchLoopIn sign fuel result 0 (sign seed)

/-! ### The stream -/

/-- The chaining values: the hash of the seed, and of the value before. -/
def chain (sign : Sign) : ℕ → Bytes
  | 0 => sign seed
  | i + 1 => sign (chain sign i)

/-- The blocks of the stream. -/
def block (sign : Sign) (i : ℕ) : Bytes := sign (chain sign i ++ seed)

section

variable {sign : Sign}

/-- A buffer that is full. -/
theorem stretchLoopIn_full (fuel : ℕ) (result a : Bytes) :
    stretchLoopIn sign fuel result result.length a = .ok result := by
  unfold stretchLoopIn
  rw [if_neg (Nat.lt_irrefl _)]

/-- One round of the loop, with the front filled and room for more. -/
theorem stretchLoopIn_succ {fuel : ℕ} {front rest a : Bytes} (hrest : rest ≠ []) :
    let source := (sign (a ++ seed)).take rest.length
    stretchLoopIn sign (fuel + 1) (front ++ rest) front.length a
      = stretchLoopIn sign fuel (front ++ source ++ rest.drop source.length)
          (front ++ source).length (sign a) := by
  intro source
  have hpos := List.length_pos_iff.mpr hrest
  have hlength : source.length = min (sign (a ++ seed)).length rest.length := by
    rw [List.length_take, Nat.min_comm]
  have hroom : (front ++ rest).length - front.length = rest.length := by
    rw [List.length_append, Nat.add_sub_cancel_left]
  have hslice : slice (sign (a ++ seed)) 0 (min (sign (a ++ seed)).length rest.length)
      = some source := by
    rw [slice_front (Nat.min_le_left _ _), Nat.min_comm, ← List.take_eq_take_min]
  have hcopy : copyFromSlice (front ++ rest) front.length (front.length + source.length) source
      = some (front ++ source ++ rest.drop source.length) :=
    copyFromSlice_front (by rw [hlength]; exact Nat.min_le_right _ _)
  rw [stretchLoopIn, if_pos (by rw [List.length_append]; omega)]
  dsimp only
  rw [hroom, hslice]
  dsimp only
  rw [← hlength, hcopy, List.length_append]

/-- **What the loop returns.**  The induction is on the rounds: with `k` blocks copied and
room for more, the front is the first `k` blocks. -/
theorem stretchLoopIn_eq (hsign : ∀ data, sign data ≠ []) (fuel : ℕ) :
    ∀ (k : ℕ) (rest : Bytes), rest.length ≤ fuel →
      stretchLoopIn sign fuel (concat (block sign) k ++ rest) (concat (block sign) k).length
          (chain sign k)
        = .ok ((stream (block sign)).take ((concat (block sign) k).length + rest.length)) := by
  have hne : ∀ i, block sign i ≠ [] := fun i => hsign _
  induction fuel with
  | zero =>
    intro k rest hrest
    rw [List.length_eq_zero_iff.mp (Nat.le_zero.mp hrest), List.append_nil, stretchLoopIn_full,
      List.length_nil, Nat.add_zero, take_length_concat hne]
  | succ fuel ih =>
    intro k rest hrest
    rcases eq_or_ne rest [] with rfl | hroom
    · rw [List.append_nil, stretchLoopIn_full, List.length_nil, Nat.add_zero,
        take_length_concat hne]
    have hround : stretchLoopIn sign (fuel + 1) (concat (block sign) k ++ rest)
        (concat (block sign) k).length (chain sign k)
      = stretchLoopIn sign fuel (concat (block sign) k ++ (block sign k).take rest.length ++
          rest.drop ((block sign k).take rest.length).length)
          (concat (block sign) k ++ (block sign k).take rest.length).length
          (chain sign (k + 1)) := stretchLoopIn_succ hroom
    rw [hround]
    rcases Nat.le_total rest.length (block sign k).length with hle | hle
    · -- the last block, of which there may be more than there is room for
      have hreach : (concat (block sign) k).length + rest.length
          ≤ (concat (block sign) (k + 1)).length := by
        rw [concat_succ, List.length_append]
        omega
      rw [List.length_take, Nat.min_eq_left hle, List.drop_length, List.append_nil,
        stretchLoopIn_full, take_stream hne hreach, concat_succ, List.take_length_add_append]
    · -- a block that is copied as a whole
      have hpos := List.length_pos_iff.mpr (hne k)
      have hnext := ih (k + 1) (rest.drop (block sign k).length)
        (by rw [List.length_drop]; omega)
      rw [List.take_of_length_le hle, ← concat_succ, hnext, concat_succ, List.length_append,
        List.length_drop]
      congr 2
      omega

/-- The buffer after `stretch_key`. -/
theorem stretchKeyIn_eq (hsign : ∀ data, sign data ≠ []) {fuel : ℕ} {result : Bytes}
    (hfuel : result.length ≤ fuel) :
    stretchKeyIn sign fuel result = .ok ((stream (block sign)).take result.length) := by
  have hloop := stretchLoopIn_eq hsign fuel 0 result hfuel
  rwa [show concat (block sign) 0 = [] from rfl, List.nil_append, List.length_nil,
    Nat.zero_add] at hloop

/-- **The buffer is filled with the beginning of the stream** of the hashes, whatever was in
it before: the loop returns, no slice is out of range, and no byte is left as it was.  So a
shorter buffer gets the beginning of what a longer one gets. -/
theorem stretchKeyIn_eq_stream (sign : Sign) (hsign : ∀ data, sign data ≠ []) :
    (∀ k, (stream (block sign)).take (concat (block sign) k).length = concat (block sign) k) ∧
    (∀ (fuel : ℕ) (result : Bytes), result.length ≤ fuel →
      stretchKeyIn sign fuel result = .ok ((stream (block sign)).take result.length)) ∧
    ∀ (fuel : ℕ) (result result' : Bytes), result.length ≤ result'.length →
      result'.length ≤ fuel → ∃ key key', stretchKeyIn sign fuel result = .ok key ∧
        stretchKeyIn sign fuel result' = .ok key' ∧ key <+: key' := by
  refine ⟨take_length_concat fun i => hsign _, fun fuel result => stretchKeyIn_eq hsign, ?_⟩
  intro fuel result result' hle hfuel
  exact ⟨_, _, stretchKeyIn_eq hsign (hle.trans hfuel), stretchKeyIn_eq hsign hfuel,
    take_isPrefix _ hle⟩

/-- A hash of two bytes, to try the loop with: the length of the data, and its last byte. -/
def shortHash : Sign := fun data => [UInt8.ofNat data.length, data.getLastD 0]

/-- Five bytes take three of its blocks, the last of which is cut. -/
theorem stretchKeyIn_shortHash :
    stretchKeyIn shortHash 5 [9, 9, 9, 9, 9] = .ok [15, 110, 15, 110, 15] :=
  ((stretchKeyIn_eq_stream shortHash fun _ => List.cons_ne_nil _ _).2.1 5 [9, 9, 9, 9, 9]
    (by decide)).trans (by decide +kernel)

end

/-! ### The key of the handshake -/

/-- **The key of the handshake** is what `stretch_key` leaves in the buffer. -/
theorem stretchKeyIn_eq_stretchKey {n : ℕ} (hn : n ≠ 0) (sign : Bytes → Vector UInt8 n)
    {fuel : ℕ} {result : Bytes} (hfuel : result.length ≤ fuel) :
    stretchKeyIn (fun data => (sign data).toList) fuel result
      = .ok (stretchKey sign result.length) := by
  have hloop : ∀ (fuel : ℕ) (front rest a : Bytes), rest.length ≤ fuel →
      ∀ fuel', rest.length ≤ fuel' →
        stretchLoopIn (fun data => (sign data).toList) fuel (front ++ rest) front.length a
          = .ok (front ++ stretchLoop sign fuel' rest.length a) := by
    intro fuel
    induction fuel with
    | zero =>
      intro front rest a hrest fuel' _
      rw [List.length_eq_zero_iff.mp (Nat.le_zero.mp hrest), List.append_nil, stretchLoopIn_full]
      cases fuel' <;> simp [stretchLoop]
    | succ fuel ih =>
      intro front rest a hrest fuel' hfuel'
      rcases eq_or_ne rest [] with rfl | hroom
      · rw [List.append_nil, stretchLoopIn_full]
        cases fuel' <;> simp [stretchLoop]
      have hpos := List.length_pos_iff.mpr hroom
      obtain ⟨fuel', rfl⟩ : ∃ m, fuel' = m + 1 := ⟨fuel' - 1, by omega⟩
      rw [stretchLoopIn_succ hroom]
      -- both take the same part of the block
      have hlength : ((sign (a ++ seed)).toList.take rest.length).length = min n rest.length := by
        rw [List.length_take, Vector.length_toList, Nat.min_comm]
      have htake : (sign (a ++ seed)).toList.take rest.length
          = (sign (a ++ seed)).toList.take (min n rest.length) := by
        rw [List.take_eq_take_min, Vector.length_toList, Nat.min_comm]
      rw [ih _ _ _ (by rw [List.length_drop, hlength]; omega) fuel'
        (by rw [List.length_drop, hlength]; omega), stretchLoop, if_neg (by omega)]
      dsimp only
      rw [Vector.length_toList, List.length_drop, hlength, htake, List.append_assoc]
  exact hloop fuel [] result _ hfuel _ le_rfl

end Secio
end CkbP2P

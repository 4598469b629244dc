import CkbP2P.Lib.Bytes

/-!
# Length-delimited frames

A frame is its length in four bytes, most significant first, and its content.  A sender refuses
a content that is longer than a limit, and so does a receiver that reads such a length.  The
receiver collects what arrives in a buffer and takes a frame from it as soon as it is complete.

* `putFrame` — a frame.
* `takeFrame` — the first frame of a buffer.
* `Framed` — a socket with its two buffers.
* `takeFrame_putFrame` — **a frame is taken as it was put**, whatever follows it.
* `takeFrame_of_isPrefix` — a frame that is not complete is waited for.
-/

namespace CkbP2P
namespace Lib

/-- A frame. -/
def putFrame (data : Bytes) : Bytes := putU32 (UInt32.ofNat data.length) ++ data

/-- What a receiver finds at the start of its buffer. -/
inductive Taken where
  | frame (data rest : Bytes)
  | pending
  | tooBig
  deriving DecidableEq

/-- The first frame of a buffer. -/
def takeFrame (limit : ℕ) : Bytes → Taken
  | a :: b :: c :: d :: rest =>
    let length := (getU32 a b c d).toNat
    if limit < length then .tooBig
    else if rest.length < length then .pending
    else .frame (rest.take length) (rest.drop length)
  | _ => .pending

theorem putFrame_ne_nil (data : Bytes) : putFrame data ≠ [] := nofun

/-- A buffer that starts with the length of some content. -/
theorem takeFrame_cons {limit : ℕ} {data : Bytes} (hlimit : limit < 2 ^ 32)
    (hlength : data.length ≤ limit) (rest : Bytes) :
    takeFrame limit (putU32 (UInt32.ofNat data.length) ++ rest) =
      if rest.length < data.length then .pending
      else .frame (rest.take data.length) (rest.drop data.length) := by
  have hread : (getU32 (UInt8.ofNat ((UInt32.ofNat data.length).toNat / 2 ^ 24))
      (UInt8.ofNat ((UInt32.ofNat data.length).toNat / 2 ^ 16))
      (UInt8.ofNat ((UInt32.ofNat data.length).toNat / 2 ^ 8))
      (UInt8.ofNat (UInt32.ofNat data.length).toNat)).toNat = data.length := by
    rw [getU32_putU32, UInt32.toNat_ofNat', Nat.mod_eq_of_lt (by omega)]
  simp only [putU32, List.cons_append, List.nil_append, takeFrame, hread]
  rw [if_neg (Nat.not_lt.mpr hlength)]

/-- **A frame is taken as it was put.** -/
theorem takeFrame_putFrame {limit : ℕ} {data : Bytes} (hlimit : limit < 2 ^ 32)
    (hlength : data.length ≤ limit) (rest : Bytes) :
    takeFrame limit (putFrame data ++ rest) = .frame data rest := by
  rw [putFrame, List.append_assoc, takeFrame_cons hlimit hlength, List.length_append,
    if_neg (by omega), List.take_left' rfl, List.drop_left' rfl]

/-- **A frame that is not complete is waited for.** -/
theorem takeFrame_of_isPrefix {limit : ℕ} {data buf more : Bytes} (hlimit : limit < 2 ^ 32)
    (hlength : data.length ≤ limit) (h : buf ++ more = putFrame data) (hmore : more ≠ []) :
    takeFrame limit buf = .pending := by
  match buf with
  | [] | [_] | [_, _] | [_, _, _] => rfl
  | a :: b :: c :: d :: rest =>
    have hsplit : [a, b, c, d] = putU32 (UInt32.ofNat data.length) ∧ rest ++ more = data :=
      List.append_inj h rfl
    have hbuf : a :: b :: c :: d :: rest = putU32 (UInt32.ofNat data.length) ++ rest := by
      rw [← hsplit.1]
      rfl
    have hshort : rest.length < data.length := by
      have hpos := List.length_pos_iff.mpr hmore
      rw [← hsplit.2, List.length_append]
      omega
    rw [hbuf, takeFrame_cons hlimit hlength, if_pos hshort]

/-- A socket for frames, with what has been received and what is still to be sent. -/
structure Framed where
  readBuf : Bytes
  writeBuf : Bytes
  deriving DecidableEq

namespace Framed

def new : Framed := ⟨[], []⟩

/-- A frame is to be sent, unless its content is too long. -/
def startSend (limit : ℕ) (socket : Framed) (data : Bytes) : Option Framed :=
  if limit < data.length then none
  else some { socket with writeBuf := socket.writeBuf ++ putFrame data }

/-- At most `amount` bytes are sent. -/
def write (socket : Framed) (amount : ℕ) : Framed × Bytes :=
  ({ socket with writeBuf := socket.writeBuf.drop amount }, socket.writeBuf.take amount)

/-- Some bytes arrive. -/
def read (socket : Framed) (chunk : Bytes) : Framed :=
  { socket with readBuf := socket.readBuf ++ chunk }

end Framed

end Lib
end CkbP2P

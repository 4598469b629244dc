import Mathlib.Logic.Function.Iterate
import CkbP2P.Lib.Bytes

/-!
# ChaCha20-Poly1305

The stream cipher and the authenticator, as they are computed: the text is the input with the
keystream added to it, and the tag is the value of a polynomial whose coefficients are the text.
Adding the keystream twice changes nothing, so whatever was encrypted is decrypted again.
-/

namespace CkbP2P
namespace Lib
namespace ChaCha

/-! ### Numbers -/

/-- The number that bytes stand for, the first being the least. -/
def leNat (bytes : Bytes) : ℕ := bytes.foldr (fun b n => b.toNat + 256 * n) 0

/-- The first bytes of a number, the least first. -/
def leBytes : ℕ → ℕ → Bytes
  | 0, _ => []
  | len + 1, n => UInt8.ofNat n :: leBytes len (n / 256)

theorem length_leBytes (len n : ℕ) : (leBytes len n).length = len := by
  induction len generalizing n with
  | zero => rfl
  | succ len ih => exact congrArg (· + 1) (ih _)

/-! ### The keystream -/

def rotateLeft (x c : UInt32) : UInt32 := x <<< c ||| x >>> (32 - c)

/-- A quarter round on the words with the given numbers. -/
def quarterRound (s : List UInt32) (i j k l : ℕ) : List UInt32 :=
  let a := s.getD i 0 + s.getD j 0
  let d := rotateLeft (s.getD l 0 ^^^ a) 16
  let c := s.getD k 0 + d
  let b := rotateLeft (s.getD j 0 ^^^ c) 12
  let a := a + b
  let d := rotateLeft (d ^^^ a) 8
  let c := c + d
  let b := rotateLeft (b ^^^ c) 7
  (((s.set i a).set j b).set k c).set l d

/-- A round on the columns and one on the diagonals. -/
def doubleRound (s : List UInt32) : List UInt32 :=
  [(0, 4, 8, 12), (1, 5, 9, 13), (2, 6, 10, 14), (3, 7, 11, 15),
    (0, 5, 10, 15), (1, 6, 11, 12), (2, 7, 8, 13), (3, 4, 9, 14)].foldl
    (fun s (i, j, k, l) => quarterRound s i j k l) s

/-- The words of some bytes. -/
def words (bytes : Bytes) : List UInt32 := (bytes.toChunks 4).map fun w => UInt32.ofNat (leNat w)

/-- A block of the keystream. -/
def block (key nonce : Bytes) (counter : ℕ) : Bytes :=
  let s := [0x61707865, 0x3320646e, 0x79622d32, 0x6b206574] ++ words key ++
    [UInt32.ofNat counter] ++ words nonce
  (List.zipWith (· + ·) (doubleRound^[10] s) s).flatMap fun w => leBytes 4 w.toNat

/-- The keystream is added to the input, from the block with the number one on. -/
def crypt (key nonce input : Bytes) : Bytes :=
  input.mapIdx fun i b => b ^^^ (block key nonce (i / 64 + 1)).getD (i % 64) 0

theorem length_crypt (key nonce input : Bytes) : (crypt key nonce input).length = input.length :=
  List.length_mapIdx

/-- What was encrypted is decrypted. -/
theorem crypt_crypt (key nonce input : Bytes) :
    crypt key nonce (crypt key nonce input) = input := by
  unfold crypt
  rw [List.mapIdx_mapIdx]
  refine (List.mapIdx_eq_iff).mpr fun i => ?_
  rcases input[i]? with _ | b
  · rfl
  · simp [UInt8.xor_assoc]

/-! ### The tag -/

/-- Poly1305 of a message of whole blocks, with a key for this message. -/
def poly1305 (key message : Bytes) : Bytes :=
  let r := leNat (key.take 16) &&& 0x0ffffffc0ffffffc0ffffffc0fffffff
  let acc := (message.toChunks 16).foldl
    (fun acc c => (acc + leNat (c ++ [1])) * r % (2 ^ 130 - 5)) 0
  leBytes 16 (acc + leNat ((key.drop 16).take 16))

/-- The tag of a text: the key is the block with the number zero, and the length follows the
text. -/
def tag (key nonce text : Bytes) : Bytes :=
  poly1305 (block key nonce 0) (text ++ List.replicate ((16 - text.length % 16) % 16) 0 ++
    leBytes 8 0 ++ leBytes 8 text.length)

theorem length_tag (key nonce text : Bytes) : (tag key nonce text).length = 16 :=
  length_leBytes _ _

/-- The text and its tag. -/
def encrypt (key nonce input : Bytes) : Bytes × Bytes :=
  (crypt key nonce input, tag key nonce (crypt key nonce input))

/-- A text is decrypted if it has its tag. -/
def decrypt (key nonce text given : Bytes) : Option Bytes :=
  if given = tag key nonce text then some (crypt key nonce text) else none

/-- **What was encrypted is decrypted.** -/
theorem decrypt_encrypt (key nonce input : Bytes) :
    decrypt key nonce (encrypt key nonce input).1 (encrypt key nonce input).2 = some input := by
  rw [decrypt, encrypt, if_pos rfl, crypt_crypt]

example : encrypt (List.replicate 32 0) (1 :: List.replicate 11 0) [1, 2, 3] = ([71, 242, 245],
    [99, 202, 128, 238, 144, 124, 104, 133, 190, 173, 86, 135, 86, 28, 160, 166]) := by
  decide +kernel

end ChaCha
end Lib
end CkbP2P

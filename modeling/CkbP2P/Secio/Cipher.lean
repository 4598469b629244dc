import CkbP2P.Lib.Counter
import CkbP2P.Secio.Handshake

/-!
# Stream ciphers

A stream cipher encrypts or decrypts one message after the other under one key.  Before
each message it advances its nonce, which both sides start with zeros.  Three libraries do
the work; each of them is an authenticated encryption whose functions are parameters here,
and the order in which they check a message, advance the nonce and use it differs.

To speak of the nonces used so far, a cipher is kept together with two history variables
that no function of the source looks at.
-/

namespace CkbP2P
namespace Secio

open Lib

/-! ### Nonces -/

/-- `nonce_advance`. -/
def nonceAdvance : Bytes → Bytes
  | [] => []
  | i :: nonce => if i = 255 then 0 :: nonceAdvance nonce else (i + 1) :: nonce

@[simp] theorem length_nonceAdvance (nonce : Bytes) :
    (nonceAdvance nonce).length = nonce.length := by
  induction nonce with
  | nil => rfl
  | cons i nonce ih =>
    rw [nonceAdvance]
    split_ifs
    · rw [List.length_cons, List.length_cons, ih]
    · rfl

/-- **`nonce_advance` is the successor modulo `256 ^ n`**, with the lowest byte first. -/
theorem leValue_nonceAdvance (nonce : Bytes) :
    leValue (nonceAdvance nonce) = (leValue nonce + 1) % 256 ^ nonce.length := by
  induction nonce with
  | nil => rfl
  | cons i nonce ih =>
    have hlt := leValue_lt nonce
    rw [nonceAdvance]
    split_ifs with hi
    · -- the carry goes on to the next byte
      subst hi
      have hcarry : leValue (255 :: nonce) + 1 = 256 * (leValue nonce + 1) := by
        rw [leValue_cons, show (255 : UInt8).toNat = 255 from rfl]
        ring
      rw [hcarry, leValue_cons, ih, List.length_cons, pow_succ, mul_comm (256 ^ _),
        Nat.mul_mod_mul_left]
      exact Nat.zero_add _
    · have hsmall : i.toNat < 255 := by
        have hne : i.toNat ≠ 255 := fun h => hi (UInt8.toNat_inj.mp h)
        have hi' := i.toNat_lt
        omega
      have hsucc : (i + 1).toNat = i.toNat + 1 := by
        rw [UInt8.toNat_add, show (1 : UInt8).toNat = 1 from rfl]
        omega
      have hbound : leValue (i :: nonce) + 1 < 256 ^ (i :: nonce).length := by
        rw [leValue_cons, List.length_cons, pow_succ]
        omega
      rw [Nat.mod_eq_of_lt hbound, leValue_cons, leValue_cons, hsucc]
      omega

/-- Nonces of `n` bytes are a counter modulo `256 ^ n`. -/
theorem counts_nonceAdvance (n : ℕ) :
    Counts nonceAdvance leValue (256 ^ n) fun nonce => nonce.length = n where
  closed nonce h := (length_nonceAdvance nonce).trans h
  bounded nonce h := h ▸ leValue_lt nonce
  succ nonce h := h ▸ leValue_nonceAdvance nonce

/-! ### Authenticated encryption -/

/-- `tag_size`. -/
def CipherType.tagSize : CipherType → ℕ
  | .aes128Gcm => 16
  | .aes256Gcm => 16
  | .chaCha20Poly1305 => 16

/-- The errors of a cipher. -/
inductive CipherError where
  | frameTooShort
  | cryptoError
  | openssl
  | invalidProposition (message : String)
  /-- A cipher made for one direction is used for the other: the source does not return. -/
  | unreachable
  deriving DecidableEq, Repr

/-- An authenticated encryption: a message is encrypted to a text and a tag. -/
structure Aead where
  encrypt (t : CipherType) (key nonce input : Bytes) : Option (Bytes × Bytes)
  decrypt (t : CipherType) (key nonce text tag : Bytes) : Option Bytes

/-- The libraries that do the work. -/
inductive Library where
  | openssl
  | ring
  | wasm
  deriving DecidableEq, Repr

/-- A stream cipher of one of the libraries. -/
structure AeadCipher where
  library : Library
  cipherType : CipherType
  key : Bytes
  /-- Which direction the cipher was made for; only `ring` looks at it. -/
  mode : CryptoMode
  iv : Bytes
  iv_length : iv.length = cipherType.ivSize
  /-- The nonces messages were encrypted with so far. -/
  sealedWith : List Bytes
  /-- The nonces messages were decrypted with so far. -/
  openedWith : List Bytes

namespace AeadCipher

/-- The three constructors, with the nonce the cipher starts from. -/
def start (library : Library) (c : StreamCipher) (iv : Bytes) (h : iv.length = c.ty.ivSize) :
    AeadCipher :=
  { library, cipherType := c.ty, key := c.key, mode := c.mode, iv, iv_length := h
    sealedWith := [], openedWith := [] }

/-- `new_stream`: the nonce starts with zeros. -/
def newStream (library : Library) (c : StreamCipher) : AeadCipher :=
  start library c (List.replicate c.ty.ivSize 0) List.length_replicate

/-- The nonce is advanced. -/
def advance (c : AeadCipher) : AeadCipher :=
  { c with iv := nonceAdvance c.iv, iv_length := (length_nonceAdvance c.iv).trans c.iv_length }

/-- The error a failure of the library becomes. -/
def failure (c : AeadCipher) : CipherError :=
  match c.library with
  | .openssl => .openssl
  | .ring | .wasm => .cryptoError

/-- Encrypt with the present nonce; the tag follows the text. -/
def sealWith (aead : Aead) (c : AeadCipher) (input : Bytes) :
    AeadCipher × Except CipherError Bytes :=
  ({ c with sealedWith := c.sealedWith ++ [c.iv] },
    match aead.encrypt c.cipherType c.key c.iv input with
    | none => .error c.failure
    | some (text, tag) => .ok (text ++ tag))

/-- Decrypt with the present nonce a text that ends in its tag. -/
def openWith (aead : Aead) (c : AeadCipher) (input : Bytes) :
    AeadCipher × Except CipherError Bytes :=
  let n := input.length - c.cipherType.tagSize
  ({ c with openedWith := c.openedWith ++ [c.iv] },
    match aead.decrypt c.cipherType c.key c.iv (input.take n) (input.drop n) with
    | none => .error c.failure
    | some output => .ok output)

/-- The buffer `input` after `output` has been written to its front and it has been
truncated to the length without the tag. -/
def truncated (c : AeadCipher) (input output : Bytes) : Bytes :=
  (output ++ input.drop output.length).take (input.length - c.cipherType.tagSize)

/-- `encrypt`. -/
def encrypt (aead : Aead) (c : AeadCipher) (input : Bytes) :
    AeadCipher × Except CipherError Bytes :=
  match c.library, c.mode with
  | .openssl, _ | .wasm, _ | .ring, .encrypt => c.advance.sealWith aead input
  | .ring, .decrypt => (c, .error .unreachable)

/-- The decryption of `ring`, which checks the length before it advances the nonce, and
works in a buffer. -/
def ringDecrypt (aead : Aead) (c : AeadCipher) (input : Bytes) :
    AeadCipher × Except CipherError Bytes :=
  if input.length < c.cipherType.tagSize then (c, .error .frameTooShort)
  else
    match c.mode with
    | .encrypt => (c, .error .unreachable)
    | .decrypt =>
      match c.advance.openWith aead input with
      | (c', .error e) => (c', .error e)
      | (c', .ok output) => (c', .ok (c.truncated input output))

/-- The decryption of the other two, which advance the nonce first; what is shorter than a
tag is not decrypted. -/
def plainDecrypt (aead : Aead) (tooShort : CipherError) (c : AeadCipher) (input : Bytes) :
    AeadCipher × Except CipherError Bytes :=
  if input.length < c.cipherType.tagSize then (c.advance, .error tooShort)
  else c.advance.openWith aead input

/-- `decrypt`. -/
def decrypt (aead : Aead) (c : AeadCipher) (input : Bytes) :
    AeadCipher × Except CipherError Bytes :=
  match c.library with
  | .openssl => c.plainDecrypt aead .frameTooShort input
  | .ring => c.ringDecrypt aead input
  | .wasm => c.plainDecrypt aead .cryptoError input

/-- `is_in_place`. -/
def isInPlace (c : AeadCipher) : Bool :=
  match c.library with
  | .openssl => false
  | .ring | .wasm => true

/-- `decrypt_in_place`. -/
def decryptInPlace (aead : Aead) (c : AeadCipher) (input : Bytes) :
    AeadCipher × Except CipherError Bytes :=
  match c.library with
  | .openssl => (c, .error (.invalidProposition "don't support in place decrypted"))
  | .ring => c.ringDecrypt aead input
  | .wasm => c.plainDecrypt aead .cryptoError input

/-! ### One message -/

variable (aead : Aead) {c : AeadCipher}

/-- What one encryption does to the nonces. -/
theorem encrypt_fst (hmode : c.mode = .encrypt) (input : Bytes) :
    (c.encrypt aead input).1
      = { c.advance with sealedWith := c.sealedWith ++ [nonceAdvance c.iv] } := by
  unfold encrypt
  rw [hmode]
  cases c.library <;> rfl

theorem ringDecrypt_fst (hmode : c.mode = .decrypt) {input : Bytes}
    (hlen : c.cipherType.tagSize ≤ input.length) :
    (c.ringDecrypt aead input).1
      = { c.advance with openedWith := c.openedWith ++ [nonceAdvance c.iv] } := by
  unfold ringDecrypt
  rw [if_neg (by omega), hmode]
  dsimp only
  split
  · next heq => exact (congrArg Prod.fst heq).symm
  · next heq => exact (congrArg Prod.fst heq).symm

theorem plainDecrypt_fst (tooShort : CipherError) {input : Bytes}
    (hlen : c.cipherType.tagSize ≤ input.length) :
    (c.plainDecrypt aead tooShort input).1
      = { c.advance with openedWith := c.openedWith ++ [nonceAdvance c.iv] } := by
  unfold plainDecrypt
  rw [if_neg (by omega)]
  rfl

/-- Decrypt, in place if it is asked for and the library can. -/
def receive (aead : Aead) (c : AeadCipher) (inPlace : Bool) (input : Bytes) :
    AeadCipher × Except CipherError Bytes :=
  if inPlace && c.isInPlace then c.decryptInPlace aead input else c.decrypt aead input

/-- What one decryption does to the nonces, in whichever way it is asked for. -/
theorem receive_fst (hmode : c.mode = .decrypt) (inPlace : Bool) {input : Bytes}
    (hlen : c.cipherType.tagSize ≤ input.length) :
    (c.receive aead inPlace input).1
      = { c.advance with openedWith := c.openedWith ++ [nonceAdvance c.iv] } := by
  unfold receive decryptInPlace decrypt isInPlace
  cases c.library with
  | openssl =>
    simp only [Bool.and_false, Bool.false_eq_true, if_false]
    exact plainDecrypt_fst aead _ hlen
  | ring =>
    dsimp only
    split_ifs <;> exact ringDecrypt_fst aead hmode hlen
  | wasm =>
    dsimp only
    split_ifs <;> exact plainDecrypt_fst aead _ hlen

/-! ### Runs of messages -/

/-- Encrypt one message after the other. -/
def encryptAll (aead : Aead) (c : AeadCipher) (inputs : List Bytes) : AeadCipher :=
  inputs.foldl (fun c input => (c.encrypt aead input).1) c

/-- What can be decrypted, in place or not: a text that has room for a tag. -/
structure Message (t : CipherType) where
  data : Bytes
  inPlace : Bool
  long : t.tagSize ≤ data.length

/-- Decrypt one message after the other. -/
def decryptAll {t : CipherType} (aead : Aead) (c : AeadCipher) (messages : List (Message t)) :
    AeadCipher :=
  messages.foldl (fun c m => (c.receive aead m.inPlace m.data).1) c

/-- The nonces of `n` messages. -/
def nonces (iv : Bytes) (n : ℕ) : List Bytes := (List.range n).map fun i => nonceAdvance^[i + 1] iv

theorem nonces_succ (iv : Bytes) (n : ℕ) :
    nonces iv (n + 1) = nonceAdvance iv :: nonces (nonceAdvance iv) n := by
  simp only [nonces, List.range_succ_eq_map, List.map_cons, List.map_map]
  rfl

theorem getElem?_nonces {iv : Bytes} {n i : ℕ} (hi : i < n) :
    (nonces iv n)[i]? = some (nonceAdvance^[i + 1] iv) := by
  simp [nonces, hi]

/-- **The nonces of a run of encryptions.** -/
theorem sealedWith_encryptAll (aead : Aead) (inputs : List Bytes) :
    ∀ c : AeadCipher, c.mode = .encrypt →
      (c.encryptAll aead inputs).sealedWith = c.sealedWith ++ nonces c.iv inputs.length := by
  induction inputs with
  | nil =>
    intro c _
    exact (List.append_nil _).symm
  | cons input inputs ih =>
    intro c hmode
    have hstep := encrypt_fst aead hmode input
    have hrest := ih (c.encrypt aead input).1 (by rw [hstep]; exact hmode)
    rw [encryptAll, List.foldl_cons]
    change (((c.encrypt aead input).1).encryptAll aead inputs).sealedWith = _
    rw [hrest, hstep, List.length_cons, nonces_succ]
    simp [advance]

/-- **The nonces of a run of decryptions.** -/
theorem openedWith_decryptAll {t : CipherType} (aead : Aead) (messages : List (Message t)) :
    ∀ c : AeadCipher, c.cipherType = t → c.mode = .decrypt →
      (c.decryptAll aead messages).openedWith = c.openedWith ++ nonces c.iv messages.length := by
  induction messages with
  | nil =>
    intro c _ _
    exact (List.append_nil _).symm
  | cons m messages ih =>
    intro c ht hmode
    have hstep := receive_fst aead hmode m.inPlace (by rw [ht]; exact m.long)
    have hrest := ih (c.receive aead m.inPlace m.data).1 (by rw [hstep]; exact ht)
      (by rw [hstep]; exact hmode)
    rw [decryptAll, List.foldl_cons]
    change (((c.receive aead m.inPlace m.data).1).decryptAll aead messages).openedWith = _
    rw [hrest, hstep, List.length_cons, nonces_succ]
    simp [advance]

/-- **Nonces never repeat.**  Advancing a nonce of `n` bytes is the successor modulo
`256 ^ n`.  Of the messages a cipher of any library encrypts, from any nonce, two that are
less than `256 ^ n` messages apart have different nonces; and a cipher of any library that
starts from the same nonce decrypts its `i`-th message with the nonce of the `i`-th. -/
theorem nonces_distinct_and_matched (aead : Aead) (library library' : Library) (t : CipherType)
    (key key' : Bytes) (iv : Vector UInt8 t.ivSize) (inputs : List Bytes)
    (messages : List (Message t)) :
    let start := fun library key mode => start library ⟨t, key, mode⟩ iv.toList iv.length_toList
    let sealedWith := ((start library key .encrypt).encryptAll aead inputs).sealedWith
    let openedWith := ((start library' key' .decrypt).decryptAll aead messages).openedWith
    (∀ nonce : Bytes, (nonceAdvance nonce).length = nonce.length ∧
      leValue (nonceAdvance nonce) = (leValue nonce + 1) % 256 ^ nonce.length) ∧
    sealedWith.length = inputs.length ∧ openedWith.length = messages.length ∧
    (∀ i j, i < j → j < i + 256 ^ t.ivSize → j < inputs.length →
      sealedWith[i]? ≠ sealedWith[j]?) ∧
    ∀ i, i < inputs.length → i < messages.length → sealedWith[i]? = openedWith[i]? := by
  have hsealed := sealedWith_encryptAll aead inputs
    (start library ⟨t, key, .encrypt⟩ iv.toList iv.length_toList) rfl
  have hopened := openedWith_decryptAll aead messages
    (start library' ⟨t, key', .decrypt⟩ iv.toList iv.length_toList) rfl rfl
  dsimp only
  rw [hsealed, hopened]
  simp only [start, List.nil_append]
  refine ⟨fun nonce => ⟨length_nonceAdvance nonce, leValue_nonceAdvance nonce⟩, by simp [nonces],
    by simp [nonces], ?_, ?_⟩
  · intro i j hij hwindow hj heq
    rw [getElem?_nonces (by omega), getElem?_nonces hj, Option.some_inj] at heq
    exact (counts_nonceAdvance t.ivSize).iterate_ne iv.length_toList (by omega) (by omega) heq
  · intro i hi hi'
    rw [getElem?_nonces hi, getElem?_nonces hi']

end AeadCipher

end Secio
end CkbP2P

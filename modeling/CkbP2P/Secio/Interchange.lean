import CkbP2P.Secio.SecureStream

/-!
# Two libraries for one cipher

A stream cipher may be made from OpenSSL or from `ring`, and either side of a connection may
use either.  Both advance the nonce by one for a message.  But OpenSSL's advances it before it
looks at the length of a ciphertext, and `ring`'s after: a ciphertext that is too short for
a tag is refused by both, and moves only one of them on.

Here the results of whole sequences of calls are compared, success or failure and the
bytes, for two libraries that agree on every single encryption.
-/

namespace CkbP2P
namespace Secio

open Lib

/-- Two libraries agree on every encryption and every decryption. -/
structure Aead.Agree (openssl ring : Aead) : Prop where
  encrypt : ∀ t key nonce input,
    openssl.encrypt t key nonce input = ring.encrypt t key nonce input
  decrypt : ∀ t key nonce text tag,
    openssl.decrypt t key nonce text tag = ring.decrypt t key nonce text tag

theorem Aead.Agree.eq {openssl ring : Aead} (h : openssl.Agree ring) : openssl = ring := by
  obtain ⟨encrypt, decrypt⟩ := openssl
  obtain ⟨encrypt', decrypt'⟩ := ring
  have hencrypt : encrypt = encrypt' := by
    funext t key nonce input
    exact h.encrypt t key nonce input
  have hdecrypt : decrypt = decrypt' := by
    funext t key nonce text tag
    exact h.decrypt t key nonce text tag
  rw [hencrypt, hdecrypt]

/-- A text is decrypted to one of the same length. -/
def Aead.KeepsLength (aead : Aead) : Prop :=
  ∀ t key nonce text tag output,
    aead.decrypt t key nonce text tag = some output → output.length = text.length

namespace AeadCipher

/-! ### Sequences of calls -/

/-- What calls of `encrypt` return, one after the other; nothing stands for a failure. -/
def encryptResults (aead : Aead) : AeadCipher → List Bytes → List (Option Bytes)
  | _, [] => []
  | c, input :: inputs =>
    (c.encrypt aead input).2.toOption :: encryptResults aead (c.encrypt aead input).1 inputs

/-- A ciphertext to decrypt, in place if it is asked for and the library can. -/
structure Ciphertext where
  data : Bytes
  inPlace : Bool
  deriving DecidableEq, Repr

/-- What calls of `decrypt` return, one after the other. -/
def decryptResults (aead : Aead) : AeadCipher → List Ciphertext → List (Option Bytes)
  | _, [] => []
  | c, m :: ms =>
    (c.receive aead m.inPlace m.data).2.toOption ::
      decryptResults aead (c.receive aead m.inPlace m.data).1 ms

/-- A ciphertext has room for a tag. -/
def Ciphertext.isLong (t : CipherType) (m : Ciphertext) : Bool := t.tagSize ≤ m.data.length

/-- How many of the ciphertexts before position `i` are too short. -/
def shortBefore (t : CipherType) (ms : List Ciphertext) (i : ℕ) : ℕ :=
  (ms.take i).countP fun m => !m.isLong t

/-- Open a ciphertext with a given nonce. -/
def openAt (aead : Aead) (t : CipherType) (key nonce data : Bytes) : Option Bytes :=
  if data.length < t.tagSize then none
  else
    let n := data.length - t.tagSize
    aead.decrypt t key nonce (data.take n) (data.drop n)

/-! ### One call -/

/-- A cipher has only been used: its parts other than the nonce are as they were made. -/
structure Made (c : AeadCipher) (library : Library) (t : CipherType) (key : Bytes)
    (mode : CryptoMode) : Prop where
  library : c.library = library
  cipherType : c.cipherType = t
  key : c.key = key
  mode : c.mode = mode

variable {aead : Aead} {c : AeadCipher} {t : CipherType} {key : Bytes} {mode : CryptoMode}

theorem toOption_openWith (input : Bytes) (hlong : ¬ input.length < c.cipherType.tagSize) :
    (c.openWith aead input).2.toOption = openAt aead c.cipherType c.key c.iv input := by
  rw [openWith, openAt, if_neg hlong]
  dsimp only
  cases aead.decrypt c.cipherType c.key c.iv (input.take (input.length - c.cipherType.tagSize))
    (input.drop (input.length - c.cipherType.tagSize)) with
  | none => rfl
  | some output => rfl

/-- **One ciphertext with OpenSSL**: the nonce is advanced, whatever the ciphertext. -/
theorem receive_openssl (aead : Aead) (h : c.Made .openssl t key mode) (inPlace : Bool)
    (input : Bytes) :
    (c.receive aead inPlace input).2.toOption = openAt aead t key (nonceAdvance c.iv) input ∧
    (c.receive aead inPlace input).1.Made .openssl t key mode ∧
    (c.receive aead inPlace input).1.iv = nonceAdvance c.iv := by
  obtain ⟨hlib, rfl, rfl, hmode⟩ := h
  have hreceive : c.receive aead inPlace input = c.plainDecrypt aead .frameTooShort input := by
    simp only [receive, isInPlace, decrypt, hlib, Bool.and_false, Bool.false_eq_true, if_false]
  rw [hreceive, plainDecrypt]
  split_ifs with hshort
  · refine ⟨?_, ⟨hlib, rfl, rfl, hmode⟩, rfl⟩
    rw [openAt, if_pos hshort]
    rfl
  · exact ⟨toOption_openWith input hshort, ⟨hlib, rfl, rfl, hmode⟩, rfl⟩

/-- **One ciphertext with `ring`**: the nonce is advanced if there is room for a tag. -/
theorem receive_ring (hlength : aead.KeepsLength) (h : c.Made .ring t key .decrypt)
    (inPlace : Bool) (input : Bytes) :
    (c.receive aead inPlace input).2.toOption = openAt aead t key (nonceAdvance c.iv) input ∧
    (c.receive aead inPlace input).1.Made .ring t key .decrypt ∧
    (c.receive aead inPlace input).1.iv
      = if input.length < t.tagSize then c.iv else nonceAdvance c.iv := by
  obtain ⟨hlib, rfl, rfl, hmode⟩ := h
  have hreceive : c.receive aead inPlace input = c.ringDecrypt aead input := by
    simp only [receive, decryptInPlace, decrypt, hlib, ite_self]
  rw [hreceive, ringDecrypt]
  split_ifs with hshort
  · refine ⟨?_, ⟨hlib, rfl, rfl, hmode⟩, rfl⟩
    rw [openAt, if_pos hshort]
    rfl
  rw [hmode, openAt, if_neg hshort]
  dsimp only [openWith, advance]
  cases hdec : aead.decrypt c.cipherType c.key (nonceAdvance c.iv)
      (input.take (input.length - c.cipherType.tagSize))
      (input.drop (input.length - c.cipherType.tagSize)) with
  | none => exact ⟨rfl, ⟨hlib, rfl, rfl, hmode⟩, rfl⟩
  | some output =>
    refine ⟨?_, ⟨hlib, rfl, rfl, hmode⟩, rfl⟩
    -- what stands in the buffer behind the output is cut off
    have hout : output.length = input.length - c.cipherType.tagSize := by
      rw [hlength _ _ _ _ _ _ hdec, List.length_take]
      omega
    change some (c.truncated input output) = some output
    rw [truncated, ← hout, List.take_left']
    rfl

/-- One message encrypted with either library. -/
theorem toOption_encrypt (h : c.mode = .encrypt) (input : Bytes) :
    (c.encrypt aead input).2.toOption
      = (aead.encrypt c.cipherType c.key (nonceAdvance c.iv) input).map fun r => r.1 ++ r.2 := by
  have hencrypt : c.encrypt aead input = c.advance.sealWith aead input := by
    rw [encrypt, h]
    cases c.library <;> rfl
  rw [hencrypt]
  dsimp only [sealWith, advance]
  cases aead.encrypt c.cipherType c.key (nonceAdvance c.iv) input with
  | none => rfl
  | some r => rfl

/-! ### Sequences -/

/-- **The nonces of OpenSSL** count the ciphertexts. -/
theorem getElem?_openssl (ms : List Ciphertext) :
    ∀ (c : AeadCipher) (i : ℕ), c.Made .openssl t key mode →
      (c.decryptResults aead ms)[i]?
        = ms[i]?.map fun m => openAt aead t key (nonceAdvance^[i + 1] c.iv) m.data := by
  induction ms with
  | nil =>
    intro c i _
    rfl
  | cons m ms ih =>
    intro c i h
    obtain ⟨hresult, hmade, hiv⟩ := receive_openssl aead h m.inPlace m.data
    cases i with
    | zero => exact congrArg some hresult
    | succ i =>
      rw [decryptResults, List.getElem?_cons_succ, ih _ i hmade, hiv]
      rfl

/-- **The nonces of `ring`** count those that have room for a tag. -/
theorem getElem?_ring (hlength : aead.KeepsLength) (ms : List Ciphertext) :
    ∀ (c : AeadCipher) (i : ℕ), c.Made .ring t key .decrypt →
      (c.decryptResults aead ms)[i]? = ms[i]?.map fun m => openAt aead t key
        (nonceAdvance^[(ms.take i).countP (Ciphertext.isLong t) + 1] c.iv) m.data := by
  induction ms with
  | nil =>
    intro c i _
    rfl
  | cons m ms ih =>
    intro c i h
    obtain ⟨hresult, hmade, hiv⟩ := receive_ring hlength h m.inPlace m.data
    cases i with
    | zero => exact congrArg some hresult
    | succ i =>
      rw [decryptResults, List.getElem?_cons_succ, ih _ i hmade, hiv, List.take_succ_cons,
        List.countP_cons, List.getElem?_cons_succ]
      by_cases hshort : m.data.length < t.tagSize
      · have hlong : m.isLong t = false := decide_eq_false (by omega)
        rw [if_pos hshort, hlong]
        rfl
      · have hlong : m.isLong t = true := decide_eq_true (by omega)
        rw [if_neg hshort, hlong, if_pos rfl]
        rfl

/-- The ciphertexts before a position have room for a tag or are too short. -/
theorem countP_isLong_add_shortBefore {ms : List Ciphertext} {i : ℕ} (hi : i < ms.length) :
    (ms.take i).countP (Ciphertext.isLong t) + shortBefore t ms i = i := by
  have hsum := (ms.take i).length_eq_countP_add_countP (Ciphertext.isLong t)
  rw [List.length_take, Nat.min_eq_left hi.le] at hsum
  exact (hsum.trans (congrArg _ (List.countP_congr fun m _ => by simp))).symm

/-- Two ciphers of one kind encrypt alike. -/
theorem encryptResults_eq (inputs : List Bytes) :
    ∀ c c' : AeadCipher, c.mode = .encrypt → c'.mode = .encrypt → c.cipherType = c'.cipherType →
      c.key = c'.key → c.iv = c'.iv →
      c.encryptResults aead inputs = c'.encryptResults aead inputs := by
  induction inputs with
  | nil =>
    intro c c' _ _ _ _ _
    rfl
  | cons input inputs ih =>
    intro c c' hmode hmode' ht hkey hiv
    have hrest := ih (c.encrypt aead input).1 (c'.encrypt aead input).1
    rw [encrypt_fst aead hmode, encrypt_fst aead hmode'] at hrest
    rw [encryptResults, encryptResults, toOption_encrypt hmode, toOption_encrypt hmode', ht, hkey,
      hiv, encrypt_fst aead hmode, encrypt_fst aead hmode',
      hrest hmode hmode' ht hkey (congrArg nonceAdvance hiv)]

/-- **When a ciphertext is opened with the same nonce** by both libraries. -/
theorem iterate_nonceAdvance_eq_iff {iv : Bytes} (hiv : iv.length = t.ivSize)
    {ms : List Ciphertext} {i : ℕ} (hi : i < ms.length) :
    nonceAdvance^[i + 1] iv
        = nonceAdvance^[(ms.take i).countP (Ciphertext.isLong t) + 1] iv ↔
      256 ^ t.ivSize ∣ shortBefore t ms i := by
  have hcount := countP_isLong_add_shortBefore (t := t) hi
  have hinj : ∀ a b : Bytes, a.length = t.ivSize → b.length = t.ivSize →
      leValue a = leValue b → a = b := fun a b ha hb => leValue_inj (ha.trans hb.symm)
  have hback := (counts_nonceAdvance t.ivSize).iterate_eq_iff hinj hiv
    (show (ms.take i).countP (Ciphertext.isLong t) + 1 ≤ i + 1 by omega)
  rw [eq_comm, hback]
  congr! 1
  omega

/-- An encryption that opens what comes with one nonce, and nothing else. -/
def onlyWith (nonce : Bytes) : Aead where
  encrypt _ _ _ _ := none
  decrypt _ _ nonce' text _ := if nonce' = nonce then some text else none

theorem keepsLength_onlyWith (nonce : Bytes) : (onlyWith nonce).KeepsLength := by
  intro t key nonce' text tag output h
  dsimp only [onlyWith] at h
  split_ifs at h
  rw [Option.some.inj h]

theorem openAt_of_isLong {m : Ciphertext} (h : m.isLong t = true) (nonce : Bytes) :
    openAt aead t key nonce m.data = aead.decrypt t key nonce
      (m.data.take (m.data.length - t.tagSize)) (m.data.drop (m.data.length - t.tagSize)) := by
  have hlong := of_decide_eq_true h
  rw [openAt, if_neg (by omega)]

/-- What each ciphertext needs for the results to be the same. -/
theorem decryptResults_eq_iff (hlength : aead.KeepsLength) {c c' : AeadCipher} {iv : Bytes}
    (hc : c.Made .openssl t key mode) (hc' : c'.Made .ring t key .decrypt) (hiv : c.iv = iv)
    (hiv' : c'.iv = iv) (ms : List Ciphertext) :
    c.decryptResults aead ms = c'.decryptResults aead ms ↔
      ∀ i m, ms[i]? = some m → openAt aead t key (nonceAdvance^[i + 1] iv) m.data
        = openAt aead t key
            (nonceAdvance^[(ms.take i).countP (Ciphertext.isLong t) + 1] iv) m.data := by
  rw [List.ext_getElem?_iff]
  refine forall_congr' fun i => ?_
  rw [getElem?_openssl ms c i hc, getElem?_ring hlength ms c' i hc', hiv, hiv']
  cases ms[i]? with
  | none => simp
  | some m => simp

/-- **When the libraries are interchangeable.**  Encrypting, the two always return the same,
for every key the cipher takes and every sequence of messages.  Decrypting a sequence of
ciphertexts, they return the same whatever the encryption is, if and only if the number of
ciphertexts too short for a tag is a multiple of `256 ^ n` before each one that is not. -/
theorem backends_interchangeable_iff (t : CipherType) (key : Vector UInt8 t.keySize) :
    let cipher := fun library mode => newStream library ⟨t, key.toList, mode⟩
    (∀ openssl ring : Aead, openssl.Agree ring → ∀ inputs,
      (cipher .openssl .encrypt).encryptResults openssl inputs
        = (cipher .ring .encrypt).encryptResults ring inputs) ∧
    ∀ ms : List Ciphertext,
      (∀ openssl ring : Aead, openssl.Agree ring → ring.KeepsLength →
        (cipher .openssl .decrypt).decryptResults openssl ms
          = (cipher .ring .decrypt).decryptResults ring ms) ↔
      ∀ i m, ms[i]? = some m → m.isLong t = true → 256 ^ t.ivSize ∣ shortBefore t ms i := by
  intro cipher
  have hiv : (List.replicate t.ivSize (0 : UInt8)).length = t.ivSize := List.length_replicate
  have hopenssl : (cipher .openssl .decrypt).Made .openssl t key.toList .decrypt :=
    ⟨rfl, rfl, rfl, rfl⟩
  have hring : (cipher .ring .decrypt).Made .ring t key.toList .decrypt := ⟨rfl, rfl, rfl, rfl⟩
  have hzeros : ∀ library, (cipher library .decrypt).iv = List.replicate t.ivSize 0 := fun _ => rfl
  refine ⟨?_, fun ms => ⟨fun hsame i m hm hlong => ?_, ?_⟩⟩
  · rintro openssl ring hagree inputs
    rw [hagree.eq]
    exact encryptResults_eq inputs _ _ rfl rfl rfl rfl rfl
  · -- an encryption that opens the ciphertext with the nonce OpenSSL has for it, and no other
    let nonce := nonceAdvance^[i + 1] (List.replicate t.ivSize 0)
    have hlength := keepsLength_onlyWith nonce
    have hresults := (decryptResults_eq_iff hlength hopenssl hring (hzeros _) (hzeros _) ms).mp
      (hsame (onlyWith nonce) _ ⟨fun _ _ _ _ => rfl, fun _ _ _ _ _ => rfl⟩ hlength) i m hm
    rw [openAt_of_isLong hlong, openAt_of_isLong hlong] at hresults
    have hi : i < ms.length := (List.getElem?_eq_some_iff.mp hm).1
    rw [← iterate_nonceAdvance_eq_iff hiv hi]
    by_contra hne
    dsimp only [onlyWith] at hresults
    rw [if_pos rfl, if_neg (fun heq => hne heq.symm)] at hresults
    cases hresults
  · rintro hshort openssl ring hagree hlength
    rw [hagree.eq]
    refine (decryptResults_eq_iff hlength hopenssl hring (hzeros _) (hzeros _) ms).mpr ?_
    intro i m hm
    cases hlong : m.isLong t with
    | false =>
      have hlt : m.data.length < t.tagSize := Nat.not_le.mp (of_decide_eq_false hlong)
      rw [openAt, openAt, if_pos hlt, if_pos hlt]
    | true =>
      have hi : i < ms.length := (List.getElem?_eq_some_iff.mp hm).1
      rw [(iterate_nonceAdvance_eq_iff hiv hi).mpr (hshort i m hm hlong)]

/-- What `ChaCha20-Poly1305` makes of the bytes 1, 2, 3 under the key of zeros and the nonce
one. -/
def firstFrame : Bytes :=
  [71, 242, 245, 99, 202, 128, 238, 144, 124, 104, 133, 190, 173, 86, 135, 86, 28, 160, 166]

/-- **One empty ciphertext sets them apart.**  Of the ciphertext after it, which is the
first the other side has encrypted, OpenSSL refuses the tag, and `ring` returns the bytes. -/
theorem empty_ciphertext_desynchronises :
    let cipher := fun library =>
      newStream library ⟨.chaCha20Poly1305, List.replicate 32 0, .decrypt⟩
    let ms : List Ciphertext := [⟨[], false⟩, ⟨firstFrame, false⟩]
    Aead.chaCha.KeepsLength ∧
    (cipher .openssl).decryptResults .chaCha ms = [none, none] ∧
    (cipher .ring).decryptResults .chaCha ms = [none, some [1, 2, 3]] := by
  refine ⟨?_, by decide +kernel, by decide +kernel⟩
  intro t key nonce text tag output h
  obtain ⟨-, h⟩ := Option.ite_none_right_eq_some.mp h
  obtain ⟨-, h⟩ := Option.ite_none_right_eq_some.mp h
  rw [← Option.some.inj h, ChaCha.length_crypt]

end AeadCipher

end Secio
end CkbP2P

import CkbP2P.Secio.Handshake

/-!
# Agreement of the two sides of a handshake

Two sides run the negotiation on each other's proposition.  The orderings they compute are
opposite, which makes one side prefer its own proposition and the other side prefer the
same one, and which gives the halves of the stretched key opposite uses.
-/

namespace CkbP2P
namespace Secio

open Lib

variable (sha256 : Sha256)

/-! ### The choice -/

/-- The algorithms chosen by a side, from the two configurations and the ordering. -/
def Config.choose (r : Ordering) (ours theirs : Config) :
    Except SecioError (KeyAgreement × CipherType × Digest) := do
  let exchange ← selectAgreement r ours.agreements theirs.agreements
  let cipher ← selectCipher r ours.ciphers theirs.ciphers
  let hash ← selectDigest r ours.digests theirs.digests
  pure (exchange, cipher, hash)

/-- Seen from the other end the choice is the same. -/
theorem Config.choose_swap {r : Ordering} (hr : r ≠ .eq) (ours theirs : Config) :
    theirs.choose r.swap ours = ours.choose r theirs := by
  unfold choose selectAgreement selectCipher selectDigest
  rw [select_swap _ hr, select_swap _ hr, select_swap _ hr]

/-- A choice fails for lack of a common algorithm only. -/
theorem Config.choose_error {r : Ordering} {ours theirs : Config} {e : SecioError}
    (h : ours.choose r theirs = .error e) : e = .noSupportIntersection := by
  have hselect : ∀ {α : Type} {f : String → Option α} {a b : String} {e : SecioError},
      select f r a b = .error e → e = .noSupportIntersection := by
    intro α f a b e h
    simp only [select] at h
    split at h
    · cases h
    · exact (Except.error.inj h).symm
  simp only [choose, selectAgreement, selectCipher, selectDigest] at h
  cases hexchange : select KeyAgreement.ofName r ours.agreements theirs.agreements with
  | error e' =>
    rw [hexchange] at h
    exact hselect (hexchange.trans (congrArg _ (Except.error.inj h)))
  | ok exchange =>
    cases hcipher : select CipherType.ofName r ours.ciphers theirs.ciphers with
    | error e' =>
      rw [hexchange, hcipher] at h
      exact hselect (hcipher.trans (congrArg _ (Except.error.inj h)))
    | ok cipher =>
      cases hhash : select Digest.ofName r ours.digests theirs.digests with
      | error e' =>
        rw [hexchange, hcipher, hhash] at h
        exact hselect (hhash.trans (congrArg _ (Except.error.inj h)))
      | ok hash =>
        rw [hexchange, hcipher, hhash] at h
        cases h

/-- **The orderings of the two sides are opposite.** -/
theorem hashesOrdering_swap (ours theirs : Config) (nonce nonce' : Vector UInt8 16) :
    (theirs.withLocal nonce').hashesOrdering sha256 ours.publicKey nonce.toList
      = ((ours.withLocal nonce).hashesOrdering sha256 theirs.publicKey nonce'.toList).swap :=
  Std.OrientedOrd.eq_swap

/-- The context of a side that has chosen. -/
def Config.remote (ours theirs : Config) (nonce nonce' : Vector UInt8 16) (r : Ordering)
    (chosen : KeyAgreement × CipherType × Digest) : Remote :=
  { localContext := ours.withLocal nonce
    propositionBytes := (theirs.withLocal nonce').propositionBytes
    publicKey := theirs.publicKey, nonce := nonce'.toList, hashesOrdering := r
    chosenExchange := chosen.1, chosenCipher := chosen.2.1, chosenHash := chosen.2.2 }

theorem propositionBytes_withLocal (c : Config) (nonce : Vector UInt8 16) :
    (c.withLocal nonce).propositionBytes = (c.propose nonce).encode := rfl

/-- A proposition that fits its frame is read back, and so is the key in it. -/
theorem decode_propose {c : Config} {nonce : Vector UInt8 16}
    (hsize : (c.withLocal nonce).propositionBytes.length < 2 ^ 32) :
    Propose.decode (c.withLocal nonce).propositionBytes = some (c.propose nonce) ∧
      PublicKey.decode (c.propose nonce).pubkey = some c.publicKey := by
  rw [propositionBytes_withLocal] at hsize ⊢
  have hpubkey : (c.propose nonce).pubkey.length < 2 ^ 32 :=
    Propose.length_lt_of_mem_fields hsize _ (by simp [Propose.fields])
  rw [show (c.propose nonce).pubkey = c.publicKey.encode from rfl] at hpubkey ⊢
  refine ⟨Propose.decode_encode hsize, PublicKey.decode_encode ?_⟩
  rw [PublicKey.encode, List.length_append, Molecule.length_packVec] at hpubkey
  omega

theorem inner_injective {a b : PublicKey} (h : a.inner = b.inner) : a = b := by
  cases a
  cases b
  exact congrArg PublicKey.secp256k1 h

/-- `with_remote` with a proposition that can be read. -/
theorem withRemote_of_decode {l : Local} {bytes : Bytes} {p : Propose} {key : PublicKey}
    (hpropose : Propose.decode bytes = some p) (hkey : PublicKey.decode p.pubkey = some key)
    (hself : ¬ key.inner = l.publicKey) :
    l.withRemote sha256 bytes =
      (let r := l.hashesOrdering sha256 key p.rand
       do
        let exchange ← selectAgreement r l.config.agreements p.exchange
        let cipher ← selectCipher r l.config.ciphers p.ciphers
        let hash ← selectDigest r l.config.digests p.hashes
        pure ⟨l, bytes, key, p.rand, r, exchange, cipher, hash⟩) := by
  simp only [Local.withRemote, hpropose, hkey, if_neg hself]

/-- **The negotiation computes the choice**: with the other side's proposition in hand, a
side chooses as the two configurations and the ordering say. -/
theorem withRemote_withLocal {ours theirs : Config} (nonce nonce' : Vector UInt8 16)
    {r : Ordering} (hkeys : ours.publicKey ≠ theirs.publicKey)
    (hsize : (theirs.withLocal nonce').propositionBytes.length < 2 ^ 32)
    (hr : (ours.withLocal nonce).hashesOrdering sha256 theirs.publicKey nonce'.toList = r) :
    (ours.withLocal nonce).withRemote sha256 (theirs.withLocal nonce').propositionBytes
      = (ours.choose r theirs).map (ours.remote theirs nonce nonce' r) := by
  subst hr
  obtain ⟨hpropose, hkey⟩ := decode_propose hsize
  have hself : ¬ theirs.publicKey.inner = (ours.withLocal nonce).publicKey :=
    fun heq => hkeys (inner_injective heq.symm)
  rw [withRemote_of_decode sha256 hpropose hkey hself]
  generalize hr : (ours.withLocal nonce).hashesOrdering sha256 theirs.publicKey
    (theirs.propose nonce').rand = r
  change _ = (ours.choose ((ours.withLocal nonce).hashesOrdering sha256 theirs.publicKey
    (theirs.propose nonce').rand) theirs).map _
  rw [hr, Config.choose]
  change (selectAgreement r ours.agreements theirs.agreements >>= _) = _
  cases selectAgreement r ours.agreements theirs.agreements with
  | error e => rfl
  | ok exchange =>
    change (selectCipher r ours.ciphers theirs.ciphers >>= _) = _
    cases selectCipher r ours.ciphers theirs.ciphers with
    | error e => rfl
    | ok cipher =>
      change (selectDigest r ours.digests theirs.digests >>= _) = _
      cases selectDigest r ours.digests theirs.digests with
      | error e => rfl
      | ok hash => exact hr ▸ rfl

/-! ### The keys -/

/-- What one side sends with, the other receives with. -/
structure Keys.Mirror (a b : Keys) : Prop where
  localInfos : a.localInfos = b.remoteInfos
  remoteInfos : a.remoteInfos = b.localInfos
  encode_ty : a.encodeCipher.ty = b.decodeCipher.ty
  encode_key : a.encodeCipher.key = b.decodeCipher.key
  decode_ty : a.decodeCipher.ty = b.encodeCipher.ty
  decode_key : a.decodeCipher.key = b.encodeCipher.key

/-- **The keys are mirrored**: with the same algorithms and opposite orderings, the same
secret gives each side the other's halves in exchange. -/
theorem deriveKeys_mirror (hmac : Hmac) {a b : Remote} (hcipher : a.chosenCipher = b.chosenCipher)
    (hhash : a.chosenHash = b.chosenHash) (hordering : b.hashesOrdering = a.hashesOrdering.swap)
    (hne : a.hashesOrdering ≠ .eq) (keyMaterial : Bytes) :
    ∃ ka kb, a.deriveKeys hmac keyMaterial = .ok ka ∧ b.deriveKeys hmac keyMaterial = .ok kb ∧
      ka.Mirror kb := by
  unfold Remote.deriveKeys
  rw [hordering, hcipher, hhash]
  cases ha : a.hashesOrdering with
  | eq => exact absurd ha hne
  | lt => exact ⟨_, _, rfl, rfl, ⟨rfl, rfl, rfl, rfl, rfl, rfl⟩⟩
  | gt => exact ⟨_, _, rfl, rfl, ⟨rfl, rfl, rfl, rfl, rfl, rfl⟩⟩

/-- The cipher of a side gets a key of the length it expects. -/
theorem length_encode_key (hmac : Hmac) {r : Remote} {keyMaterial : Bytes} {k : Keys}
    (h : r.deriveKeys hmac keyMaterial = .ok k) :
    k.encodeCipher.key.length = r.chosenCipher.keySize := by
  have hlength := length_stretchKey (by cases r.chosenHash <;> decide)
    (hmac r.chosenHash keyMaterial) (2 * (r.chosenCipher.ivSize + r.chosenCipher.keySize + 20))
  unfold Remote.deriveKeys at h
  cases hr : r.hashesOrdering with
  | eq => rw [hr] at h; cases h
  | lt =>
    rw [hr] at h
    rw [← Except.ok.inj h]
    simp only [generateStreamCipherAndHmac, List.length_take, List.length_drop, hlength]
    omega
  | gt =>
    rw [hr] at h
    rw [← Except.ok.inj h]
    simp only [generateStreamCipherAndHmac, List.length_take, List.length_drop, hlength]
    omega

/-! ### Both -/

/-- **Agreement**: two sides with different keys, whose propositions fit the frame that
carries them and whose hashes differ, both fail for lack of a common algorithm, or choose
the same algorithms; and then the same secret gives them mirrored keys. -/
theorem negotiation_agreement (hmac : Hmac) (ours theirs : Config) (nonce nonce' : Vector UInt8 16)
    (hkeys : ours.publicKey ≠ theirs.publicKey)
    (hours : (ours.withLocal nonce).propositionBytes.length < 2 ^ 32)
    (htheirs : (theirs.withLocal nonce').propositionBytes.length < 2 ^ 32)
    (hordering : (ours.withLocal nonce).hashesOrdering sha256 theirs.publicKey
    nonce'.toList ≠ .eq) :
    let a := (ours.withLocal nonce).withRemote sha256 (theirs.withLocal nonce').propositionBytes
    let b := (theirs.withLocal nonce').withRemote sha256 (ours.withLocal nonce).propositionBytes
    (a = .error .noSupportIntersection ∧ b = .error .noSupportIntersection) ∨
    ∃ ra rb, a = .ok ra ∧ b = .ok rb ∧ ra.chosenExchange = rb.chosenExchange ∧
      ra.chosenCipher = rb.chosenCipher ∧ ra.chosenHash = rb.chosenHash ∧
      ∀ keyMaterial, ∃ ka kb, ra.deriveKeys hmac keyMaterial = .ok ka ∧
        rb.deriveKeys hmac keyMaterial = .ok kb ∧ ka.Mirror kb := by
  intro a b
  have ha := withRemote_withLocal sha256 nonce nonce' hkeys htheirs rfl
  have hb := withRemote_withLocal sha256 nonce' nonce hkeys.symm hours
    (hashesOrdering_swap sha256 ours theirs nonce nonce')
  rw [Config.choose_swap hordering] at hb
  simp only [a, b, ha, hb]
  cases hchoose : ours.choose
      ((ours.withLocal nonce).hashesOrdering sha256 theirs.publicKey nonce'.toList) theirs with
  | error e =>
    rw [Config.choose_error hchoose]
    exact .inl ⟨rfl, rfl⟩
  | ok chosen =>
    refine .inr ⟨_, _, rfl, rfl, rfl, rfl, rfl, ?_⟩
    exact deriveKeys_mirror hmac rfl rfl rfl hordering

/-! ### Two configurations -/

/-- The key that is twice the generator. -/
def twiceGenerator : PublicKey := .secp256k1
  [2, 198, 4, 127, 148, 65, 237, 125, 109, 48, 69, 64, 110, 149, 192, 124, 216, 92, 119, 142, 75,
    140, 239, 60, 167, 171, 172, 9, 185, 92, 112, 158, 229]

/-- A hash function that is SHA-256 at the two keys, followed by sixteen zeros and ones. -/
def twoKeysSha256 : Sha256 := fun data =>
  if data = twiceGenerator.inner ++ List.replicate 16 0 then
    #v[185, 55, 137, 101, 212, 14, 61, 146, 25, 60, 199, 164, 132, 255, 213, 190, 149, 51, 71, 238,
      42, 182, 244, 243, 198, 71, 54, 83, 251, 62, 195, 150]
  else if data = PublicKey.generator.inner ++ List.replicate 16 1 then
    #v[250, 94, 18, 205, 53, 140, 190, 75, 64, 68, 114, 225, 206, 37, 85, 68, 17, 87, 243, 67, 139,
      224, 148, 85, 160, 244, 19, 251, 59, 213, 88, 121]
  else Vector.replicate 32 0

/-- A side with the default propositions and one that prefers other algorithms choose what
the second prefers. -/
theorem negotiation_agreement_twoKeys :
    let a := (Config.mk .generator none none none).withLocal (Vector.replicate 16 0)
    let b := (Config.mk twiceGenerator (some "X448,X25519,P-256") (some "AES-256-GCM")
      none).withLocal
      (Vector.replicate 16 1)
    ∃ ra rb, a.withRemote twoKeysSha256 b.propositionBytes = .ok ra ∧
      b.withRemote twoKeysSha256 a.propositionBytes = .ok rb ∧
      ra.chosenExchange = .x25519 ∧ ra.chosenCipher = .aes256Gcm ∧ ra.chosenHash = .sha256 ∧
      rb.chosenExchange = .x25519 ∧ rb.chosenCipher = .aes256Gcm ∧ rb.chosenHash = .sha256 := by
  have h := negotiation_agreement twoKeysSha256 (fun d _ _ => Vector.replicate d.numBytes 0)
    ⟨.generator, none, none, none⟩
    ⟨twiceGenerator, some "X448,X25519,P-256", some "AES-256-GCM", none⟩ (Vector.replicate 16 0)
    (Vector.replicate 16 1) (by decide) (by decide +kernel) (by decide +kernel) (by decide +kernel)
  rcases h with ⟨herror, -⟩ | ⟨ra, rb, ha, hb, hexchange, hcipher, hhash, -⟩
  · exact absurd herror (by decide +kernel)
  · have hchosen : (((Config.mk .generator none none none).withLocal
        (Vector.replicate 16 0)).withRemote twoKeysSha256
        ((Config.mk twiceGenerator (some "X448,X25519,P-256") (some "AES-256-GCM") none).withLocal
          (Vector.replicate 16 1)).propositionBytes).map
        (fun r => (r.chosenExchange, r.chosenCipher, r.chosenHash))
        = .ok (.x25519, .aes256Gcm, .sha256) := by decide +kernel
    rw [ha] at hchosen
    obtain ⟨h₁, h₂, h₃⟩ := Prod.mk.inj (Except.ok.inj hchosen) |>.imp_right Prod.mk.inj
    exact ⟨ra, rb, ha, hb, h₁, h₂, h₃, hexchange ▸ h₁, hcipher ▸ h₂, hhash ▸ h₃⟩

end Secio
end CkbP2P

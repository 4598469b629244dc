import CkbP2P.Secio.Agreement

/-!
# The signed transcript

After the negotiation each side sends its ephemeral key, with a signature of the two
propositions and that key.  The three are put after one another without any separator; who
checks the signature puts them together from its own point of view.

Signatures are a parameter.  That the digest is a message of the right length, which the
source checks, holds by its type.
-/

namespace CkbP2P
namespace Secio

open Lib

/-! ### The message -/

/-- The message that carries the ephemeral key. -/
structure Exchange where
  epubkey : Bytes
  signature : Bytes
  deriving DecidableEq

namespace Exchange

/-- `encode`. -/
def encode (e : Exchange) : Bytes :=
  Molecule.packTable ([e.epubkey, e.signature].map Molecule.packVec)

/-- `decode`. -/
def decode (data : Bytes) : Option Exchange := do
  let slices ← Molecule.splitTable 2 data
  match ← slices.mapM Molecule.unpackVec with
  | [epubkey, signature] => pure { epubkey, signature }
  | _ => none

theorem decode_encode {e : Exchange} (h : e.encode.length < 2 ^ 32) :
    decode e.encode = some e := by
  have hfields : ∀ field ∈ [e.epubkey, e.signature], field.length < 2 ^ 32 := by
    intro field hfield
    have hle : (Molecule.packVec field).length
        ≤ ([e.epubkey, e.signature].map Molecule.packVec).flatten.length :=
      (List.sublist_flatten_of_mem (List.mem_map_of_mem hfield)).length_le
    rw [encode, Molecule.packTable, List.length_append] at h
    rw [Molecule.length_packVec] at hle
    omega
  have hslices : Molecule.splitTable 2 e.encode
      = some ([e.epubkey, e.signature].map Molecule.packVec) :=
    Molecule.splitTable_packTable (List.cons_ne_nil _ _) h
  rw [decode, hslices, Option.bind_eq_bind, Option.bind_some, Molecule.mapM_unpackVec hfields]
  rfl

/-- What is decoded has a size of four bytes. -/
theorem length_of_decode {data : Bytes} {e : Exchange} (h : decode data = some e) :
    data.length < 2 ^ 32 := by
  unfold decode at h
  cases hsplit : Molecule.splitTable 2 data with
  | none =>
    rw [hsplit] at h
    cases h
  | some fields => exact (Molecule.sized_of_splitTable hsplit).length_lt

end Exchange

/-- Signatures over a curve. -/
structure Secp256k1 where
  Signature : Type
  Key : Type
  signatureFromDer : Bytes → Option Signature
  pubkeyFromSlice : Bytes → Option Key
  verify : Vector UInt8 32 → Signature → Key → Bool

/-- The errors of the exchange. -/
inductive ExchangeError where
  | handshakeParsingFailure
  | signatureVerificationFailed
  deriving DecidableEq, Repr

namespace Remote

/-- `data_to_sign`. -/
def dataToSign (r : Remote) (epubkey : Bytes) : Bytes :=
  r.localContext.propositionBytes ++ r.propositionBytes ++ epubkey

/-- `data_to_verify`. -/
def dataToVerify (r : Remote) (epubkey : Bytes) : Bytes :=
  r.propositionBytes ++ r.localContext.propositionBytes ++ epubkey

/-- The exchange a side sends, with the ephemeral key it has generated. -/
def exchange (sha256 : Sha256) (sign : Vector UInt8 32 → Bytes) (r : Remote) (epubkey : Bytes) :
    Exchange :=
  { epubkey, signature := sign (sha256 (r.dataToSign epubkey)) }

/-- The check of the exchange of the other side; its ephemeral key, when it is accepted. -/
def receiveExchange (sha256 : Sha256) (secp : Secp256k1) (r : Remote) (raw : Bytes) :
    Except ExchangeError Bytes :=
  match Exchange.decode raw with
  | none => .error .handshakeParsingFailure
  | some remote =>
    let message := sha256 (r.dataToVerify remote.epubkey)
    match secp.signatureFromDer remote.signature, secp.pubkeyFromSlice r.publicKey.inner with
    | some signature, some key =>
      if secp.verify message signature key then .ok remote.epubkey
      else .error .signatureVerificationFailed
    | _, _ => .error .signatureVerificationFailed

theorem receiveExchange_of_decode {sha256 : Sha256} {secp : Secp256k1} {r : Remote} {raw : Bytes}
    {e : Exchange} {signature : secp.Signature} {key : secp.Key}
    (hdecode : Exchange.decode raw = some e)
    (hder : secp.signatureFromDer e.signature = some signature)
    (hkey : secp.pubkeyFromSlice r.publicKey.inner = some key)
    (hverify : secp.verify (sha256 (r.dataToVerify e.epubkey)) signature key = true) :
    r.receiveExchange sha256 secp raw = .ok e.epubkey := by
  unfold receiveExchange
  rw [hdecode]
  dsimp only
  rw [hder, hkey]
  exact if_pos hverify

end Remote

/-! ### The parts of a transcript -/

/-- A proposition that can be decoded starts with its length, also when there are fields that
are not known. -/
theorem Propose.sized_of_decode {data : Bytes} (h : (Propose.decode data).isSome) :
    Molecule.Sized data := by
  unfold Propose.decode at h
  cases hsplit : Molecule.splitTable 5 data with
  | none =>
    rw [hsplit] at h
    cases h
  | some fields => exact Molecule.sized_of_splitTable hsplit

/-- **The parts of a transcript can be told apart.** -/
theorem transcript_inj {p₁ p₂ q₁ q₂ e f : Bytes} (hp₁ : (Propose.decode p₁).isSome)
    (hp₂ : (Propose.decode p₂).isSome) (hq₁ : (Propose.decode q₁).isSome)
    (hq₂ : (Propose.decode q₂).isSome) (h : p₁ ++ p₂ ++ e = q₁ ++ q₂ ++ f) :
    p₁ = q₁ ∧ p₂ = q₂ ∧ e = f := by
  rw [List.append_assoc, List.append_assoc] at h
  obtain ⟨hfirst, hrest⟩ :=
    (Propose.sized_of_decode hp₁).append_inj (Propose.sized_of_decode hq₁) h
  exact ⟨hfirst, (Propose.sized_of_decode hp₂).append_inj (Propose.sized_of_decode hq₂) hrest⟩

/-! ### Sides of a handshake -/

/-- A side that has accepted the proposition of the other.  Its own fits the frame that
carries it. -/
structure Negotiated (sha256 : Sha256) where
  config : Config
  nonce : Vector UInt8 16
  fits : (config.withLocal nonce).propositionBytes.length < 2 ^ 32
  remoteBytes : Bytes
  remote : Remote
  accepted : (config.withLocal nonce).withRemote sha256 remoteBytes = .ok remote

/-- What an accepted proposition leaves in the context. -/
theorem withRemote_ok {sha256 : Sha256} {l : Local} {bytes : Bytes} {r : Remote}
    (h : l.withRemote sha256 bytes = .ok r) :
    (Propose.decode bytes).isSome ∧ r.localContext = l ∧ r.propositionBytes = bytes := by
  unfold Local.withRemote at h
  split at h
  · cases h
  · next propose hpropose =>
    split at h
    · cases h
    · split_ifs at h
      simp only [bind, Except.bind, pure, Except.pure] at h
      split at h <;> try cases h
      split at h <;> try cases h
      split at h <;> try cases h
      exact ⟨by rw [hpropose]; rfl, rfl, rfl⟩

namespace Negotiated

variable {sha256 : Sha256}

/-- The proposition the side has sent. -/
def ours (a : Negotiated sha256) : Bytes := a.remote.localContext.propositionBytes

/-- The proposition the side has accepted. -/
def theirs (a : Negotiated sha256) : Bytes := a.remote.propositionBytes

theorem decode_ours (a : Negotiated sha256) : (Propose.decode a.ours).isSome := by
  rw [ours, (withRemote_ok a.accepted).2.1, (decode_propose a.fits).1]
  rfl

theorem decode_theirs (a : Negotiated sha256) : (Propose.decode a.theirs).isSome := by
  rw [theirs, (withRemote_ok a.accepted).2.2]
  exact (withRemote_ok a.accepted).1

/-- **What one side checks is what the other has signed** just when the two have seen the same
two propositions, each from its side, and the same ephemeral key. -/
theorem dataToVerify_eq_dataToSign_iff (a b : Negotiated sha256) (e f : Bytes) :
    a.remote.dataToVerify e = b.remote.dataToSign f ↔
      b.ours = a.theirs ∧ b.theirs = a.ours ∧ f = e := by
  constructor
  · intro h
    obtain ⟨hfirst, hsecond, hkey⟩ :=
      transcript_inj a.decode_theirs a.decode_ours b.decode_ours b.decode_theirs h
    exact ⟨hfirst.symm, hsecond.symm, hkey.symm⟩
  · rintro ⟨hfirst, hsecond, rfl⟩
    change a.theirs ++ a.ours ++ f = b.ours ++ b.theirs ++ f
    rw [hfirst, hsecond]

/-! ### Commitment -/

/-- A handshake that has sent its exchange: the side, and its ephemeral key. -/
abbrev Signed (sha256 : Sha256) := Negotiated sha256 × Bytes

/-- The data a handshake has signed. -/
def signedData (s : Signed sha256) : Bytes := s.1.remote.dataToSign s.2

/-- Only the owner of a key makes signatures that verify under it, and it signs nothing but
the given handshakes. -/
def Unforgeable (secp : Secp256k1) (owner : PublicKey) (signed : Set (Signed sha256)) : Prop :=
  ∀ message signature key, secp.pubkeyFromSlice owner.inner = some key →
    secp.verify message signature key = true → ∃ s ∈ signed, sha256 (signedData s) = message

/-- What an accepted exchange has shown: a signature of its digest verifies. -/
theorem verify_of_receiveExchange {secp : Secp256k1} {r : Remote} {raw epubkey : Bytes}
    (h : r.receiveExchange sha256 secp raw = .ok epubkey) :
    ∃ signature key, secp.pubkeyFromSlice r.publicKey.inner = some key ∧
      secp.verify (sha256 (r.dataToVerify epubkey)) signature key = true := by
  unfold Remote.receiveExchange at h
  split at h
  · cases h
  · next remote _ =>
    dsimp only at h
    split at h
    · next signature key _ hkey =>
      split_ifs at h with hverify
      cases h
      exact ⟨signature, key, hkey, hverify⟩
    · cases h

/-- **The signed transcript is unambiguous.**  Two propositions that can be decoded and an
ephemeral key of any length can be told from what they are put together to.  So when no
collision of the hash function is met and the other side's signatures cannot be forged, an
accepted exchange was signed in a handshake of the owner of the key, which has sent the
proposition accepted here, has accepted the one sent from here, and has this ephemeral key. -/
theorem exchange_commits (sha256 : Sha256) (secp : Secp256k1) :
    (∀ p₁ p₂ q₁ q₂ e f : Bytes, (Propose.decode p₁).isSome → (Propose.decode p₂).isSome →
      (Propose.decode q₁).isSome → (Propose.decode q₂).isSome →
      p₁ ++ p₂ ++ e = q₁ ++ q₂ ++ f → p₁ = q₁ ∧ p₂ = q₂ ∧ e = f) ∧
    ∀ (a : Negotiated sha256) (signed : Set (Signed sha256)) (raw epubkey : Bytes),
      Set.InjOn sha256 (insert (a.remote.dataToVerify epubkey) (Set.image signedData signed)) →
      Unforgeable secp a.remote.publicKey signed →
      a.remote.receiveExchange sha256 secp raw = .ok epubkey →
      ∃ s ∈ signed, s.1.ours = a.theirs ∧ s.1.theirs = a.ours ∧ s.2 = epubkey := by
  refine ⟨fun p₁ p₂ q₁ q₂ e f hp₁ hp₂ hq₁ hq₂ h => transcript_inj hp₁ hp₂ hq₁ hq₂ h, ?_⟩
  intro a signed raw epubkey hinj hunforgeable haccepted
  obtain ⟨signature, key, hkey, hverify⟩ := verify_of_receiveExchange haccepted
  obtain ⟨s, hs, hdigest⟩ := hunforgeable _ signature key hkey hverify
  -- equal digests come from equal data
  have hdata : signedData s = a.remote.dataToVerify epubkey :=
    hinj (Set.mem_insert_of_mem _ (Set.mem_image_of_mem _ hs)) (Set.mem_insert _ _) hdigest
  exact ⟨s, hs, (dataToVerify_eq_dataToSign_iff a s.1 epubkey s.2).mp hdata.symm⟩

/-! ### A signed handshake -/

/-- The owner of the generator, with the default propositions. -/
def sampleOurs : Config := ⟨.generator, none, none, none⟩

/-- The owner of twice the generator, with other propositions. -/
def sampleTheirs : Config := ⟨twiceGenerator, some "X448,X25519,P-256", some "AES-256-GCM", none⟩

def sampleKey : Bytes := 9 :: List.replicate 31 0

/-- What the second side signs. -/
def sampleData : Bytes :=
  (sampleTheirs.withLocal (Vector.replicate 16 1)).propositionBytes ++
    (sampleOurs.withLocal (Vector.replicate 16 0)).propositionBytes ++ sampleKey

/-- SHA-256 of `sampleData`. -/
def sampleDigest : Vector UInt8 32 :=
  #v[168, 201, 87, 221, 112, 51, 106, 251, 185, 59, 22, 219, 57, 118, 215, 109, 208, 193, 58, 127,
    180, 94, 92, 193, 27, 176, 36, 183, 251, 252, 35, 164]

/-- The signature of `sampleDigest` under the second key. -/
def sampleSignature : Bytes :=
  [48, 68, 2, 32, 16, 10, 188, 164, 45, 61, 121, 143, 55, 219, 30, 104, 41, 168, 139, 153, 154, 180,
    166, 48, 109, 72, 55, 97, 96, 149, 113, 158, 252, 201, 218, 34, 2, 32, 103, 166, 35, 31, 248,
    205, 28, 123, 118, 171, 164, 187, 95, 65, 242, 198, 185, 146, 94, 130, 162, 220, 183, 161, 128,
    147, 191, 128, 194, 181, 249, 153]

/-- A hash function that is SHA-256 at what the two sides hash. -/
def sampleSha256 : Sha256 := fun data =>
    if data = sampleData then sampleDigest else twoKeysSha256 data

/-- Signatures, of which only the one above verifies. -/
def sampleSecp : Secp256k1 where
  Signature := Bytes
  Key := Bytes
  signatureFromDer := some
  pubkeyFromSlice := some
  verify message signature key :=
    message == sampleDigest && (signature == sampleSignature && key == twiceGenerator.inner)

/-- The first side. -/
def sampleFirst : Negotiated sampleSha256 where
  config := sampleOurs
  nonce := Vector.replicate 16 0
  fits := by decide +kernel
  remoteBytes := (sampleTheirs.withLocal (Vector.replicate 16 1)).propositionBytes
  remote := sampleOurs.remote sampleTheirs (Vector.replicate 16 0) (Vector.replicate 16 1) .lt
    (.x25519, .aes256Gcm, .sha256)
  accepted := by decide +kernel

/-- The second side. -/
def sampleSecond : Negotiated sampleSha256 where
  config := sampleTheirs
  nonce := Vector.replicate 16 1
  fits := by decide +kernel
  remoteBytes := (sampleOurs.withLocal (Vector.replicate 16 0)).propositionBytes
  remote := sampleTheirs.remote sampleOurs (Vector.replicate 16 1) (Vector.replicate 16 0) .gt
    (.x25519, .aes256Gcm, .sha256)
  accepted := by decide +kernel

/-- The first side accepts the signature of the second, which has made no other. -/
theorem exchange_commits_sample :
    sampleFirst.remote.receiveExchange sampleSha256 sampleSecp
        (Exchange.encode ⟨sampleKey, sampleSignature⟩) = .ok sampleKey ∧
      ∃ s ∈ ({(sampleSecond, sampleKey)} : Set (Signed sampleSha256)),
        s.1.ours = sampleFirst.theirs ∧ s.1.theirs = sampleFirst.ours ∧ s.2 = sampleKey := by
  have haccepted : sampleFirst.remote.receiveExchange sampleSha256 sampleSecp
      (Exchange.encode ⟨sampleKey, sampleSignature⟩) = .ok sampleKey := by decide +kernel
  refine ⟨haccepted, ?_⟩
  refine (exchange_commits sampleSha256 sampleSecp).2 sampleFirst {(sampleSecond, sampleKey)} _
    sampleKey ?_ ?_ haccepted
  · -- the data that is checked is the data that was signed
    rw [Set.image_singleton, show signedData (sampleSecond, sampleKey)
      = sampleFirst.remote.dataToVerify sampleKey from rfl, Set.pair_eq_singleton]
    exact Set.injOn_singleton ..
  · intro message signature key hkey hverify
    have hdigest : message = sampleDigest := eq_of_beq (Bool.and_eq_true_iff.mp hverify).1
    exact ⟨_, rfl, hdigest ▸ if_pos rfl⟩

end Negotiated

end Secio
end CkbP2P

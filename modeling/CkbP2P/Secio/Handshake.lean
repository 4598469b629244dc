import CkbP2P.Lib.Molecule
import CkbP2P.Secio.Identity
import CkbP2P.Secio.Support

/-!
# The secio handshake

Each side sends a proposition: a nonce, its public key and the algorithms it supports.
From the proposition of the other side it chooses the algorithms, and from the secret the
two sides agree on it derives a key, one half of which is for what it sends and the other
for what it receives.

The hash, the keyed hash and the secret are parameters; the sockets are left out.  The
exchange of the ephemeral keys, with its signatures, is in `CkbP2P.Secio.Transcript`.
-/

namespace CkbP2P

open Lib

/-! ### Messages -/

namespace PublicKey

/-- `encode`, a union with one item. -/
def encode (key : PublicKey) : Bytes := Molecule.packNumber 0 ++ Molecule.packVec key.inner

/-- `decode`. -/
def decode (data : Bytes) : Option PublicKey :=
  if data.length < 4 then none
  else if Molecule.unpackNumber data = 0 then
    (Molecule.unpackVec (data.drop 4)).map PublicKey.secp256k1
  else none

theorem decode_encode {key : PublicKey} (h : key.inner.length < 2 ^ 32) :
    decode key.encode = some key := by
  have hitem : Molecule.unpackNumber key.encode = 0 :=
    Molecule.unpackNumber_packNumber (by decide) _
  have hlength : ¬ key.encode.length < 4 := by
    rw [encode, List.length_append, Molecule.length_packNumber]
    omega
  rw [decode, if_neg hlength, if_pos hitem, encode,
    List.drop_left' (Molecule.length_packNumber 0), Molecule.unpackVec_packVec h]
  rfl

/-- The bytes of a key that is decoded are as many as four bytes can tell. -/
theorem length_of_decode {data : Bytes} {key : PublicKey} (h : decode data = some key) :
    key.inner.length < 2 ^ 32 := by
  unfold decode at h
  split_ifs at h
  obtain ⟨bytes, hbytes, rfl⟩ := Option.map_eq_some_iff.mp h
  exact Molecule.length_lt_of_unpackVec hbytes

end PublicKey

namespace Secio

/-- A proposition. -/
structure Propose where
  rand : Bytes
  pubkey : Bytes
  exchange : String
  ciphers : String
  hashes : String
  deriving DecidableEq

namespace Propose

/-- The fields as byte strings, in the order of the table. -/
def fields (p : Propose) : List Bytes :=
  [p.rand, p.pubkey, strBytes p.exchange, strBytes p.ciphers, strBytes p.hashes]

/-- `encode`. -/
def encode (p : Propose) : Bytes := Molecule.packTable (p.fields.map Molecule.packVec)

/-- `decode`. -/
def decode (data : Bytes) : Option Propose := do
  let slices ← Molecule.splitTable 5 data
  match ← slices.mapM Molecule.unpackVec with
  | [rand, pubkey, exchange, ciphers, hashes] =>
    let exchange ← strFromUtf8 exchange
    let ciphers ← strFromUtf8 ciphers
    let hashes ← strFromUtf8 hashes
    pure { rand, pubkey, exchange, ciphers, hashes }
  | _ => none

theorem length_lt_of_mem_fields {p : Propose} (h : p.encode.length < 2 ^ 32) :
    ∀ field ∈ p.fields, field.length < 2 ^ 32 := by
  intro field hfield
  have hlt : (Molecule.packVec field).length < p.encode.length :=
    Molecule.length_lt_of_mem (List.mem_map_of_mem hfield)
  rw [Molecule.length_packVec] at hlt
  omega

theorem splitTable_encode {p : Propose} (h : p.encode.length < 2 ^ 32) :
    Molecule.splitTable 5 p.encode = some (p.fields.map Molecule.packVec) := by
  have hcount : (p.fields.map Molecule.packVec).length = 5 := rfl
  have hslices := Molecule.splitTable_packTable (List.ne_nil_of_length_eq_add_one hcount) h
  rwa [hcount] at hslices

/-- **A proposition survives the wire**, when its length is a number of four bytes. -/
theorem decode_encode {p : Propose} (h : p.encode.length < 2 ^ 32) :
    decode p.encode = some p := by
  rw [decode, splitTable_encode h, Option.bind_eq_bind, Option.bind_some,
    Molecule.mapM_unpackVec (length_lt_of_mem_fields h)]
  simp only [fields, strFromUtf8_strBytes, Option.bind_eq_bind, Option.bind_some]
  rfl

/-- What is decoded has a size of four bytes. -/
theorem length_of_decode {data : Bytes} {p : Propose} (h : decode data = some p) :
    data.length < 2 ^ 32 := by
  unfold decode at h
  cases hsplit : Molecule.splitTable 5 data with
  | none =>
    rw [hsplit] at h
    cases h
  | some fields => exact (Molecule.sized_of_splitTable hsplit).length_lt

end Propose

/-! ### Negotiation -/

/-- The configuration of a side; of its key pair only the public key is needed here. -/
structure Config where
  publicKey : PublicKey
  agreementsProposal : Option String
  ciphersProposal : Option String
  digestsProposal : Option String
  deriving DecidableEq

namespace Config

def agreements (c : Config) : String := c.agreementsProposal.getD defaultAgreementsProposition

def ciphers (c : Config) : String := c.ciphersProposal.getD defaultCiphersProposition

def digests (c : Config) : String := c.digestsProposal.getD defaultDigestsProposition

end Config

/-- The context after `with_local`. -/
structure Local where
  config : Config
  nonce : Vector UInt8 16
  publicKey : Bytes
  propositionBytes : Bytes
  deriving DecidableEq

/-- The context after `with_remote`. -/
structure Remote where
  localContext : Local
  propositionBytes : Bytes
  publicKey : PublicKey
  nonce : Bytes
  hashesOrdering : Ordering
  chosenExchange : KeyAgreement
  chosenCipher : CipherType
  chosenHash : Digest
  deriving DecidableEq

/-- The proposition of a side. -/
def Config.propose (c : Config) (nonce : Vector UInt8 16) : Propose :=
  { rand := nonce.toList, pubkey := c.publicKey.encode, exchange := c.agreements
    ciphers := c.ciphers, hashes := c.digests }

/-- `with_local`, with the nonce it draws. -/
def Config.withLocal (c : Config) (nonce : Vector UInt8 16) : Local :=
  { config := c, nonce, publicKey := c.publicKey.inner
    propositionBytes := (c.propose nonce).encode }

/-- `hashes_ordering`: the other's key with our nonce against our key with the other's
nonce. -/
def Local.hashesOrdering (sha256 : Sha256) (l : Local) (publicKey : PublicKey) (nonce : Bytes) :
    Ordering :=
  let oh1 := sha256 (publicKey.inner ++ l.nonce.toList)
  let oh2 := sha256 (l.publicKey ++ nonce)
  compare oh1.toList oh2.toList

/-- `with_remote`. -/
def Local.withRemote (sha256 : Sha256) (l : Local) (remoteBytes : Bytes) :
    Except SecioError Remote :=
  match Propose.decode remoteBytes with
  | none => .error .handshakeParsingFailure
  | some propose =>
    let nonce := propose.rand
    match PublicKey.decode propose.pubkey with
    | none => .error .handshakeParsingFailure
    | some publicKey =>
      if publicKey.inner = l.publicKey then .error .connectSelf
      else do
        let hashesOrdering := l.hashesOrdering sha256 publicKey nonce
        let chosenExchange ← selectAgreement hashesOrdering l.config.agreements propose.exchange
        let chosenCipher ← selectCipher hashesOrdering l.config.ciphers propose.ciphers
        let chosenHash ← selectDigest hashesOrdering l.config.digests propose.hashes
        pure { localContext := l, propositionBytes := remoteBytes, publicKey, nonce
               hashesOrdering, chosenExchange, chosenCipher, chosenHash }

/-! ### Keys -/

/-- The keyed hash: the digest it uses, its key and the data. -/
abbrev Hmac := (d : Digest) → Bytes → Bytes → Vector UInt8 d.numBytes

/-- `b"key expansion"`. -/
def seed : Bytes := strBytes "key expansion"

/-- The loop of `stretch_key`, of at most `fuel` rounds, for the `len` bytes that are left. -/
def stretchLoop {n : ℕ} (sign : Bytes → Vector UInt8 n) : ℕ → ℕ → Bytes → Bytes
  | 0, _, _ => []
  | fuel + 1, len, a =>
    if len = 0 then []
    else
      let b := (sign (a ++ seed)).toList
      let todo := min b.length len
      b.take todo ++ stretchLoop sign fuel (len - todo) (sign a).toList

/-- `stretch_key`.  A round yields a byte at least. -/
def stretchKey {n : ℕ} (sign : Bytes → Vector UInt8 n) (len : ℕ) : Bytes :=
  stretchLoop sign len len (sign seed).toList

/-- The key is stretched to its full length. -/
theorem length_stretchKey {n : ℕ} (hn : n ≠ 0) (sign : Bytes → Vector UInt8 n) (len : ℕ) :
    (stretchKey sign len).length = len := by
  have hloop : ∀ fuel len a, len ≤ fuel → (stretchLoop sign fuel len a).length = len := by
    intro fuel
    induction fuel with
    | zero =>
      intro len a hlen
      rw [stretchLoop, List.length_nil]
      omega
    | succ fuel ih =>
      intro len a hlen
      rw [stretchLoop]
      split
      · rw [List.length_nil]
        omega
      · rw [List.length_append, ih _ _ (by simp; omega), List.length_take, Vector.length_toList]
        omega
  exact hloop len len _ le_rfl

inductive CryptoMode where
  | encrypt
  | decrypt
  deriving DecidableEq, Repr

/-- What `new_stream` is given. -/
structure StreamCipher where
  ty : CipherType
  key : Bytes
  mode : CryptoMode
  deriving DecidableEq

/-- `generate_stream_cipher_and_hmac`. -/
def generateStreamCipherAndHmac (t : CipherType) (mode : CryptoMode) (info : Bytes)
    (keySize ivSize : ℕ) : StreamCipher :=
  { ty := t, key := (info.drop ivSize).take keySize, mode }

/-- The keys of a side. -/
structure Keys where
  localInfos : Bytes
  remoteInfos : Bytes
  encodeCipher : StreamCipher
  decodeCipher : StreamCipher
  deriving DecidableEq

/-- The part of `handshake` that derives the keys from the secret. -/
def Remote.deriveKeys (hmac : Hmac) (r : Remote) (keyMaterial : Bytes) : Except SecioError Keys :=
  let cipherKeySize := r.chosenCipher.keySize
  let ivSize := r.chosenCipher.ivSize
  let longerKey :=
    stretchKey (hmac r.chosenHash keyMaterial) (2 * (ivSize + cipherKeySize + 20))
  let firstHalf := longerKey.take (longerKey.length / 2)
  let secondHalf := longerKey.drop (longerKey.length / 2)
  let keys := fun localInfos remoteInfos =>
    { localInfos, remoteInfos
      encodeCipher :=
        generateStreamCipherAndHmac r.chosenCipher .encrypt localInfos cipherKeySize ivSize
      decodeCipher :=
        generateStreamCipherAndHmac r.chosenCipher .decrypt remoteInfos cipherKeySize ivSize }
  match r.hashesOrdering with
  | .eq => .error (.invalidProposition
      "equal digest of public key and nonce for local and remote")
  | .lt => .ok (keys secondHalf firstHalf)
  | .gt => .ok (keys firstHalf secondHalf)

end Secio
end CkbP2P

import CkbP2P.Multiaddr.Basic

/-!
# Public keys and peer ids

A peer id is the SHA-256 multihash of a public key: the varint of the hash code, the
length of the digest, the digest.  The hash function is a parameter.

Two functions decide, separately, what a peer id in an address is: `check_p2p` of the
address parser and `PeerId::from_bytes`.  They accept the same bytes.
-/

namespace CkbP2P

open Lib

/-- SHA-256, as a function. -/
abbrev Sha256 := Bytes → Vector UInt8 32

/-- A public key of a peer. -/
inductive PublicKey where
  | secp256k1 (key : Bytes)
  deriving DecidableEq, Repr

/-- `inner_ref`. -/
def PublicKey.inner : PublicKey → Bytes
  | .secp256k1 key => key

/-- A peer id. -/
structure PeerId where
  inner : Bytes
  deriving DecidableEq, Repr

namespace PeerId

/-- Why bytes are no peer id. -/
inductive Error where
  | invalidData
  | wrongLength
  | notSupportHashCode
  | empty
  deriving DecidableEq, Repr

/-- `from_bytes`. -/
def fromBytes (data : Bytes) : Except Error PeerId :=
  if data.isEmpty then .error .empty
  else match Varint.decode 16 2 data with
    | .error _ => .error .invalidData
    | .ok (code, bytes) =>
      if code ≠ Protocol.sha256Code then .error .notSupportHashCode
      else if bytes.length ≠ Protocol.sha256Size + 1 then .error .wrongLength
      else if bytes.head? ≠ some (UInt8.ofNat Protocol.sha256Size) then .error .invalidData
      else .ok ⟨data⟩

/-- `from_seed`. -/
def fromSeed (sha256 : Sha256) (seed : Bytes) : PeerId :=
  ⟨Varint.encode 3 Protocol.sha256Code ++ UInt8.ofNat Protocol.sha256Size ::
    (sha256 seed).toList⟩

/-- The two checks agree, and an accepted id is the bytes. -/
theorem fromBytes_eq_ok_iff {data : Bytes} {id : PeerId} :
    fromBytes data = .ok id ↔ id = ⟨data⟩ ∧ Protocol.checkP2p data = .ok () := by
  unfold fromBytes Protocol.checkP2p Protocol.varU16 Varint.parse
  cases data with
  | nil => simp [Varint.decode, Varint.decodeLoop]
  | cons b data =>
    rw [if_neg (by simp)]
    cases Varint.decode 16 2 (b :: data) with
    | error e => simp
    | ok r =>
      obtain ⟨code, bytes⟩ := r
      simp only []
      split_ifs <;> simp [eq_comm]

/-- The bytes of a peer id made from a seed. -/
theorem checkP2p_fromSeed (sha256 : Sha256) (seed : Bytes) :
    Protocol.checkP2p (fromSeed sha256 seed).inner = .ok () := by
  have hread : Protocol.varU16 (fromSeed sha256 seed).inner
      = .ok (Protocol.sha256Code, UInt8.ofNat Protocol.sha256Size :: (sha256 seed).toList) :=
    Varint.parse_reads (by decide) (by decide) _ _
  rw [Protocol.checkP2p, hread]
  simp [Protocol.sha256Size]

theorem length_fromSeed (sha256 : Sha256) (seed : Bytes) :
    (fromSeed sha256 seed).inner.length = 34 := by
  simp [fromSeed, Varint.encode, Protocol.sha256Code]

end PeerId

/-- `peer_id`. -/
def PublicKey.peerId (sha256 : Sha256) (key : PublicKey) : PeerId := .fromSeed sha256 key.inner

/-- The component that names the peer with the key. -/
def PublicKey.p2p (sha256 : Sha256) (key : PublicKey) : Protocol :=
  .p2p (key.peerId sha256).inner

theorem PublicKey.valid_p2p (sha256 : Sha256) (key : PublicKey) : (key.p2p sha256).Valid :=
  ⟨by rw [PublicKey.peerId, PeerId.length_fromSeed]; decide, PeerId.checkP2p_fromSeed ..⟩

/-- The key that is the generator of its group. -/
def PublicKey.generator : PublicKey := .secp256k1
  [2, 121, 190, 102, 126, 249, 220, 187, 172, 85, 160, 98, 149, 206, 135, 11, 7, 2, 155, 252, 219,
    45, 206, 40, 217, 89, 242, 129, 91, 22, 248, 23, 152]

/-- A hash function that is SHA-256 at the generator. -/
def generatorSha256 : Sha256 := fun data =>
  if data = PublicKey.generator.inner then
    #v[15, 113, 91, 175, 93, 76, 46, 211, 41, 120, 92, 239, 41, 229, 98, 247, 52, 136, 200, 162,
      187, 157, 188, 87, 0, 179, 97, 213, 75, 155, 5, 84]
  else Vector.replicate 32 0

/-- `extract_peer_id`: the first component that is a peer id. -/
def extractPeerId (addr : Multiaddr) : Option PeerId :=
  addr.iter.findSome? fun
    | .p2p b => (PeerId.fromBytes b).toOption
    | _ => none

/-- The bytes of the first `/p2p` component of an address. -/
def firstP2p (addr : Multiaddr) : Option Bytes :=
  addr.iter.findSome? fun
    | .p2p b => some b
    | _ => none

/-- **The first `/p2p` component decides**: what the address parser let pass,
`PeerId::from_bytes` accepts, so no component is skipped. -/
theorem extractPeerId_eq (addr : Multiaddr) :
    extractPeerId addr = (firstP2p addr).map PeerId.mk := by
  have hchecked : ∀ p ∈ addr.iter, p.Checked := fun p hp => addr.checked_of_mem hp
  unfold extractPeerId firstP2p
  generalize addr.iter = ps at hchecked ⊢
  induction ps with
  | nil => rfl
  | cons p ps ih =>
    have hrest := ih fun p' hp' => hchecked p' (List.mem_cons_of_mem _ hp')
    have hp := hchecked p List.mem_cons_self
    cases p with
    | p2p b =>
      have hid : PeerId.fromBytes b = .ok ⟨b⟩ := PeerId.fromBytes_eq_ok_iff.mpr ⟨rfl, hp⟩
      simp [hid, Except.toOption]
    | _ => simpa using hrest

/-- An address without a peer id, with the peer id of a key pushed. -/
theorem extractPeerId_push (sha256 : Sha256) (key : PublicKey) {addr : Multiaddr}
    (h : extractPeerId addr = none) :
    extractPeerId (addr.push (key.p2p sha256) (key.valid_p2p sha256))
      = some (key.peerId sha256) := by
  have hid : PeerId.fromBytes (key.peerId sha256).inner = .ok (key.peerId sha256) :=
    PeerId.fromBytes_eq_ok_iff.mpr ⟨rfl, PeerId.checkP2p_fromSeed ..⟩
  rw [extractPeerId] at h ⊢
  rw [Multiaddr.iter_push, List.findSome?_append, h]
  simp [PublicKey.p2p, hid, Except.toOption]

end CkbP2P

import CkbP2P.Multiaddr.Canonical
import CkbP2P.Secio.Identity

/-!
# The spellings of a peer id

A peer id is compared by its bytes, too.  Its code is a varint that is read as a `u16`, from three
bytes at most; the bits beyond are dropped, so a digest may be spelled in more than one way, unless
there are no such bits.
-/

namespace CkbP2P

open Lib

namespace PeerId

variable {data : Bytes} {id id' : PeerId}

/-- `digest`. -/
def digest (id : PeerId) : Option Bytes :=
  match Varint.decode 16 2 id.inner with
  | .error _ => none
  | .ok (_, bytes) => bytes.tail?

/-- The id that `from_seed` builds from the digest of a seed. -/
def ofDigest (digest : Bytes) : PeerId :=
  ⟨Varint.encode 3 Protocol.sha256Code ++ UInt8.ofNat Protocol.sha256Size :: digest⟩

/-- An accepted id is a code, a length and a digest. -/
theorem fromBytes_ok (h : fromBytes data = .ok id) : id = ⟨data⟩ ∧ ∃ digest,
    digest.length = Protocol.sha256Size ∧
      Varint.decode 16 2 data
        = .ok (Protocol.sha256Code, UInt8.ofNat Protocol.sha256Size :: digest) := by
  unfold fromBytes at h
  split_ifs at h
  split at h
  · cases h
  · next code bytes hcode =>
    split_ifs at h with hsha hlen hhead
    cases h
    rw [not_not] at hsha hlen hhead
    subst hsha
    refine ⟨rfl, ?_⟩
    cases bytes with
    | nil => cases hhead
    | cons b digest =>
      obtain rfl : b = UInt8.ofNat Protocol.sha256Size := Option.some.inj hhead
      exact ⟨digest, Nat.succ.inj hlen, hcode⟩

/-- The digest is found. -/
theorem digest_eq {digest : Bytes} {code : ℕ} {b : UInt8}
    (h : Varint.decode 16 2 id.inner = .ok (code, b :: digest)) : id.digest = some digest := by
  rw [PeerId.digest, h]
  rfl

/-- **An accepted id is the one that is built from its digest if and only if** its code has no
bits to drop. -/
theorem eq_ofDigest_iff (h : fromBytes data = .ok id) : ∃ digest,
    id.digest = some digest ∧ (id = ofDigest digest ↔ Varint.exact 16 2 data = true) := by
  obtain ⟨rfl, digest, -, hdecode⟩ := fromBytes_ok h
  refine ⟨digest, digest_eq hdecode, ?_⟩
  constructor
  · intro heq
    obtain rfl : data = (ofDigest digest).inner := congrArg PeerId.inner heq
    exact Varint.exact_encode (by decide) (by decide) _
  · intro hexact
    obtain ⟨-, hdata⟩ := Varint.decode_eq_ok_of_exact hexact hdecode
    rw [hdata]
    rfl

/-- Accepted ids without bits to drop are equal when their digests are. -/
theorem eq_iff_digest_eq {data' : Bytes} (h : fromBytes data = .ok id)
    (h' : fromBytes data' = .ok id') (hexact : Varint.exact 16 2 data = true)
    (hexact' : Varint.exact 16 2 data' = true) : id = id' ↔ id.digest = id'.digest := by
  constructor
  · rintro rfl
    rfl
  · intro heq
    obtain ⟨digest, hdigest, hiff⟩ := eq_ofDigest_iff h
    obtain ⟨digest', hdigest', hiff'⟩ := eq_ofDigest_iff h'
    rw [hdigest, hdigest'] at heq
    cases heq
    rw [hiff.mpr hexact, hiff'.mpr hexact']

end PeerId

/-- **Bytes and meaning.**  Accepted bytes are those that are written for what they mean if and
only if no varint in them has bits to drop; and then they are equal when their meanings are. -/
theorem canonical_iff_no_dropped_bits (v data : Bytes) :
    (∀ a, Multiaddr.tryFrom v = .ok a →
      (v = Multiaddr.Raw.fromIter a.iter ↔ Multiaddr.Exact v) ∧
      ∀ b : Multiaddr, Multiaddr.Exact v → Multiaddr.Exact b.bytes → (a = b ↔ a.iter = b.iter)) ∧
    ∀ id, PeerId.fromBytes data = .ok id →
      (∃ digest, id.digest = some digest ∧
        (id = PeerId.ofDigest digest ↔ Varint.exact 16 2 data = true)) ∧
      ∀ data' id', PeerId.fromBytes data' = .ok id' → Varint.exact 16 2 data = true →
        Varint.exact 16 2 data' = true → (id = id' ↔ id.digest = id'.digest) := by
  constructor
  · intro a h
    obtain rfl := Multiaddr.bytes_of_tryFrom h
    refine ⟨a.canonical_iff_exact, ?_⟩
    intro b ha hb
    exact Multiaddr.eq_iff_iter_eq ha hb
  · intro id h
    refine ⟨PeerId.eq_ofDigest_iff h, ?_⟩
    intro data' id' h' hexact hexact'
    exact PeerId.eq_iff_digest_eq h h' hexact hexact'

/-! ### Two spellings -/

/-- The local host, with the code as it is written. -/
def localHost : Bytes := [0x04, 127, 0, 0, 1]

/-- The local host, with a code that has a bit beyond a `u32`. -/
def localHostDropped : Bytes := [0x84, 0x80, 0x80, 0x80, 0x10, 127, 0, 0, 1]

/-- An id, with the code as it is written. -/
def zeroId : Bytes := [0x12, 32] ++ List.replicate 32 0

/-- An id, with a code that has a bit beyond a `u16`. -/
def zeroIdDropped : Bytes := [0x92, 0x80, 0x04, 32] ++ List.replicate 32 0

theorem many_of_single {bytes : Bytes} {p : Protocol} (hne : bytes ≠ [])
    (h : Protocol.fromBytes bytes = .ok (p, [])) : Protocol.fromBytes.many bytes = .ok [p] := by
  rw [Parser.many_of_ok Protocol.fromBytes_progress hne h]
  rfl

theorem many_localHost : Protocol.fromBytes.many localHost = .ok [.ip4 127 0 0 1] :=
  many_of_single (List.cons_ne_nil _ _) (by decide +kernel)

theorem many_localHostDropped : Protocol.fromBytes.many localHostDropped = .ok [.ip4 127 0 0 1] :=
  many_of_single (List.cons_ne_nil _ _) (by decide +kernel)

theorem canonical_localHost : (∃ a, Multiaddr.tryFrom localHost = .ok a ∧
    localHost = Multiaddr.Raw.fromIter a.iter) ∧
    ∃ digest, (PeerId.mk zeroId).digest = some digest ∧ ⟨zeroId⟩ = PeerId.ofDigest digest := by
  obtain ⟨haddress, hid⟩ := canonical_iff_no_dropped_bits localHost zeroId
  constructor
  · obtain ⟨a, haccept, -, -⟩ := Multiaddr.tryFrom_of_many many_localHost
    have hexact : Multiaddr.Exact localHost := .cons rfl (by decide +kernel) .nil
    exact ⟨a, haccept, (haddress a haccept).1.mpr hexact⟩
  · obtain ⟨digest, hdigest, hiff⟩ := (hid ⟨zeroId⟩ rfl).1
    exact ⟨digest, hdigest, hiff.mpr (by decide +kernel)⟩

/-- **Two accepted spellings of one address, and of one peer id.** -/
theorem spelled_twice :
    (∃ a b, Multiaddr.tryFrom localHostDropped = .ok a ∧ Multiaddr.tryFrom localHost = .ok b ∧
      a.iter = b.iter ∧ a ≠ b ∧ Multiaddr.Raw.fromIter a.iter ≠ localHostDropped) ∧
    ∃ id id', PeerId.fromBytes zeroIdDropped = .ok id ∧ PeerId.fromBytes zeroId = .ok id' ∧
      id.digest = id'.digest ∧ id ≠ id' := by
  constructor
  · obtain ⟨a, ha, habytes, haiter⟩ := Multiaddr.tryFrom_of_many many_localHostDropped
    obtain ⟨b, hb, hbbytes, hbiter⟩ := Multiaddr.tryFrom_of_many many_localHost
    refine ⟨a, b, ha, hb, haiter.trans hbiter.symm, ?_, ?_⟩
    · rintro rfl
      rw [habytes] at hbbytes
      exact absurd hbbytes (by decide)
    · rw [haiter]
      decide
  · exact ⟨⟨zeroIdDropped⟩, ⟨zeroId⟩, by decide +kernel⟩

end CkbP2P

import CkbP2P.Lib.Molecule
import CkbP2P.Multiaddr.Ops

/-!
# The identify message

A node tells a peer the addresses it listens on and the address it sees the peer at.  On the
wire each address is a table with one field, the bytes of the address.  The observed address is
packed into such a table.  The listening addresses are not: their bytes are taken for the table
itself, and the check of the table is unwrapped.

An address whose bytes happen to pass the check is not read back as itself: what is read is the
field, and the field is shorter than the table.  So the listening addresses survive only when
there are none.

The schema comes from a crate outside the repository: an address is a table of its bytes, and
the message is a table of the vector of the listening addresses, the observed address and the
bytes of the description of the node.  A panic is `none`.
-/

namespace CkbP2P
namespace Connector

open Lib

/-! ### Addresses -/

/-- An address as a table. -/
def packAddress (bytes : Bytes) : Bytes := Molecule.packTable [Molecule.packVec bytes]

/-- `packed::Address::from_slice`: the slice itself, if it is a table of one byte vector. -/
def addressFromSlice (slice : Bytes) : Option Bytes :=
  match Molecule.splitExact 1 slice with
  | some [bytes] => if Molecule.verifyVec bytes then some slice else none
  | _ => none

/-- What a reader makes of the table of an address. -/
def unpackAddress (slice : Bytes) : Option Multiaddr :=
  match Molecule.splitTable 1 slice with
  | some [bytes] =>
    match Molecule.unpackVec bytes with
    | some raw =>
      match Multiaddr.tryFrom raw with
      | .ok addr => some addr
      | .error _ => none
    | none => none
  | _ => none

/-! ### Messages -/

/-- `FLAG_FULL_NODE`, with eight bytes. -/
def flagFullNode : Bytes := (putU64 1).reverse

/-- What a node says about itself. -/
def identifyPayload (networkIdentifier clientVersion : String) : Bytes :=
  Molecule.packTable [flagFullNode, Molecule.packVec (strBytes networkIdentifier),
    Molecule.packVec (strBytes clientVersion)]

/-- The message, for the tables of the listening addresses. -/
def identifyMessage (networkIdentifier clientVersion : String) (listenAddrs : List Bytes)
    (observedAddress : Multiaddr) : Bytes :=
  Molecule.packTable [Molecule.packTable listenAddrs, packAddress observedAddress.bytes,
    Molecule.packVec (identifyPayload networkIdentifier clientVersion)]

/-- `build_identify_message`. -/
def buildIdentifyMessage (networkIdentifier clientVersion : String)
    (listeningAddresses : List Multiaddr) (observedAddress : Multiaddr) : Option Bytes := do
  let listenAddrs ← listeningAddresses.mapM fun addr => addressFromSlice addr.bytes
  pure (identifyMessage networkIdentifier clientVersion listenAddrs observedAddress)

/-- The addresses a reader finds in a message. -/
def decodeIdentifyMessage (data : Bytes) : Option (List Multiaddr × Multiaddr) :=
  match Molecule.splitTable 3 data with
  | some [listenAddrs, observedAddr, identify] => do
    let items ← Molecule.splitItems listenAddrs
    let listening ← items.mapM unpackAddress
    let observed ← unpackAddress observedAddr
    let _ ← Molecule.unpackVec identify
    pure (listening, observed)
  | _ => none

/-! ### Reading back -/

theorem tryFrom_bytes (addr : Multiaddr) : Multiaddr.tryFrom addr.bytes = .ok addr := by
  obtain ⟨ps, hps⟩ := addr.valid
  obtain ⟨a, ha, hbytes, -⟩ := Multiaddr.tryFrom_of_many hps
  rw [ha, Multiaddr.ext_bytes hbytes]

theorem unpackAddress_of_split {slice bytes raw : Bytes} {addr : Multiaddr}
    (hsplit : Molecule.splitTable 1 slice = some [bytes])
    (hvec : Molecule.unpackVec bytes = some raw) (hfrom : Multiaddr.tryFrom raw = .ok addr) :
    unpackAddress slice = some addr := by
  rw [unpackAddress, hsplit]
  dsimp only
  rw [hvec]
  dsimp only
  rw [hfrom]

theorem unpackAddress_packAddress {addr : Multiaddr}
    (h : (packAddress addr.bytes).length < 2 ^ 32) :
    unpackAddress (packAddress addr.bytes) = some addr := by
  have hlength : addr.bytes.length < 2 ^ 32 := by
    have hlt : (Molecule.packVec addr.bytes).length < (packAddress addr.bytes).length :=
      Molecule.length_lt_of_mem (List.mem_singleton_self (Molecule.packVec addr.bytes))
    rw [Molecule.length_packVec] at hlt
    omega
  exact unpackAddress_of_split (Molecule.splitTable_of_length rfl h)
    (Molecule.unpackVec_packVec hlength) (tryFrom_bytes addr)

/-- A slice that is taken for a table is kept as it is. -/
theorem eq_of_addressFromSlice {slice table : Bytes} (h : addressFromSlice slice = some table) :
    table = slice ∧ Molecule.splitTable 1 slice = some [slice.drop 8] ∧ 8 ≤ slice.length := by
  unfold addressFromSlice at h
  split at h
  · next bytes hsplit =>
    obtain ⟨htable, hfields, hlength⟩ := Molecule.splitExact_one hsplit
    split at h
    · exact ⟨(Option.some.inj h).symm, hfields ▸ htable, hlength⟩
    · cases h
  · cases h

/-- **An address that is taken for a table is not read back**: its header is left out. -/
theorem unpackAddress_of_addressFromSlice {addr : Multiaddr} {table : Bytes}
    (h : addressFromSlice addr.bytes = some table) : unpackAddress table ≠ some addr := by
  obtain ⟨rfl, hsplit, hlength⟩ := eq_of_addressFromSlice h
  intro hread
  simp only [unpackAddress, hsplit] at hread
  cases hvec : Molecule.unpackVec (addr.bytes.drop 8) with
  | none =>
    rw [hvec] at hread
    cases hread
  | some raw =>
    rw [hvec] at hread
    dsimp only at hread
    cases hfrom : Multiaddr.tryFrom raw with
    | error e =>
      rw [hfrom] at hread
      cases hread
    | ok a =>
      rw [hfrom] at hread
      cases hread
      -- what is read is what follows the header and the length of the field
      have hraw : raw = (addr.bytes.drop 8).drop 4 := by
        unfold Molecule.unpackVec at hvec
        split at hvec
        · exact (Option.some.inj hvec).symm
        · cases hvec
      have hsame := congrArg List.length (Multiaddr.bytes_of_tryFrom hfrom)
      rw [hraw, List.length_drop, List.length_drop] at hsame
      omega

theorem mapM_addressFromSlice {addrs : List Multiaddr} {tables : List Bytes}
    (h : addrs.mapM (fun addr => addressFromSlice addr.bytes) = some tables)
    (hread : tables.mapM unpackAddress = some addrs) : addrs = [] := by
  cases addrs with
  | nil => rfl
  | cons addr addrs =>
    exfalso
    rw [List.mapM_cons] at h
    cases hfirst : addressFromSlice addr.bytes with
    | none =>
      rw [hfirst] at h
      cases h
    | some table =>
      rw [hfirst] at h
      cases hrest : addrs.mapM (fun addr => addressFromSlice addr.bytes) with
      | none =>
        rw [hrest] at h
        cases h
      | some rest =>
        rw [hrest] at h
        cases h
        rw [List.mapM_cons] at hread
        cases hunpack : unpackAddress table with
        | none =>
          rw [hunpack] at hread
          cases hread
        | some a =>
          rw [hunpack] at hread
          cases hothers : rest.mapM unpackAddress with
          | none =>
            rw [hothers] at hread
            cases hread
          | some others =>
            rw [hothers] at hread
            cases hread
            exact unpackAddress_of_addressFromSlice hfirst hunpack

section Message

variable {networkIdentifier clientVersion : String} {tables : List Bytes} {observed : Multiaddr}

/-- The fields of a message are found again. -/
theorem decode_identifyMessage
    (h : (identifyMessage networkIdentifier clientVersion tables observed).length < 2 ^ 32) :
    decodeIdentifyMessage (identifyMessage networkIdentifier clientVersion tables observed) =
      (tables.mapM unpackAddress).map fun listening => (listening, observed) := by
  unfold identifyMessage at h ⊢
  generalize identifyPayload networkIdentifier clientVersion = payload at h ⊢
  have hfield : ∀ field ∈ [Molecule.packTable tables, packAddress observed.bytes,
      Molecule.packVec payload], field.length < 2 ^ 32 :=
    fun field hmem => (Molecule.length_lt_of_mem hmem).trans h
  have hsplit : Molecule.splitTable 3 (Molecule.packTable [Molecule.packTable tables,
      packAddress observed.bytes, Molecule.packVec payload]) = some _ :=
    Molecule.splitTable_of_length rfl h
  have hitems := Molecule.splitItems_packTable (hfield _ List.mem_cons_self)
  have hobserved : unpackAddress (packAddress observed.bytes) = some observed :=
    unpackAddress_packAddress (hfield _ (List.mem_cons_of_mem _ List.mem_cons_self))
  have hpayload : Molecule.unpackVec (Molecule.packVec payload) = some payload := by
    have hlast := hfield _ (List.mem_cons_of_mem _ (List.mem_cons_of_mem _ List.mem_cons_self))
    rw [Molecule.length_packVec] at hlast
    exact Molecule.unpackVec_packVec (by omega)
  rw [decodeIdentifyMessage, hsplit]
  dsimp only
  rw [hitems, hobserved, hpayload, Option.bind_eq_bind, Option.bind_some]
  cases tables.mapM unpackAddress with
  | none => rfl
  | some listening => rfl

/-- What is decoded has a size of four bytes. -/
theorem length_of_decode {data : Bytes} {addrs : List Multiaddr × Multiaddr}
    (h : decodeIdentifyMessage data = some addrs) : data.length < 2 ^ 32 := by
  unfold decodeIdentifyMessage at h
  split at h
  · next hsplit =>
    exact (Molecule.sized_of_splitTable hsplit).length_lt
  · cases h

end Message

/-- **When the identify message is read back.**  Whatever the texts and the observed address, the
message is built and read back as it was meant exactly when there are no listening addresses,
and its size is a number of four bytes. -/
theorem identify_roundtrip_iff (networkIdentifier clientVersion : String)
    (listening : List Multiaddr) (observed : Multiaddr) :
    (∃ message,
      buildIdentifyMessage networkIdentifier clientVersion listening observed = some message ∧
        decodeIdentifyMessage message = some (listening, observed)) ↔
      listening = [] ∧
        (identifyMessage networkIdentifier clientVersion [] observed).length < 2 ^ 32 := by
  constructor
  · rintro ⟨message, hbuild, hdecode⟩
    have hsize := length_of_decode hdecode
    cases htables : listening.mapM fun addr => addressFromSlice addr.bytes with
    | none =>
      rw [buildIdentifyMessage, htables] at hbuild
      cases hbuild
    | some tables =>
      rw [buildIdentifyMessage, htables] at hbuild
      cases hbuild
      rw [decode_identifyMessage hsize] at hdecode
      obtain ⟨addrs, hread, heq⟩ := Option.map_eq_some_iff.mp hdecode
      cases heq
      obtain rfl := mapM_addressFromSlice htables hread
      cases htables
      exact ⟨rfl, hsize⟩
  · rintro ⟨rfl, hsize⟩
    refine ⟨identifyMessage networkIdentifier clientVersion [] observed, rfl, ?_⟩
    rw [decode_identifyMessage hsize]
    rfl

/-- The components of an address one listens on. -/
def localhostParts : List Protocol := [.ip4 127 0 0 1, .tcp 8114]

/-- `/ip4/127.0.0.1/tcp/8114`. -/
def localhost : Multiaddr where
  bytes := Multiaddr.Raw.fromIter localhostParts
  valid := by
    refine ⟨localhostParts, Multiaddr.Raw.iter_eq_ok_iff.mp
      (Multiaddr.Raw.iter_fromIter fun p hp => ?_)⟩
    rcases List.mem_pair.mp hp with rfl | rfl
    · trivial
    · trivial

/-- **An ordinary listening address makes it panic**; as an observed address it does no harm. -/
theorem identify_panics :
    buildIdentifyMessage "/ckb/92b197aa" "0.110.1" [localhost] localhost = none ∧
      (buildIdentifyMessage "/ckb/92b197aa" "0.110.1" [] localhost).isSome = true := by
  decide +kernel

end Connector
end CkbP2P

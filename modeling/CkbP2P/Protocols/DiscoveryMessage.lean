import CkbP2P.Connector.Identify
import CkbP2P.Lib.Delimited
import CkbP2P.Lib.Molecule

/-!
# The messages of the discovery protocol

A peer asks for nodes, or tells of nodes; a node is a list of addresses.  A message is packed
into a table, and the table into a frame, although the substream has frames already.
-/

namespace CkbP2P
namespace Protocols
namespace Discovery

open Lib

structure Node where
  addresses : List Multiaddr
  deriving DecidableEq

structure Nodes where
  announce : Bool
  items : List Node
  deriving DecidableEq

inductive DiscoveryMessage where
  | getNodes (version count : UInt32) (listenPort : Option UInt16)
  | nodes (nodes : Nodes)
  deriving DecidableEq

/-! ### Requests -/

/-- A port, if there is one, least significant byte first. -/
def packPort : Option UInt16 → Bytes
  | some port => (putU16 port).reverse
  | none => []

def unpackPort : Bytes → Option (Option UInt16)
  | [] => some none
  | [low, high] => some (some (getU16 high low))
  | _ => none

def packGetNodes (version count : UInt32) (listenPort : Option UInt16) : Bytes :=
  Molecule.packTable
    [Molecule.packNumber version.toNat, Molecule.packNumber count.toNat, packPort listenPort]

def unpackGetNodes (slice : Bytes) : Option DiscoveryMessage :=
  match Molecule.splitTable 3 slice with
  | some [version, count, listenPort] => do
    let version ← Molecule.unpackU32 version
    let count ← Molecule.unpackU32 count
    let listenPort ← unpackPort listenPort
    pure (.getNodes version count listenPort)
  | _ => none

theorem unpackPort_packPort (port : Option UInt16) : unpackPort (packPort port) = some port := by
  cases port with
  | none => rfl
  | some port =>
    change some (some (getU16 _ _)) = _
    rw [getU16_putU16]

theorem length_packGetNodes (version count : UInt32) (listenPort : Option UInt16) :
    (packGetNodes version count listenPort).length ≤ 26 := by
  rw [packGetNodes, Molecule.length_packTable]
  cases listenPort <;> simp [packPort, putU16]

theorem unpackGetNodes_packGetNodes (version count : UInt32) (listenPort : Option UInt16) :
    unpackGetNodes (packGetNodes version count listenPort)
      = some (.getNodes version count listenPort) := by
  have hlength := length_packGetNodes version count listenPort
  have hsplit : Molecule.splitTable 3 (packGetNodes version count listenPort) = some _ :=
    Molecule.splitTable_of_length rfl (by rw [packGetNodes] at hlength; omega)
  rw [unpackGetNodes, hsplit]
  dsimp only
  rw [Molecule.unpackU32_packNumber, Molecule.unpackU32_packNumber, unpackPort_packPort]
  rfl

/-! ### Nodes -/

/-- A byte vector that holds an address. -/
def unpackMultiaddr (slice : Bytes) : Option Multiaddr :=
  match Molecule.unpackVec slice with
  | some raw =>
    match Multiaddr.tryFrom raw with
    | .ok addr => some addr
    | .error _ => none
  | none => none

def packNode (node : Node) : Bytes :=
  Molecule.packTable
    [Molecule.packTable (node.addresses.map fun addr => Molecule.packVec addr.bytes)]

def unpackNode (slice : Bytes) : Option Node :=
  match Molecule.splitTable 1 slice with
  | some [addresses] => do
    let addresses ← Molecule.unpackItems unpackMultiaddr addresses
    pure ⟨addresses⟩
  | _ => none

def packBool (b : Bool) : Bytes := [if b then 1 else 0]

def unpackBool : Bytes → Option Bool
  | [0] => some false
  | [1] => some true
  | _ => none

def packNodes (nodes : Nodes) : Bytes :=
  Molecule.packTable [packBool nodes.announce, Molecule.packTable (nodes.items.map packNode)]

def unpackNodes (slice : Bytes) : Option DiscoveryMessage :=
  match Molecule.splitTable 2 slice with
  | some [announce, items] => do
    let announce ← unpackBool announce
    let items ← Molecule.unpackItems unpackNode items
    pure (.nodes ⟨announce, items⟩)
  | _ => none

theorem unpackMultiaddr_of_unpackVec {slice raw : Bytes} {addr : Multiaddr}
    (hvec : Molecule.unpackVec slice = some raw) (hfrom : Multiaddr.tryFrom raw = .ok addr) :
    unpackMultiaddr slice = some addr := by
  rw [unpackMultiaddr, hvec]
  dsimp only
  rw [hfrom]

theorem unpackMultiaddr_packVec {addr : Multiaddr}
    (h : (Molecule.packVec addr.bytes).length < 2 ^ 32) :
    unpackMultiaddr (Molecule.packVec addr.bytes) = some addr := by
  have hlength : addr.bytes.length < 2 ^ 32 := by
    rw [Molecule.length_packVec] at h
    omega
  exact unpackMultiaddr_of_unpackVec (Molecule.unpackVec_packVec hlength)
    (Connector.tryFrom_bytes addr)

theorem unpackNode_packNode {node : Node} (h : (packNode node).length < 2 ^ 32) :
    unpackNode (packNode node) = some node := by
  rw [packNode] at h ⊢
  have hsplit : Molecule.splitTable 1 _ = some _ := Molecule.splitTable_of_length rfl h
  have hlength := (Molecule.length_lt_of_mem (List.mem_singleton_self _)).trans h
  have hitems := Molecule.unpackItems_packTable hlength
    fun _ _ haddr => unpackMultiaddr_packVec haddr
  rw [unpackNode, hsplit]
  dsimp only
  rw [hitems]
  rfl

theorem unpackBool_packBool (b : Bool) : unpackBool (packBool b) = some b := by
  cases b <;> rfl

theorem unpackNodes_packNodes {nodes : Nodes} (h : (packNodes nodes).length < 2 ^ 32) :
    unpackNodes (packNodes nodes) = some (.nodes nodes) := by
  rw [packNodes] at h ⊢
  have hsplit : Molecule.splitTable 2 _ = some _ := Molecule.splitTable_of_length rfl h
  have hlength := (Molecule.length_lt_of_mem (List.mem_pair.mpr (.inr rfl))).trans h
  have hitems := Molecule.unpackItems_packTable hlength fun _ _ => unpackNode_packNode
  rw [unpackNodes, hsplit]
  dsimp only
  rw [unpackBool_packBool, hitems]
  rfl

/-! ### Messages -/

namespace DiscoveryMessage

/-- `DiscoveryMessage::encode`. -/
def encode : DiscoveryMessage → Bytes
  | .getNodes version count listenPort =>
    Molecule.packMessage 0 (packGetNodes version count listenPort)
  | .nodes ns => Molecule.packMessage 1 (packNodes ns)

/-- The item of the union, by its number in the schema. -/
def ofItem : ℕ → Bytes → Option DiscoveryMessage
  | 0, value => unpackGetNodes value
  | 1, value => unpackNodes value
  | _, _ => none

/-- `DiscoveryMessage::decode`. -/
def decode (data : Bytes) : Option DiscoveryMessage := do
  let (item, value) ← Molecule.unpackMessage data
  ofItem item value

theorem decode_of_unpackMessage {data value : Bytes} {item : ℕ}
    (h : Molecule.unpackMessage data = some (item, value)) : decode data = ofItem item value := by
  rw [decode, h]
  rfl

/-- **A message survives packing**, when its length is a number of four bytes. -/
theorem decode_encode {m : DiscoveryMessage} (h : m.encode.length < 2 ^ 32) :
    decode m.encode = some m := by
  cases m with
  | getNodes version count listenPort =>
    rw [encode] at h ⊢
    rw [decode_of_unpackMessage (Molecule.unpackMessage_packMessage (Nat.two_pow_pos 32) h),
      ofItem, unpackGetNodes_packGetNodes]
  | nodes ns =>
    rw [encode] at h ⊢
    rw [decode_of_unpackMessage
      (Molecule.unpackMessage_packMessage (Nat.one_lt_two_pow (by decide)) h), ofItem]
    rw [Molecule.length_packMessage] at h
    exact unpackNodes_packNodes (by omega)

end DiscoveryMessage

/-! ### Frames -/

/-- The limit of `LengthDelimitedCodec::new`. -/
def maxFrameLength : ℕ := 8 * 1024 * 1024

/-- `encode`, unless `"encode must be success"` fails. -/
def encode (m : DiscoveryMessage) : Option Bytes :=
  if maxFrameLength < m.encode.length then none else some (putFrame m.encode)

/-- `decode`. -/
def decode (data : Bytes) : Option DiscoveryMessage :=
  match takeFrame maxFrameLength data with
  | .frame frame _ => DiscoveryMessage.decode frame
  | _ => none

/-- **A message that can be sent survives the wire.** -/
theorem decode_of_encode {m : DiscoveryMessage} {data : Bytes} (h : encode m = some data) :
    decode data = some m := by
  unfold encode at h
  split_ifs at h with hlong
  rw [← Option.some.inj h, decode, ← List.append_nil (putFrame m.encode),
    takeFrame_putFrame (by decide) (Nat.not_lt.mp hlong)]
  refine DiscoveryMessage.decode_encode (lt_of_le_of_lt (Nat.not_lt.mp hlong) ?_)
  decide

/-- A request can always be sent. -/
theorem encode_getNodes (version count : UInt32) (listenPort : Option UInt16) :
    ∃ data, encode (.getNodes version count listenPort) = some data := by
  have hlength := length_packGetNodes version count listenPort
  refine ⟨_, if_neg ?_⟩
  rw [DiscoveryMessage.encode, Molecule.length_packMessage, maxFrameLength]
  omega

end Discovery
end Protocols
end CkbP2P

import Mathlib.Data.List.AList
import CkbP2P.Lib.Delimited
import CkbP2P.Lib.Molecule
import CkbP2P.Secio.Transcript

/-!
# The selection of a protocol version

The side that opens a substream sends the name of a protocol and the versions it supports.  The
other side looks the name up, selects a version, and sends the name back with this version, or
with no version.  Both messages are of one type: the list of versions is an offer on the way
there, and the choice on the way back.

An `async` function is the state it waits in: a socket with its buffers, and the result once
there is one.  `writable` and `readable` are what it does when the socket takes or has bytes.
-/

namespace CkbP2P
namespace Tentacle

open Lib

/-! ### Messages -/

/-- A protocol and the versions that are supported. -/
structure ProtocolInfo where
  name : String
  supportVersions : List String
  deriving DecidableEq

namespace ProtocolInfo

/-- The string of the schema: a vector of bytes. -/
def packString (s : String) : Bytes := Molecule.packVec (strBytes s)

/-- The versions, a vector of strings. -/
def packVersions (info : ProtocolInfo) : Bytes :=
  Molecule.packTable (info.supportVersions.map packString)

/-- The fields in the order of the table. -/
def fields (info : ProtocolInfo) : List Bytes := [packString info.name, info.packVersions]

/-- `encode`. -/
def encode (info : ProtocolInfo) : Bytes := Molecule.packTable info.fields

/-- The texts of a vector of strings. -/
def unpackVersions (slice : Bytes) : Option (List String) := do
  let items ← Molecule.splitItems slice
  let versions ← items.mapM Molecule.unpackVec
  versions.mapM strFromUtf8

/-- `decode`. -/
def decode (data : Bytes) : Option ProtocolInfo := do
  match ← Molecule.splitTable 2 data with
  | [name, versions] =>
    let name ← Molecule.unpackVec name
    let supportVersions ← unpackVersions versions
    let name ← strFromUtf8 name
    pure { name, supportVersions }
  | _ => none

theorem mapM_strFromUtf8 (texts : List String) :
    (texts.map strBytes).mapM strFromUtf8 = some texts := by
  induction texts with
  | nil => rfl
  | cons text texts ih =>
    rw [List.map_cons, List.mapM_cons, strFromUtf8_strBytes, ih]
    rfl

theorem length_packString (s : String) : (packString s).length = 4 + (strBytes s).length :=
  Molecule.length_packVec _

theorem splitTable_encode {info : ProtocolInfo} (h : info.encode.length < 2 ^ 32) :
    Molecule.splitTable 2 info.encode = some info.fields :=
  Molecule.splitTable_of_length rfl h

theorem unpackVec_packString {s : String} (h : (packString s).length < 2 ^ 32) :
    Molecule.unpackVec (packString s) = some (strBytes s) := by
  rw [length_packString] at h
  exact Molecule.unpackVec_packVec (by omega)

theorem mapM_unpackVec_packString {texts : List String}
    (h : ∀ text ∈ texts, (packString text).length < 2 ^ 32) :
    (texts.map packString).mapM Molecule.unpackVec = some (texts.map strBytes) := by
  have hlengths : ∀ data ∈ texts.map strBytes, data.length < 2 ^ 32 := by
    intro data hdata
    obtain ⟨text, hmem, rfl⟩ := List.mem_map.mp hdata
    have hlt := h text hmem
    rw [length_packString] at hlt
    omega
  have hmap := Molecule.mapM_unpackVec hlengths
  rwa [List.map_map] at hmap

theorem unpackVersions_packVersions {info : ProtocolInfo} (h : info.packVersions.length < 2 ^ 32) :
    unpackVersions info.packVersions = some info.supportVersions := by
  have hsplit : Molecule.splitItems info.packVersions
      = some (info.supportVersions.map packString) :=
    Molecule.splitItems_packTable h
  have hitems : ∀ version ∈ info.supportVersions, (packString version).length < 2 ^ 32 := by
    intro version hmem
    exact (Molecule.length_lt_of_mem (List.mem_map_of_mem hmem)).trans h
  rw [unpackVersions, hsplit, Option.bind_eq_bind, Option.bind_some,
    mapM_unpackVec_packString hitems, Option.bind_some, mapM_strFromUtf8]

/-- **A message survives the wire**, when its length is a number of four bytes. -/
theorem decode_encode {info : ProtocolInfo} (h : info.encode.length < 2 ^ 32) :
    decode info.encode = some info := by
  have hname : (packString info.name).length < 2 ^ 32 := by
    have hlt : (packString info.name).length < info.encode.length :=
      Molecule.length_lt_of_mem List.mem_cons_self
    exact hlt.trans h
  have hversions : info.packVersions.length < 2 ^ 32 := by
    have hlt : info.packVersions.length < info.encode.length :=
      Molecule.length_lt_of_mem (List.mem_cons_of_mem _ List.mem_cons_self)
    exact hlt.trans h
  rw [decode, splitTable_encode h, Option.bind_eq_bind, Option.bind_some, fields]
  dsimp only
  rw [unpackVec_packString hname, unpackVersions_packVersions hversions, Option.bind_eq_bind,
    Option.bind_some, Option.bind_eq_bind, Option.bind_some, strFromUtf8_strBytes]
  rfl

/-- What is decoded has a size of four bytes. -/
theorem length_of_decode {data : Bytes} {info : ProtocolInfo} (h : decode data = some info) :
    data.length < 2 ^ 32 := by
  unfold decode at h
  cases hsplit : Molecule.splitTable 2 data with
  | none =>
    rw [hsplit] at h
    cases h
  | some fields => exact (Molecule.sized_of_splitTable hsplit).length_lt

end ProtocolInfo

/-! ### The messages of both handshakes -/

/-- **Messages survive the wire exactly when they fit** the sizes of their encoding: those
that select a protocol, with any name and any list of versions, and those that agree on
keys.  A table holds its own size in four bytes; a public key, which is a union, only that
of the bytes of the key. -/
theorem messages_roundtrip_iff (info : ProtocolInfo) (p : Secio.Propose) (e : Secio.Exchange)
    (key : PublicKey) :
    (ProtocolInfo.decode info.encode = some info ↔ info.encode.length < 2 ^ 32) ∧
    (Secio.Propose.decode p.encode = some p ↔ p.encode.length < 2 ^ 32) ∧
    (Secio.Exchange.decode e.encode = some e ↔ e.encode.length < 2 ^ 32) ∧
    (PublicKey.decode key.encode = some key ↔ key.inner.length < 2 ^ 32) :=
  ⟨⟨ProtocolInfo.length_of_decode, ProtocolInfo.decode_encode⟩,
    ⟨Secio.Propose.length_of_decode, Secio.Propose.decode_encode⟩,
    ⟨Secio.Exchange.length_of_decode, Secio.Exchange.decode_encode⟩,
    ⟨PublicKey.length_of_decode, PublicKey.decode_encode⟩⟩

/-! ### Versions -/

section Select

variable {α : Type*} [Ord α]

/-- The loop of `select_version`, over what is left of the two lists from their ends. -/
def selectLoop : List α → List α → Option α
  | l :: locals, r :: remotes =>
    match compare l r with
    | .lt => selectLoop (l :: locals) remotes
    | .gt => selectLoop locals (r :: remotes)
    | .eq => some l
  | _, _ => none
termination_by locals remotes => locals.length + remotes.length

/-- `select_version`. -/
def selectVersion (locals remotes : List α) : Option α :=
  selectLoop locals.reverse remotes.reverse

theorem mem_of_selectLoop [Std.LawfulEqOrd α] {locals remotes : List α} {v : α}
    (h : selectLoop locals remotes = some v) : v ∈ locals ∧ v ∈ remotes := by
  induction locals, remotes using selectLoop.induct with
  | case1 l locals r remotes hlt ih =>
    rw [selectLoop, hlt] at h
    exact ⟨(ih h).1, List.mem_cons_of_mem _ (ih h).2⟩
  | case2 l locals r remotes hgt ih =>
    rw [selectLoop, hgt] at h
    exact ⟨List.mem_cons_of_mem _ (ih h).1, (ih h).2⟩
  | case3 l locals r remotes heq =>
    -- the two versions are the same, and one of them is returned
    rw [selectLoop, heq] at h
    obtain rfl := Option.some.inj h
    obtain rfl := Std.LawfulEqOrd.eq_of_compare heq
    exact ⟨List.mem_cons_self, List.mem_cons_self⟩
  | case4 locals remotes hnone =>
    rw [selectLoop] at h
    · cases h
    · exact hnone

/-- **A version that is selected is listed by both sides**, sorted or not. -/
theorem mem_of_selectVersion [Std.LawfulEqOrd α] {locals remotes : List α} {v : α}
    (h : selectVersion locals remotes = some v) : v ∈ locals ∧ v ∈ remotes := by
  obtain ⟨hlocal, hremote⟩ := mem_of_selectLoop h
  exact ⟨List.mem_reverse.mp hlocal, List.mem_reverse.mp hremote⟩

end Select

/-! ### The two sides -/

/-- The limit of `LengthDelimitedCodec::new`.  The two sides below have it as a parameter. -/
def selectFrameLimit : ℕ := 8 * 1024 * 1024

/-- The kinds of errors a selection ends with. -/
inductive SelectError where
  | invalidData
  | invalidInput
  | unexpectedEof
  deriving DecidableEq, Repr

/-- The name and the version a side has got. -/
abbrev Selected := String × Option String

/-- The function a protocol may bring for the selection. -/
abbrev SelectFn := List String → List String → Option String

/-- The protocols of a server. -/
abbrev ProtoInfos := AList fun _ : String => ProtocolInfo × Option SelectFn

/-- What is read from a socket: a frame, an error, or the end. -/
abbrev RawInfo := Option (Except SelectError Bytes)

/-- What both sides do with what they read first. -/
def remoteInfo : RawInfo → Except SelectError ProtocolInfo
  | some (.error e) => .error e
  | some (.ok data) =>
    match ProtocolInfo.decode data with
    | some info => .ok info
    | none => .error .invalidData
  | none => .error .unexpectedEof

/-- The first frame of a socket, if it has arrived. -/
def nextFrame (limit : ℕ) (socket : Framed) : Option RawInfo × Framed :=
  match takeFrame limit socket.readBuf with
  | .frame data rest => (some (some (.ok data)), { socket with readBuf := rest })
  | .tooBig => (some (some (.error .invalidData)), socket)
  | .pending => (none, socket)

/-- The state `client_select` waits in. -/
structure ClientSelect where
  socket : Framed
  result : Option (Except SelectError Selected)

namespace ClientSelect

/-- `client_select` until it waits for the first time. -/
def start (limit : ℕ) (info : ProtocolInfo) : ClientSelect :=
  match Framed.new.startSend limit info.encode with
  | some socket => ⟨socket, none⟩
  | none => ⟨Framed.new, some (.error .invalidInput)⟩

/-- The answer has been read. -/
def receive (raw : RawInfo) : Except SelectError Selected := do
  let info ← remoteInfo raw
  pure (info.name, info.supportVersions.getLast?)

/-- The socket takes some bytes. -/
def writable (c : ClientSelect) (amount : ℕ) : ClientSelect × Bytes :=
  match c.result with
  | some _ => (c, [])
  | none =>
    let (socket, chunk) := c.socket.write amount
    ({ c with socket }, chunk)

/-- Nothing is read before the offer has been sent. -/
def reads (c : ClientSelect) : Bool := c.result.isNone && c.socket.writeBuf.isEmpty

/-- The socket has some bytes. -/
def readable (limit : ℕ) (c : ClientSelect) (chunk : Bytes) : ClientSelect :=
  match nextFrame limit (c.socket.read chunk) with
  | (none, socket) => { c with socket }
  | (some raw, socket) => { socket, result := some (receive raw) }

end ClientSelect

/-- The state `server_select` waits in: for the offer, or with its answer to be sent. -/
structure ServerSelect where
  socket : Framed
  chosen : Option Selected
  result : Option (Except SelectError Selected)

namespace ServerSelect

/-- `server_select` until it waits for the first time. -/
def start : ServerSelect := ⟨Framed.new, none, none⟩

/-- The version for an offer. -/
def version (protoInfos : ProtoInfos) (remote : ProtocolInfo) : Option String := do
  let (info, select) ← protoInfos.lookup remote.name
  match select with
  | some f => f info.supportVersions remote.supportVersions
  | none => selectVersion info.supportVersions remote.supportVersions

/-- The answer to an offer. -/
def reply (protoInfos : ProtoInfos) (remote : ProtocolInfo) : ProtocolInfo :=
  { name := remote.name, supportVersions := (version protoInfos remote).toList }

/-- The offer has been read. -/
def receive (limit : ℕ) (protoInfos : ProtoInfos) (s : ServerSelect) (raw : RawInfo) :
    ServerSelect :=
  match remoteInfo raw with
  | .error e => { s with result := some (.error e) }
  | .ok remote =>
    match s.socket.startSend limit (reply protoInfos remote).encode with
    | some socket => { s with socket, chosen := some (remote.name, version protoInfos remote) }
    | none => { s with result := some (.error .invalidInput) }

/-- The socket takes some bytes.  With the last byte of the answer the selection is over. -/
def writable (s : ServerSelect) (amount : ℕ) : ServerSelect × Bytes :=
  match s.result, s.chosen with
  | none, some chosen =>
    let (socket, chunk) := s.socket.write amount
    ({ s with socket, result := if socket.writeBuf.isEmpty then some (.ok chosen) else none },
      chunk)
  | _, _ => (s, [])

def reads (s : ServerSelect) : Bool := s.result.isNone && s.chosen.isNone

/-- The socket has some bytes. -/
def readable (limit : ℕ) (protoInfos : ProtoInfos) (s : ServerSelect) (chunk : Bytes) :
    ServerSelect :=
  match nextFrame limit (s.socket.read chunk) with
  | (none, socket) => { s with socket }
  | (some raw, socket) => receive limit protoInfos { s with socket } raw

end ServerSelect

/-! ### The answer -/

namespace ProtocolInfo

theorem length_encode (info : ProtocolInfo) :
    info.encode.length = 20 + (strBytes info.name).length +
      4 * info.supportVersions.length + (info.supportVersions.map packString).flatten.length := by
  rw [encode, Molecule.length_packTable]
  simp only [fields, packVersions, List.length_cons, List.length_nil, List.flatten_cons,
    List.flatten_nil,
    List.length_append, length_packString, Molecule.length_packTable, List.length_map]
  omega

/-- **The answer is no longer than the offer**, when the version is one of the offered ones. -/
theorem length_encode_reply {info : ProtocolInfo} {version : Option String}
    (h : ∀ v, version = some v → v ∈ info.supportVersions) :
    (encode { name := info.name, supportVersions := version.toList }).length
      ≤ info.encode.length := by
  rw [length_encode, length_encode]
  cases version with
  | none =>
    simp only [Option.toList_none, List.length_nil, List.map_nil, List.flatten_nil]
    omega
  | some v =>
    have hmem := h v rfl
    have hle := (List.sublist_flatten_of_mem (List.mem_map_of_mem (f := packString) hmem)).length_le
    have hpos := List.length_pos_of_mem hmem
    simp only [Option.toList_some, List.length_cons, List.length_nil, List.map_cons, List.map_nil,
      List.flatten_cons, List.flatten_nil, List.append_nil]
    omega

end ProtocolInfo

end Tentacle
end CkbP2P

import CkbP2P.Lib.Varint

/-!
# Multiaddresses

A multiaddress is one flat byte string, a sequence of self-delimiting components.  The
type carries that the bytes can be read component by component: `iter` never meets bytes
it cannot decode.  Two addresses are equal when their bytes are.

The varints come from a crate outside the repository: seven bits in each byte, at most
three, five or ten bytes for `u16`, `u32` and `usize`, a longer encoding must not end in a
zero byte, and bits beyond the width are dropped.
-/

namespace CkbP2P

open Lib

/-! ### Components -/

/-- The components of an address. -/
inductive Protocol where
  | dns4 (s : String)
  | dns6 (s : String)
  | ip4 (a b c d : UInt8)
  | ip6 (a b c d e f g h : UInt16)
  | p2p (b : Bytes)
  | tcp (port : UInt16)
  | tls (s : String)
  | ws
  | wss
  | memory (port : UInt64)
  deriving DecidableEq

namespace Protocol

def dns4Code : ℕ := 0x36
def dns6Code : ℕ := 0x37
def ip4Code : ℕ := 0x04
def ip6Code : ℕ := 0x29
def p2pCode : ℕ := 0x01a5
def tcpCode : ℕ := 0x06
def tlsCode : ℕ := 0x01c0
def wsCode : ℕ := 0x01dd
def wssCode : ℕ := 0x01de
def memoryCode : ℕ := 0x0309

/-- The multihash code of SHA-256. -/
def sha256Code : ℕ := 0x12

/-- The length of a SHA-256 digest. -/
def sha256Size : ℕ := 32

/-- Why bytes or a text are rejected. -/
inductive Error where
  | dataLessThanLen
  | invalidMultiaddr
  | invalidProtocolString
  | invalidUvar (e : Varint.Error)
  | parsingError
  | unknownHash
  | unknownProtocolId (id : ℕ)
  | unknownProtocolString
  deriving DecidableEq, Repr

/-- `decode::u16`. -/
def varU16 : Parser Error ℕ := Varint.parse 16 2 .invalidUvar

/-- `decode::u32`. -/
def varU32 : Parser Error ℕ := Varint.parse 32 4 .invalidUvar

/-- `decode::usize`. -/
def varUsize : Parser Error ℕ := Varint.parse 64 9 .invalidUvar

/-- `split_header`. -/
def splitHeader (n : ℕ) : Parser Error Bytes := Parser.take n .dataLessThanLen

/-- `check_p2p`: the bytes are a SHA-256 multihash. -/
def checkP2p (data : Bytes) : Except Error Unit :=
  match varU16 data with
  | .error e => .error e
  | .ok (code, bytes) =>
    if code ≠ sha256Code then .error .unknownHash
    else if bytes.length ≠ sha256Size + 1 then .error .unknownHash
    else if bytes.head? ≠ some (UInt8.ofNat sha256Size) then .error .unknownHash
    else .ok ()

/-- `str::from_utf8`, with its error. -/
def parseStr (data : Bytes) : Except Error String :=
  match strFromUtf8 data with
  | none => .error .parsingError
  | some s => .ok s

/-- The body of a component that holds a string. -/
def strBody (mk : String → Protocol) : Parser Error Protocol := do
  let n ← varUsize
  let data ← splitHeader n
  let s ← Parser.lift (parseStr data)
  pure (mk s)

/-- The body of a component that holds a multihash. -/
def p2pBody : Parser Error Protocol := do
  let n ← varUsize
  let data ← splitHeader n
  Parser.lift (checkP2p data)
  pure (.p2p data)

/-- The body of a component of fixed size; `mk` sees as many bytes as were asked for. -/
def fixedBody (n : ℕ) (mk : Bytes → Option Protocol) : Parser Error Protocol := do
  let data ← splitHeader n
  Parser.lift <|
    match mk data with
    | none => .error .dataLessThanLen
    | some p => .ok p

def ip4OfBytes : Bytes → Option Protocol
  | [a, b, c, d] => some (.ip4 a b c d)
  | _ => none

def ip6OfBytes : Bytes → Option Protocol
  | [a, a', b, b', c, c', d, d', e, e', f, f', g, g', h, h'] =>
    some (.ip6 (getU16 a a') (getU16 b b') (getU16 c c') (getU16 d d') (getU16 e e') (getU16 f f')
      (getU16 g g') (getU16 h h'))
  | _ => none

def tcpOfBytes : Bytes → Option Protocol
  | [a, b] => some (.tcp (getU16 a b))
  | _ => none

def memoryOfBytes : Bytes → Option Protocol
  | [a, b, c, d, e, f, g, h] => some (.memory (getU64 a b c d e f g h))
  | _ => none

/-- The body of the component with code `id`. -/
def body (id : ℕ) : Parser Error Protocol :=
  if id = dns4Code then strBody .dns4
  else if id = dns6Code then strBody .dns6
  else if id = ip4Code then fixedBody 4 ip4OfBytes
  else if id = ip6Code then fixedBody 16 ip6OfBytes
  else if id = tlsCode then strBody .tls
  else if id = p2pCode then p2pBody
  else if id = tcpCode then fixedBody 2 tcpOfBytes
  else if id = wsCode then pure .ws
  else if id = wssCode then pure .wss
  else if id = memoryCode then fixedBody 8 memoryOfBytes
  else Parser.fail (.unknownProtocolId id)

/-- `from_bytes`. -/
def fromBytes : Parser Error Protocol := do
  let id ← varU32
  body id

/-- `encode::u32`. -/
def putCode (id : ℕ) : Bytes := Varint.encode 5 id

/-- A length-prefixed field. -/
def putSized (b : Bytes) : Bytes := Varint.encode 10 b.length ++ b

/-- `write_to_bytes`. -/
def writeToBytes : Protocol → Bytes
  | .dns4 s => putCode dns4Code ++ putSized (strBytes s)
  | .dns6 s => putCode dns6Code ++ putSized (strBytes s)
  | .ip4 a b c d => putCode ip4Code ++ [a, b, c, d]
  | .ip6 a b c d e f g h =>
    putCode ip6Code ++ (putU16 a ++ putU16 b ++ putU16 c ++ putU16 d ++ putU16 e ++ putU16 f ++
      putU16 g ++ putU16 h)
  | .p2p b => putCode p2pCode ++ putSized b
  | .tcp port => putCode tcpCode ++ putU16 port
  | .tls s => putCode tlsCode ++ putSized (strBytes s)
  | .ws => putCode wsCode
  | .wss => putCode wssCode
  | .memory port => putCode memoryCode ++ putU64 port

/-- A component that can be written and read back: lengths fit a `usize`, and what is
called a peer id is a SHA-256 multihash. -/
def Valid : Protocol → Prop
  | .dns4 s | .dns6 s | .tls s => (strBytes s).length < 2 ^ 64
  | .p2p b => b.length < 2 ^ 64 ∧ checkP2p b = .ok ()
  | _ => True

/-! ### The codec -/

theorem varUsize_reads {n : ℕ} (hn : n < 2 ^ 64) : varUsize.Reads (Varint.encode 10 n) n :=
  Varint.parse_reads hn (by omega) _

theorem code_reads {id : ℕ} (hid : id < 2 ^ 32) : varU32.Reads (putCode id) id :=
  Varint.parse_reads hid (by omega) _

theorem splitHeader_reads (b : Bytes) : (splitHeader b.length).Reads b b := Parser.Reads.take b _

theorem parseStr_strBytes (s : String) : parseStr (strBytes s) = .ok s := by
  rw [parseStr, strFromUtf8_strBytes]

theorem strBody_reads (mk : String → Protocol) {s : String} (hs : (strBytes s).length < 2 ^ 64) :
    (strBody mk).Reads (putSized (strBytes s)) (mk s) := by
  refine (varUsize_reads hs).bind ((splitHeader_reads _).bind_pure fun rest => ?_)
  rw [parseStr_strBytes]
  rfl

theorem p2pBody_reads {b : Bytes} (hb : b.length < 2 ^ 64) (hc : checkP2p b = .ok ()) :
    p2pBody.Reads (putSized b) (.p2p b) := by
  refine (varUsize_reads hb).bind ((splitHeader_reads _).bind_pure fun rest => ?_)
  rw [hc]
  rfl

theorem fixedBody_reads {n : ℕ} {mk : Bytes → Option Protocol} {b : Bytes} {p : Protocol}
    (hn : b.length = n) (hp : mk b = some p) : (fixedBody n mk).Reads b p := by
  subst hn
  refine (splitHeader_reads b).bind_pure fun rest => ?_
  rw [hp]
  rfl

/-- **A written component is read back**, whatever follows. -/
theorem fromBytes_reads {p : Protocol} (hp : p.Valid) : fromBytes.Reads p.writeToBytes p := by
  cases p with
  | dns4 s => exact (code_reads (by decide)).bind (strBody_reads .dns4 hp)
  | dns6 s => exact (code_reads (by decide)).bind (strBody_reads .dns6 hp)
  | tls s => exact (code_reads (by decide)).bind (strBody_reads .tls hp)
  | p2p b => exact (code_reads (by decide)).bind (p2pBody_reads hp.1 hp.2)
  | ip4 a b c d =>
    have h : (fixedBody 4 ip4OfBytes).Reads [a, b, c, d] (.ip4 a b c d) := fixedBody_reads rfl rfl
    exact (code_reads (by decide)).bind h
  | ip6 a b c d e f g h =>
    have h : (fixedBody 16 ip6OfBytes).Reads (putU16 a ++ putU16 b ++ putU16 c ++ putU16 d ++
        putU16 e ++ putU16 f ++ putU16 g ++ putU16 h) (.ip6 a b c d e f g h) :=
      fixedBody_reads rfl (by simp only [putU16, List.cons_append, List.nil_append, ip6OfBytes,
        getU16_putU16])
    exact (code_reads (by decide)).bind h
  | tcp port =>
    have h : (fixedBody 2 tcpOfBytes).Reads (putU16 port) (.tcp port) :=
      fixedBody_reads rfl (by simp only [putU16, tcpOfBytes, getU16_putU16])
    exact (code_reads (by decide)).bind h
  | memory port =>
    have h : (fixedBody 8 memoryOfBytes).Reads (putU64 port) (.memory port) :=
      fixedBody_reads rfl (by simp only [putU64, putU32, List.cons_append, List.nil_append,
        memoryOfBytes, getU64, getU32_putU32, ofNat_halves])
    exact (code_reads (by decide)).bind h
  | ws => exact (code_reads (by decide)).bind_pure fun _ => rfl
  | wss => exact (code_reads (by decide)).bind_pure fun _ => rfl

theorem varUsize_local : varUsize.Local := Varint.parse_local ..

theorem strBody_local (mk : String → Protocol) : (strBody mk).Local :=
  varUsize_local.bind fun _ => (Parser.Local.take _ _).bind fun _ =>
    (Parser.Local.lift _).bind fun _ => .pure _

theorem p2pBody_local : p2pBody.Local :=
  varUsize_local.bind fun _ => (Parser.Local.take _ _).bind fun _ =>
    (Parser.Local.lift _).bind fun _ => .pure _

theorem fixedBody_local (n : ℕ) (mk : Bytes → Option Protocol) : (fixedBody n mk).Local :=
  (Parser.Local.take _ _).bind fun _ => .lift _

theorem body_local (id : ℕ) : (body id).Local :=
  (strBody_local _).ite <| (strBody_local _).ite <| (fixedBody_local _ _).ite <|
    (fixedBody_local _ _).ite <| (strBody_local _).ite <| p2pBody_local.ite <|
    (fixedBody_local _ _).ite <| (Parser.Local.pure _).ite <| (Parser.Local.pure _).ite <|
    (fixedBody_local _ _).ite <| .fail _

/-- What is read as a component does not depend on what follows. -/
theorem fromBytes_local : fromBytes.Local := (Varint.parse_local ..).bind body_local

/-- A component has at least one byte. -/
theorem fromBytes_progress : fromBytes.Progress := (Varint.parse_progress ..).bind body_local

/-! ### What is read -/

/-- The code of a component. -/
def code : Protocol → ℕ
  | .dns4 _ => dns4Code
  | .dns6 _ => dns6Code
  | .ip4 .. => ip4Code
  | .ip6 .. => ip6Code
  | .p2p _ => p2pCode
  | .tcp _ => tcpCode
  | .tls _ => tlsCode
  | .ws => wsCode
  | .wss => wssCode
  | .memory _ => memoryCode

/-- The components whose content is preceded by its length. -/
def sized : Protocol → Bool
  | .dns4 _ | .dns6 _ | .tls _ | .p2p _ => true
  | _ => false

/-- The content of a component. -/
def content : Protocol → Bytes
  | .dns4 s | .dns6 s | .tls s => strBytes s
  | .p2p b => b
  | .ip4 a b c d => [a, b, c, d]
  | .ip6 a b c d e f g h =>
    putU16 a ++ putU16 b ++ putU16 c ++ putU16 d ++ putU16 e ++ putU16 f ++ putU16 g ++ putU16 h
  | .tcp port => putU16 port
  | .memory port => putU64 port
  | .ws | .wss => []

theorem writeToBytes_eq (p : Protocol) : p.writeToBytes
    = putCode p.code ++ if p.sized then putSized p.content else p.content := by
  cases p <;> rfl

/-- What was read as a component: its content after its length, or just its content. -/
def Holds (p : Protocol) (input rest : Bytes) : Prop :=
  if p.sized then varUsize input = .ok (p.content.length, p.content ++ rest)
  else input = p.content ++ rest

theorem length_lt_of_varUsize {n : ℕ} {input rest : Bytes} (h : varUsize input = .ok (n, rest)) :
    n < 2 ^ 64 := by
  obtain ⟨v, -, -, hn⟩ := Varint.decode_inv (Varint.parse_eq_ok.mp h)
  exact hn ▸ Nat.mod_lt _ (by decide)

theorem splitHeader_ok {n : ℕ} {input data rest : Bytes}
    (h : splitHeader n input = .ok (data, rest)) : data.length = n ∧ input = data ++ rest := by
  unfold splitHeader Parser.take at h
  split_ifs at h with hlt
  cases h
  exact ⟨List.length_take_of_le (Nat.not_lt.mp hlt), (List.take_append_drop n input).symm⟩

theorem lift_ok {α : Type} {r : Except Error α} {input rest : Bytes} {a : α}
    (h : Parser.lift r input = .ok (a, rest)) : r = .ok a ∧ input = rest := by
  cases r with
  | error e => cases h
  | ok b =>
    cases h
    exact ⟨rfl, rfl⟩

theorem strBytes_of_parseStr {data : Bytes} {s : String} (h : parseStr data = .ok s) :
    strBytes s = data := by
  unfold parseStr at h
  split at h
  · cases h
  · next hs =>
    cases h
    exact strBytes_of_strFromUtf8 hs

theorem strBody_ok {mk : String → Protocol} {input rest : Bytes} {p : Protocol}
    (h : strBody mk input = .ok (p, rest)) : ∃ s, p = mk s ∧ (strBytes s).length < 2 ^ 64 ∧
      varUsize input = .ok ((strBytes s).length, strBytes s ++ rest) := by
  obtain ⟨n, mid, hn, hafter⟩ := Parser.bind_ok h
  obtain ⟨data, mid', hdata, hlift⟩ := Parser.bind_ok hafter
  obtain ⟨s, mid'', hs, hpure⟩ := Parser.bind_ok hlift
  cases hpure
  obtain ⟨hstr, rfl⟩ := lift_ok hs
  obtain ⟨rfl, rfl⟩ := splitHeader_ok hdata
  obtain rfl := strBytes_of_parseStr hstr
  exact ⟨s, rfl, length_lt_of_varUsize hn, hn⟩

theorem p2pBody_ok {input rest : Bytes} {p : Protocol} (h : p2pBody input = .ok (p, rest)) :
    ∃ b, p = .p2p b ∧ (Protocol.p2p b).Valid ∧ varUsize input = .ok (b.length, b ++ rest) := by
  obtain ⟨n, mid, hn, hafter⟩ := Parser.bind_ok h
  obtain ⟨b, mid', hb, hlift⟩ := Parser.bind_ok hafter
  obtain ⟨u, mid'', hu, hpure⟩ := Parser.bind_ok hlift
  cases hpure
  obtain ⟨hcheck, rfl⟩ := lift_ok hu
  obtain ⟨rfl, rfl⟩ := splitHeader_ok hb
  exact ⟨b, rfl, ⟨length_lt_of_varUsize hn, hcheck⟩, hn⟩

theorem fixedBody_ok {n : ℕ} {mk : Bytes → Option Protocol} {input rest : Bytes} {p : Protocol}
    (h : fixedBody n mk input = .ok (p, rest)) : ∃ data, mk data = some p ∧
    input = data ++ rest := by
  obtain ⟨data, mid, hdata, hlift⟩ := Parser.bind_ok h
  obtain ⟨-, rfl⟩ := splitHeader_ok hdata
  obtain ⟨hmk, rfl⟩ := lift_ok hlift
  refine ⟨data, ?_, rfl⟩
  split at hmk
  · cases hmk
  · next hp =>
    cases hmk
    exact hp

/-! The contents of fixed size. -/

theorem ip4OfBytes_eq_some {data : Bytes} {p : Protocol} :
    ip4OfBytes data = some p → ∃ a b c d, p = .ip4 a b c d ∧ p.content = data := by
  fun_cases ip4OfBytes data with
  | case1 a b c d =>
    rintro ⟨⟩
    exact ⟨a, b, c, d, rfl, rfl⟩
  | case2 => exact nofun

theorem ip6OfBytes_eq_some {data : Bytes} {p : Protocol} : ip6OfBytes data = some p →
    ∃ a b c d e f g h, p = .ip6 a b c d e f g h ∧ p.content = data := by
  fun_cases ip6OfBytes data with
  | case1 =>
    rintro ⟨⟩
    refine ⟨_, _, _, _, _, _, _, _, rfl, ?_⟩
    simp only [content, putU16_getU16, List.cons_append, List.nil_append]
  | case2 => exact nofun

theorem tcpOfBytes_eq_some {data : Bytes} {p : Protocol} :
    tcpOfBytes data = some p → ∃ port, p = .tcp port ∧ p.content = data := by
  fun_cases tcpOfBytes data with
  | case1 a b =>
    rintro ⟨⟩
    exact ⟨_, rfl, putU16_getU16 a b⟩
  | case2 => exact nofun

theorem memoryOfBytes_eq_some {data : Bytes} {p : Protocol} :
    memoryOfBytes data = some p → ∃ port, p = .memory port ∧ p.content = data := by
  fun_cases memoryOfBytes data with
  | case1 a b c d e f g h =>
    rintro ⟨⟩
    exact ⟨_, rfl, putU64_getU64 a b c d e f g h⟩
  | case2 => exact nofun

/-- **What is read as a component**: the code is its own, it can be written, and its content was
there. -/
theorem body_ok {id : ℕ} {input rest : Bytes} {p : Protocol} (h : body id input = .ok (p, rest)) :
    id = p.code ∧ p.Valid ∧ p.Holds input rest := by
  unfold body at h
  rcases Parser.ite_ok h with ⟨hid, h⟩ | h
  · obtain ⟨s, rfl, hvalid, hread⟩ := strBody_ok h
    exact ⟨hid, hvalid, hread⟩
  rcases Parser.ite_ok h with ⟨hid, h⟩ | h
  · obtain ⟨s, rfl, hvalid, hread⟩ := strBody_ok h
    exact ⟨hid, hvalid, hread⟩
  rcases Parser.ite_ok h with ⟨hid, h⟩ | h
  · obtain ⟨data, hmk, rfl⟩ := fixedBody_ok h
    obtain ⟨a, b, c, d, rfl, hcontent⟩ := ip4OfBytes_eq_some hmk
    exact ⟨hid, trivial, congrArg (· ++ rest) hcontent.symm⟩
  rcases Parser.ite_ok h with ⟨hid, h⟩ | h
  · obtain ⟨data, hmk, rfl⟩ := fixedBody_ok h
    obtain ⟨a, b, c, d, e, f, g, h', rfl, hcontent⟩ := ip6OfBytes_eq_some hmk
    exact ⟨hid, trivial, congrArg (· ++ rest) hcontent.symm⟩
  rcases Parser.ite_ok h with ⟨hid, h⟩ | h
  · obtain ⟨s, rfl, hvalid, hread⟩ := strBody_ok h
    exact ⟨hid, hvalid, hread⟩
  rcases Parser.ite_ok h with ⟨hid, h⟩ | h
  · obtain ⟨b, rfl, hvalid, hread⟩ := p2pBody_ok h
    exact ⟨hid, hvalid, hread⟩
  rcases Parser.ite_ok h with ⟨hid, h⟩ | h
  · obtain ⟨data, hmk, rfl⟩ := fixedBody_ok h
    obtain ⟨port, rfl, hcontent⟩ := tcpOfBytes_eq_some hmk
    exact ⟨hid, trivial, congrArg (· ++ rest) hcontent.symm⟩
  rcases Parser.ite_ok h with ⟨hid, h⟩ | h
  · cases h
    exact ⟨hid, trivial, rfl⟩
  rcases Parser.ite_ok h with ⟨hid, h⟩ | h
  · cases h
    exact ⟨hid, trivial, rfl⟩
  rcases Parser.ite_ok h with ⟨hid, h⟩ | h
  · obtain ⟨data, hmk, rfl⟩ := fixedBody_ok h
    obtain ⟨port, rfl, hcontent⟩ := memoryOfBytes_eq_some hmk
    exact ⟨hid, trivial, congrArg (· ++ rest) hcontent.symm⟩
  · cases h

theorem fromBytes_ok {input rest : Bytes} {p : Protocol} (h : fromBytes input = .ok (p, rest)) :
    ∃ mid, varU32 input = .ok (p.code, mid) ∧ p.Valid ∧ p.Holds mid rest := by
  obtain ⟨id, mid, hid, h⟩ := Parser.bind_ok h
  obtain ⟨rfl, hvalid, hholds⟩ := body_ok h
  exact ⟨mid, hid, hvalid, hholds⟩

/-- What is read can be written. -/
theorem fromBytes_yields : fromBytes.Yields Valid := by
  intro input p rest h
  obtain ⟨mid, -, hvalid, -⟩ := fromBytes_ok h
  exact hvalid

/-- What is called a peer id has been checked. -/
def Checked : Protocol → Prop
  | .p2p b => checkP2p b = .ok ()
  | _ => True

theorem Valid.checked {p : Protocol} (h : p.Valid) : p.Checked := by
  cases p with
  | p2p b => exact h.2
  | _ => trivial

theorem writeToBytes_ne_nil {p : Protocol} (hp : p.Valid) : p.writeToBytes ≠ [] := by
  intro h
  have hread := fromBytes_reads hp []
  have hlt := fromBytes_progress hread
  simp [h] at hlt

end Protocol

/-! ### Addresses -/

/-- An address: bytes that can be read component by component. -/
structure Multiaddr where
  bytes : Bytes
  valid : ∃ ps, Protocol.fromBytes.many bytes = .ok ps

namespace Multiaddr

instance : DecidableEq Multiaddr := fun a b =>
  if h : a.bytes = b.bytes then
    .isTrue (by cases a; cases b; cases h; rfl)
  else .isFalse fun he => h (he ▸ rfl)

theorem ext_bytes {a b : Multiaddr} (h : a.bytes = b.bytes) : a = b := by
  cases a
  cases b
  cases h
  rfl

/-- `try_from`: accept bytes that are a sequence of components. -/
def tryFrom (v : Bytes) : Except Protocol.Error Multiaddr :=
  match h : Protocol.fromBytes.many v with
  | .error e => .error e
  | .ok ps => .ok ⟨v, ps, h⟩

/-- `iter`: the components. -/
def iter (a : Multiaddr) : List Protocol :=
  match Protocol.fromBytes.many a.bytes with
  | .error _ => []
  | .ok ps => ps

/-- The components are those that are read. -/
theorem many_bytes (a : Multiaddr) : Protocol.fromBytes.many a.bytes = .ok a.iter := by
  obtain ⟨ps, hps⟩ := a.valid
  rw [iter, hps]

/-- Bytes that can be read are accepted, with the components that are read. -/
theorem tryFrom_of_many {v : Bytes} {ps : List Protocol} (h : Protocol.fromBytes.many v = .ok ps) :
    ∃ a, tryFrom v = .ok a ∧ a.bytes = v ∧ a.iter = ps := by
  have haccept : tryFrom v = .ok ⟨v, ps, h⟩ := by
    unfold tryFrom
    split
    · next e herr =>
      rw [h] at herr
      cases herr
    · rfl
  refine ⟨⟨v, ps, h⟩, haccept, rfl, ?_⟩
  rw [iter, h]

theorem bytes_of_tryFrom {v : Bytes} {a : Multiaddr} (h : tryFrom v = .ok a) : a.bytes = v := by
  unfold tryFrom at h
  split at h
  · cases h
  · cases h
    rfl

/-- Every component of an address can be written. -/
theorem valid_of_mem (a : Multiaddr) {p : Protocol} (hp : p ∈ a.iter) : p.Valid :=
  Protocol.fromBytes_yields.many Protocol.fromBytes_progress a.many_bytes p hp

/-- Every peer id of an address has been checked. -/
theorem checked_of_mem (a : Multiaddr) {p : Protocol} (hp : p ∈ a.iter) : p.Checked :=
  (a.valid_of_mem hp).checked

theorem many_writeToBytes {p : Protocol} (hp : p.Valid) :
    Protocol.fromBytes.many p.writeToBytes = .ok [p] := by
  have hread := Protocol.fromBytes_reads hp []
  rw [List.append_nil] at hread
  rw [Parser.many_of_ok Protocol.fromBytes_progress (Protocol.writeToBytes_ne_nil hp) hread]
  rfl

/-- `push`. -/
def push (a : Multiaddr) (p : Protocol) (hp : p.Valid) : Multiaddr where
  bytes := a.bytes ++ p.writeToBytes
  valid := ⟨_, Parser.many_append Protocol.fromBytes_local Protocol.fromBytes_progress
    (many_writeToBytes hp) a.many_bytes⟩

/-- **Pushing a component appends it.** -/
@[simp] theorem iter_push (a : Multiaddr) {p : Protocol} (hp : p.Valid) :
    (a.push p hp).iter = a.iter ++ [p] := by
  have h : Protocol.fromBytes.many (a.push p hp).bytes = .ok (a.iter ++ [p]) :=
    Parser.many_append Protocol.fromBytes_local Protocol.fromBytes_progress
      (many_writeToBytes hp) a.many_bytes
  rw [iter, h]

end Multiaddr

end CkbP2P

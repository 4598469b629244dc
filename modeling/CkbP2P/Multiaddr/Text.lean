import CkbP2P.Lib.Text
import CkbP2P.Multiaddr.Canonical

/-!
# Addresses as texts

An address is displayed component by component, each as its name and its value, with a slash
before both.  A text is parsed by cutting it at the slashes.  Nothing escapes a slash, so what a
name of a host is must not contain one.

The formats of numbers, of IP addresses and of peer ids come from outside; they are parameters
that write no slash and read back what they have written.
-/

namespace CkbP2P

open Lib

/-- The formats of values. -/
structure Formats where
  ip4 : Format '/' (UInt8 × UInt8 × UInt8 × UInt8)
  ip6 : Format '/' (UInt16 × UInt16 × UInt16 × UInt16 × UInt16 × UInt16 × UInt16 × UInt16)
  base58 : Format '/' Bytes
  u16 : Format '/' UInt16
  u64 : Format '/' UInt64

namespace Protocol

variable (F : Formats)

/-- A value that may fail to parse. -/
def parsed {α : Type} (r : Option α) : Except Error α :=
  match r with
  | none => .error .parsingError
  | some a => .ok a

/-- The part after the name of a component. -/
def argument (parts : List String) (read : String → Except Error Protocol) :
    Except Error (Protocol × List String) :=
  match parts with
  | [] => .error .invalidProtocolString
  | s :: parts => (read s).map (·, parts)

def ip4OfText (s : String) : Except Error Protocol :=
  (parsed (F.ip4.parse s)).map fun (a, b, c, d) => .ip4 a b c d

def ip6OfText (s : String) : Except Error Protocol :=
  (parsed (F.ip6.parse s)).map fun (a, b, c, d, e, f, g, h) => .ip6 a b c d e f g h

def p2pOfText (s : String) : Except Error Protocol :=
  match parsed (F.base58.parse s) with
  | .error e => .error e
  | .ok decoded => (checkP2p decoded).map fun _ => .p2p decoded

/-- `from_str_peek`. -/
def fromStrPeek : List String → Except Error (Protocol × List String)
  | [] => .error .invalidProtocolString
  | name :: parts =>
    if name = "dns4" then argument parts fun s => .ok (.dns4 s)
    else if name = "dns6" then argument parts fun s => .ok (.dns6 s)
    else if name = "ip4" then argument parts (ip4OfText F)
    else if name = "ip6" then argument parts (ip6OfText F)
    else if name = "tls" then argument parts fun s => .ok (.tls s)
    else if name = "p2p" then argument parts (p2pOfText F)
    else if name = "tcp" then argument parts fun s => (parsed (F.u16.parse s)).map .tcp
    else if name = "ws" then .ok (.ws, parts)
    else if name = "wss" then .ok (.wss, parts)
    else if name = "memory" then argument parts fun s => (parsed (F.u64.parse s)).map .memory
    else .error .unknownProtocolString

/-- `fmt`. -/
def display : Protocol → String
  | .dns4 s => "/dns4/" ++ s
  | .dns6 s => "/dns6/" ++ s
  | .ip4 a b c d => "/ip4/" ++ F.ip4.display (a, b, c, d)
  | .ip6 a b c d e f g h => "/ip6/" ++ F.ip6.display (a, b, c, d, e, f, g, h)
  | .p2p b => "/p2p/" ++ F.base58.display b
  | .tcp port => "/tcp/" ++ F.u16.display port
  | .tls s => "/tls/" ++ s
  | .ws => "/ws"
  | .wss => "/wss"
  | .memory port => "/memory/" ++ F.u64.display port

/-- There is no slash in the name of a host. -/
def SlashFree : Protocol → Prop
  | .dns4 s | .dns6 s | .tls s => '/' ∉ s.toList
  | _ => True

instance (p : Protocol) : Decidable p.SlashFree :=
  match p with
  | .dns4 s | .dns6 s | .tls s => inferInstanceAs (Decidable ('/' ∉ s.toList))
  | .ip4 .. | .ip6 .. | .p2p _ | .tcp _ | .ws | .wss | .memory _ => inferInstanceAs (Decidable True)

/-! ### Parts -/

/-- The parts of the text of a component. -/
def parts : Protocol → List String
  | .dns4 s => ["dns4", s]
  | .dns6 s => ["dns6", s]
  | .ip4 a b c d => ["ip4", F.ip4.display (a, b, c, d)]
  | .ip6 a b c d e f g h => ["ip6", F.ip6.display (a, b, c, d, e, f, g, h)]
  | .p2p b => ["p2p", F.base58.display b]
  | .tcp port => ["tcp", F.u16.display port]
  | .tls s => ["tls", s]
  | .ws => ["ws"]
  | .wss => ["wss"]
  | .memory port => ["memory", F.u64.display port]

theorem toList_display (p : Protocol) :
    (p.display F).toList = (p.parts F).flatMap fun part => '/' :: part.toList := by
  cases p <;> simp [display, parts, String.toList_append]

variable {F} {p : Protocol}

/-- No part has a slash in it, if the name of a host has none. -/
theorem notMem_parts (h : p.SlashFree) : ∀ part ∈ p.parts F, '/' ∉ part.toList := by
  have htwo : ∀ {name s : String}, '/' ∉ name.toList → '/' ∉ s.toList →
      ∀ part ∈ [name, s], '/' ∉ part.toList := by
    intro name s hname hs part hpart
    rcases List.mem_cons.mp hpart with rfl | hpart
    · exact hname
    · cases List.mem_singleton.mp hpart
      exact hs
  have hone : ∀ {name : String}, '/' ∉ name.toList → ∀ part ∈ [name], '/' ∉ part.toList := by
    intro name hname part hpart
    cases List.mem_singleton.mp hpart
    exact hname
  cases p with
  | dns4 s => exact htwo (by decide) h
  | dns6 s => exact htwo (by decide) h
  | tls s => exact htwo (by decide) h
  | ip4 a b c d => exact htwo (by decide) (F.ip4.notMem_display _)
  | ip6 a b c d e f g h => exact htwo (by decide) (F.ip6.notMem_display _)
  | p2p b => exact htwo (by decide) (F.base58.notMem_display b)
  | tcp port => exact htwo (by decide) (F.u16.notMem_display port)
  | memory port => exact htwo (by decide) (F.u64.notMem_display port)
  | ws => exact hone (by decide)
  | wss => exact hone (by decide)

/-- **The parts of a component are read as this component**, and nothing else is read. -/
theorem fromStrPeek_parts (h : p.Checked) (rest : List String) :
    fromStrPeek F (p.parts F ++ rest) = .ok (p, rest) := by
  cases p with
  | dns4 s => rfl
  | dns6 s => rfl
  | tls s => rfl
  | ws => rfl
  | wss => rfl
  | ip4 a b c d =>
    simp [parts, fromStrPeek, argument, ip4OfText, parsed, F.ip4.parse_display, Except.map]
  | ip6 a b c d e f g h =>
    simp [parts, fromStrPeek, argument, ip6OfText, parsed, F.ip6.parse_display, Except.map]
  | p2p b =>
    have hcheck : checkP2p b = .ok () := h
    simp [parts, fromStrPeek, argument, p2pOfText, parsed, F.base58.parse_display,
      Except.map, hcheck]
  | tcp port => simp [parts, fromStrPeek, argument, parsed, F.u16.parse_display, Except.map]
  | memory port => simp [parts, fromStrPeek, argument, parsed, F.u64.parse_display, Except.map]

/-- The names of hosts in a component. -/
def names : Protocol → List String
  | .dns4 s | .dns6 s | .tls s => [s]
  | _ => []

/-- A peer id that has been checked is short. -/
theorem length_lt_of_checkP2p {b : Bytes} (h : checkP2p b = .ok ()) : b.length < 2 ^ 64 := by
  unfold checkP2p at h
  split at h
  · cases h
  · next code bytes hread =>
    obtain ⟨v, -, rfl, -⟩ := Varint.decode_inv (Varint.parse_eq_ok.mp hread)
    have hcode := Varint.length_encode_le (2 + 1) v
    rcases Decidable.em (bytes.length = sha256Size + 1) with hlength | hlength
    · rw [List.length_append, hlength, sha256Size]
      exact Nat.lt_of_le_of_lt (Nat.add_le_add_right hcode _) (by decide)
    · simp only [ne_eq, hlength, not_false_eq_true, if_true] at h
      split at h <;> cases h

theorem valid_of_names (hchecked : p.Checked)
    (hnames : ∀ s ∈ p.names, (strBytes s).length < 2 ^ 64) : p.Valid := by
  cases p with
  | dns4 s => exact hnames s List.mem_cons_self
  | dns6 s => exact hnames s List.mem_cons_self
  | tls s => exact hnames s List.mem_cons_self
  | p2p b => exact ⟨length_lt_of_checkP2p hchecked, hchecked⟩
  | _ => trivial

theorem slashFree_of_names (hnames : ∀ s ∈ p.names, '/' ∉ s.toList) : p.SlashFree := by
  cases p with
  | dns4 s => exact hnames s List.mem_cons_self
  | dns6 s => exact hnames s List.mem_cons_self
  | tls s => exact hnames s List.mem_cons_self
  | _ => trivial

/-- What a component from a text is: a peer id has been checked, and a name of a host is one of
the parts that were read. -/
structure FromParts (p : Protocol) (used : List String) : Prop where
  checked : p.Checked
  names : ∀ s ∈ p.names, s ∈ used
  nonempty : used ≠ []

theorem argument_ok {all rest : List String} {read : String → Except Error Protocol}
    (h : argument all read = .ok (p, rest)) : ∃ s, all = s :: rest ∧ read s = .ok p := by
  unfold argument at h
  split at h
  · cases h
  · next s rest' =>
    cases hread : read s with
    | error e =>
      rw [hread] at h
      cases h
    | ok q =>
      rw [hread] at h
      cases h
      exact ⟨s, rfl, hread⟩

theorem map_parsed_ok {α : Type} {r : Option α} {mk : α → Protocol}
    (h : (parsed r).map mk = .ok p) : ∃ a, p = mk a := by
  cases r with
  | none => cases h
  | some a =>
    cases h
    exact ⟨a, rfl⟩

theorem p2pOfText_ok {s : String} (h : p2pOfText F s = .ok p) :
    ∃ b, p = .p2p b ∧ checkP2p b = .ok () := by
  unfold p2pOfText at h
  split at h
  · cases h
  · next b _ =>
    cases hcheck : checkP2p b with
    | error e =>
      rw [hcheck] at h
      cases h
    | ok u =>
      rw [hcheck] at h
      cases h
      exact ⟨b, rfl, hcheck⟩

/-- **What is read from a text**: some parts are used, and they determine what is read. -/
theorem fromStrPeek_ok {all rest : List String} (h : fromStrPeek F all = .ok (p, rest)) :
    ∃ used, all = used ++ rest ∧ p.FromParts used := by
  cases all with
  | nil => cases h
  | cons name all =>
    -- a component with one argument
    have htwo : ∀ {read : String → Except Error Protocol}, argument all read = .ok (p, rest) →
        (∀ s, read s = .ok p → p.Checked ∧ ∀ t ∈ p.names, t = s) →
        ∃ used, name :: all = used ++ rest ∧ p.FromParts used := by
      intro read harg hread
      obtain ⟨s, rfl, hs⟩ := argument_ok harg
      obtain ⟨hchecked, hnames⟩ := hread s hs
      refine ⟨[name, s], rfl, hchecked, fun t ht => ?_, List.cons_ne_nil _ _⟩
      rw [hnames t ht]
      exact List.mem_cons_of_mem _ List.mem_cons_self
    -- the argument is kept as a name
    have hhost : ∀ (mk : String → Protocol), (∀ s, (mk s).Checked) → (∀ s, (mk s).names = [s]) →
        ∀ s, (Except.ok (mk s) : Except Error Protocol) = .ok p →
          p.Checked ∧ ∀ t ∈ p.names, t = s := by
      rintro mk hchecked hnames s ⟨⟩
      refine ⟨hchecked s, fun t ht => ?_⟩
      rw [hnames s] at ht
      exact List.mem_singleton.mp ht
    -- the argument is parsed, and no name is kept
    have hvalue : ∀ {α : Type} {mk : α → Protocol} {r : Option α}, (parsed r).map mk = .ok p →
        (∀ a, (mk a).Checked ∧ (mk a).names = []) → ∀ s : String,
          p.Checked ∧ ∀ t ∈ p.names, t = s := by
      intro α mk r hr hmk s
      obtain ⟨a, rfl⟩ := map_parsed_ok hr
      refine ⟨(hmk a).1, fun t ht => ?_⟩
      rw [(hmk a).2] at ht
      cases ht
    unfold fromStrPeek at h
    dsimp only at h
    -- one case for each component name, in the order in which they are tried
    rcases ite_eq_iff.mp h with ⟨-, h⟩ | ⟨-, h⟩
    · exact htwo h (hhost .dns4 (fun _ => trivial) fun _ => rfl)
    rcases ite_eq_iff.mp h with ⟨-, h⟩ | ⟨-, h⟩
    · exact htwo h (hhost .dns6 (fun _ => trivial) fun _ => rfl)
    rcases ite_eq_iff.mp h with ⟨-, h⟩ | ⟨-, h⟩
    · exact htwo h fun s hs => hvalue hs (fun _ => ⟨trivial, rfl⟩) s
    rcases ite_eq_iff.mp h with ⟨-, h⟩ | ⟨-, h⟩
    · exact htwo h fun s hs => hvalue hs (fun _ => ⟨trivial, rfl⟩) s
    rcases ite_eq_iff.mp h with ⟨-, h⟩ | ⟨-, h⟩
    · exact htwo h (hhost .tls (fun _ => trivial) fun _ => rfl)
    rcases ite_eq_iff.mp h with ⟨-, h⟩ | ⟨-, h⟩
    · refine htwo h fun s hs => ?_
      obtain ⟨b, rfl, hcheck⟩ := p2pOfText_ok hs
      exact ⟨hcheck, nofun⟩
    rcases ite_eq_iff.mp h with ⟨-, h⟩ | ⟨-, h⟩
    · exact htwo h fun s hs => hvalue hs (fun _ => ⟨trivial, rfl⟩) s
    rcases ite_eq_iff.mp h with ⟨-, h⟩ | ⟨-, h⟩
    · cases h
      exact ⟨[name], rfl, trivial, nofun, List.cons_ne_nil _ _⟩
    rcases ite_eq_iff.mp h with ⟨-, h⟩ | ⟨-, h⟩
    · cases h
      exact ⟨[name], rfl, trivial, nofun, List.cons_ne_nil _ _⟩
    rcases ite_eq_iff.mp h with ⟨-, h⟩ | ⟨-, h⟩
    · exact htwo h fun s hs => hvalue hs (fun _ => ⟨trivial, rfl⟩) s
    · cases h

theorem length_lt_of_fromStrPeek {all rest : List String}
    (h : fromStrPeek F all = .ok (p, rest)) : rest.length < all.length := by
  obtain ⟨used, rfl, hused⟩ := fromStrPeek_ok h
  have hpos := List.length_pos_iff.mpr hused.nonempty
  rw [List.length_append]
  omega

end Protocol

/-! ### Addresses -/

namespace Multiaddr

variable (F : Formats)

/-- The loop of `from_str`, with what has been written. -/
def parseLoop (parts : List String) (writer : Bytes) : Except Protocol.Error Bytes :=
  if parts.isEmpty then .ok writer
  else match _h : Protocol.fromStrPeek F parts with
    | .error e => .error e
    | .ok (p, rest) => parseLoop rest (writer ++ p.writeToBytes)
termination_by parts.length
decreasing_by exact Protocol.length_lt_of_fromStrPeek _h

/-- `from_str`. -/
def fromStr (input : String) : Except Protocol.Error Bytes :=
  match splitText '/' input with
  | [] => .error .invalidMultiaddr
  | first :: parts => if first = "" then parseLoop F parts [] else .error .invalidMultiaddr

/-- `fmt`. -/
def toText (a : Multiaddr) : String := a.iter.foldr (fun p rest => p.display F ++ rest) ""

/-- There is no slash in any name of a host. -/
def SlashFree (a : Multiaddr) : Prop := ∀ p ∈ a.iter, p.SlashFree

variable {F} {p : Protocol} {ps : List Protocol}

theorem parseLoop_nil (writer : Bytes) : parseLoop F [] writer = .ok writer := by
  rw [parseLoop]
  rfl

theorem parseLoop_cons {parts rest : List String} (hne : parts ≠ [])
    (h : Protocol.fromStrPeek F parts = .ok (p, rest)) (writer : Bytes) :
    parseLoop F parts writer = parseLoop F rest (writer ++ p.writeToBytes) := by
  rw [parseLoop, if_neg (by simpa using hne)]
  split
  · next e herr =>
    rw [h] at herr
    cases herr
  · next p' rest' hok =>
    rw [h] at hok
    cases hok
    rfl

/-- What is written is written for components that come from the parts. -/
theorem parseLoop_ok {parts : List String} {writer bytes : Bytes}
    (h : parseLoop F parts writer = .ok bytes) : ∃ ps, bytes = writer ++ Raw.fromIter ps ∧
      ∀ p ∈ ps, p.FromParts parts := by
  induction hlen : parts.length using Nat.strongRecOn generalizing parts writer with
  | _ n ih =>
    by_cases hne : parts = []
    · subst hne
      rw [parseLoop_nil] at h
      cases h
      exact ⟨[], (List.append_nil _).symm, nofun⟩
    · cases hpeek : Protocol.fromStrPeek F parts with
      | error e =>
        rw [parseLoop, if_neg (by simpa using hne)] at h
        split at h
        · cases h
        · next hok =>
          rw [hpeek] at hok
          cases hok
      | ok r =>
        obtain ⟨p, rest⟩ := r
        have hlt := Protocol.length_lt_of_fromStrPeek hpeek
        rw [parseLoop_cons hne hpeek] at h
        obtain ⟨ps, hbytes, hps⟩ := ih _ (by omega) h rfl
        obtain ⟨used, rfl, hused⟩ := Protocol.fromStrPeek_ok hpeek
        refine ⟨p :: ps, ?_, ?_⟩
        · rw [hbytes, List.append_assoc]
          rfl
        · intro q hq
          rcases List.mem_cons.mp hq with rfl | hq
          · refine ⟨hused.checked, fun s hs => ?_, hne⟩
            exact List.mem_append_left _ (hused.names s hs)
          · refine ⟨(hps q hq).checked, fun s hs => ?_, hne⟩
            exact List.mem_append_right _ ((hps q hq).names s hs)

/-- **An address from a text is written canonically, and is free of slashes.** -/
theorem fromStr_ok {input : String} {bytes : Bytes} (hfits : (strBytes input).length < 2 ^ 64)
    (h : fromStr F input = .ok bytes) :
    ∃ ps, bytes = Raw.fromIter ps ∧ ∀ p ∈ ps, p.Valid ∧ p.SlashFree := by
  unfold fromStr at h
  split at h
  · cases h
  · next first parts hsplit =>
    split at h
    · obtain ⟨ps, hbytes, hps⟩ := parseLoop_ok h
      have hpart : ∀ part ∈ parts, part ∈ splitText '/' input := by
        intro part hpart
        rw [hsplit]
        exact List.mem_cons_of_mem first hpart
      refine ⟨ps, hbytes, fun p hp => ?_⟩
      have hfrom := hps p hp
      constructor
      · refine Protocol.valid_of_names hfrom.checked fun s hs => ?_
        exact (length_le_of_mem_splitText (hpart s (hfrom.names s hs))).trans_lt hfits
      · refine Protocol.slashFree_of_names fun s hs => ?_
        exact notMem_of_mem_splitText (hpart s (hfrom.names s hs))
    · cases h

/-- The parts of components are read as these components. -/
theorem parseLoop_parts (h : ∀ p ∈ ps, p.Checked) (writer : Bytes) :
    parseLoop F (ps.flatMap (Protocol.parts F)) writer = .ok (writer ++ Raw.fromIter ps) := by
  induction ps generalizing writer with
  | nil =>
    rw [List.flatMap_nil, parseLoop_nil, Raw.fromIter, List.flatMap_nil, List.append_nil]
  | cons p ps ih =>
    have hread := Protocol.fromStrPeek_parts (F := F) (h p List.mem_cons_self)
      (ps.flatMap (Protocol.parts F))
    have hne : p.parts F ++ ps.flatMap (Protocol.parts F) ≠ [] := by
      cases p <;> exact List.cons_ne_nil _ _
    rw [List.flatMap_cons, parseLoop_cons hne hread,
      ih fun q hq => h q (List.mem_cons_of_mem p hq), List.append_assoc]
    rfl

theorem toList_toText (a : Multiaddr) : (a.toText F).toList
    = (a.iter.flatMap (Protocol.parts F)).flatMap fun part => '/' :: part.toList := by
  unfold toText
  induction a.iter with
  | nil => rfl
  | cons p ps ih =>
    rw [List.foldr_cons, String.toList_append, ih, Protocol.toList_display, List.flatMap_cons,
      List.flatMap_append]

/-- **An address that is written canonically and is free of slashes is read back.** -/
theorem fromStr_toText {a : Multiaddr} (hcanonical : a.Canonical) (hfree : a.SlashFree) :
    fromStr F (a.toText F) = .ok a.bytes := by
  have hparts : ∀ part ∈ a.iter.flatMap (Protocol.parts F), '/' ∉ part.toList := by
    intro part hpart
    obtain ⟨p, hp, hpart⟩ := List.mem_flatMap.mp hpart
    exact Protocol.notMem_parts (hfree p hp) part hpart
  have hchecked : ∀ p ∈ a.iter, p.Checked := fun p hp => a.checked_of_mem hp
  rw [fromStr, splitText_of_toList a.toList_toText hparts]
  dsimp only
  rw [if_pos rfl, parseLoop_parts hchecked, List.nil_append, ← hcanonical]

/-- **An address is read back from its text if and only if** it is written canonically and no name
of a host has a slash in it. -/
theorem fromStr_toText_iff (F : Formats) (a : Multiaddr)
    (hfits : (strBytes (a.toText F)).length < 2 ^ 64) :
    fromStr F (a.toText F) = .ok a.bytes ↔ a.Canonical ∧ a.SlashFree := by
  constructor
  · intro h
    obtain ⟨ps, hbytes, hps⟩ := fromStr_ok hfits h
    have hiter : a.iter = ps := by
      have hread := Raw.iter_fromIter fun p hp => (hps p hp).1
      rw [← hbytes, Raw.iter_bytes] at hread
      exact Except.ok.inj hread
    refine ⟨?_, ?_⟩
    · rw [Canonical, hiter, hbytes]
    · intro p hp
      rw [hiter] at hp
      exact (hps p hp).2
  · rintro ⟨hcanonical, hfree⟩
    exact fromStr_toText hcanonical hfree

/-! ### A name with a slash -/

/-- Formats that write everything as hexadecimal digits. -/
def hexFormats : Formats :=
  let hex : Format '/' Bytes := hexFormat (by decide)
  { ip4 := hex.via (fun (a, b, c, d) => [a, b, c, d])
      (fun
        | [a, b, c, d] => some (a, b, c, d)
        | _ => none)
      (fun _ => rfl)
    ip6 := hex.via
      (fun (a, b, c, d, e, f, g, h) => putU16 a ++ putU16 b ++ putU16 c ++ putU16 d ++ putU16 e ++
        putU16 f ++ putU16 g ++ putU16 h)
      (fun
        | [a, a', b, b', c, c', d, d', e, e', f, f', g, g', h, h'] =>
          some (getU16 a a', getU16 b b', getU16 c c', getU16 d d', getU16 e e', getU16 f f',
            getU16 g g', getU16 h h')
        | _ => none)
      (fun _ => by simp only [putU16, List.cons_append, List.nil_append, getU16_putU16])
    base58 := hex
    u16 := hex.via putU16
      (fun
        | [a, b] => some (getU16 a b)
        | _ => none)
      (fun _ => by simp only [putU16, getU16_putU16])
    u64 := hex.via putU64
      (fun
        | [a, b, c, d, e, f, g, h] => some (getU64 a b c d e f g h)
        | _ => none)
      (fun _ => by simp only [putU64, putU32, List.cons_append, List.nil_append, getU64,
        getU32_putU32, ofNat_halves]) }

/-- The name of a host with a slash in it. -/
def slashed : Protocol := .dns4 "a/ws"

/-- The host that the text names, and what comes after the slash. -/
def unslashed : List Protocol := [.dns4 "a", .ws]

theorem valid_slashed : slashed.Valid := by
  change (strBytes "a/ws").length < 2 ^ 64
  decide +kernel

theorem valid_unslashed : ∀ p ∈ unslashed, p.Valid := by
  intro p hp
  rcases List.mem_pair.mp hp with rfl | rfl
  · change (strBytes "a").length < 2 ^ 64
    decide +kernel
  · trivial

/-- The text of both is the same. -/
theorem fromStr_slashed : fromStr hexFormats "/dns4/a/ws" = .ok (Raw.fromIter unslashed) := by
  have hsplit : splitText '/' "/dns4/a/ws" = "" :: unslashed.flatMap
      (Protocol.parts hexFormats) := by
    decide +kernel
  rw [fromStr, hsplit]
  exact parseLoop_parts (fun p hp => (valid_unslashed p hp).checked) []

theorem fromStr_toText_iff_unslashed : ∃ a : Multiaddr, a.iter = unslashed ∧
    fromStr hexFormats (a.toText hexFormats) = .ok a.bytes := by
  obtain ⟨a, -, hbytes, hiter⟩ :=
    tryFrom_of_many (Raw.iter_eq_ok_iff.mp (Raw.iter_fromIter valid_unslashed))
  have htext : a.toText hexFormats = "/dns4/a/ws" := by
    rw [toText, hiter]
    decide +kernel
  have hcanonical : a.Canonical := by rw [Canonical, hbytes, hiter]
  have hfree : a.SlashFree := by
    intro p hp
    rw [hiter] at hp
    rcases List.mem_pair.mp hp with rfl | rfl
    · change '/' ∉ "a".toList
      decide
    · trivial
  have hfits : (strBytes (a.toText hexFormats)).length < 2 ^ 64 := by
    rw [htext]
    decide +kernel
  exact ⟨a, hiter, (fromStr_toText_iff hexFormats a hfits).mpr ⟨hcanonical, hfree⟩⟩

/-- **Bytes are accepted whose text is another address.** -/
theorem fromStr_toText_slashed : ∃ a : Multiaddr,
    tryFrom [0x36, 0x04, 0x61, 0x2f, 0x77, 0x73] = .ok a ∧ a.toText hexFormats = "/dns4/a/ws" ∧
      fromStr hexFormats (a.toText hexFormats) = .ok [0x36, 0x01, 0x61, 0xdd, 0x03] := by
  have hwritten : slashed.writeToBytes = [0x36, 0x04, 0x61, 0x2f, 0x77, 0x73] := by decide +kernel
  have hmany := many_writeToBytes valid_slashed
  rw [hwritten] at hmany
  obtain ⟨a, haccept, -, hiter⟩ := tryFrom_of_many hmany
  have htext : a.toText hexFormats = "/dns4/a/ws" := by
    rw [toText, hiter]
    decide +kernel
  have hother : Raw.fromIter unslashed = [0x36, 0x01, 0x61, 0xdd, 0x03] := by decide +kernel
  refine ⟨a, haccept, htext, ?_⟩
  rw [htext, fromStr_slashed, hother]

end Multiaddr

end CkbP2P

import CkbP2P.Multiaddr.Ops

/-!
# The spellings of an address

Addresses are compared by their bytes.  The varints in them are read with fewer bits than their
bytes have room for, and the bits beyond are dropped, so an address may be spelled in more than one
way.  When no varint has such bits, the bytes are those that are written for the components.
-/

namespace CkbP2P

open Lib

namespace Protocol

/-- The codes of components whose content is preceded by its length. -/
def sizedCode (id : ℕ) : Bool := id == dns4Code || id == dns6Code || id == tlsCode || id == p2pCode

/-- The varints of the first component have no bits to drop. -/
def exactHead (input : Bytes) : Bool :=
  match varU32 input with
  | .error _ => false
  | .ok (id, mid) => Varint.exact 32 4 input && (!sizedCode id || Varint.exact 64 9 mid)

theorem sizedCode_code (p : Protocol) : sizedCode p.code = p.sized := by
  cases p <;> rfl

theorem code_lt (p : Protocol) : p.code < 2 ^ 32 := by
  cases p <;> exact of_decide_eq_true rfl

/-- Without bits to drop, what is read as a component is what is written for it. -/
theorem eq_writeToBytes_of_exactHead {input rest : Bytes} {p : Protocol}
    (h : fromBytes input = .ok (p, rest)) (hexact : exactHead input = true) :
    input = p.writeToBytes ++ rest := by
  obtain ⟨mid, hcode, -, hholds⟩ := fromBytes_ok h
  rw [exactHead, hcode] at hexact
  simp only [Bool.and_eq_true, sizedCode_code] at hexact
  obtain ⟨hid, hlen⟩ := hexact
  obtain ⟨-, hinput⟩ := Varint.decode_eq_ok_of_exact hid (Varint.parse_eq_ok.mp hcode)
  have hmid : mid = (if p.sized then putSized p.content else p.content) ++ rest := by
    unfold Holds at hholds
    cases hsized : p.sized with
    | false =>
      rw [hsized] at hholds
      exact hholds
    | true =>
      rw [hsized] at hholds hlen
      obtain ⟨-, hmid⟩ := Varint.decode_eq_ok_of_exact hlen (Varint.parse_eq_ok.mp hholds)
      rw [hmid, ← List.append_assoc]
      rfl
  rw [hinput, hmid, writeToBytes_eq, List.append_assoc]
  rfl

/-- What is written has no bits to drop. -/
theorem exactHead_writeToBytes {p : Protocol} (hp : p.Valid) (rest : Bytes) :
    exactHead (p.writeToBytes ++ rest) = true := by
  have hid := p.code_lt
  have hread := code_reads hid
  have hexact := fun rest => Varint.exact_encode hid (hid.trans (by decide) : _ < 128 ^ 5) rest
  rw [writeToBytes_eq, List.append_assoc, exactHead, hread]
  simp only [sizedCode_code, Bool.and_eq_true]
  refine ⟨hexact _, ?_⟩
  cases hsized : p.sized with
  | false => rfl
  | true =>
    have hlen : p.content.length < 2 ^ 64 := by
      cases p with
      | dns4 | dns6 | tls => exact hp
      | p2p b => exact hp.1
      | _ => cases hsized
    have hfits : p.content.length < 128 ^ 10 := hlen.trans (by decide)
    simp only [if_true, Bool.not_true, Bool.false_or, putSized, List.append_assoc]
    exact Varint.exact_encode hlen hfits _

end Protocol

namespace Multiaddr

/-- No varint of the components has bits to drop. -/
inductive Exact : Bytes → Prop
  | nil : Exact []
  | cons {input rest : Bytes} {p : Protocol} (h : Protocol.fromBytes input = .ok (p, rest))
      (hexact : Protocol.exactHead input = true) (hrest : Exact rest) : Exact input

/-- The bytes are those that are written for the components. -/
def Canonical (a : Multiaddr) : Prop := a.bytes = Raw.fromIter a.iter

/-- Bytes without bits to drop are those that are written for what is read. -/
theorem Exact.many {bytes : Bytes} (h : Exact bytes) :
    ∃ ps, Protocol.fromBytes.many bytes = .ok ps ∧ bytes = Raw.fromIter ps := by
  induction h with
  | nil => exact ⟨[], rfl, rfl⟩
  | @cons input rest p h hexact _ ih =>
    obtain ⟨ps, hmany, hrest⟩ := ih
    have hne : input ≠ [] := by
      rintro rfl
      exact absurd (Protocol.fromBytes_progress h) (Nat.not_lt_zero _)
    refine ⟨p :: ps, ?_, ?_⟩
    · rw [Parser.many_of_ok Protocol.fromBytes_progress hne h, hmany]
      rfl
    · rw [Protocol.eq_writeToBytes_of_exactHead h hexact, hrest]
      rfl

theorem exact_fromIter {ps : List Protocol} (h : ∀ p ∈ ps, p.Valid) : Exact (Raw.fromIter ps) := by
  induction ps with
  | nil => exact .nil
  | cons p ps ih =>
    have hp := h p List.mem_cons_self
    have hrest := ih fun q hq => h q (List.mem_cons_of_mem p hq)
    exact .cons (Protocol.fromBytes_reads hp _) (Protocol.exactHead_writeToBytes hp _) hrest

/-- **The bytes are those that are written if and only if** no varint has bits to drop. -/
theorem canonical_iff_exact (a : Multiaddr) : a.Canonical ↔ Exact a.bytes := by
  constructor
  · intro h
    rw [Canonical] at h
    rw [h]
    exact exact_fromIter fun p hp => a.valid_of_mem hp
  · intro h
    obtain ⟨ps, hmany, hbytes⟩ := h.many
    rw [a.many_bytes] at hmany
    cases hmany
    exact hbytes

/-- Addresses without bits to drop are equal when their components are. -/
theorem eq_iff_iter_eq {a b : Multiaddr} (ha : Exact a.bytes) (hb : Exact b.bytes) :
    a = b ↔ a.iter = b.iter := by
  constructor
  · rintro rfl
    rfl
  · intro h
    apply ext_bytes
    rw [a.canonical_iff_exact.mpr ha, b.canonical_iff_exact.mpr hb, h]

end Multiaddr

end CkbP2P

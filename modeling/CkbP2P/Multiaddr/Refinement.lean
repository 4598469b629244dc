import CkbP2P.Multiaddr.Text

/-!
# Addresses as lists of components

An address is meant to be a list of components.  Its bytes represent a list when `iter` reads that
list from them.  Every way to make an address gives bytes that represent a list, and the
operations on the bytes are those on the list.
-/

namespace CkbP2P

open Lib

namespace Multiaddr

/-- The bytes represent a list of components. -/
def Represents (bytes : Bytes) (ps : List Protocol) : Prop := Raw.iter bytes = .ok ps

/-- A function for `replace` that gives components which can be written. -/
def Replacement (f : Protocol → Option Protocol) : Prop := ∀ p q, f p = some q → q.Valid

/-- The bytes of addresses, by the ways to make them. -/
inductive Built (F : Formats) : Bytes → Prop
  /-- The length of a text is a `usize`. -/
  | parsed {text : String} {bytes : Bytes} (hfits : (strBytes text).length < 2 ^ 64)
      (h : fromStr F text = .ok bytes) : Built F bytes
  | accepted {v : Bytes} {a : Multiaddr} (h : tryFrom v = .ok a) : Built F a.bytes
  | collected {ps : List Protocol} (h : ∀ p ∈ ps, p.Valid) : Built F (Raw.fromIter ps)
  | pushed {bytes : Bytes} {p : Protocol} (h : Built F bytes) (hp : p.Valid) :
      Built F (Raw.push bytes p)
  | popped {bytes bytes' : Bytes} {last : Option Protocol} (h : Built F bytes)
      (hpop : Raw.pop bytes = .ok (last, bytes')) : Built F bytes'
  | replaced {bytes bytes' : Bytes} {pos : ℕ} {f : Protocol → Option Protocol} (h : Built F bytes)
      (hf : Replacement f) (hreplace : Raw.replace bytes pos f = .ok (some bytes')) :
      Built F bytes'

/-- The operations on the bytes are those on the list. -/
structure Refines (bytes : Bytes) (ps : List Protocol) : Prop where
  iter : Raw.iter bytes = .ok ps
  push : ∀ p : Protocol, p.Valid → Represents (Raw.push bytes p) (ps ++ [p])
  pop : ∃ bytes', Raw.pop bytes = .ok (ps.getLast?, bytes') ∧ Represents bytes' ps.dropLast
  /-- There is a replacement if and only if there is a component at the position, for which the
  function gives one. -/
  replace : ∀ (pos : ℕ) (f : Protocol → Option Protocol), Replacement f →
    ∃ r, Raw.replace bytes pos f = .ok r ∧
      (r.isSome ↔ ∃ p q, ps[pos]? = some p ∧ f p = some q) ∧
      ∀ bytes', r = some bytes' → ∃ p q, ps[pos]? = some p ∧ f p = some q ∧
        Represents bytes' (ps.set pos q)

variable {F : Formats} {bytes : Bytes} {ps : List Protocol}

theorem Represents.refines_replace (h : Represents bytes ps) {f : Protocol → Option Protocol}
    (hf : Replacement f) (pos : ℕ) : ∃ r, Raw.replace bytes pos f = .ok r ∧
      (r.isSome ↔ ∃ p q, ps[pos]? = some p ∧ f p = some q) ∧
      ∀ bytes', r = some bytes' → ∃ p q, ps[pos]? = some p ∧ f p = some q ∧
        Represents bytes' (ps.set pos q) := by
  refine ⟨_, Raw.replace_eq h pos f, ?_, ?_⟩
  · rw [Option.isSome_map, Option.isSome_iff_exists]
    constructor
    · rintro ⟨q, hq⟩
      obtain ⟨p, hp, hq⟩ := Option.bind_eq_some_iff.mp hq
      exact ⟨p, q, hp, hq⟩
    · rintro ⟨p, q, hp, hq⟩
      exact ⟨q, Option.bind_eq_some_iff.mpr ⟨p, hp, hq⟩⟩
  · intro bytes' hr
    obtain ⟨q, hq, rfl⟩ := Option.map_eq_some_iff.mp hr
    obtain ⟨p, hp, hq⟩ := Option.bind_eq_some_iff.mp hq
    exact ⟨p, q, hp, hq, Raw.iter_replace h (hf p q hq) pos⟩

/-- The operations on bytes that represent a list are those on the list. -/
theorem Represents.refines (h : Represents bytes ps) : Refines bytes ps where
  iter := h
  push _ hp := Raw.iter_push h hp
  pop := Raw.pop_eq h
  replace pos _ hf := h.refines_replace hf pos

/-- **What was built represents a list of components.** -/
theorem Built.exists_represents (h : Built F bytes) : ∃ ps, Represents bytes ps := by
  induction h with
  | parsed hfits h =>
    obtain ⟨ps, rfl, hps⟩ := fromStr_ok hfits h
    exact ⟨ps, Raw.iter_fromIter fun p hp => (hps p hp).1⟩
  | accepted h => exact ⟨_, Raw.iter_bytes _⟩
  | collected h => exact ⟨_, Raw.iter_fromIter h⟩
  | pushed h hp ih =>
    obtain ⟨ps, hps⟩ := ih
    exact ⟨ps ++ [_], hps.refines.push _ hp⟩
  | popped h hpop ih =>
    obtain ⟨ps, hps⟩ := ih
    obtain ⟨bytes', hpop', hps'⟩ := hps.refines.pop
    rw [hpop] at hpop'
    cases hpop'
    exact ⟨ps.dropLast, hps'⟩
  | replaced h hf hreplace ih =>
    obtain ⟨ps, hps⟩ := ih
    obtain ⟨r, hr, -, hps'⟩ := hps.refines.replace _ _ hf
    rw [hreplace] at hr
    cases hr
    obtain ⟨p, q, -, -, hset⟩ := hps' _ rfl
    exact ⟨ps.set _ q, hset⟩

/-- **The operations on addresses are those on lists of components**, however the address was
built; and what is collected is accepted again as the same list. -/
theorem operations_refine (F : Formats) :
    (∀ bytes, Built F bytes → ∃ ps, Refines bytes ps) ∧
      ∀ ps : List Protocol, (∀ p ∈ ps, p.Valid) →
        ∃ a, tryFrom (Raw.fromIter ps) = .ok a ∧ a.iter = ps := by
  constructor
  · intro bytes h
    obtain ⟨ps, hps⟩ := h.exists_represents
    exact ⟨ps, hps.refines⟩
  · intro ps hps
    have hread := Raw.iter_eq_ok_iff.mp (Raw.iter_fromIter hps)
    obtain ⟨a, haccept, -, hiter⟩ := tryFrom_of_many hread
    exact ⟨a, haccept, hiter⟩

theorem operations_refine_unslashed :
    (∃ ps, Refines (Raw.push (Raw.fromIter unslashed) .wss) ps) ∧
      ∃ a, tryFrom (Raw.fromIter unslashed) = .ok a ∧ a.iter = unslashed := by
  obtain ⟨hbuilt, hcollected⟩ := operations_refine hexFormats
  have hparsed : Built hexFormats (Raw.fromIter unslashed) :=
    .parsed (by decide +kernel) fromStr_slashed
  exact ⟨hbuilt _ (hparsed.pushed trivial), hcollected unslashed valid_unslashed⟩

end Multiaddr

end CkbP2P

import Mathlib.Algebra.Ring.Parity
import Mathlib.Data.List.Basic
import Mathlib.Data.Nat.Find

/-!
# Adjacent pairs of a list

A list has elements of a first kind, of a second kind, and others.  A scan looks for an
element of the first kind that is followed by one of the second.  When it meets an element
of the first kind it consumes this element and the next one, whatever the next one is; so
where several elements of the first kind stand in a row it does not look at every pair.
-/

namespace CkbP2P
namespace Lib
namespace Pairs

variable {α β γ : Type*} (f : α → Option β) (g : α → Option γ)

/-- The pair at position `i`. -/
def pairAt (l : List α) (i : ℕ) : Option (β × γ) :=
  (l[i]?.bind f).bind fun b => (l[i + 1]?.bind g).map fun c => (b, c)

/-- The pair at position `i` is the first of those `P` holds of. -/
structure First (l : List α) (P : ℕ → Prop) (i : ℕ) (p : β × γ) : Prop where
  pair : pairAt f g l i = some p
  holds : P i
  before : ∀ j < i, pairAt f g l j ≠ none → ¬ P j

/-- The scan. -/
def scan : List α → Option (β × γ)
  | [] => none
  | x :: l =>
    match f x with
    | none => scan l
    | some b =>
      match l with
      | [] => none
      | y :: l =>
        match g y with
        | some c => some (b, c)
        | none => scan l

/-- How many elements of the first kind stand in a row up to position `i`, when `n` of them
stand before the list. -/
def run (n : ℕ) : List α → ℕ → ℕ
  | [], _ => 0
  | x :: l, i =>
    let n := if (f x).isSome then n + 1 else 0
    match i with
    | 0 => n
    | i + 1 => run n l i

/-! ### Positions -/

variable {f g}

@[simp] theorem pairAt_nil (i : ℕ) : pairAt f g [] i = none := rfl

@[simp] theorem pairAt_succ (x : α) (l : List α) (i : ℕ) :
    pairAt f g (x :: l) (i + 1) = pairAt f g l i := rfl

theorem pairAt_zero_of_none {x : α} (hx : f x = none) (l : List α) :
    pairAt f g (x :: l) 0 = none := by
  simp [pairAt, hx]

theorem pairAt_zero_of_next {x y : α} (hy : g y = none) (l : List α) :
    pairAt f g (x :: y :: l) 0 = none := by
  simp [pairAt, hy]

/-- A longer run has the same parity when two more elements stand before the list. -/
theorem odd_run_add_two (n : ℕ) (l : List α) (i : ℕ) :
    Odd (run f (n + 2) l i) ↔ Odd (run f n l i) := by
  induction l generalizing n i with
  | nil => simp [run]
  | cons x l ih =>
    unfold run
    cases hx : (f x).isSome with
    | true =>
      cases i with
      | zero => simp [Nat.odd_add]
      | succ i => exact ih (n + 1) i
    | false => rfl

/-- The first pair after an element that does not start one that counts. -/
theorem first_cons_iff {x : α} {l : List α} {P : ℕ → Prop} {i : ℕ} {p : β × γ}
    (h : pairAt f g (x :: l) 0 ≠ none → ¬ P 0) :
    First f g (x :: l) P i p ↔ ∃ j, i = j + 1 ∧ First f g l (fun k => P (k + 1)) j p := by
  constructor
  · rintro ⟨hpair, hi, hbefore⟩
    cases i with
    | zero => exact absurd hi (h (by rw [hpair]; exact Option.some_ne_none p))
    | succ j =>
      rw [pairAt_succ] at hpair
      refine ⟨j, rfl, hpair, hi, fun k hk hne => hbefore (k + 1) (by omega) ?_⟩
      rwa [pairAt_succ]
  · rintro ⟨j, rfl, hpair, hi, hbefore⟩
    refine ⟨by rwa [pairAt_succ], hi, ?_⟩
    intro k hk hne
    cases k with
    | zero => exact h hne
    | succ k =>
      rw [pairAt_succ] at hne
      exact hbefore k (by omega) hne

theorem exists_first_cons_iff {x : α} {l : List α} {P : ℕ → Prop} {p : β × γ}
    (h : pairAt f g (x :: l) 0 ≠ none → ¬ P 0) :
    (∃ i, First f g (x :: l) P i p) ↔ ∃ j, First f g l (fun k => P (k + 1)) j p := by
  constructor
  · rintro ⟨i, hi⟩
    obtain ⟨j, -, hj⟩ := (first_cons_iff h).mp hi
    exact ⟨j, hj⟩
  · rintro ⟨j, hj⟩
    exact ⟨j + 1, (first_cons_iff h).mpr ⟨j, rfl, hj⟩⟩

theorem First.congr {l : List α} {P Q : ℕ → Prop} (h : ∀ i, P i ↔ Q i) {i : ℕ} {p : β × γ} :
    First f g l P i p ↔ First f g l Q i p := by
  rw [funext fun i => propext (h i)]

/-- A list that has a pair has a first one. -/
theorem exists_first {l : List α} {i : ℕ} (h : pairAt f g l i ≠ none) :
    ∃ j p, First f g l (fun _ => True) j p := by
  classical
  have hex : ∃ i, pairAt f g l i ≠ none := ⟨i, h⟩
  obtain ⟨p, hp⟩ := Option.ne_none_iff_exists'.mp (Nat.find_spec hex)
  exact ⟨Nat.find hex, p, hp, trivial, fun j hj hne => absurd hne (Nat.find_min hex hj)⟩

/-! ### The scan -/

/-- **The scan finds the first pair after an odd run**, the first element of the pair being
the last of the run.  The induction is that of the scan: an element of the first kind and
the one after it leave together, and when the latter is of the first kind too the runs that
follow keep their parity. -/
theorem scan_eq_some_iff (l : List α) (p : β × γ) :
    scan f g l = some p ↔ ∃ i, First f g l (fun i => Odd (run f 0 l i)) i p := by
  fun_induction scan f g l with
  | case1 =>
    refine ⟨fun h => (Option.some_ne_none p h.symm).elim, ?_⟩
    rintro ⟨i, hpair, -, -⟩
    rw [pairAt_nil] at hpair
    cases hpair
  | case2 x l hx ih =>
    rw [ih, exists_first_cons_iff fun h => absurd (pairAt_zero_of_none hx l) h]
    simp [run, hx]
  | case3 x b hx =>
    refine ⟨fun h => (Option.some_ne_none p h.symm).elim, ?_⟩
    rintro ⟨i, hpair, -, -⟩
    cases i with
    | zero => simp [pairAt] at hpair
    | succ i =>
      rw [pairAt_succ, pairAt_nil] at hpair
      cases hpair
  | case4 x b hx y l c hy =>
    have hpair : pairAt f g (x :: y :: l) 0 = some (b, c) := by
      simp [pairAt, hx, hy]
    have hodd : Odd (run f 0 (x :: y :: l) 0) := by
      simp [run, hx]
    constructor
    · intro h
      rw [Option.some.inj h] at hpair
      exact ⟨0, hpair, hodd, fun j hj => absurd hj (Nat.not_lt_zero j)⟩
    · rintro ⟨i, hi, -, hbefore⟩
      rcases Nat.eq_zero_or_pos i with rfl | hpos
      · exact hpair.symm.trans hi
      · exact absurd hodd (hbefore 0 hpos (by rw [hpair]; exact Option.some_ne_none _))
  | case5 x b hx y l hy ih =>
    rw [ih, exists_first_cons_iff fun h => absurd (pairAt_zero_of_next hy l) h]
    cases hfy : f y with
    | none =>
      rw [exists_first_cons_iff fun h => absurd (pairAt_zero_of_none hfy l) h]
      simp [run, hfy]
    | some b' =>
      -- two of the first kind: the pair at the second of them is passed over
      have heven : ¬ Odd (run f 0 (x :: y :: l) 1) := by
        simp [run, hx, hfy]
      rw [exists_first_cons_iff fun _ => heven]
      refine exists_congr fun i => First.congr fun k => ?_
      have hrun : run f 0 (x :: y :: l) (k + 1 + 1) = run f 2 l k := by
        simp [run, hx, hfy]
      rw [hrun, odd_run_add_two]

/-- **When the scan finds the first pair of all**, and nothing if there is none: when the
first pair after an odd run is the same one, or at least an equal one. -/
theorem scan_eq_first_iff (l : List α) :
    ((∀ i p, First f g l (fun _ => True) i p → scan f g l = some p) ∧
      (scan f g l = none ↔ ∀ i, pairAt f g l i = none)) ↔
    ∀ i p, First f g l (fun _ => True) i p →
      ∃ j, First f g l (fun i => Odd (run f 0 l i)) j p := by
  constructor
  · rintro ⟨hfirst, -⟩ i p hi
    exact (scan_eq_some_iff l p).mp (hfirst i p hi)
  · intro h
    have hfirst : ∀ i p, First f g l (fun _ => True) i p → scan f g l = some p :=
      fun i p hi => (scan_eq_some_iff l p).mpr (h i p hi)
    refine ⟨hfirst, fun hnone i => ?_, fun hnone => ?_⟩
    · by_contra hne
      obtain ⟨j, p, hj⟩ := exists_first hne
      rw [hfirst j p hj] at hnone
      cases hnone
    · rw [Option.eq_none_iff_forall_ne_some]
      intro p hp
      obtain ⟨j, hj⟩ := (scan_eq_some_iff l p).mp hp
      exact Option.some_ne_none p (hj.pair.symm.trans (hnone j))

end Pairs
end Lib
end CkbP2P

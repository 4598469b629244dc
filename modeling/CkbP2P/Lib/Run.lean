import Mathlib.Data.List.Basic

/-!
# Runs of a step function

A system is given by a total step function `step : σ → α → σ`; a run from `s` is
a list of labels, and the state it ends in is `runFrom step s as`.

Two rules carry every safety statement about such systems.  The plain one: what
holds at the start and is kept by every step holds after every run.  The guarded
one: when a step keeps the invariant only under a condition on the label and the
state it is taken in, the invariant holds along every run all of whose steps
meet the condition; and when the condition is also necessary, those are exactly
the runs along which the invariant holds throughout.

* `runFrom` — the state at the end of a run.
* `Guarded ok` — every step of the run meets `ok` in the state it is taken in.
* `Throughout P` — `P` holds in every state of the run, the first included.
* `inv_runFrom`, `throughout_of_inv`, `throughout_of_guarded`, `throughout_iff_guarded` — the
  rules.
* `guarded_congr`, `guarded_of_inv` — what is asked of each step, in the states the invariant
  allows.
-/

namespace CkbP2P
namespace Lib

variable {σ α : Type*}

/-- The state a run ends in. -/
def runFrom (step : σ → α → σ) : σ → List α → σ
  | s, [] => s
  | s, a :: as => runFrom step (step s a) as

/-- Every step of the run meets the condition `ok` in the state it is taken in. -/
def Guarded (step : σ → α → σ) (ok : σ → α → Prop) : σ → List α → Prop
  | _, [] => True
  | s, a :: as => ok s a ∧ Guarded step ok (step s a) as

/-- `P` holds in every state the run goes through. -/
def Throughout (step : σ → α → σ) (P : σ → Prop) : σ → List α → Prop
  | s, [] => P s
  | s, a :: as => P s ∧ Throughout step P (step s a) as

instance Guarded.decidable (step : σ → α → σ) (ok : σ → α → Prop)
    [∀ s a, Decidable (ok s a)] : ∀ (s : σ) (as : List α), Decidable (Guarded step ok s as)
  | _, [] => inferInstanceAs (Decidable True)
  | s, a :: as =>
    have := Guarded.decidable step ok (step s a) as
    inferInstanceAs (Decidable (ok s a ∧ Guarded step ok (step s a) as))

variable {step : σ → α → σ} {P : σ → Prop} {ok : σ → α → Prop}

theorem runFrom_append (s : σ) (as bs : List α) :
    runFrom step s (as ++ bs) = runFrom step (runFrom step s as) bs := by
  induction as generalizing s with
  | nil => rfl
  | cons a as ih => exact ih (step s a)

/-- One more step. -/
theorem Guarded.snoc {s : σ} {as : List α} {a : α} (h : Guarded step ok s as)
    (ha : ok (runFrom step s as) a) : Guarded step ok s (as ++ [a]) := by
  induction as generalizing s with
  | nil => exact ⟨ha, trivial⟩
  | cons b as ih => exact ⟨h.1, ih h.2 ha⟩

/-- **What every step keeps, every run keeps.** -/
theorem inv_runFrom (hstep : ∀ s a, P s → P (step s a)) {s : σ} (h : P s) (as : List α) :
    P (runFrom step s as) := by
  induction as generalizing s with
  | nil => exact h
  | cons a as ih => exact ih (hstep s a h)

theorem throughout_of_inv (hstep : ∀ s a, P s → P (step s a)) {s : σ} (h : P s) (as : List α) :
    Throughout step P s as := by
  induction as generalizing s with
  | nil => exact h
  | cons a as ih => exact ⟨h, ih (hstep s a h)⟩

/-- A property that holds throughout a run holds at its end. -/
theorem Throughout.last {s : σ} {as : List α} (h : Throughout step P s as) :
    P (runFrom step s as) := by
  induction as generalizing s with
  | nil => exact h
  | cons a as ih => exact ih h.2

theorem Throughout.head {s : σ} {as : List α} (h : Throughout step P s as) : P s := by
  cases as with
  | nil => exact h
  | cons a as => exact h.1

theorem Throughout.mono {Q : σ → Prop} (hPQ : ∀ s, P s → Q s) {s : σ} {as : List α}
    (h : Throughout step P s as) : Throughout step Q s as := by
  induction as generalizing s with
  | nil => exact hPQ s h
  | cons a as ih => exact ⟨hPQ s h.1, ih h.2⟩

/-- **The guarded rule**: what every guarded step keeps holds throughout every
guarded run. -/
theorem throughout_of_guarded (hstep : ∀ s a, P s → ok s a → P (step s a)) {s : σ} (h : P s)
    {as : List α} (hg : Guarded step ok s as) : Throughout step P s as := by
  induction as generalizing s with
  | nil => exact h
  | cons a as ih => exact ⟨h, ih (hstep s a h hg.1) hg.2⟩

/-- What every state after a step shows about the step, under a condition on the run. -/
theorem guarded_of_throughout {g : σ → α → Prop} (h : ∀ s a, g s a → P (step s a) → ok s a) {s : σ}
    {as : List α} (hg : Guarded step g s as) (ht : Throughout step P s as) :
    Guarded step ok s as := by
  induction as generalizing s with
  | nil => trivial
  | cons a as ih => exact ⟨h s a hg.1 ht.2.head, ih hg.2 ht.2⟩

section Steps

variable {I : σ → Prop} {Q R : σ → α → Prop}

/-- **What steps have in common with their guards.**  When two conditions on a step say the
same wherever the invariant and the guard hold, they hold along the same guarded runs. -/
theorem guarded_congr (hinv : ∀ s a, I s → ok s a → I (step s a))
    (h : ∀ s a, I s → ok s a → (Q s a ↔ R s a)) {s : σ} (hi : I s) {as : List α}
    (hg : Guarded step ok s as) : Guarded step Q s as ↔ Guarded step R s as := by
  induction as generalizing s with
  | nil => exact Iff.rfl
  | cons a as ih => exact and_congr (h s a hi hg.1) (ih (hinv s a hi hg.1) hg.2)

/-- A condition that every guarded step meets. -/
theorem guarded_of_inv (hinv : ∀ s a, I s → ok s a → I (step s a))
    (h : ∀ s a, I s → ok s a → Q s a) {s : σ} (hi : I s) {as : List α}
    (hg : Guarded step ok s as) : Guarded step Q s as := by
  induction as generalizing s with
  | nil => trivial
  | cons a as ih => exact ⟨h s a hi hg.1, ih (hinv s a hi hg.1) hg.2⟩

end Steps

/-- A condition on the labels alone. -/
theorem guarded_of_forall_mem {ok : α → Prop} {as : List α} (h : ∀ a ∈ as, ok a) (s : σ) :
    Guarded step (fun _ => ok) s as := by
  induction as generalizing s with
  | nil => trivial
  | cons a as ih =>
    exact ⟨h a List.mem_cons_self, ih (fun b hb => h b (List.mem_cons_of_mem a hb)) (step s a)⟩

/-- **The exact form of the guarded rule**: when the guard is also necessary,
step by step, the guarded runs are exactly those along which `P` holds.  Both
directions may use an invariant that every step keeps. -/
theorem throughout_iff_guarded {I : σ → Prop} (hinv : ∀ s a, I s → I (step s a))
    (hstep : ∀ s a, I s → P s → (P (step s a) ↔ ok s a)) {s : σ} (hi : I s) (h : P s)
    (as : List α) : Throughout step P s as ↔ Guarded step ok s as := by
  induction as generalizing s with
  | nil => exact ⟨fun _ => trivial, fun _ => h⟩
  | cons a as ih =>
    have hiff := hstep s a hi h
    constructor
    · intro ht
      exact ⟨hiff.mp ht.2.head, (ih (hinv s a hi) ht.2.head).mp ht.2⟩
    · intro hg
      exact ⟨h, (ih (hinv s a hi) (hiff.mpr hg.1)).mpr hg.2⟩

end Lib
end CkbP2P

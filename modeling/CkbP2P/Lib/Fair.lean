import Mathlib.Order.Lattice
import CkbP2P.Lib.Run

/-!
# Endless runs

A system with step function `step : σ → α → σ` is driven by an endless sequence of labels, of
which each kind occurs again and again.  If no step raises a rank, and a step that changes
anything lowers it, the system comes to rest; if at each state that is no goal some kind of
label would lower the rank, it comes to rest at a goal.

* `stateAt` — the state after some labels.
* `Fair` — every kind of label occurs again and again.
* `inv_stateAt` — what every step keeps holds at every time.
* `eventually_of_fair` — a goal is reached, `eventually_always_of_fair` — and not left if no step
  leaves it.
-/

namespace CkbP2P
namespace Lib

variable {σ α κ : Type*}

/-- The state after the first `n` labels. -/
def stateAt (step : σ → α → σ) (s : σ) (labels : ℕ → α) : ℕ → σ
  | 0 => s
  | n + 1 => step (stateAt step s labels n) (labels n)

/-- Every kind of label occurs again and again. -/
def Fair (kind : α → κ) (labels : ℕ → α) : Prop :=
  ∀ k n, ∃ m, n ≤ m ∧ kind (labels m) = k

variable {step : σ → α → σ} {P Q : σ → Prop} {s : σ} {labels : ℕ → α}

theorem inv_stateAt (hstep : ∀ s a, P s → P (step s a)) (h : P s) (labels : ℕ → α) (n : ℕ) :
    P (stateAt step s labels n) := by
  induction n with
  | zero => exact h
  | succ n ih => exact hstep _ _ ih

/-- What no step leaves is not left. -/
theorem stable_stateAt (hstep : ∀ s a, P s → P (step s a)) {n m : ℕ} (hle : n ≤ m)
    (h : P (stateAt step s labels n)) : P (stateAt step s labels m) := by
  induction m, hle using Nat.le_induction with
  | base => exact h
  | succ m _ ih => exact hstep _ _ ih

/-- As long as the rank is not lowered, nothing changes. -/
theorem stateAt_eq_or_lt {rank : σ → ℕ} (hstep : ∀ s a, P s → P (step s a))
    (hidle : ∀ s a, P s → step s a = s ∨ rank (step s a) < rank s) (h : P s) {n m : ℕ}
    (hle : n ≤ m) : stateAt step s labels m = stateAt step s labels n ∨
      rank (stateAt step s labels m) < rank (stateAt step s labels n) := by
  induction m, hle using Nat.le_induction with
  | base => exact .inl rfl
  | succ m _ ih =>
    have hm : P (stateAt step s labels m) := inv_stateAt hstep h labels m
    rcases hidle (stateAt step s labels m) (labels m) hm with hsame | hlower
    · rw [stateAt, hsame]
      exact ih
    · rcases ih with heq | hlt
      · rw [← heq]
        exact .inr hlower
      · exact .inr (hlower.trans hlt)

/-- **A goal is reached**: at each state that is no goal some kind of label lowers the rank, and
that kind occurs before anything else changes, or something else does. -/
theorem eventually_of_fair {rank : σ → ℕ} {kind : α → κ} (hstep : ∀ s a, P s → P (step s a))
    (hidle : ∀ s a, P s → step s a = s ∨ rank (step s a) < rank s)
    (hprogress : ∀ s, P s → ¬ Q s → ∃ k, ∀ a, kind a = k → rank (step s a) < rank s)
    (h : P s) (hfair : Fair kind labels) : ∃ n, Q (stateAt step s labels n) := by
  -- by induction on the rank that is left
  suffices hall : ∀ r n, rank (stateAt step s labels n) = r →
      ∃ m, Q (stateAt step s labels m) from hall _ 0 rfl
  intro r
  induction r using Nat.strong_induction_on with
  | _ r ih =>
    intro n hr
    by_cases hgoal : Q (stateAt step s labels n)
    · exact ⟨n, hgoal⟩
    · obtain ⟨k, hk⟩ := hprogress _ (inv_stateAt hstep h labels n) hgoal
      obtain ⟨m, hle, hm⟩ := hfair k n
      rcases stateAt_eq_or_lt hstep hidle h hle with heq | hlt
      · have hlower := hk (labels m) hm
        rw [hr, ← heq] at hlower
        exact ih _ hlower (m + 1) rfl
      · exact ih _ (hr ▸ hlt) m rfl

theorem eventually_always_of_fair {rank : σ → ℕ} {kind : α → κ}
    (hstep : ∀ s a, P s → P (step s a))
    (hidle : ∀ s a, P s → step s a = s ∨ rank (step s a) < rank s)
    (hprogress : ∀ s, P s → ¬ Q s → ∃ k, ∀ a, kind a = k → rank (step s a) < rank s)
    (hstable : ∀ s a, P s → Q s → Q (step s a)) (h : P s) (hfair : Fair kind labels) :
    ∃ n, ∀ m, n ≤ m → Q (stateAt step s labels m) := by
  obtain ⟨n, hn⟩ := eventually_of_fair hstep hidle hprogress h hfair
  have hboth : ∀ s a, P s ∧ Q s → P (step s a) ∧ Q (step s a) :=
    fun s a hs => ⟨hstep s a hs.1, hstable s a hs.1 hs.2⟩
  refine ⟨n, fun m hle => ?_⟩
  exact (stable_stateAt hboth hle ⟨inv_stateAt hstep h labels n, hn⟩).2

end Lib
end CkbP2P

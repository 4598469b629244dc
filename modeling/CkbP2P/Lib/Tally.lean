import Mathlib.Algebra.BigOperators.Group.Finset.Basic
import Mathlib.Algebra.BigOperators.Pi
import Mathlib.Algebra.Order.BigOperators.Group.Finset
import Mathlib.Data.Fintype.BigOperators

/-!
# Counting the threads of a system

A system has a finite number of threads, each in a state of its own.  A weight on these states is
added up over all threads.  When one thread goes on, the sum changes by what its weight changes;
the equation adds both sides up, so that no subtraction is needed.
-/

namespace CkbP2P
namespace Lib

variable {ι β : Type*} [Fintype ι]

/-- The sum of a weight over the states of all threads. -/
def tally (weight : β → ℕ) (f : ι → β) : ℕ := ∑ t, weight (f t)

theorem tally_update [DecidableEq ι] (weight : β → ℕ) (f : ι → β) (t : ι) (b : β) :
    tally weight (Function.update f t b) + weight (f t) = tally weight f + weight b := by
  have hcomp : (fun i => weight (Function.update f t b i))
      = Function.update (fun i => weight (f i)) t (weight b) :=
    funext fun i => Function.apply_update (fun _ => weight) f t b i
  unfold tally
  rw [hcomp, Finset.sum_update_of_mem (Finset.mem_univ t), Finset.sdiff_singleton_eq_erase,
    ← Finset.sum_erase_add _ _ (Finset.mem_univ t)]
  omega

theorem tally_eq_zero_iff {weight : β → ℕ} {f : ι → β} :
    tally weight f = 0 ↔ ∀ t, weight (f t) = 0 := by
  simp [tally]

end Lib
end CkbP2P

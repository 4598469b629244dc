import Mathlib.Data.List.AList
import Mathlib.Algebra.BigOperators.Group.List.Basic
import Mathlib.Algebra.Ring.Nat

/-!
# Totals over finite maps

The sum of a weight over the entries of a finite map, and how it changes when an entry is
written or erased.  The equations add both sides up, so that no subtraction is needed.

* `total` — the sum of the weights.
* `weightAt` — the weight of the entry of a key, zero without one.
* `total_insert`, `total_erase` — the two changes.
-/

namespace CkbP2P
namespace Lib

variable {α β : Type}

/-- The sum of a weight over the values of a map. -/
def total (w : β → ℕ) (m : AList fun _ : α => β) : ℕ := (m.entries.map fun e => w e.2).sum

@[simp] theorem total_empty (w : β → ℕ) : total w (∅ : AList fun _ : α => β) = 0 := rfl

variable [DecidableEq α]

/-- The weight of the value of a key. -/
def weightAt (w : β → ℕ) (m : AList fun _ : α => β) (a : α) : ℕ := ((m.lookup a).map w).getD 0

theorem weightAt_of_lookup {w : β → ℕ} {m : AList fun _ : α => β} {a : α} {b : β}
    (h : m.lookup a = some b) : weightAt w m a = w b := by
  rw [weightAt, h]
  rfl

theorem weightAt_of_lookup_none {w : β → ℕ} {m : AList fun _ : α => β} {a : α}
    (h : m.lookup a = none) : weightAt w m a = 0 := by
  rw [weightAt, h]
  rfl

/-- Erasing the first entry of a key takes its weight away. -/
theorem sum_kerase (w : β → ℕ) (a : α) (l : List (Sigma fun _ : α => β)) :
    ((l.kerase a).map fun e => w e.2).sum + ((l.dlookup a).map w).getD 0
      = (l.map fun e => w e.2).sum := by
  induction l with
  | nil => rfl
  | cons e l ih =>
    obtain ⟨a', b⟩ := e
    by_cases h : a = a'
    · subst h
      have hk : List.kerase a (⟨a, b⟩ :: l) = l := List.kerase_cons_eq rfl
      rw [hk, List.dlookup_cons_eq, List.map_cons, List.sum_cons]
      exact Nat.add_comm _ _
    · rw [List.kerase_cons_ne h, List.dlookup_cons_ne _ _ h, List.map_cons, List.map_cons,
        List.sum_cons, List.sum_cons, ← ih, Nat.add_assoc]

theorem total_erase (w : β → ℕ) (m : AList fun _ : α => β) (a : α) :
    total w (m.erase a) + weightAt w m a = total w m :=
  sum_kerase w a m.entries

theorem total_insert (w : β → ℕ) (m : AList fun _ : α => β) (a : α) (b : β) :
    total w (m.insert a b) + weightAt w m a = total w m + w b := by
  have h := sum_kerase w a m.entries
  have hinsert : total w (m.insert a b) = w b + ((m.entries.kerase a).map fun e => w e.2).sum :=
    List.sum_cons
  rw [hinsert, weightAt, AList.lookup, total]
  omega

end Lib
end CkbP2P

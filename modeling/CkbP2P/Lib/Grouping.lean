import Mathlib.Data.List.AList

/-!
# Groupings

A map from keys to lists groups elements by their keys: the list of a key has the elements
with that key, each once, and a key without elements has no list.  The keys are given by a
partial function, which changes when an element is added or removed.

* `group` — the list of a key.
* `addTo`, `removeFrom` — add an element to a group, or remove it.
* `Groups` — a map is the grouping of a partial function.
* `Groups.addTo`, `Groups.removeFrom` — the two changes; `Groups.not_addTo` — an element is
  not added twice.
-/

namespace CkbP2P
namespace Lib

variable {α κ : Type} [DecidableEq κ]

/-- The elements of a key. -/
def group (m : AList fun _ : κ => List α) (k : κ) : List α := (m.lookup k).getD []

/-- Add an element to the group of a key. -/
def addTo (m : AList fun _ : κ => List α) (k : κ) (a : α) : AList fun _ : κ => List α :=
  m.insert k (group m k ++ [a])

/-- Remove an element from the group of a key, and the group when nothing is left. -/
def removeFrom [DecidableEq α] (m : AList fun _ : κ => List α) (k : κ) (a : α) :
    AList fun _ : κ => List α :=
  match m.lookup k with
  | none => m
  | some l => if l.filter (· ≠ a) = [] then m.erase k else m.insert k (l.filter (· ≠ a))

/-- The map is the grouping of the partial function `key`. -/
structure Groups (m : AList fun _ : κ => List α) (key : α → Option κ) : Prop where
  nodup : ∀ k, (group m k).Nodup
  mem : ∀ k a, a ∈ group m k ↔ key a = some k
  ne_nil : ∀ k l, m.lookup k = some l → l ≠ []

theorem groups_empty : Groups (∅ : AList fun _ : κ => List α) fun _ => none where
  nodup := fun _ => List.nodup_nil
  mem := fun _ _ => by simp [group]
  ne_nil := fun _ _ h => by simp at h

@[simp] theorem group_addTo_self (m : AList fun _ : κ => List α) (k : κ) (a : α) :
    group (addTo m k a) k = group m k ++ [a] := by
  rw [group, addTo, AList.lookup_insert, Option.getD_some]

theorem group_addTo_of_ne {m : AList fun _ : κ => List α} {k k' : κ} {a : α} (h : k' ≠ k) :
    group (addTo m k a) k' = group m k' := by
  rw [group, addTo, AList.lookup_insert_ne h, group]

variable {m : AList fun _ : κ => List α} {key : α → Option κ} {k : κ} {a : α}

/-- An element that is added a second time is there twice. -/
theorem Groups.not_addTo (h : Groups m key) (ha : key a = some k) {key' : α → Option κ} :
    ¬ Groups (Lib.addTo m k a) key' := by
  intro h'
  have hnodup := h'.nodup k
  rw [group_addTo_self, List.nodup_append] at hnodup
  exact hnodup.2.2 a ((h.mem k a).mpr ha) a (List.mem_singleton_self a) rfl

variable [DecidableEq α]

@[simp] theorem group_removeFrom_self (m : AList fun _ : κ => List α) (k : κ) (a : α) :
    group (removeFrom m k a) k = (group m k).filter (· ≠ a) := by
  unfold group removeFrom
  cases h : m.lookup k with
  | none => simp [h]
  | some l =>
    dsimp only
    split
    case isTrue hnil => rw [AList.lookup_erase, Option.getD_none, Option.getD_some, hnil]
    case isFalse => rw [AList.lookup_insert, Option.getD_some, Option.getD_some]

theorem lookup_removeFrom_of_ne {k' : κ} (h : k' ≠ k) :
    (removeFrom m k a).lookup k' = m.lookup k' := by
  unfold removeFrom
  cases m.lookup k with
  | none => rfl
  | some l =>
    dsimp only
    split
    · exact AList.lookup_erase_ne h
    · exact AList.lookup_insert_ne h

/-- An element without a key gets one. -/
theorem Groups.addTo (h : Groups m key) (ha : key a = none) :
    Groups (addTo m k a) (Function.update key a (some k)) := by
  have hnot : ∀ k', a ∉ group m k' := by
    intro k' hmem
    rw [h.mem, ha] at hmem
    cases hmem
  refine ⟨fun k' => ?_, fun k' b => ?_, fun k' l hl => ?_⟩
  · by_cases hk : k' = k
    · subst hk
      rw [group_addTo_self, List.nodup_append]
      refine ⟨h.nodup k', List.nodup_singleton a, ?_⟩
      rintro b hb c hc rfl
      rw [List.mem_singleton] at hc
      exact hnot k' (hc ▸ hb)
    · rw [group_addTo_of_ne hk]
      exact h.nodup k'
  · by_cases hk : k' = k
    · subst hk
      rw [group_addTo_self, List.mem_append, List.mem_singleton, h.mem]
      by_cases hb : b = a
      · subst hb
        simp
      · simp [hb]
    · rw [group_addTo_of_ne hk, h.mem]
      by_cases hb : b = a
      · subst hb
        simp [ha, Ne.symm hk]
      · rw [Function.update_of_ne hb]
  · by_cases hk : k' = k
    · subst hk
      rw [Lib.addTo, AList.lookup_insert] at hl
      rw [← Option.some.inj hl]
      exact List.append_ne_nil_of_right_ne_nil _ (List.cons_ne_nil _ _)
    · rw [Lib.addTo, AList.lookup_insert_ne hk] at hl
      exact h.ne_nil k' l hl

/-- An element loses its key. -/
theorem Groups.removeFrom (h : Groups m key) (ha : key a = some k) :
    Groups (removeFrom m k a) (Function.update key a none) := by
  refine ⟨fun k' => ?_, fun k' b => ?_, fun k' l hl => ?_⟩
  · by_cases hk : k' = k
    · subst hk
      rw [group_removeFrom_self]
      exact (h.nodup k').filter _
    · rw [group, lookup_removeFrom_of_ne hk]
      exact h.nodup k'
  · by_cases hk : k' = k
    · subst hk
      rw [group_removeFrom_self, List.mem_filter, h.mem]
      by_cases hb : b = a
      · subst hb
        simp
      · simp [hb]
    · rw [group, lookup_removeFrom_of_ne hk]
      refine (h.mem k' b).trans ?_
      by_cases hb : b = a
      · subst hb
        simp [ha, Ne.symm hk]
      · rw [Function.update_of_ne hb]
  · by_cases hk : k' = k
    · subst hk
      unfold Lib.removeFrom at hl
      cases hlookup : m.lookup k' with
      | none =>
        rw [hlookup] at hl
        exact h.ne_nil k' l hl
      | some l' =>
        rw [hlookup] at hl
        dsimp only at hl
        split at hl
        · rw [AList.lookup_erase] at hl
          cases hl
        case isFalse hne =>
          rw [AList.lookup_insert] at hl
          exact Option.some.inj hl ▸ hne
    · rw [lookup_removeFrom_of_ne hk] at hl
      exact h.ne_nil k' l hl

end Lib
end CkbP2P

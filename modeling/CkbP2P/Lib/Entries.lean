import Mathlib.Data.List.AList

/-!
# Finite maps and lists of entries

What a finite map has after a write.  A finite map and a list of entries that say the same, each
key being listed once; and what becomes of that when the map is written and the list is not, or
the other way round.

* `lookup_insert_eq_some_iff`, `lookup_erase_eq_some_iff` — the entries after a write.
* `mapValues` — every value is changed.
* `Lists` — the list has the entries of the map.
* `Lists.insert`, `Lists.erase` — both are changed.
* `Lists.not_insert`, `Lists.not_erase`, `Lists.not_eraseP` — only one is.
-/

namespace CkbP2P
namespace Lib

variable {α β : Type} [DecidableEq α]

/-! ### Lookups -/

section Lookups

variable {m : AList fun _ : α => β} {a a' : α} {b b' : β}

theorem mem_of_lookup_eq_some (h : m.lookup a = some b) : a ∈ m :=
  AList.lookup_isSome.mp (h ▸ rfl)

/-- An entry after an insertion is the new one, or an old one under another key. -/
theorem lookup_insert_eq_some_iff :
    (m.insert a b).lookup a' = some b' ↔ a' = a ∧ b' = b ∨ a' ≠ a ∧ m.lookup a' = some b' := by
  by_cases h : a' = a
  · subst h
    rw [AList.lookup_insert]
    simp [eq_comm]
  · rw [AList.lookup_insert_ne h]
    simp [h]

/-- An entry after a removal is an old one under another key. -/
theorem lookup_erase_eq_some_iff :
    (m.erase a).lookup a' = some b' ↔ a' ≠ a ∧ m.lookup a' = some b' := by
  by_cases h : a' = a
  · subst h
    rw [AList.lookup_erase]
    simp
  · rw [AList.lookup_erase_ne h]
    simp [h]

omit [DecidableEq α] in
/-- The map with every value changed. -/
def mapValues (f : α → β → β) (m : AList fun _ : α => β) : AList fun _ : α => β where
  entries := m.entries.map (Sigma.map id f)
  nodupKeys := m.nodupKeys.map₂ f m.entries

@[simp] theorem lookup_mapValues (f : α → β → β) (a : α) :
    (mapValues f m).lookup a = (m.lookup a).map (f a) :=
  List.dlookup_map₂ a

end Lookups

/-! ### Lists of entries -/

/-- The list has the entries of the map, each key once. -/
structure Lists (m : AList fun _ : α => β) (l : List (α × β)) : Prop where
  nodup : (l.map Prod.fst).Nodup
  lookup : ∀ a b, m.lookup a = some b ↔ (a, b) ∈ l

variable {m : AList fun _ : α => β} {l : List (α × β)} {a : α} {b : β}

theorem lists_empty : Lists (∅ : AList fun _ : α => β) [] where
  nodup := List.nodup_nil
  lookup := fun _ _ => by simp

theorem Lists.mem_iff (h : Lists m l) (a : α) : a ∈ m ↔ a ∈ l.map Prod.fst := by
  rw [← AList.lookup_isSome, Option.isSome_iff_exists, List.mem_map]
  constructor
  · rintro ⟨b, hb⟩
    exact ⟨(a, b), (h.lookup a b).mp hb, rfl⟩
  · rintro ⟨⟨a', b⟩, hb, rfl⟩
    exact ⟨b, (h.lookup _ b).mpr hb⟩

/-- A new key is written and listed. -/
theorem Lists.insert (h : Lists m l) (ha : a ∉ m) : Lists (m.insert a b) (l ++ [(a, b)]) := by
  have hnot : a ∉ l.map Prod.fst := fun hmem => ha ((h.mem_iff a).mpr hmem)
  refine ⟨?_, fun a' b' => ?_⟩
  · rw [List.map_append, List.nodup_append]
    refine ⟨h.nodup, List.nodup_singleton a, ?_⟩
    rintro c hc d hd rfl
    have hca : c = a := List.mem_singleton.mp hd
    exact hnot (hca ▸ hc)
  · rw [List.mem_append, List.mem_singleton, lookup_insert_eq_some_iff, h.lookup, Prod.mk.injEq]
    constructor
    · rintro (hnew | ⟨-, hmem⟩)
      · exact .inr hnew
      · exact .inl hmem
    · rintro (hmem | hnew)
      · refine .inr ⟨?_, hmem⟩
        rintro rfl
        exact hnot (List.mem_map_of_mem hmem)
      · exact .inl hnew

/-- The entries of a list without one key. -/
theorem mem_eraseP_iff (h : (l.map Prod.fst).Nodup) (a' : α) (b' : β) :
    (a', b') ∈ l.eraseP (fun e => e.1 = a) ↔ (a', b') ∈ l ∧ a' ≠ a := by
  induction l with
  | nil => simp
  | cons e l ih =>
    obtain ⟨c, d⟩ := e
    rw [List.map_cons, List.nodup_cons] at h
    by_cases hc : c = a
    · subst hc
      rw [List.eraseP_cons_of_pos (by simp), List.mem_cons]
      constructor
      · intro hmem
        refine ⟨.inr hmem, ?_⟩
        rintro rfl
        exact h.1 (List.mem_map.mpr ⟨_, hmem, rfl⟩)
      · rintro ⟨heq | hmem, hne⟩
        · exact absurd (Prod.mk.inj heq).1 hne
        · exact hmem
    · rw [List.eraseP_cons_of_neg (by simpa using hc), List.mem_cons, List.mem_cons, ih h.2]
      constructor
      · rintro (heq | ⟨hmem, hne⟩)
        · exact ⟨.inl heq, (Prod.mk.inj heq).1 ▸ hc⟩
        · exact ⟨.inr hmem, hne⟩
      · rintro ⟨heq | hmem, hne⟩
        · exact .inl heq
        · exact .inr ⟨hmem, hne⟩

/-- A key is erased from both. -/
theorem Lists.erase (h : Lists m l) (a : α) :
    Lists (m.erase a) (l.eraseP fun e => e.1 = a) := by
  refine ⟨(List.eraseP_sublist.map Prod.fst).nodup h.nodup, fun a' b' => ?_⟩
  rw [mem_eraseP_iff h.nodup, lookup_erase_eq_some_iff, h.lookup, and_comm]

/-- A key that is not there is erased from the map. -/
theorem Lists.erase_of_notMem (h : Lists m l) (ha : a ∉ m) : Lists (m.erase a) l := by
  refine ⟨h.nodup, fun a' b' => ?_⟩
  rw [lookup_erase_eq_some_iff, h.lookup]
  refine and_iff_right_of_imp ?_
  rintro hmem rfl
  exact ha (mem_of_lookup_eq_some ((h.lookup a' b').mpr hmem))

/-- A new key is written only. -/
theorem Lists.not_insert (h : Lists m l) (ha : a ∉ m) : ¬ Lists (m.insert a b) l := by
  intro h'
  exact ha ((h.mem_iff a).mpr ((h'.mem_iff a).mp ((AList.mem_insert _).mpr (.inl rfl))))

/-- A key is erased from the map only. -/
theorem Lists.not_erase (h : Lists m l) (ha : a ∈ m) : ¬ Lists (m.erase a) l := by
  intro h'
  exact (AList.mem_erase.mp ((h'.mem_iff a).mpr ((h.mem_iff a).mp ha))).1 rfl

/-- A key is erased from the list only. -/
theorem Lists.not_eraseP (h : Lists m l) (ha : a ∈ m) :
    ¬ Lists m (l.eraseP fun e => e.1 = a) := by
  intro h'
  obtain ⟨⟨a', b⟩, hmem, rfl⟩ := List.mem_map.mp ((h'.mem_iff a).mp ha)
  exact ((mem_eraseP_iff h.nodup a' b).mp hmem).2 rfl

end Lib
end CkbP2P

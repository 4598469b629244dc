import CkbP2P.Lib.TextOrder
import CkbP2P.Tentacle.ProtocolSelect

/-!
# The version that is selected

`select_version` walks through two lists from their ends.  As long as the two versions it
looks at differ, it drops the greater one.  When the lists ascend, all that is left of the
other list is smaller than what is dropped, so what is dropped is not common to both.
-/

namespace CkbP2P
namespace Tentacle

open Lib

section Select

variable {α : Type*} [Ord α] [Std.LawfulEqOrd α]

/-- A list in ascending order, with repetitions. -/
def Ascending (versions : List α) : Prop := versions.Pairwise fun v w => (compare v w).isLE

/-- The first element of a list that descends is the greatest. -/
theorem isLE_of_mem_cons {v w : α} {versions : List α}
    (h : (w :: versions).Pairwise fun v w => (compare w v).isLE) (hmem : v ∈ w :: versions) :
    (compare v w).isLE := by
  rcases List.mem_cons.mp hmem with rfl | hmem
  · exact Std.ReflOrd.isLE_rfl
  · exact List.rel_of_pairwise_cons h hmem

/-- What is smaller than the first element is not the first element. -/
theorem mem_of_lt_head {v w : α} {versions : List α} (hlt : compare v w = .lt)
    (hmem : v ∈ w :: versions) : v ∈ versions := by
  rcases List.mem_cons.mp hmem with rfl | hmem
  · rw [Std.ReflOrd.compare_self] at hlt
    cases hlt
  · exact hmem

variable [Std.TransOrd α] {locals remotes : List α}

/-- A common version is not dropped before one that is not smaller is returned. -/
theorem exists_of_selectLoop {v : α} (hlocals : locals.Pairwise fun v w => (compare w v).isLE)
    (hremotes : remotes.Pairwise fun v w => (compare w v).isLE) (hl : v ∈ locals)
    (hr : v ∈ remotes) : ∃ w, selectLoop locals remotes = some w ∧ (compare v w).isLE := by
  induction locals, remotes using selectLoop.induct with
  | case1 l locals r remotes hlt ih =>
    -- the version is at most `l`, and `r` is greater
    have hless : compare v r = .lt :=
      Std.TransCmp.lt_of_isLE_of_lt (isLE_of_mem_cons hlocals hl) hlt
    rw [selectLoop, hlt]
    exact ih hlocals hremotes.of_cons hl (mem_of_lt_head hless hr)
  | case2 l locals r remotes hgt ih =>
    have hless : compare v l = .lt :=
      Std.TransCmp.lt_of_isLE_of_lt (isLE_of_mem_cons hremotes hr)
        (Std.OrientedCmp.lt_of_gt hgt)
    rw [selectLoop, hgt]
    exact ih hlocals.of_cons hremotes (mem_of_lt_head hless hl) hr
  | case3 l locals r remotes heq =>
    rw [selectLoop, heq]
    exact ⟨l, rfl, isLE_of_mem_cons hlocals hl⟩
  | case4 locals remotes hnone =>
    -- one of the lists is empty
    obtain ⟨l, locals', rfl⟩ := List.exists_cons_of_ne_nil (List.ne_nil_of_mem hl)
    obtain ⟨r, remotes', rfl⟩ := List.exists_cons_of_ne_nil (List.ne_nil_of_mem hr)
    exact absurd rfl (hnone l locals' r remotes' rfl)

section Ascending

variable (hlocals : Ascending locals) (hremotes : Ascending remotes)

include hlocals hremotes

theorem exists_of_selectVersion {v : α} (hl : v ∈ locals) (hr : v ∈ remotes) :
    ∃ w, selectVersion locals remotes = some w ∧ (compare v w).isLE := by
  refine exists_of_selectLoop ?_ ?_ (List.mem_reverse.mpr hl) (List.mem_reverse.mpr hr)
  · exact List.pairwise_reverse.mpr hlocals
  · exact List.pairwise_reverse.mpr hremotes

/-- What is selected is the greatest common version. -/
theorem selectVersion_eq_some_iff (v : α) : selectVersion locals remotes = some v ↔
    (v ∈ locals ∧ v ∈ remotes) ∧ ∀ w, w ∈ locals → w ∈ remotes → (compare w v).isLE := by
  constructor
  · intro hselect
    refine ⟨mem_of_selectVersion hselect, fun w hl hr => ?_⟩
    obtain ⟨u, hu, hle⟩ := exists_of_selectVersion hlocals hremotes hl hr
    rw [hselect] at hu
    cases hu
    exact hle
  · rintro ⟨⟨hl, hr⟩, hgreatest⟩
    obtain ⟨w, hselect, hle⟩ := exists_of_selectVersion hlocals hremotes hl hr
    obtain ⟨hwl, hwr⟩ := mem_of_selectVersion hselect
    have heq : compare v w = .eq := Std.OrientedCmp.isLE_antisymm hle (hgreatest w hwl hwr)
    rw [hselect, Std.LawfulEqOrd.eq_of_compare heq]

/-- Nothing is selected exactly when the lists have nothing in common. -/
theorem selectVersion_eq_none_iff :
    selectVersion locals remotes = none ↔ locals.Disjoint remotes := by
  constructor
  · intro hnone v hl hr
    obtain ⟨w, hselect, -⟩ := exists_of_selectVersion hlocals hremotes hl hr
    rw [hnone] at hselect
    cases hselect
  · intro hdisjoint
    rw [Option.eq_none_iff_forall_ne_some]
    intro v hselect
    obtain ⟨hl, hr⟩ := mem_of_selectVersion hselect
    exact hdisjoint hl hr

end Ascending

end Select

/-! ### Versions as texts -/

theorem isLE_compare_iff (v w : String) : (compare v w).isLE ↔ strBytes v ≤ strBytes w := by
  rw [strBytes_le_iff]
  exact isLE_compareOfLessAndEq String.le_antisymm String.not_le String.le_total

theorem ascending_iff (versions : List String) :
    Ascending versions ↔ versions.Pairwise fun v w => strBytes v ≤ strBytes w := by
  simp only [Ascending, isLE_compare_iff]

/-- **The selection of a version.**  What is selected is listed by both sides.  When both lists
ascend in the order of the bytes, with or without repetitions, it is the greatest version both
sides list, and nothing is selected exactly when they list nothing in common. -/
theorem selectVersion_greatest (locals remotes : List String) :
    (∀ v, selectVersion locals remotes = some v → v ∈ locals ∧ v ∈ remotes) ∧
      (locals.Pairwise (fun v w => strBytes v ≤ strBytes w) →
        remotes.Pairwise (fun v w => strBytes v ≤ strBytes w) →
        (∀ v, selectVersion locals remotes = some v ↔ (v ∈ locals ∧ v ∈ remotes) ∧
          ∀ w, w ∈ locals → w ∈ remotes → strBytes w ≤ strBytes v) ∧
        (selectVersion locals remotes = none ↔ locals.Disjoint remotes)) := by
  refine ⟨fun v => mem_of_selectVersion, fun hlocals hremotes => ?_⟩
  rw [← ascending_iff] at hlocals hremotes
  refine ⟨fun v => ?_, selectVersion_eq_none_iff hlocals hremotes⟩
  rw [selectVersion_eq_some_iff hlocals hremotes]
  simp only [isLE_compare_iff]

/-- With repetitions on both sides. -/
theorem selectVersion_greatest_repeated :
    selectVersion ["1.0.0", "1.0.0", "1.1.1", "2.0.0"] ["1.0.0", "2.0.0", "2.0.0", "3.0.0"]
      = some "2.0.0" := by
  have hselect := ((selectVersion_greatest ["1.0.0", "1.0.0", "1.1.1", "2.0.0"]
    ["1.0.0", "2.0.0", "2.0.0", "3.0.0"]).2 (by decide +kernel) (by decide +kernel)).1 "2.0.0"
  exact hselect.mpr (by decide +kernel)

end Tentacle
end CkbP2P

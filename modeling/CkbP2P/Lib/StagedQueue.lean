import Mathlib.Data.List.Basic

/-!
# Queues into which values are put in two steps

A writer first takes the place at the end of the queue, and only then makes its value visible.
Between the two steps the reader can tell that the queue is not empty, but it can get neither at
the value nor at what comes after it.

* `Staged` — a value in its place, and the writer that has yet to make it visible.
* `reserve`, `publish` — the two steps of a writer.
* `values`, `Writers` — what is in the queue, and who is between the two steps.
* `Ready` — the reader can get at the first value.
* `Writers.reserve`, `Writers.publish` — the two steps add a writer, and remove it.
-/

namespace CkbP2P
namespace Lib

/-- A value in its place, and the writer that has yet to make it visible. -/
structure Staged (ι α : Type*) where
  value : α
  writer : Option ι
  deriving DecidableEq, Repr

namespace StagedQueue

variable {ι α : Type*}

/-- A writer takes the place at the end. -/
def reserve (q : List (Staged ι α)) (t : ι) (v : α) : List (Staged ι α) := q ++ [⟨v, some t⟩]

/-- A writer makes its value visible. -/
def publish [DecidableEq ι] (q : List (Staged ι α)) (t : ι) : List (Staged ι α) :=
  q.map fun s => if s.writer = some t then { s with writer := none } else s

/-- What is in the queue. -/
def values (q : List (Staged ι α)) : List α := q.map Staged.value

/-- What every writer between the two steps satisfies. -/
def Writers (q : List (Staged ι α)) (f : ι → Prop) : Prop := ∀ s ∈ q, ∀ t, s.writer = some t → f t

/-- There is a value that the reader can get at. -/
def Ready : List (Staged ι α) → Prop
  | ⟨_, none⟩ :: _ => True
  | _ => False

@[simp] theorem values_nil : values ([] : List (Staged ι α)) = [] := rfl

@[simp] theorem values_cons (s : Staged ι α) (q : List (Staged ι α)) :
    values (s :: q) = s.value :: values q := rfl

@[simp] theorem length_values (q : List (Staged ι α)) : (values q).length = q.length :=
  List.length_map _

@[simp] theorem length_reserve (q : List (Staged ι α)) (t : ι) (v : α) :
    (reserve q t v).length = q.length + 1 := by
  simp [reserve]

@[simp] theorem length_publish [DecidableEq ι] (q : List (Staged ι α)) (t : ι) :
    (publish q t).length = q.length := List.length_map _

theorem Ready.exists_cons {q : List (Staged ι α)} (h : Ready q) :
    ∃ v rest, q = ⟨v, none⟩ :: rest := by
  match q, h with
  | ⟨v, none⟩ :: rest, _ => exact ⟨v, rest, rfl⟩

theorem Writers.mono {q q' : List (Staged ι α)} {f f' : ι → Prop} (h : Writers q f)
    (hq : ∀ s ∈ q', s ∈ q) (hf : ∀ t, f t → f' t) : Writers q' f' :=
  fun s hs t ht => hf t (h s (hq s hs) t ht)

theorem Writers.reserve {q : List (Staged ι α)} {f f' : ι → Prop} {t : ι} (h : Writers q f)
    (hf : ∀ t, f t → f' t) (ht : f' t) (v : α) : Writers (reserve q t v) f' := by
  intro s hs t' ht'
  rcases List.mem_append.mp hs with hmem | hnew
  · exact hf t' (h s hmem t' ht')
  · rw [List.mem_singleton.mp hnew] at ht'
    cases ht'
    exact ht

/-- Whoever is still between the two steps is another writer. -/
theorem Writers.publish [DecidableEq ι] {q : List (Staged ι α)} {f f' : ι → Prop} {t : ι}
    (h : Writers q f) (hf : ∀ t', t' ≠ t → f t' → f' t') : Writers (publish q t) f' := by
  intro s hs t' ht'
  obtain ⟨s₀, hs₀, rfl⟩ := List.mem_map.mp hs
  split_ifs at ht' with hwriter
  refine hf t' ?_ (h s₀ hs₀ t' ht')
  rintro rfl
  exact hwriter ht'

/-- A queue without writers between the two steps. -/
theorem Writers.writer_eq_none {q : List (Staged ι α)} (h : Writers q fun _ => False)
    {s : Staged ι α} (hs : s ∈ q) : s.writer = none :=
  Option.eq_none_iff_forall_ne_some.mpr fun t ht => h s hs t ht

@[simp] theorem values_reserve (q : List (Staged ι α)) (t : ι) (v : α) :
    values (reserve q t v) = values q ++ [v] := by
  simp [values, reserve]

@[simp] theorem values_publish [DecidableEq ι] (q : List (Staged ι α)) (t : ι) :
    values (publish q t) = values q := by
  unfold values publish
  rw [List.map_map]
  refine List.map_congr_left fun s _ => ?_
  simp only [Function.comp_apply]
  split_ifs <;> rfl

end StagedQueue

end Lib
end CkbP2P

import Mathlib.Data.Stream.Init
import Mathlib.Data.List.Basic

/-!
# Blocks written into a buffer

A buffer is filled from its front with blocks of items, the last of which may be cut off.
What it then holds is the beginning of the infinite stream of all the blocks.  Both ends of
a slice are checked when it is taken, as are the two lengths when one slice is copied to
another.
-/

namespace CkbP2P
namespace Lib
namespace Blocks

variable {β : Type*}

/-! ### Slices -/

/-- The items from `i` to `j`, when these are in range. -/
def slice (items : List β) (i j : ℕ) : Option (List β) :=
  if i ≤ j ∧ j ≤ items.length then some ((items.take j).drop i) else none

/-- Write `source` over the items from `i` to `j`, when these are in range and the lengths
are the same. -/
def copyFromSlice (items : List β) (i j : ℕ) (source : List β) : Option (List β) :=
  if i ≤ j ∧ j ≤ items.length ∧ source.length = j - i then
    some (items.take i ++ source ++ items.drop j)
  else none

theorem slice_front {items : List β} {n : ℕ} (h : n ≤ items.length) :
    slice items 0 n = some (items.take n) := by
  rw [slice, if_pos ⟨Nat.zero_le n, h⟩, List.drop_zero]

/-- **A copy lengthens the front** that is filled. -/
theorem copyFromSlice_front {front rest source : List β} (h : source.length ≤ rest.length) :
    copyFromSlice (front ++ rest) front.length (front.length + source.length) source
      = some ((front ++ source) ++ rest.drop source.length) := by
  have hrange : front.length + source.length ≤ (front ++ rest).length := by
    rw [List.length_append]
    omega
  rw [copyFromSlice, if_pos ⟨Nat.le_add_right _ _, hrange, by omega⟩, List.take_left',
    List.drop_append, List.drop_of_length_le (Nat.le_add_right _ _), List.nil_append,
    Nat.add_sub_cancel_left]
  rfl

/-! ### Blocks one after the other -/

/-- The first `k` blocks. -/
def concat (block : ℕ → List β) (k : ℕ) : List β := (List.range k).flatMap block

theorem concat_succ (block : ℕ → List β) (k : ℕ) :
    concat block (k + 1) = concat block k ++ block k := by
  rw [concat, List.range_succ, List.flatMap_append, List.flatMap_singleton]
  rfl

theorem concat_isPrefix (block : ℕ → List β) {k m : ℕ} (h : k ≤ m) :
    concat block k <+: concat block m := by
  induction m, h using Nat.le_induction with
  | base => exact List.prefix_rfl
  | succ m _ ih =>
    rw [concat_succ]
    exact ih.trans (List.prefix_append _ _)

/-- Blocks that are not empty reach every length. -/
theorem le_length_concat {block : ℕ → List β} (hne : ∀ i, block i ≠ []) (k : ℕ) :
    k ≤ (concat block k).length := by
  induction k with
  | zero => exact Nat.zero_le _
  | succ k ih =>
    have hpos := List.length_pos_iff.mpr (hne k)
    rw [concat_succ, List.length_append]
    omega

variable [Inhabited β]

/-- All the blocks. -/
def stream (block : ℕ → List β) : Stream' β := fun i => (concat block (i + 1)).getD i default

/-- **The beginning of the stream** is that of any number of blocks that reach so far. -/
theorem take_stream {block : ℕ → List β} (hne : ∀ i, block i ≠ []) {n k : ℕ}
    (h : n ≤ (concat block k).length) : (stream block).take n = (concat block k).take n := by
  apply List.ext_getElem?
  intro i
  rcases Nat.lt_or_ge i n with hi | hi
  · -- both of `concat block (i + 1)` and `concat block k` reach position `i`
    have hreach : i < (concat block (i + 1)).length := le_length_concat hne (i + 1)
    have hsame : (concat block (i + 1))[i]? = (concat block k)[i]? := by
      rcases Nat.le_total (i + 1) k with hle | hle
      · rw [List.prefix_iff_getElem?.mp (concat_isPrefix block hle) i hreach,
          List.getElem?_eq_getElem hreach]
      · rw [List.prefix_iff_getElem?.mp (concat_isPrefix block hle) i (Nat.lt_of_lt_of_le hi h),
          List.getElem?_eq_getElem (Nat.lt_of_lt_of_le hi h)]
    rw [Stream'.getElem?_take hi, List.getElem?_take_of_lt hi, ← hsame]
    change some ((concat block (i + 1)).getD i default) = _
    rw [List.getD_eq_getElem?_getD, List.getElem?_eq_getElem hreach, Option.getD_some]
  · rw [List.getElem?_eq_none (by rw [Stream'.length_take]; exact hi),
      List.getElem?_eq_none (by rw [List.length_take]; omega)]

/-- The stream is the blocks one after the other. -/
theorem take_length_concat {block : ℕ → List β} (hne : ∀ i, block i ≠ []) (k : ℕ) :
    (stream block).take (concat block k).length = concat block k := by
  rw [take_stream hne le_rfl, List.take_length]

omit [Inhabited β] in
/-- A shorter beginning is the beginning of a longer one. -/
theorem take_isPrefix (s : Stream' β) {m n : ℕ} (h : m ≤ n) : s.take m <+: s.take n := by
  rw [← Nat.min_eq_right h, ← Stream'.take_take]
  exact List.take_prefix _ _

end Blocks
end Lib
end CkbP2P

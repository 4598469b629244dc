import Mathlib.Data.Nat.Digits.Defs
import Mathlib.Data.Nat.ModEq
import CkbP2P.Lib.Bytes

/-!
# Counters

A counter modulo `N` is a function `next` with a numbering of its states under which it
adds one modulo `N`.  Its states do not come back before `N` steps.

Byte strings are numbered by the number they write in base 256, with the lowest byte
first.
-/

namespace CkbP2P
namespace Lib

section Counts

variable {α : Type*} {next : α → α} {value : α → ℕ} {N : ℕ} {S : α → Prop}

/-- `next` counts modulo `N` on the states in `S`, numbered by `value`. -/
structure Counts (next : α → α) (value : α → ℕ) (N : ℕ) (S : α → Prop) : Prop where
  closed : ∀ a, S a → S (next a)
  bounded : ∀ a, S a → value a < N
  succ : ∀ a, S a → value (next a) = (value a + 1) % N

namespace Counts

theorem iterate (h : Counts next value N S) {a : α} (ha : S a) (i : ℕ) : S (next^[i] a) := by
  induction i generalizing a with
  | zero => exact ha
  | succ i ih => exact ih (h.closed a ha)

/-- Where a counter is after `i` steps. -/
theorem value_iterate (h : Counts next value N S) {a : α} (ha : S a) (i : ℕ) :
    value (next^[i] a) = (value a + i) % N := by
  induction i with
  | zero => exact (Nat.mod_eq_of_lt (h.bounded a ha)).symm
  | succ i ih =>
    rw [Function.iterate_succ_apply', h.succ _ (h.iterate ha i), ih, Nat.mod_add_mod, add_assoc]

/-- **A counter does not come back before `N` steps.** -/
theorem iterate_ne (h : Counts next value N S) {a : α} (ha : S a) {i j : ℕ} (hij : i < j)
    (hj : j < i + N) : next^[i] a ≠ next^[j] a := by
  intro heq
  have hvalue := congrArg value heq
  rw [h.value_iterate ha, h.value_iterate ha] at hvalue
  -- the difference of the two positions would be a multiple of `N` below `N`
  have hmod : Nat.ModEq N (value a + i) (value a + j) := hvalue
  have hdvd : N ∣ j - i := (Nat.modEq_iff_dvd' hij.le).mp (Nat.ModEq.add_left_cancel' _ hmod)
  have hle := Nat.le_of_dvd (by omega) hdvd
  omega

/-- **When a counter is where it was**, if its states are known by their numbers. -/
theorem iterate_eq_iff (h : Counts next value N S)
    (hinj : ∀ a b, S a → S b → value a = value b → a = b) {a : α} (ha : S a) {i j : ℕ}
    (hij : i ≤ j) : next^[i] a = next^[j] a ↔ N ∣ j - i := by
  have hvalue : value (next^[i] a) = value (next^[j] a) ↔ N ∣ j - i := by
    rw [h.value_iterate ha, h.value_iterate ha, ← Nat.modEq_iff_dvd' hij]
    exact ⟨Nat.ModEq.add_left_cancel' _, Nat.ModEq.add_left _⟩
  rw [← hvalue]
  exact ⟨congrArg value, hinj _ _ (h.iterate ha i) (h.iterate ha j)⟩

end Counts

end Counts

/-! ### Numbers with the lowest byte first -/

/-- The number a byte string writes, with the lowest byte first. -/
def leValue (b : Bytes) : ℕ := Nat.ofDigits 256 (b.map UInt8.toNat)

@[simp] theorem leValue_nil : leValue [] = 0 := rfl

@[simp] theorem leValue_cons (a : UInt8) (b : Bytes) :
    leValue (a :: b) = a.toNat + 256 * leValue b := by
  simp [leValue, Nat.ofDigits_cons]

theorem leValue_lt (b : Bytes) : leValue b < 256 ^ b.length := by
  have h := Nat.ofDigits_lt_base_pow_length (b := 256) (l := b.map UInt8.toNat) (by omega) (by
    intro x hx
    obtain ⟨a, -, rfl⟩ := List.mem_map.mp hx
    exact a.toNat_lt)
  rwa [List.length_map] at h

/-- Byte strings of one length are known by their numbers. -/
theorem leValue_inj {a b : Bytes} (hlength : a.length = b.length) (h : leValue a = leValue b) :
    a = b := by
  have hdigits : ∀ c : Bytes, ∀ x ∈ c.map UInt8.toNat, x < 256 := by
    intro c x hx
    obtain ⟨u, -, rfl⟩ := List.mem_map.mp hx
    exact u.toNat_lt
  have hmap := Nat.ofDigits_inj_of_len_eq (by omega : 1 < 256)
    (by rw [List.length_map, List.length_map, hlength]) (hdigits a) (hdigits b) h
  exact List.map_injective_iff.mpr (fun _ _ => UInt8.toNat_inj.mp) hmap

end Lib
end CkbP2P

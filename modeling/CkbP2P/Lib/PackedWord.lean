import Mathlib.Data.Nat.Bitwise

/-!
# A flag and a number in one word

The highest bit of a machine word is a flag, and the bits below it are a number.  The number is
changed by arithmetic on the whole word, which leaves the flag alone as long as the number does
not leave its range; the flag is changed with masks, which leave the number alone.

* `flagMask` — the word with the flag only; its complement has all the other bits.
* `Holds x flag n` — the word `x` has this flag and this number.
* `Holds.flag_iff`, `Holds.toNat_count` — what the masks read.
* `holds_count`, `holds_or` — a word is put together.
* `Holds.sub_one`, `Holds.clear` — the number is decreased, the flag is cleared.
-/

namespace CkbP2P
namespace Lib
namespace PackedWord

variable {w : ℕ}

/-- The word with the highest bit only. -/
def flagMask (w : ℕ) : BitVec (w + 1) := BitVec.twoPow (w + 1) w

theorem toNat_flagMask (w : ℕ) : (flagMask w).toNat = 2 ^ w := by
  rw [flagMask, BitVec.toNat_twoPow, Nat.mod_eq_of_lt (Nat.pow_lt_pow_succ Nat.one_lt_two)]

theorem toNat_not_flagMask (w : ℕ) : (~~~flagMask w).toNat = 2 ^ w - 1 := by
  rw [BitVec.toNat_not, toNat_flagMask, Nat.pow_succ]
  omega

/-- The word `x` has this flag and this number. -/
structure Holds (x : BitVec (w + 1)) (flag : Bool) (n : ℕ) : Prop where
  lt : n < 2 ^ w
  toNat_eq : x.toNat = n + if flag then 2 ^ w else 0

variable {x : BitVec (w + 1)} {flag : Bool} {n : ℕ}

theorem holds_flagMask (w : ℕ) : Holds (flagMask w) true 0 where
  lt := Nat.two_pow_pos w
  toNat_eq := by simp [toNat_flagMask]

/-- The mask reads the number. -/
theorem Holds.toNat_count (h : Holds x flag n) : (x &&& ~~~flagMask w).toNat = n := by
  rw [BitVec.toNat_and, toNat_not_flagMask, Nat.and_two_pow_sub_one_eq_mod, h.toNat_eq]
  cases flag with
  | false => simpa using Nat.mod_eq_of_lt h.lt
  | true => simpa using Nat.mod_eq_of_lt h.lt

/-- The mask reads the flag. -/
theorem Holds.flag_iff (h : Holds x flag n) : x &&& flagMask w = flagMask w ↔ flag = true := by
  have hbit : x.toNat.testBit w = flag := by
    rw [h.toNat_eq]
    cases flag with
    | false => simpa using Nat.testBit_lt_two_pow h.lt
    | true =>
      rw [if_pos rfl, Nat.add_comm, Nat.testBit_two_pow_add_eq, Nat.testBit_lt_two_pow h.lt]
      rfl
  have hpos := Nat.two_pow_pos w
  rw [← BitVec.toNat_inj, BitVec.toNat_and, toNat_flagMask, Nat.and_two_pow, hbit]
  cases flag with
  | false => simpa using hpos.ne
  | true => simp

/-- A number on its own. -/
theorem holds_count (h : x.toNat < 2 ^ w) : Holds x false x.toNat where
  lt := h
  toNat_eq := by simp

/-- The flag is added to a number. -/
theorem holds_or (h : x.toNat < 2 ^ w) : Holds (x ||| flagMask w) true x.toNat where
  lt := h
  toNat_eq := by
    have hor := Nat.two_pow_add_eq_or_of_lt h 1
    rw [Nat.mul_one] at hor
    rw [BitVec.toNat_or, toNat_flagMask, Nat.or_comm, if_pos rfl, ← hor]
    exact Nat.add_comm _ _

/-- The number is decreased, and the flag stays. -/
theorem Holds.sub_one (h : Holds x flag n) (hn : n ≠ 0) : Holds (x - 1) flag (n - 1) where
  lt := by
    have hlt := h.lt
    omega
  toNat_eq := by
    have hone : (1 : BitVec (w + 1)).toNat = 1 := by simp
    have hle : (1 : BitVec (w + 1)) ≤ x := by
      rw [BitVec.le_def, hone, h.toNat_eq]
      omega
    rw [BitVec.toNat_sub_of_le hle, hone, h.toNat_eq]
    omega

/-- The flag is cleared, and the number stays. -/
theorem Holds.clear (h : Holds x flag n) : Holds (x &&& ~~~flagMask w) false n := by
  have hcount := h.toNat_count
  refine ⟨h.lt, ?_⟩
  simp [hcount]

end PackedWord
end Lib
end CkbP2P

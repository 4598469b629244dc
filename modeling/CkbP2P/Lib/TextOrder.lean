import Mathlib.Data.String.Basic
import CkbP2P.Lib.Bytes

/-!
# The order of texts is the order of their bytes

Texts are compared character by character, or byte by byte.  In UTF-8 this is the same: of two
characters, the smaller one has the smaller bytes, and the bytes differ before either
character ends.
-/

namespace CkbP2P
namespace Lib

/-- A number is smaller by what stands before its last digit, or by its last digit. -/
theorem digits_lt {v w : ℕ} (h : v < w) :
    v / 64 < w / 64 ∨ v / 64 = w / 64 ∧ v % 64 < w % 64 := by
  omega

/-- The same one digit further up. -/
theorem digits_div_lt {v w k : ℕ} (h : v / k < w / k) :
    v / (k * 64) < w / (k * 64) ∨ v / (k * 64) = w / (k * 64) ∧ v / k % 64 < w / k % 64 := by
  rw [← Nat.div_div_eq_div_mul, ← Nat.div_div_eq_div_mul]
  exact digits_lt h

/-- A number is smaller by the first of its digits that differs. -/
theorem four_digits_lt {v w : ℕ} (h : v < w) :
    v / 262144 < w / 262144 ∨ v / 262144 = w / 262144 ∧
      (v / 4096 % 64 < w / 4096 % 64 ∨ v / 4096 % 64 = w / 4096 % 64 ∧
        (v / 64 % 64 < w / 64 % 64 ∨ v / 64 % 64 = w / 64 % 64 ∧ v % 64 < w % 64)) := by
  rcases digits_lt h with hlt | ⟨heq, hlast⟩
  · rcases digits_div_lt hlt with hlt | ⟨heq, hthird⟩
    · rcases digits_div_lt hlt with hfirst | ⟨heq, hsecond⟩
      · exact .inl hfirst
      · exact .inr ⟨heq, .inl hsecond⟩
    · have hfirst : v / 262144 = w / 262144 := by omega
      exact .inr ⟨hfirst, .inr ⟨congrArg (· % 64) heq, .inl hthird⟩⟩
  · have hsecond : v / 4096 = w / 4096 := by omega
    have hfirst : v / 262144 = w / 262144 := by omega
    exact .inr ⟨hfirst, .inr ⟨congrArg (· % 64) hsecond, .inr ⟨congrArg (· % 64) heq, hlast⟩⟩⟩

theorem toNat_lt_of_char (c : Char) : c.val.toNat < 1114112 := by
  have hvalid := c.valid
  simp only [UInt32.isValidChar, Nat.isValidChar] at hvalid
  omega

theorem cons_lt_of_lt {a b : ℕ} (h : a < b) (hb : b < 256) (bytes bytes' : Bytes) :
    UInt8.ofNat a :: bytes < UInt8.ofNat b :: bytes' := by
  refine List.cons_lt_cons_iff.mpr (.inl (UInt8.lt_iff_toNat_lt.mpr ?_))
  rw [UInt8.toNat_ofNat', UInt8.toNat_ofNat', Nat.mod_eq_of_lt hb, Nat.mod_eq_of_lt (h.trans hb)]
  exact h

theorem cons_lt_of_eq {a b : ℕ} {bytes bytes' : Bytes} (h : a = b) (hlt : bytes < bytes') :
    UInt8.ofNat a :: bytes < UInt8.ofNat b :: bytes' :=
  List.cons_lt_cons_iff.mpr (.inr ⟨congrArg UInt8.ofNat h, hlt⟩)

/-- The bytes of the smaller of two characters are smaller, whatever follows them. -/
theorem utf8EncodeChar_lt {c d : Char} (h : c < d) (more more' : Bytes) :
    String.utf8EncodeChar c ++ more < String.utf8EncodeChar d ++ more' := by
  have hlt : c.val.toNat < d.val.toNat := h
  have hbound := toNat_lt_of_char d
  simp only [String.utf8EncodeChar]
  generalize c.val.toNat = v at hlt ⊢
  generalize d.val.toNat = w at hlt hbound ⊢
  by_cases hfour : v ≤ 65535
  · -- between different lengths the first bytes differ
    split_ifs <;>
      simp only [List.cons_append, List.nil_append, List.cons_lt_cons_iff, UInt8.lt_iff_toNat_lt,
        ← UInt8.toNat_inj, UInt8.toNat_ofNat'] <;> omega
  · simp only [if_neg hfour, if_neg (show ¬v ≤ 2047 by omega), if_neg (show ¬v ≤ 127 by omega),
      if_neg (show ¬w ≤ 65535 by omega), if_neg (show ¬w ≤ 2047 by omega),
      if_neg (show ¬w ≤ 127 by omega), List.cons_append, List.nil_append]
    rcases four_digits_lt hlt with hfirst | ⟨hfirst, hsecond | ⟨hsecond, hthird | ⟨hthird, hlast⟩⟩⟩
    · exact cons_lt_of_lt (by omega) (by omega) _ _
    · exact cons_lt_of_eq (by omega) (cons_lt_of_lt (by omega) (by omega) _ _)
    · exact cons_lt_of_eq (by omega) (cons_lt_of_eq (by omega) (cons_lt_of_lt (by omega)
        (by omega) _ _))
    · exact cons_lt_of_eq (by omega) (cons_lt_of_eq (by omega) (cons_lt_of_eq (by omega)
        (cons_lt_of_lt (by omega) (by omega) _ _)))

theorem strBytes_eq_flatMap (s : String) : strBytes s = s.toList.flatMap String.utf8EncodeChar := by
  rw [strBytes, ← String.utf8Encode_toList, List.utf8Encode, List.toList_data_toByteArray]

theorem flatMap_lt_of_lt {l l' : List Char} (h : l < l') :
    l.flatMap String.utf8EncodeChar < l'.flatMap String.utf8EncodeChar := by
  induction h with
  | nil =>
    rename_i d l'
    obtain ⟨b, bytes, hbytes⟩ := List.exists_cons_of_ne_nil (String.utf8EncodeChar_ne_nil (c := d))
    rw [List.flatMap_cons, hbytes]
    exact List.nil_lt_cons b _
  | cons hlt ih =>
    rw [List.flatMap_cons, List.flatMap_cons]
    exact List.append_left_lt ih
  | rel hlt =>
    rw [List.flatMap_cons, List.flatMap_cons]
    exact utf8EncodeChar_lt hlt _ _

theorem strBytes_lt_of_lt {s t : String} (h : s < t) : strBytes s < strBytes t := by
  rw [strBytes_eq_flatMap, strBytes_eq_flatMap]
  exact flatMap_lt_of_lt (String.lt_iff_toList_lt.mp h)

/-- **Texts are ordered as their bytes are.** -/
theorem strBytes_le_iff (s t : String) : strBytes s ≤ strBytes t ↔ s ≤ t := by
  constructor
  · intro hle
    by_contra hnot
    exact absurd (strBytes_lt_of_lt (String.not_le.mp hnot)) (List.not_lt.mpr hle)
  · intro hle
    rcases eq_or_lt_of_le hle with rfl | hlt
    · exact List.le_refl _
    · exact List.le_of_lt (strBytes_lt_of_lt hlt)

end Lib
end CkbP2P

import CkbP2P.Lib.Bytes

/-!
# Texts with a separator

A text is cut at every occurrence of a separator; nothing escapes it.  When some parts without
the separator are written one after the other, each after a separator, the text is cut into the
empty text and these parts.

* `splitText` — the parts of a text.
* `splitText_of_toList` — **the parts that were written are found**.
* `length_le_of_mem_splitText` — a part is no longer than the text.
* `Format` — a way to write values without the separator, and to read them back.
* `hexFormat` — bytes as hexadecimal digits.
-/

namespace CkbP2P
namespace Lib

variable {sep : Char}

/-- The parts of a text. -/
def splitText (sep : Char) (s : String) : List String := (s.toList.splitOn sep).map String.ofList

theorem intercalate_cons (first : List Char) (parts : List (List Char)) :
    [sep].intercalate (first :: parts) = first ++ parts.flatMap (sep :: ·) := by
  induction parts generalizing first with
  | nil => simp [List.intercalate]
  | cons part parts ih =>
    have hrest := ih part
    simp only [List.intercalate, List.intersperse_cons_cons, List.flatten_cons] at hrest ⊢
    rw [hrest]
    rfl

/-- **The parts that were written are found.** -/
theorem splitText_of_toList {s : String} {parts : List String}
    (hs : s.toList = parts.flatMap fun part => sep :: part.toList)
    (hparts : ∀ part ∈ parts, sep ∉ part.toList) : splitText sep s = "" :: parts := by
  have hjoin : s.toList = [sep].intercalate ([] :: parts.map String.toList) := by
    rw [intercalate_cons, hs, List.flatMap_map]
    rfl
  have hfree : ∀ l ∈ [] :: parts.map String.toList, sep ∉ l := by
    intro l hl
    rcases List.mem_cons.mp hl with rfl | hl
    · exact List.not_mem_nil
    · obtain ⟨part, hpart, rfl⟩ := List.mem_map.mp hl
      exact hparts part hpart
  have hback : String.ofList ∘ String.toList = id := by
    funext part
    exact String.ofList_toList
  rw [splitText, hjoin, List.splitOn_intercalate sep hfree (List.cons_ne_nil _ _), List.map_cons,
    List.map_map, hback, List.map_id]

theorem notMem_of_mem_splitOn {cs l : List Char} (h : l ∈ cs.splitOn sep) : sep ∉ l := by
  induction cs generalizing l with
  | nil =>
    obtain rfl : l = [] := by simpa using h
    exact List.not_mem_nil
  | cons c cs ih =>
    rw [List.splitOn, List.splitOnP_cons_eq_if_modifyHead] at h
    split at h
    · rcases List.mem_cons.mp h with rfl | h
      · exact List.not_mem_nil
      · exact ih h
    · next hc =>
      -- the first part gets one more character, which is not the separator
      change l ∈ (cs.splitOn sep).modifyHead (List.cons c) at h
      cases hparts : cs.splitOn sep with
      | nil =>
        rw [hparts] at h
        cases h
      | cons first parts =>
        rw [hparts] at h ih
        rcases List.mem_cons.mp h with rfl | h
        · have hfirst := ih List.mem_cons_self
          rw [List.mem_cons]
          rintro (rfl | hmem)
          · exact hc (beq_self_eq_true _)
          · exact hfirst hmem
        · exact ih (List.mem_cons_of_mem first h)

/-- No part has the separator in it. -/
theorem notMem_of_mem_splitText {s part : String} (h : part ∈ splitText sep s) :
    sep ∉ part.toList := by
  obtain ⟨l, hl, rfl⟩ := List.mem_map.mp h
  rw [String.toList_ofList]
  exact notMem_of_mem_splitOn hl

/-- A part is somewhere in the text. -/
theorem exists_of_mem_splitText {s part : String} (h : part ∈ splitText sep s) :
    ∃ before after : String, s = before ++ part ++ after := by
  obtain ⟨l, hl, rfl⟩ := List.mem_map.mp h
  obtain ⟨front, back, hsplit⟩ : ∃ front back, s.toList = front ++ l ++ back := by
    cases hparts : s.toList.splitOn sep with
    | nil =>
      rw [hparts] at hl
      cases hl
    | cons first parts =>
      have hjoin : [sep].intercalate (s.toList.splitOn sep) = s.toList :=
        List.intercalate_splitOn sep
      rw [hparts, intercalate_cons] at hjoin
      rw [hparts] at hl
      rcases List.mem_cons.mp hl with rfl | hl
      · exact ⟨[], _, hjoin.symm⟩
      · obtain ⟨some, others, rfl⟩ := List.append_of_mem hl
        refine ⟨first ++ some.flatMap (sep :: ·) ++ [sep], others.flatMap (sep :: ·), ?_⟩
        rw [← hjoin, List.flatMap_append, List.flatMap_cons]
        simp
  refine ⟨String.ofList front, String.ofList back, ?_⟩
  rw [← String.toList_inj, String.toList_append, String.toList_append, String.toList_ofList,
    String.toList_ofList, String.toList_ofList, hsplit]

theorem strBytes_append (s t : String) : strBytes (s ++ t) = strBytes s ++ strBytes t := by
  simp [strBytes, String.toByteArray_append]

/-- A part is no longer than the text. -/
theorem length_le_of_mem_splitText {s part : String} (h : part ∈ splitText sep s) :
    (strBytes part).length ≤ (strBytes s).length := by
  obtain ⟨before, after, rfl⟩ := exists_of_mem_splitText h
  rw [strBytes_append, strBytes_append, List.length_append, List.length_append]
  omega

/-- A way to write values without the separator, and to read them back. -/
structure Format (sep : Char) (α : Type) where
  display : α → String
  parse : String → Option α
  parse_display : ∀ a, parse (display a) = some a
  notMem_display : ∀ a, sep ∉ (display a).toList

/-- A format for values that can be turned into values with a format, and back. -/
def Format.via {α β : Type} (F : Format sep α) (turn : β → α) (back : α → Option β)
    (h : ∀ b, back (turn b) = some b) : Format sep β where
  display b := F.display (turn b)
  parse s := (F.parse s).bind back
  parse_display b := by rw [F.parse_display, Option.bind_some, h]
  notMem_display b := F.notMem_display (turn b)

/-! ### Bytes as hexadecimal digits -/

def hexDigit (n : ℕ) : Char := if n < 10 then Char.ofNat (48 + n) else Char.ofNat (87 + n)

def hexValue (c : Char) : Option ℕ := (List.range 16).find? fun n => hexDigit n == c

def hexDigits (b : UInt8) : List Char := [hexDigit (b.toNat / 16), hexDigit (b.toNat % 16)]

def hexParse : List Char → Option Bytes
  | [] => some []
  | [_] => none
  | high :: low :: cs => do
    let h ← hexValue high
    let l ← hexValue low
    let bytes ← hexParse cs
    some (UInt8.ofNat (h * 16 + l) :: bytes)

theorem hexValue_hexDigit : ∀ n < 16, hexValue (hexDigit n) = some n := by decide

theorem hexParse_hexDigits (bytes : Bytes) : hexParse (bytes.flatMap hexDigits) = some bytes := by
  induction bytes with
  | nil => rfl
  | cons b bytes ih =>
    have hb := b.toNat_lt
    have hhigh := hexValue_hexDigit (b.toNat / 16) (by omega)
    have hlow := hexValue_hexDigit (b.toNat % 16) (by omega)
    have hback : b.toNat / 16 * 16 + b.toNat % 16 = b.toNat := by omega
    simp only [List.flatMap_cons, hexDigits, List.cons_append, List.nil_append, hexParse]
    rw [hhigh, hlow, ih]
    simp only [Option.bind_eq_bind, Option.bind_some, hback, UInt8.ofNat_toNat]

/-- The format of bytes as hexadecimal digits, for a separator that is none of them. -/
def hexFormat (h : ∀ n < 16, hexDigit n ≠ sep) : Format sep Bytes where
  display bytes := String.ofList (bytes.flatMap hexDigits)
  parse s := hexParse s.toList
  parse_display bytes := by rw [String.toList_ofList, hexParse_hexDigits]
  notMem_display bytes := by
    rw [String.toList_ofList]
    intro hmem
    obtain ⟨b, -, hmem⟩ := List.mem_flatMap.mp hmem
    have hb := b.toNat_lt
    rcases List.mem_pair.mp hmem with heq | heq
    · exact h (b.toNat / 16) (by omega) heq.symm
    · exact h (b.toNat % 16) (by omega) heq.symm

end Lib
end CkbP2P

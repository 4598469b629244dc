import Mathlib.Data.List.Basic

/-!
# Switching on and off

A row of switches turns something on (`true`) and off (`false`).  Turning on is for what is
off, and turning off for what is on; in a lax row, what is off may be turned off again.
-/

namespace CkbP2P
namespace Lib

/-- The state a row of switches ends in. -/
def follow (lax : Bool) : Bool → List Bool → Option Bool
  | b, [] => some b
  | b, true :: ms => if b then none else follow lax true ms
  | b, false :: ms => if b || lax then follow lax false ms else none

theorem follow_append (lax b : Bool) (ms ms' : List Bool) :
    follow lax b (ms ++ ms') = (follow lax b ms).bind fun b => follow lax b ms' := by
  induction ms generalizing b with
  | nil => rfl
  | cons m ms ih =>
    cases m with
    | true =>
      simp only [List.cons_append, follow]
      split
      · rfl
      · exact ih true
    | false =>
      simp only [List.cons_append, follow]
      split
      · exact ih false
      · rfl

theorem follow_lax {lax lax' b c : Bool} {ms : List Bool} (hlax : lax = true → lax' = true)
    (h : follow lax b ms = some c) : follow lax' b ms = some c := by
  induction ms generalizing b with
  | nil => exact h
  | cons m ms ih =>
    cases m with
    | true =>
      simp only [follow] at h ⊢
      split at h
      · cases h
      · next hb =>
        rw [if_neg hb]
        exact ih h
    | false =>
      simp only [follow] at h ⊢
      split at h
      · next hb =>
        have hb' : (b || lax') = true := by
          rcases Bool.or_eq_true_iff.mp hb with hon | hlaxOn
          · rw [hon, Bool.true_or]
          · rw [hlax hlaxOn, Bool.or_true]
        rw [if_pos hb']
        exact ih h
      · cases h

/-- A lax row that ends off may find off what it was to turn off. -/
theorem follow_off {b : Bool} {ms : List Bool} (h : follow true b ms = some false) :
    follow true false ms = some false := by
  cases b with
  | false => exact h
  | true =>
    cases ms with
    | nil => cases h
    | cons m ms =>
      cases m with
      | true => cases h
      | false => exact h

/-- A row that goes on with one more switch. -/
theorem follow_snoc {lax b c m : Bool} {ms : List Bool} (h : follow lax b ms = some c)
    (hne : m = !c) : follow lax b (ms ++ [m]) = some m := by
  rw [follow_append, h, hne]
  cases c <;> rfl

/-- What is on is turned off first if it is `gone`.  Then the switch is obeyed, if there is one
and it finds what it needs.  The state after that, and what was switched. -/
def turn (gone b : Bool) (m : Option Bool) : Bool × List Bool :=
  let first := if b && gone then [false] else []
  match m with
  | some true => (true, first ++ [true])
  | some false => (false, first ++ if b && !gone then [false] else [])
  | none => (b && !gone, first)

/-- The rest of a row, after its first switch was taken.  What was on and is gone must end
off. -/
theorem follow_turn {gone b c : Bool} {m : Option Bool} {ms : List Bool}
    (h : follow gone b (m.toList ++ ms) = some c) (hgone : b = true → gone = true → c = false) :
    follow gone (turn gone b m).1 ms = some c := by
  match gone, b, m with
  | false, false, none | false, true, none | true, false, none => exact h
  | true, true, none =>
    obtain rfl := hgone rfl rfl
    exact follow_off h
  | false, false, some true | true, false, some true => exact h
  | false, true, some true | true, true, some true => cases h
  | false, false, some false => cases h
  | false, true, some false | true, false, some false | true, true, some false => exact h

/-- What is switched goes on with a strict row, if the switch was the first of a row itself. -/
theorem follow_turns {gone b c : Bool} {m : Option Bool} {ms before : List Bool}
    (h : follow gone b (m.toList ++ ms) = some c) (hbefore : follow false false before = some b) :
    follow false false (before ++ (turn gone b m).2) = some (turn gone b m).1 := by
  rw [follow_append, hbefore, Option.bind_some]
  match gone, b, m with
  | false, false, none | false, true, none | true, false, none | true, true, none => rfl
  | false, false, some true | true, false, some true => rfl
  | false, true, some true | true, true, some true => cases h
  | false, false, some false => cases h
  | false, true, some false | true, false, some false | true, true, some false => rfl

theorem isChain_of_follow {b c : Bool} {ms : List Bool} (h : follow false b ms = some c) :
    (b :: ms).IsChain (· ≠ ·) := by
  induction ms generalizing b with
  | nil => exact .singleton _
  | cons m ms ih =>
    cases b <;> cases m
    · cases h
    · exact List.isChain_cons_cons.mpr ⟨Bool.noConfusion, ih h⟩
    · exact List.isChain_cons_cons.mpr ⟨Bool.noConfusion, ih h⟩
    · cases h

end Lib
end CkbP2P

import Mathlib.Order.Lattice
import CkbP2P.Lib.Run
import Mathlib.Tactic.Common

/-!
# Two machines in lockstep

Two machines send messages to each other, over a queue for each direction.  Each begins with one
message, and answers each message but the last with one.  The messages may be delivered in any
order of the two directions.
-/

namespace CkbP2P
namespace Lib

variable {σ μ : Type}

/-- Two machines, and the messages on their way to each. -/
structure Duplex (σ μ : Type) where
  left : σ
  right : σ
  toLeft : List μ
  toRight : List μ

/-- The machine that gets the next message on its way to it. -/
inductive Delivery where
  | left
  | right
  deriving DecidableEq, Repr

/-- One message is delivered, if there is one. -/
def Duplex.step (getLeft getRight : σ → μ → σ × List μ) (s : Duplex σ μ) : Delivery → Duplex σ μ
  | .left =>
    match s.toLeft with
    | [] => s
    | m :: rest =>
      let (left, sent) := getLeft s.left m
      { s with left, toLeft := rest, toRight := s.toRight ++ sent }
  | .right =>
    match s.toRight with
    | [] => s
    | m :: rest =>
      let (right, sent) := getRight s.right m
      { s with right, toRight := rest, toLeft := s.toLeft ++ sent }

/-- The machine goes through the stages as it gets the messages of `theirs`.  The first message of
`ours` is sent at the beginning, and each of the others is an answer. -/
structure Answers (get : σ → μ → σ × List μ) (stages : ℕ → σ) (ours theirs : List μ) : Prop where
  length : ours.length = theirs.length
  get : ∀ i (h : i < theirs.length), get (stages i) theirs[i]
    = (stages (i + 1), ours[i + 1]?.toList)

/-- Where the two machines are: the left one has got `i` messages and the right one `j`. -/
structure Duplex.At (f g : ℕ → σ) (ours theirs : List μ) (i j : ℕ) (s : Duplex σ μ) : Prop where
  left : s.left = f i
  right : s.right = g j
  toLeft : s.toLeft = (theirs.take (j + 1)).drop i
  toRight : s.toRight = (ours.take (i + 1)).drop j
  left_le : i ≤ j + 1 ∧ i ≤ theirs.length
  right_le : j ≤ i + 1 ∧ j ≤ theirs.length

section

variable {get get' : σ → μ → σ × List μ} {f g : ℕ → σ} {ours theirs : List μ} {i j : ℕ}

/-- **One delivery**: the message is the next one, and its answer is the next one behind those on
their way. -/
theorem Answers.deliver (h : Answers get f ours theirs) {m : μ} {rest : List μ}
    (hm : (theirs.take (j + 1)).drop i = m :: rest) (hj : j ≤ i + 1) (hj' : j ≤ theirs.length) :
    get (f i) m = (f (i + 1), ours[i + 1]?.toList) ∧ rest = (theirs.take (j + 1)).drop (i + 1) ∧
      (ours.take (i + 1)).drop j ++ ours[i + 1]?.toList = (ours.take (i + 1 + 1)).drop j ∧
      i + 1 ≤ j + 1 ∧ i + 1 ≤ theirs.length := by
  have hi : i < (theirs.take (j + 1)).length := by
    have hlength := congrArg List.length hm
    rw [List.length_drop, List.length_cons] at hlength
    omega
  rw [List.drop_eq_getElem_cons hi] at hm
  obtain ⟨rfl, rfl⟩ := List.cons.inj hm
  rw [List.length_take] at hi
  have hlast : j ≤ (ours.take (i + 1)).length := by
    rw [List.length_take, h.length]
    omega
  refine ⟨?_, rfl, ?_, by omega, by omega⟩
  · rw [List.getElem_take]
    exact h.get i (by omega)
  · rw [List.take_add_one (i := i + 1), List.drop_append_of_le_length hlast]

theorem at_step (hleft : Answers get f ours theirs) (hright : Answers get' g theirs ours)
    {s : Duplex σ μ} (h : s.At f g ours theirs i j) (d : Delivery) :
    ∃ i j, (s.step get get' d).At f g ours theirs i j := by
  cases d with
  | left =>
    rw [Duplex.step]
    cases hm : s.toLeft with
    | nil => exact ⟨i, j, h⟩
    | cons m rest =>
      obtain ⟨hget, hrest, hsent, hi⟩ :=
        hleft.deliver (h.toLeft.symm.trans hm) h.right_le.1 h.right_le.2
      dsimp only
      rw [h.left, hget]
      exact ⟨i + 1, j, rfl, h.right, hrest, by rw [h.toRight]; exact hsent, hi,
        h.right_le.1.trans (by omega), h.right_le.2⟩
  | right =>
    rw [Duplex.step]
    cases hm : s.toRight with
    | nil => exact ⟨i, j, h⟩
    | cons m rest =>
      have hlength := hleft.length
      obtain ⟨hget, hrest, hsent, hj⟩ :=
        hright.deliver (h.toRight.symm.trans hm) h.left_le.1 (hlength ▸ h.left_le.2)
      dsimp only
      rw [h.right, hget]
      exact ⟨i, j + 1, h.left, rfl, by rw [h.toLeft]; exact hsent, hrest,
        ⟨h.left_le.1.trans (by omega), h.left_le.2⟩, hj.1, hlength ▸ hj.2⟩

/-- **Both machines go through their stages**, whatever the order of the deliveries; when no
message is on its way, they are at the end of them. -/
theorem duplex_run (hleft : Answers get f ours theirs) (hright : Answers get' g theirs ours)
    (deliveries : List Delivery) :
    let s := runFrom (Duplex.step get get') ⟨f 0, g 0, theirs.take 1, ours.take 1⟩ deliveries
    ∃ i j, s.left = f i ∧ s.right = g j ∧
      (s.toLeft = [] → s.toRight = [] → i = theirs.length ∧ j = theirs.length) := by
  intro s
  obtain ⟨i, j, h⟩ : ∃ i j, s.At f g ours theirs i j :=
    inv_runFrom (P := fun s => ∃ i j, Duplex.At f g ours theirs i j s)
      (fun s d ⟨_, _, h⟩ => at_step hleft hright h d)
      ⟨0, 0, rfl, rfl, rfl, rfl, ⟨by omega, by omega⟩, ⟨by omega, by omega⟩⟩ deliveries
  refine ⟨i, j, h.left, h.right, ?_⟩
  intro htoLeft htoRight
  have hl := List.drop_eq_nil_iff.mp (h.toLeft.symm.trans htoLeft)
  have hr := List.drop_eq_nil_iff.mp (h.toRight.symm.trans htoRight)
  have hi := h.left_le
  have hj := h.right_le
  rw [List.length_take] at hl hr
  rw [hleft.length] at hr
  omega

end

end Lib
end CkbP2P

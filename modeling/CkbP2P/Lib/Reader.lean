import CkbP2P.Lib.Channel
import CkbP2P.Lib.Run

/-!
# Streams that are read through a buffer

A stream takes pieces from a source and hands them out in calls, each with room for so many
elements.  What does not fit is kept in a buffer and handed out by the following calls.

A call that hands out nothing of what is kept takes the next piece, and a piece that does not fit
replaces what is kept.  So a call without room loses what is kept, unless the piece it takes is
empty.  And when an empty piece is handed out as it is, a reader takes it for the end.

* `Reads` — one call.
* `Reader`, `Reader.step` — a stream and what is read of it.
* `Reader.Careful` — no call without room takes a piece while something is kept, and no call takes
  an empty piece for an answer.
* `Reads.exact_iff` — when one call loses and invents nothing.
* `Reader.exact_iff` — **the careful runs are those in which nothing is lost or invented and no
  call with room comes back empty**.
-/

namespace CkbP2P
namespace Lib

variable {σ β ε ι κ : Type*}

/-! ### One call -/

/-- The elements a call hands out. -/
def handedOut : Poll (Except ε (List β)) → List β
  | .ready (.ok out) => out
  | _ => []

/-- The call succeeds without an element. -/
def isBlank : Poll (Except ε (List β)) → Bool
  | .ready (.ok []) => true
  | _ => false

theorem isBlank_ok (out : List β) :
    isBlank (.ready (.ok out) : Poll (Except ε (List β))) = out.isEmpty := by
  cases out <;> rfl

/-- One call with room for `room` elements: what was kept, what is taken from the source, the
answer, and what is kept then. -/
inductive Reads (room : ℕ) (kept : List β) : List β → Poll (Except ε (List β)) → List β → Prop
  /-- Something of what is kept is handed out. -/
  | drained (h : kept.take room ≠ []) :
    Reads room kept [] (.ready (.ok (kept.take room))) (kept.drop room)
  /-- No piece is taken, or an empty one. -/
  | idle {r : Poll (Except ε (List β))} (h : handedOut r = []) : Reads room kept [] r kept
  | whole {piece : List β} (h : kept.take room = []) (hfits : piece.length ≤ room) :
    Reads room kept piece (.ready (.ok piece)) kept
  /-- The piece does not fit.  It replaces what is kept. -/
  | part {piece : List β} (h : kept.take room = []) (hlong : room < piece.length) :
    Reads room kept piece (.ready (.ok (piece.take room))) (piece.drop room)

/-- **When a call loses and invents nothing.** -/
theorem Reads.exact_iff {room : ℕ} {kept taken kept' : List β} {r : Poll (Except ε (List β))}
    (h : Reads room kept taken r kept') :
    handedOut r ++ kept' = kept ++ taken ↔ (room = 0 → kept = [] ∨ taken = []) := by
  cases h with
  | drained h =>
    rw [List.append_nil]
    exact ⟨fun _ _ => .inr rfl, fun _ => List.take_append_drop room kept⟩
  | idle h =>
    rw [h, List.nil_append, List.append_nil]
    exact ⟨fun _ _ => .inr rfl, fun _ => rfl⟩
  | whole h hfits =>
    rcases List.take_eq_nil_iff.mp h with rfl | rfl
    · -- Only an empty piece fits.
      have hpiece := List.length_eq_zero_iff.mp (Nat.le_zero.mp hfits)
      subst hpiece
      exact ⟨fun _ _ => .inr rfl, fun _ => (List.append_nil kept).symm⟩
    · exact ⟨fun _ _ => .inl rfl, fun _ => List.append_nil taken⟩
  | part h hlong =>
    change taken.take room ++ taken.drop room = kept ++ taken ↔ _
    rw [List.take_append_drop]
    constructor
    · intro heq _
      exact .inl (List.self_eq_append_left.mp heq)
    · intro hok
      have hne : taken ≠ [] := List.ne_nil_of_length_pos (by omega)
      have hkept : kept = [] := by
        rcases List.take_eq_nil_iff.mp h with hroom | hkept
        · exact (hok hroom).resolve_right hne
        · exact hkept
      rw [hkept, List.nil_append]

/-! ### Streams -/

/-- A stream with states `σ` that is read in calls `κ`.  Besides, `ι` can happen to it. -/
structure Reader (σ β ε ι κ : Type*) where
  /-- What is in the buffer. -/
  kept : σ → List β
  happen : σ → ι → σ
  room : κ → ℕ
  read : σ → κ → σ × Poll (Except ε (List β))
  /-- What the call takes from the source. -/
  taken : σ → κ → List β
  /-- The call takes an empty piece for an answer. -/
  takesNothing : σ → κ → Bool
  kept_happen : ∀ s i, kept (happen s i) = kept s
  reads : ∀ s k, Reads (room k) (kept s) (taken s k) (read s k).2 (kept (read s k).1)
  isBlank_read : ∀ s k, room k ≠ 0 → isBlank (read s k).2 = takesNothing s k

namespace Reader

/-- A stream, and what was read of it. -/
structure Watched (σ β : Type*) where
  stream : σ
  /-- What the calls have handed out so far. -/
  out : List β
  /-- What they have taken from the source so far. -/
  received : List β
  /-- A call with room has come back empty. -/
  blank : Bool

def start (s : σ) : Watched σ β := { stream := s, out := [], received := [], blank := false }

inductive Label (ι κ : Type*) where
  | happen (i : ι)
  | read (k : κ)

variable (R : Reader σ β ε ι κ)

def step (x : Watched σ β) : Label ι κ → Watched σ β
  | .happen i => { x with stream := R.happen x.stream i }
  | .read k =>
    let (stream, r) := R.read x.stream k
    { stream
      out := x.out ++ handedOut r
      received := x.received ++ R.taken x.stream k
      blank := x.blank || (R.room k != 0 && isBlank r) }

/-- A call without room takes nothing while something is kept, and a call with room takes no empty
piece for an answer. -/
def Careful (x : Watched σ β) : Label ι κ → Prop
  | .happen _ => True
  | .read k => (R.room k = 0 → R.kept x.stream = [] ∨ R.taken x.stream k = []) ∧
      (R.room k ≠ 0 → R.takesNothing x.stream k = false)

instance [DecidableEq β] (x : Watched σ β) : ∀ l, Decidable (R.Careful x l)
  | .happen _ => inferInstanceAs (Decidable True)
  | .read _ => inferInstanceAs (Decidable ((_ → _) ∧ (_ → _)))

/-- What was handed out, followed by what is kept, is what was received, and no call with room has
come back empty. -/
def Exact (x : Watched σ β) : Prop :=
  x.out ++ R.kept x.stream = x.received ∧ x.blank = false

instance [DecidableEq β] (x : Watched σ β) : Decidable (R.Exact x) :=
  inferInstanceAs (Decidable (_ ∧ _))

variable {R}

theorem exact_step_iff (x : Watched σ β) (l : Label ι κ) (h : R.Exact x) :
    R.Exact (R.step x l) ↔ R.Careful x l := by
  obtain ⟨hout, hblank⟩ := h
  cases l with
  | happen i =>
    have hexact : R.Exact (R.step x (.happen i)) := by
      refine ⟨?_, hblank⟩
      change x.out ++ R.kept (R.happen x.stream i) = x.received
      rw [R.kept_happen, hout]
    exact ⟨fun _ => trivial, fun _ => hexact⟩
  | read k =>
    refine and_congr ?_ ?_
    · change (x.out ++ handedOut (R.read x.stream k).2) ++ R.kept (R.read x.stream k).1
        = x.received ++ R.taken x.stream k ↔ _
      rw [← hout, List.append_assoc, List.append_assoc, List.append_cancel_left_eq]
      exact (R.reads x.stream k).exact_iff
    · change (x.blank || (R.room k != 0 && isBlank (R.read x.stream k).2)) = false ↔ _
      rw [hblank, Bool.false_or]
      by_cases hroom : R.room k = 0
      · simp [hroom]
      · simp [hroom, R.isBlank_read x.stream k hroom]

/-- **The careful runs are those in which nothing is lost or invented and no call with room comes
back empty.** -/
theorem exact_iff {s : σ} (hs : R.kept s = []) (labels : List (Label ι κ)) :
    Throughout R.step R.Exact (start s) labels ↔ Guarded R.step R.Careful (start s) labels := by
  have hstart : R.Exact (start s) := ⟨hs, rfl⟩
  exact throughout_iff_guarded (I := fun _ => True) (fun _ _ _ => trivial)
    (fun x l _ h => exact_step_iff x l h) trivial hstart labels

end Reader

end Lib
end CkbP2P

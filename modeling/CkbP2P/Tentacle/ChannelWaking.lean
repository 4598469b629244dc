import CkbP2P.Tentacle.ChannelMessages

/-!
# No wake-up of the receiver is lost

A receiver that finds nothing registers its waker, looks a second time and only then waits.
Whoever puts a message into a queue, or closes the channel, wakes the receiver afterwards.  So
what the receiver has not seen when it looked the second time was put there after the waker was
registered, by a thread that has yet to wake it.
-/

namespace CkbP2P
namespace Tentacle
namespace ChannelThreads

open Lib
open CkbP2P.Tentacle.Bound

variable {w : ℕ} {ι α : Type}

/-- **There is something that the receiver has not seen.** -/
def Sys.Missed (s : Sys w ι α) : Prop :=
  (∃ p, s.receiving.Saw p ∧ s.queue p ≠ []) ∨
    (∃ cx, s.receiving = .waiting cx) ∧ (decodeState s.state).isClosed = true

/-- **The invariant of the waker of the receiver.** -/
structure Waking (s : Sys w ι α) : Prop where
  missed : s.recvTask ≠ none → s.Missed → ∃ t, (s.calling t).Wakes
  registered : ∀ cx, s.receiving.waker = some cx →
    s.recvTask = some cx ∨ s.recvTask = none ∧ s.notified = true

variable {s s' : Sys w ι α}

/-! ### Threads -/

section Threads

variable [DecidableEq ι] {t : ι} {c : Calling w α}

/-- The thread goes on, and was not about to wake the receiver. -/
theorem Waking.goes (h : Waking s) (hgo : s.Goes t c s')
    (hclosed : (decodeState s'.state).isClosed = true → (decodeState s.state).isClosed = true)
    (hmessages : ¬ s.Touches (s.calling t) .messages) (hwaker : ¬ s.Touches (s.calling t) .waker) :
    Waking s' := by
  obtain ⟨hrecvTask, hnotified⟩ := hgo.agrees .waker hwaker
  refine ⟨?_, by rw [hgo.receiving, hrecvTask, hnotified]; exact h.registered⟩
  intro hne hmissed
  rw [hrecvTask] at hne
  unfold Sys.Missed at hmissed
  rw [hgo.receiving, (hgo.agrees .messages hmessages).1] at hmissed
  obtain ⟨t', ht'⟩ := h.missed hne (hmissed.imp_right fun hwaits => ⟨hwaits.1, hclosed hwaits.2⟩)
  refine ⟨t', ?_⟩
  rw [hgo.calling, Function.update_of_ne]
  · exact ht'
  · rintro rfl
    cases hpc : s.calling t' with
    | link m => exact hmessages (by rw [hpc]; trivial)
    | wake id out => exact hwaker (by rw [hpc]; trivial)
    | _ => rw [hpc] at ht'; exact ht'

/-- The thread goes on, and is then about to wake the receiver. -/
theorem Waking.arrives (h : Waking s) (hgo : s.Goes t c s')
    (hwaker : ¬ s.Touches (s.calling t) .waker) (hwakes : (s'.calling t).Wakes) : Waking s' where
  missed _ _ := ⟨t, hwakes⟩
  registered := by
    obtain ⟨hrecvTask, hnotified⟩ := hgo.agrees .waker hwaker
    rw [hgo.receiving, hrecvTask, hnotified]
    exact h.registered

/-- The receiver is woken. -/
theorem waking_wake (h : Waking s) (id : Option SenderId) (out : Output α) :
    Waking (s.access t (.wake id out)) where
  missed hne := absurd rfl hne
  registered cx hcx := by
    refine .inr ⟨rfl, ?_⟩
    change (s.notified || s.recvTask.isSome) = true
    rcases h.registered cx hcx with hsome | ⟨-, hnotified⟩
    · rw [hsome, Option.isSome_some, Bool.or_true]
    · rw [hnotified, Bool.true_or]

theorem waking_threadStep [Fintype ι] (hinv : Inv s) (h : Waking s) (t : ι) :
    Waking (s.threadStep t) := by
  obtain ⟨c, hgo⟩ := goes_threadStep s t
  have hsame : ¬ s.Touches (s.calling t) .state →
      (decodeState (s.threadStep t).state).isClosed = true →
      (decodeState s.state).isClosed = true := by
    intro hstate
    rw [show (s.threadStep t).state = s.state from hgo.agrees .state hstate]
    exact id
  cases hpc : s.calling t with
  | exchange m curr =>
    refine h.goes hgo ?_ (by rw [hpc]; exact id) (by rw [hpc]; exact id)
    by_cases hcurr : s.state = curr
    · -- a message is counted, so the channel is open
      intro hclosed
      obtain ⟨hinv', hopen, -⟩ := inv_exchange hinv hgo hpc hcurr
      rw [((isClosed_decodeState_iff hinv'.counted).mp hclosed).1] at hopen
      cases hopen
    · exact hsame (by rw [hpc]; exact hcurr)
  | push m =>
    refine h.arrives hgo (by rw [hpc]; exact id) ?_
    rw [Sys.threadStep, hpc, Sys.access, Sys.calling_goto_self]
    trivial
  | link m =>
    refine h.arrives hgo (by rw [hpc]; exact id) ?_
    rw [Sys.threadStep, hpc, Sys.access, Sys.calling_goto_self]
    trivial
  | closeAnd id =>
    refine h.arrives hgo (by rw [hpc]; exact fun h => h) ?_
    rw [Sys.threadStep, hpc, Sys.access, Sys.calling_goto_self]
    trivial
  | wake id out =>
    rw [Sys.threadStep, hpc]
    exact waking_wake h id out
  | _ =>
    exact h.goes hgo (hsame (by rw [hpc]; exact fun h => h)) (by rw [hpc]; exact fun h => h)
      (by rw [hpc]; exact fun h => h)

end Threads

/-! ### The receiver -/

theorem Waking.advances (h : Waking s) (ha : s.Advances s')
    (hwaker : ¬ s.Takes s.receiving .waker) :
    Waking s' := by
  obtain ⟨hrecvTask, hnotified⟩ := ha.agrees .waker hwaker nofun
  constructor
  case missed =>
    intro hne hmissed
    rw [hrecvTask] at hne
    rw [ha.calling]
    refine h.missed hne ?_
    rcases hmissed with ⟨p, hp, hqueue⟩ | ⟨⟨cx, hcx⟩, hclosed⟩
    · exact .inl ⟨p, ha.saw p hp hqueue⟩
    · exact .inr ⟨⟨cx, (ha.waits cx hcx hclosed).1⟩, (ha.waits cx hcx hclosed).2⟩
  case registered =>
    intro cx hcx
    rw [hrecvTask, hnotified]
    exact h.registered cx (ha.waker hwaker cx hcx)

theorem waking_receiverStep (h : Waking s) : Waking s.receiverStep := by
  cases hpc : s.receiving with
  | register cx =>
    rw [Sys.receiverStep, hpc]
    refine ⟨?_, fun cx' hcx => .inl hcx⟩
    rintro - (⟨p, hp, -⟩ | ⟨⟨cx', hcx'⟩, -⟩)
    · exact hp.elim
    · cases hcx'
  | _ => exact h.advances (advances_receiverStep s) (by rw [hpc]; exact fun h => h)

/-! ### Runs -/

section Runs

variable [Fintype ι] [DecidableEq ι]

theorem waking_step (hinv : Inv s) (h : Waking s) (a : Access ι α) : Waking (step s a) :=
  step_rule h (waking_threadStep hinv h) (waking_receiverStep h)
    (fun _ _ _ hgo hnot => h.goes hgo
      (by rw [show _ = _ from hgo.agrees .state (hnot .state nofun)]; exact id)
      (hnot _ nofun) (hnot _ nofun))
    (fun _ ha _ hnot => h.advances ha (hnot _ nofun)) a

/-- **What a waiting receiver can rely on.** -/
structure Woken (s : Sys w ι α) : Prop where
  /-- Its waker is registered until it is woken. -/
  registered : ∀ cx, s.receiving = .waiting cx → s.notified = false → s.recvTask = some cx
  /-- As long as it has not been woken, and there is a message in a queue or the end to report,
  there is a thread that wakes it with its next access, or the one after. -/
  wakes : ∀ cx, s.receiving = .waiting cx → s.notified = false →
    (∃ p, s.queue p ≠ []) ∨ (decodeState s.state).isClosed = true → ∃ t, (s.calling t).Wakes
  /-- When it has not been woken and no thread is in a call, nothing has been sent, and the
  channel is open. -/
  quiet : ∀ cx, s.receiving = .waiting cx → s.notified = false → s.Quiet →
    s.isOpen = true ∧ ∀ p, s.queue p = []

omit [DecidableEq ι] in
theorem woken_of_waking (hinv : Inv s) (h : Waking s) : Woken s := by
  have hregistered : ∀ cx, s.receiving = .waiting cx → s.notified = false →
      s.recvTask = some cx := by
    intro cx hcx hnotified
    rcases h.registered cx (by rw [hcx]; rfl) with hsome | ⟨-, htrue⟩
    · exact hsome
    · rw [hnotified] at htrue
      cases htrue
  have hwakes : ∀ cx, s.receiving = .waiting cx → s.notified = false →
      (∃ p, s.queue p ≠ []) ∨ (decodeState s.state).isClosed = true →
      ∃ t, (s.calling t).Wakes := by
    intro cx hcx hnotified hsomething
    refine h.missed (by rw [hregistered cx hcx hnotified]; nofun) ?_
    rcases hsomething with ⟨p, hp⟩ | hclosed
    · exact .inl ⟨p, by rw [hcx]; trivial, hp⟩
    · exact .inr ⟨⟨cx, hcx⟩, hclosed⟩
  refine ⟨hregistered, hwakes, ?_⟩
  intro cx hcx hnotified hquiet
  have hnothing : ¬ ((∃ p, s.queue p ≠ []) ∨ (decodeState s.state).isClosed = true) := by
    intro hsomething
    obtain ⟨t, ht⟩ := hwakes cx hcx hnotified hsomething
    rw [hquiet t] at ht
    exact ht
  have hqueue : ∀ p, s.queue p = [] := fun p => by_contra fun hne => hnothing (.inl ⟨p, hne⟩)
  refine ⟨?_, hqueue⟩
  by_contra hopen
  refine hnothing (.inr ((isClosed_decodeState_iff hinv.counted).mpr ⟨by simpa using hopen, ?_⟩))
  unfold Sys.count Sys.queued
  rw [hqueue, hqueue, hcx, tally_eq_zero_iff.mpr fun t => by rw [hquiet t]; rfl]
  rfl

/-- **No wake-up is lost.**  For every interleaving, a receiver whose `poll_next` has returned
`Pending` has been woken, or its waker is registered and there is nothing to receive and no end to
report, or there is a thread that is about to wake it. -/
theorem receiver_woken (kind : Kind w) (accesses : List (Access ι α)) :
    Throughout step Woken (channel ι α kind) accesses := by
  have hstart : Waking (channel ι α kind) := by
    refine ⟨fun hne => absurd rfl hne, nofun⟩
  have hruns := throughout_of_inv (P := fun s => Inv s ∧ Waking s)
    (fun _ a hs => ⟨inv_step hs.1 a, waking_step hs.1 hs.2 a⟩) ⟨inv_channel kind, hstart⟩ accesses
  exact hruns.mono fun _ hs => woken_of_waking hs.1 hs.2

end Runs

end ChannelThreads
end Tentacle
end CkbP2P

import CkbP2P.Lib.Run
import CkbP2P.Tentacle.ChannelRefinement

/-!
# What senders and the receiver can rely on

Any number of senders and the receiver make calls, in any order.  What has been accepted and
received is noted beside the channel.
-/

namespace CkbP2P
namespace Tentacle
namespace Bound

open Lib
open PriorityChannel (Label Move History Tells only)

variable {w : ℕ} {α : Type}

/-- A channel with its history. -/
structure Watched (w : ℕ) (α : Type) where
  channel : Channel w α
  history : History α

/-- The channel after a call, and its history. -/
def step (x : Watched w α) (op : Op α) : Watched w α where
  channel := (call x.channel op).2
  history := x.history.record (label op (call x.channel op).1)

/-- A channel before the first call. -/
def start (c : Channel w α) : Watched w α := ⟨c, ⟨[], [], [], false⟩⟩

/-- **The word, the queues and the history agree.**  Each message that is accepted is received
or dropped at most once, and those of one priority in the order in which they were accepted;
none is dropped before the receiver is.  A receiver that receives as often as there are messages
has received all that has been accepted. -/
structure Consistent (x : Watched w α) : Prop where
  count : (decodeState x.channel.inner.state).numMessages.toNat
    = x.channel.inner.quickMessageQueue.length + x.channel.inner.messageQueue.length
  fifo : ∀ p, only p x.history.accepted = only p x.history.received ++
    only p x.history.discarded ++ x.channel.inner.view.queue p
  kept : x.channel.receiver ≠ .dropped → x.history.discarded = []
  drains : x.channel.receiver ≠ .dropped → ∀ p,
    only p (runFrom step x (List.replicate x.channel.inner.queued .tryNext)).history.received
      = only p x.history.accepted

/-- The call closes the channel. -/
def Op.Closes (c : Channel w α) : Op α → Prop
  | .close => c.receiver ≠ .dropped
  | .closeChannel id => ∃ sender, c.senders.lookup id = some (some sender)
  | _ => False

/-- **What a call may give.** -/
structure Regular (x : Watched w α) (op : Op α) : Prop where
  /-- A normal message comes after all those of high priority. -/
  normal : ∀ msg, (call x.channel op).1 = .received (.item .normal msg) →
    x.channel.inner.quickMessageQueue = []
  /-- There is something to count down, and counting down leaves the flag alone. -/
  counted : ∀ p msg, (call x.channel op).1 = .received (.item p msg) →
    (decodeState x.channel.inner.state).numMessages.toNat ≠ 0 ∧
      (decodeState (call x.channel op).2.inner.state).isOpen
        = (decodeState x.channel.inner.state).isOpen
  closes : op.Closes x.channel →
    (decodeState (call x.channel op).2.inner.state).isOpen = false
  /-- Nothing is accepted once the channel is closed, and it stays closed. -/
  closed : (decodeState x.channel.inner.state).isOpen = false →
    (∀ id msg priority, op = .send id msg priority → (call x.channel op).1 ≠ .accepted) ∧
      (decodeState (call x.channel op).2.inner.state).isOpen = false
  /-- The end is reported exactly when the channel is closed and both queues are empty. -/
  ended : ∀ r, (call x.channel op).1 = .received r →
    (r = .ended ↔ (decodeState x.channel.inner.state).isOpen = false ∧
      x.channel.inner.quickMessageQueue = [] ∧ x.channel.inner.messageQueue = [])
  /-- A receive returns, unless the end has been reported before. -/
  returns : op.IsReceive → x.channel.receiver ≠ .dropped →
    if x.history.ended then (call x.channel op).1 = .panicked .calledAfterNone
    else ∃ r, (call x.channel op).1 = .received r
  drops : op = .dropReceiver → x.channel.receiver ≠ .dropped →
    (call x.channel op).1 = .drained x.channel.inner.view.inOrder

/-! ### The invariant of runs -/

/-- The invariant of the channel, and what the history says. -/
structure RunInv (x : Watched w α) : Prop where
  inv : Inv x.channel
  tells : Tells x.history x.channel.inner.view
  kept : x.channel.receiver ≠ .dropped → x.history.discarded = []
  ended : x.channel.receiver ≠ .dropped →
    (x.history.ended = true ↔ x.channel.receiver = .terminated)

theorem receiver_channel {buffer : Usize w} {c : Channel w α} (h : channel α buffer = some c) :
    c.receiver = .active := by
  unfold channel at h
  split_ifs at h
  cases h
  rfl

theorem runInv_start {buffer : Usize w} {c : Channel w α} (h : channel α buffer = some c) :
    RunInv (start c) where
  inv := inv_channel h
  tells := by
    unfold channel at h
    split_ifs at h
    cases h
    exact ⟨fun p => by cases p <;> rfl, .inl rfl⟩
  kept _ := rfl
  ended _ := by simp [start, receiver_channel h]

section ReceiverMove

variable {h : History α} {r r' : Receiver} {l : Label α}

theorem ReceiverMove.kept (hm : ReceiverMove r l r') (hkept : r ≠ .dropped → h.discarded = [])
    (hne : r' ≠ .dropped) : (h.record l).discarded = [] := by
  cases hm with
  | sent priority msg => exact hkept hne
  | silent => exact hkept hne
  | received out => cases out <;> exact hkept nofun
  | drained messages => exact absurd rfl hne

theorem ReceiverMove.ended (hm : ReceiverMove r l r')
    (hended : r ≠ .dropped → (h.ended = true ↔ r = .terminated)) (hne : r' ≠ .dropped) :
    (h.record l).ended = true ↔ r' = .terminated := by
  cases hm with
  | sent priority msg => exact hended hne
  | silent => exact hended hne
  | received out =>
    have hbefore := hended nofun
    cases out with
    | item priority msg => exact hbefore
    | ended => exact iff_of_true rfl rfl
    | pending => exact hbefore
  | drained messages => exact absurd rfl hne

end ReceiverMove

variable {x : Watched w α}

/-- **Every call keeps the invariant.** -/
theorem runInv_step (h : RunInv x) (op : Op α) : RunInv (step x op) := by
  have hmoved := moved_call h.inv op
  exact ⟨hmoved.inv, h.tells.move hmoved.move, hmoved.receiver.kept h.kept,
    hmoved.receiver.ended h.ended⟩

/-! ### Receiving all messages -/

/-- One receive of many. -/
theorem step_tryNext (h : RunInv x) {n : ℕ} (hn : x.channel.inner.queued = n + 1) :
    (step x .tryNext).history.accepted = x.history.accepted ∧
      (step x .tryNext).channel.receiver = .active ∧
      (step x .tryNext).channel.inner.queued = n := by
  rw [BoundedInner.queued_eq] at hn
  have hsome : x.channel.inner.view.inOrder ≠ [] := List.ne_nil_of_length_eq_add_one hn
  have hactive : x.channel.receiver = .active := by
    by_contra hne
    rw [h.inv.idle hne] at hsome
    exact hsome rfl
  obtain ⟨priority, msg, v', hnext⟩ := PriorityChannel.exists_next_item hsome
  have hr := receiveMove_tryNext h.inv
  have hstep : step x .tryNext = ⟨x.channel.tryNext.2,
      x.history.record (label .tryNext x.channel.tryNext.1)⟩ := rfl
  rw [hstep]
  generalize x.channel.tryNext = out at hr
  cases hr with
  | @popped r _ hpopped =>
    obtain ⟨hout, hview⟩ := Prod.mk.inj (hpopped.eq.symm.trans hnext)
    have hreceiver := hpopped.receiver
    rw [hout] at hreceiver
    rw [PriorityChannel.inOrder_of_next hnext, List.length_cons] at hn
    refine ⟨?_, hreceiver, ?_⟩
    · dsimp only
      rw [hout]
      rfl
    · rw [BoundedInner.queued_eq, hview]
      exact Nat.succ.inj hn
  | panicked hterminated => rw [hactive] at hterminated; cases hterminated
  | absent hdropped => rw [hactive] at hdropped; cases hdropped

/-- A receiver that receives as often as there are messages has received all of them. -/
theorem received_runFrom (h : RunInv x) (hne : x.channel.receiver ≠ .dropped) {n : ℕ}
    (hn : x.channel.inner.queued = n) (p : Priority) :
    only p (runFrom step x (List.replicate n .tryNext)).history.received
      = only p x.history.accepted := by
  induction n generalizing x with
  | zero =>
    have hnil : x.channel.inner.view.queue p = [] := by
      unfold BoundedInner.queued at hn
      cases p with
      | high => exact List.length_eq_zero_iff.mp (Nat.eq_zero_of_add_eq_zero_right hn)
      | normal => exact List.length_eq_zero_iff.mp (Nat.eq_zero_of_add_eq_zero_left hn)
    have hfifo := h.tells.fifo p
    rw [h.kept hne, hnil] at hfifo
    simpa [runFrom] using hfifo.symm
  | succ n ih =>
    obtain ⟨haccepted, hactive, hfewer⟩ := step_tryNext h hn
    rw [List.replicate_succ, runFrom, ← haccepted]
    exact ih (runInv_step h .tryNext) (by rw [hactive]; nofun) hfewer

theorem consistent_of_runInv (h : RunInv x) : Consistent x where
  count := toNat_numMessages_decodeState h.inv.counted
  fifo := h.tells.fifo
  kept := h.kept
  drains hne p := received_runFrom h hne rfl p

/-! ### Regular calls -/

section Regular

variable {c : Channel w α} {op : Op α}

/-- What is received is the first message of the queues. -/
theorem next_of_received (h : Inv c) {r : PriorityChannel.Received α}
    (hout : (call c op).1 = .received r) :
    c.inner.view.next = (r, (call c op).2.inner.view) := by
  have hmove := (moved_call h op).move
  rw [hout, label_received] at hmove
  exact hmove.next_eq

theorem isOpen_of_closes (h : Inv c) (hop : op.Closes c) :
    (call c op).2.inner.view.isOpen = false := by
  cases op with
  | close =>
    change c.close.inner.view.isOpen = false
    by_cases hactive : c.receiver = .active
    · rw [view_close h hactive]
      rfl
    · have hmove := (moved_close h).move
      exact (hmove.closed (by rw [h.idle hactive])).1
  | closeChannel id =>
    obtain ⟨sender, hlookup⟩ := hop
    have hcall : (call c (.closeChannel id)).2 = c.closeInner := by
      unfold call Channel.closeChannel Channel.withSender
      simp [hlookup]
    have hs := Channel.same_wakeReceiver { c with inner := c.inner.setClosed }
    rw [hcall]
    unfold Channel.closeInner
    rw [hs.view_eq]
    dsimp only
    rw [BoundedInner.view_setClosed h.counted]
    rfl
  | _ => exact absurd hop id

/-- **Every call is regular.** -/
theorem regular_of_runInv (h : RunInv x) (op : Op α) : Regular x op where
  normal msg hout := by
    have hnext := next_of_received h.inv hout
    exact PriorityChannel.high_eq_nil_of_next (congrArg Prod.fst hnext)
  counted p msg hout := by
    have hnext := next_of_received h.inv hout
    obtain ⟨-, -, hopen⟩ := PriorityChannel.queue_next_item hnext
    have hqueued : x.channel.inner.queued ≠ 0 := by
      rw [BoundedInner.queued_eq, PriorityChannel.inOrder_of_next hnext]
      exact Nat.succ_ne_zero _
    rw [toNat_numMessages_decodeState h.inv.counted]
    exact ⟨hqueued, hopen⟩
  closes hop := isOpen_of_closes h.inv hop
  closed hclosed := by
    have hmove := (moved_call h.inv op).move
    obtain ⟨hstays, hsent⟩ := hmove.closed hclosed
    refine ⟨?_, hstays⟩
    intro id msg priority hop hout
    rw [hout, hop, label_send_accepted] at hsent
    exact hsent priority msg rfl
  ended r hout := by
    have hnext := next_of_received h.inv hout
    have hiff := PriorityChannel.next_eq_ended_iff (v := x.channel.inner.view)
    rw [hnext] at hiff
    exact hiff
  returns hop hne := by
    have hended := h.ended hne
    have hr := receiveMove_call h.inv hop
    generalize call x.channel op = out at hr
    cases hr with
    | @popped r hactive hpopped =>
      have hfalse : x.history.ended = false := by
        rw [hactive] at hended
        simpa using hended
      rw [hfalse]
      exact ⟨r.1, rfl⟩
    | panicked hterminated =>
      rw [hended.mpr hterminated]
      rfl
    | absent hdropped => exact absurd hdropped hne
  drops hop hne := by
    subst hop
    obtain ⟨c', heq, -⟩ := dropReceiver_eq h.inv hne
    exact congrArg Prod.fst heq

end Regular

/-- **What senders and the receiver can rely on.**  For any number of senders and every order of
calls, the word counts the messages in the queues, messages of one priority are received in the
order in which they were accepted and at most once, and all of them if the receiver goes on; a
normal message is received after those of high priority, nothing is accepted once the channel is
closed, and the end is reported exactly when the channel is closed and both queues are empty. -/
theorem priority_channel_sound {buffer : Usize w} {c : Channel w α}
    (h : channel α buffer = some c) (ops : List (Op α)) :
    Throughout step Consistent (start c) ops ∧ Guarded step Regular (start c) ops := by
  have hstart := runInv_start h
  constructor
  · have hruns := throughout_of_inv (P := RunInv) (fun _ op hx => runInv_step hx op) hstart ops
    exact hruns.mono fun _ hx => consistent_of_runInv hx
  · exact guarded_of_inv (I := RunInv) (fun _ op hx _ => runInv_step hx op)
      (fun _ op hx _ => regular_of_runInv hx op) hstart
      (guarded_of_forall_mem (fun _ _ => trivial) _)

/-- A channel with room for two messages, a second sender, messages of both priorities, and a
receiver that closes the channel and receives until it has reported the end. -/
theorem priority_channel_sound_two :
    ∃ c, channel ℕ (2 : Usize 63) = some c ∧
      let ops := [.clone 0, .trySend 0 1, .tryQuickSend 1 2, .trySend 1 3, .close, .tryNext,
        .tryNext, .drop 1, .tryNext, .tryNext, .tryNext]
      Throughout step Consistent (start c) ops ∧ Guarded step Regular (start c) ops := by
  have hroom : (2 : Usize 63) < maxBuffer 63 := by decide
  exact ⟨_, if_pos hroom, priority_channel_sound (if_pos hroom) _⟩

end Bound
end Tentacle
end CkbP2P

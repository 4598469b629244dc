import CkbP2P.Tentacle.BoundedChannel
import CkbP2P.Tentacle.PriorityMoves

/-!
# The bounded channel refines the channel with two queues

Every call of the bounded channel is a move of its two queues and its flag.  What the word of
the channel says is what the queues say, because every call changes both alike; so the decrement
never meets a zero, and the end is reported exactly when the queues are empty and the flag is
cleared.
-/

namespace CkbP2P
namespace Tentacle

open Lib

namespace Bound

variable {w : ℕ} {α : Type}

/-! ### What the word holds -/

section Word

variable {x : Usize w} {flag : Bool} {n : ℕ}

theorem openMask_eq (w : ℕ) : openMask w = PackedWord.flagMask w := by
  have hshift : (usizeMax w >>> 1).toNat = 2 ^ w - 1 := by
    rw [usizeMax, BitVec.toNat_ushiftRight, BitVec.toNat_allOnes, Nat.shiftRight_one, Nat.pow_succ]
    omega
  have hle : usizeMax w >>> 1 ≤ usizeMax w := by
    rw [BitVec.le_def, hshift, usizeMax, BitVec.toNat_allOnes, Nat.pow_succ]
    omega
  rw [openMask, ← BitVec.toNat_inj, BitVec.toNat_sub_of_le hle, hshift,
    PackedWord.toNat_flagMask, usizeMax, BitVec.toNat_allOnes, Nat.pow_succ]
  have hpos := Nat.two_pow_pos w
  omega

theorem toNat_maxCapacity (w : ℕ) : (maxCapacity w).toNat = 2 ^ w - 1 := by
  rw [maxCapacity, openMask_eq, PackedWord.toNat_not_flagMask]

theorem isOpen_decodeState (h : PackedWord.Holds x flag n) : (decodeState x).isOpen = flag := by
  have hiff := h.flag_iff
  rw [← openMask_eq] at hiff
  unfold decodeState
  dsimp only
  rw [Bool.eq_iff_iff, beq_iff_eq, hiff]

theorem toNat_numMessages_decodeState (h : PackedWord.Holds x flag n) :
    (decodeState x).numMessages.toNat = n := by
  have hcount := h.toNat_count
  rw [← openMask_eq] at hcount
  exact hcount

theorem holds_encodeState {s : State w} (h : s.numMessages.toNat < 2 ^ w) :
    PackedWord.Holds (encodeState s) s.isOpen s.numMessages.toNat := by
  unfold encodeState
  cases s.isOpen with
  | false => exact PackedWord.holds_count h
  | true =>
    rw [if_pos rfl, openMask_eq]
    exact PackedWord.holds_or h

theorem isClosed_decodeState_iff (h : PackedWord.Holds x flag n) :
    (decodeState x).isClosed = true ↔ flag = false ∧ n = 0 := by
  have hcount := toNat_numMessages_decodeState h
  unfold State.isClosed
  rw [isOpen_decodeState h, Bool.and_eq_true, Bool.not_eq_true', beq_iff_eq, ← BitVec.toNat_inj,
    hcount]
  rfl

end Word

/-! ### The queues and the word -/

namespace BoundedInner

variable {inner : BoundedInner w α}

/-- The two queues and the flag. -/
def view (inner : BoundedInner w α) : PriorityChannel α :=
  ⟨inner.quickMessageQueue, inner.messageQueue, (decodeState inner.state).isOpen⟩

/-- The number of messages in both queues. -/
def queued (inner : BoundedInner w α) : ℕ :=
  inner.quickMessageQueue.length + inner.messageQueue.length

/-- **The word says what the queues say.** -/
def Counted (inner : BoundedInner w α) : Prop :=
  PackedWord.Holds inner.state inner.view.isOpen inner.queued

theorem queued_eq (inner : BoundedInner w α) : inner.queued = inner.view.inOrder.length := by
  simp [queued, view, PriorityChannel.inOrder]

/-- The flag of a word need not be told. -/
theorem counted_of_holds {flag : Bool} (h : PackedWord.Holds inner.state flag inner.queued) :
    inner.Counted := by
  unfold Counted view
  rwa [isOpen_decodeState h]

theorem counted_setClosed (h : inner.Counted) : inner.setClosed.Counted := by
  unfold setClosed
  split_ifs with hclosed
  · exact h
  · have hclear := h.clear
    rw [← openMask_eq] at hclear
    exact counted_of_holds hclear

theorem view_setClosed (h : inner.Counted) : inner.setClosed.view = inner.view.close := by
  unfold setClosed
  split_ifs with hclosed
  · unfold view PriorityChannel.close
    simpa using hclosed
  · have hclear := h.clear
    rw [← openMask_eq] at hclear
    unfold view PriorityChannel.close
    dsimp only
    rw [isOpen_decodeState hclear]

/-- **A message is only counted while the channel is open**, and the count then has room. -/
theorem incNumMessages_eq_some {num : Usize w} {inner' : BoundedInner w α} (h : inner.Counted)
    (hinc : inner.incNumMessages = .ok (some (num, inner'))) :
    inner.view.isOpen = true ∧ ∃ state, inner' = { inner with state } ∧
      PackedWord.Holds state true (inner.queued + 1) := by
  have hcount := toNat_numMessages_decodeState h
  unfold incNumMessages at hinc
  dsimp only at hinc
  split_ifs at hinc with hopen hroom
  · cases hinc
  · cases hinc
    have hisOpen : (decodeState inner.state).isOpen = true := by simpa using hopen
    rw [BitVec.lt_def, toNat_maxCapacity, hcount] at hroom
    have hnum : ((decodeState inner.state).numMessages + 1).toNat = inner.queued + 1 := by
      rw [BitVec.toNat_add, hcount]
      have hone : (1 : Usize w).toNat = 1 := by simp
      rw [hone, Nat.mod_eq_of_lt]
      rw [Nat.pow_succ]
      omega
    refine ⟨hisOpen, _, rfl, ?_⟩
    have hlt : ((decodeState inner.state).numMessages + 1).toNat < 2 ^ w := by
      rw [hnum]
      omega
    have hholds := holds_encodeState (s := ⟨true, (decodeState inner.state).numMessages + 1⟩) hlt
    rw [hnum] at hholds
    rw [hisOpen]
    exact hholds

end BoundedInner

/-! ### Calls that leave the queues alone -/

namespace Channel

variable {c c' c'' : Channel w α}

/-- The queues, the word and the receiver are the same. -/
structure Same (c c' : Channel w α) : Prop where
  state : c'.inner.state = c.inner.state
  quick : c'.inner.quickMessageQueue = c.inner.quickMessageQueue
  normal : c'.inner.messageQueue = c.inner.messageQueue
  receiver : c'.receiver = c.receiver

theorem Same.refl (c : Channel w α) : Same c c := ⟨rfl, rfl, rfl, rfl⟩

theorem Same.trans (h : Same c c') (h' : Same c' c'') : Same c c'' where
  state := h'.state.trans h.state
  quick := h'.quick.trans h.quick
  normal := h'.normal.trans h.normal
  receiver := h'.receiver.trans h.receiver

theorem Same.view_eq (h : Same c c') : c'.inner.view = c.inner.view := by
  unfold BoundedInner.view
  rw [h.state, h.quick, h.normal]

theorem Same.counted (h : Same c c') (hc : c.inner.Counted) : c'.inner.Counted := by
  unfold BoundedInner.Counted BoundedInner.queued
  rw [h.view_eq, h.state, h.quick, h.normal]
  exact hc

theorem same_wakeReceiver (c : Channel w α) : Same c c.wakeReceiver := ⟨rfl, rfl, rfl, rfl⟩

theorem same_notify (c : Channel w α) (t : TaskId) : Same c (c.notify t) := ⟨rfl, rfl, rfl, rfl⟩

theorem same_notifyAll (c : Channel w α) (ts : List TaskId) : Same c (c.notifyAll ts) := by
  induction ts generalizing c with
  | nil => exact ⟨rfl, rfl, rfl, rfl⟩
  | cons t ts ih => exact (same_notify c t).trans (ih (c.notify t))

theorem same_pollUnparked (c : Channel w α) (id : SenderId) (sender : BoundedSenderInner)
    (cx : Option Waker) : Same c (c.pollUnparked id sender cx).2 := by
  unfold pollUnparked
  split_ifs <;> exact ⟨rfl, rfl, rfl, rfl⟩

theorem same_unparkOne (c : Channel w α) : Same c c.unparkOne := by
  unfold unparkOne
  cases c.inner.parkedQueue with
  | nil => exact Same.refl c
  | cons t ts => exact ⟨rfl, rfl, rfl, rfl⟩

end Channel

/-! ### Calls are moves -/

open PriorityChannel (Label Move)

/-- What can be seen of a call. -/
def label : Op α → Output α → Label α
  | .trySend _ msg, .accepted => .sent .normal msg
  | .tryQuickSend _ msg, .accepted => .sent .high msg
  | _, .received r => .received r
  | _, .drained messages => .drained messages
  | _, _ => .silent

@[simp] theorem label_refused (op : Op α) (kind : SendErrorKind) (msg : α) :
    label op (.refused kind msg) = .silent := by
  cases op <;> rfl

@[simp] theorem label_panicked (op : Op α) (p : Panic) : label op (.panicked p) = .silent := by
  cases op <;> rfl

@[simp] theorem label_absent (op : Op α) : label op .absent = .silent := by
  cases op <;> rfl

@[simp] theorem label_received (op : Op α) (r : PriorityChannel.Received α) :
    label op (.received r) = .received r := by
  cases op <;> rfl

/-- The receiver after a message. -/
def Receiver.after : PriorityChannel.Received α → Receiver
  | .ended => .terminated
  | _ => .active

/-- What a call does to the receiver. -/
inductive ReceiverMove : Receiver → Label α → Receiver → Prop where
  | sent (receiver : Receiver) (priority : Priority) (msg : α) :
      ReceiverMove receiver (.sent priority msg) receiver
  | silent (receiver : Receiver) : ReceiverMove receiver .silent receiver
  | received (r : PriorityChannel.Received α) : ReceiverMove .active (.received r) (.after r)
  | drained (receiver : Receiver) (messages : List (Priority × α)) :
      ReceiverMove receiver (.drained messages) .dropped

/-- **The invariant**: the word says what the queues say, and a receiver that has reported the
end, or is gone, has left nothing behind. -/
structure Inv (c : Channel w α) : Prop where
  counted : c.inner.Counted
  idle : c.receiver ≠ .active → c.inner.view = ⟨[], [], false⟩

/-- The channel has made a move, and the invariant holds after it. -/
structure Moved (c : Channel w α) (l : Label α) (c' : Channel w α) : Prop where
  move : Move c.inner.view l c'.inner.view
  receiver : ReceiverMove c.receiver l c'.receiver
  inv : Inv c'

variable {c c' c'' : Channel w α} {l : Label α}

theorem inv_channel {buffer : Usize w} (h : channel α buffer = some c) : Inv c := by
  unfold channel at h
  split_ifs at h
  cases h
  have hmask := PackedWord.holds_flagMask w
  rw [← openMask_eq] at hmask
  exact ⟨BoundedInner.counted_of_holds hmask, fun hne => absurd rfl hne⟩

theorem Inv.same (h : Inv c) (hs : c.Same c') : Inv c' where
  counted := hs.counted h.counted
  idle hne := by
    rw [hs.view_eq]
    exact h.idle (hs.receiver ▸ hne)

/-- A move, after something that leaves the queues alone. -/
theorem Moved.of_same (hs : c.Same c') (h : Moved c' l c'') : Moved c l c'' where
  move := hs.view_eq ▸ h.move
  receiver := hs.receiver ▸ h.receiver
  inv := h.inv

/-- A move, and something that leaves the queues alone. -/
theorem Moved.same (h : Moved c l c') (hs : c'.Same c'') : Moved c l c'' where
  move := hs.view_eq ▸ h.move
  receiver := hs.receiver ▸ h.receiver
  inv := h.inv.same hs

theorem moved_refl (h : Inv c) : Moved c .silent c := ⟨.stay _, .silent _, h⟩

/-- A call that leaves the queues alone. -/
theorem moved_of_same (h : Inv c) (hs : c.Same c') : Moved c .silent c' := (moved_refl h).same hs

/-! ### Closing -/

theorem moved_setClosed (h : Inv c) : Moved c .silent { c with inner := c.inner.setClosed } := by
  have hview := BoundedInner.view_setClosed h.counted
  refine ⟨?_, .silent _, BoundedInner.counted_setClosed h.counted, ?_⟩
  · dsimp only
    rw [hview]
    exact .close _
  · intro hne
    dsimp only
    rw [hview, h.idle hne]
    rfl

theorem moved_closeInner (h : Inv c) : Moved c .silent c.closeInner :=
  (moved_setClosed h).same (Channel.same_wakeReceiver _)

theorem moved_dropInner (h : Inv c) : Moved c .silent c.dropInner := by
  have hs : c.Same { c with inner := { c.inner with numSenders := c.inner.numSenders - 1 } } :=
    ⟨rfl, rfl, rfl, rfl⟩
  unfold Channel.dropInner
  dsimp only
  split_ifs
  · exact .of_same hs (moved_closeInner (h.same hs))
  · exact moved_of_same h hs

theorem moved_close (h : Inv c) : Moved c .silent c.close := by
  unfold Channel.close
  split
  · exact (moved_setClosed h).same (Channel.same_notifyAll _ _)
  · exact moved_refl h

/-- A receiver that is there closes the channel. -/
theorem view_close (h : Inv c) (hactive : c.receiver = .active) :
    c.close.inner.view = c.inner.view.close := by
  unfold Channel.close
  split
  · have hs := Channel.same_notifyAll { c with inner := c.inner.setClosed } c.inner.parkedQueue
    exact hs.view_eq.trans (BoundedInner.view_setClosed h.counted)
  · next hne => exact absurd hactive hne

theorem receiver_close (hactive : c.receiver = .active) : c.close.receiver = .active := by
  unfold Channel.close
  split
  · exact (Channel.same_notifyAll _ _).receiver.trans hactive
  · exact hactive

/-! ### Sending -/

/-- The call that sends a message. -/
def Op.send (id : SenderId) (msg : α) : Priority → Op α
  | .high => .tryQuickSend id msg
  | .normal => .trySend id msg

theorem label_send_accepted (id : SenderId) (msg : α) (priority : Priority) :
    label (.send id msg priority) .accepted = .sent priority msg := by
  cases priority <;> rfl

/-- **The word and a queue are changed alike.** -/
theorem moved_push (h : Inv c) (hopen : c.inner.view.isOpen = true) {state : Usize w}
    (hstate : PackedWord.Holds state true (c.inner.queued + 1)) (msg : α) (priority : Priority) :
    Moved c (.sent priority msg)
      { c with inner := { c.inner with state }.push msg priority } := by
  have hactive : c.receiver = .active := by
    by_contra hne
    rw [h.idle hne] at hopen
    cases hopen
  have hview : ({ c.inner with state }.push msg priority).view
      = c.inner.view.push priority msg := by
    have hflag := isOpen_decodeState hstate
    have hold : (decodeState c.inner.state).isOpen = true := hopen
    cases priority <;>
      simp [BoundedInner.push, BoundedInner.view, PriorityChannel.push, hflag, hold]
  have hqueued : ({ c.inner with state }.push msg priority).queued = c.inner.queued + 1 := by
    cases priority <;> simp [BoundedInner.push, BoundedInner.queued] <;> omega
  refine ⟨?_, .sent _ priority msg, ?_, fun hne => absurd hactive hne⟩
  · dsimp only
    rw [hview]
    exact .sent hopen priority msg
  · rw [← hqueued] at hstate
    cases priority <;> exact BoundedInner.counted_of_holds hstate

theorem moved_doSend (h : Inv c) (id : SenderId) (t : TaskId) (msg : α) (priority : Priority) :
    Moved c (label (.send id msg priority) (c.doSend id t msg priority).1)
      (c.doSend id t msg priority).2 := by
  unfold Channel.doSend
  cases hinc : c.inner.incNumMessages with
  | error p => simpa using moved_refl h
  | ok counted =>
    cases counted with
    | none => simpa using moved_refl h
    | some counted =>
      obtain ⟨num, inner⟩ := counted
      obtain ⟨hopen, state, rfl, hstate⟩ := BoundedInner.incNumMessages_eq_some h.counted hinc
      dsimp only
      rw [label_send_accepted]
      -- parking and waking leave the queues alone
      refine (moved_push h hopen hstate msg priority).same ?_
      unfold Channel.queuePushAndSignal
      refine .trans ?_ (Channel.same_wakeReceiver _)
      split_ifs
      · cases priority <;> exact ⟨rfl, rfl, rfl, rfl⟩
      · exact .refl _

/-- A call on a handle. -/
theorem moved_withSender (h : Inv c) {op : Op α} (id : SenderId) {gone : Output α × Channel w α}
    {f : BoundedSenderInner → Output α × Channel w α} (hgone : Moved c (label op gone.1) gone.2)
    (hf : ∀ sender, Moved c (label op (f sender).1) (f sender).2) :
    Moved c (label op (c.withSender id gone f).1) (c.withSender id gone f).2 := by
  unfold Channel.withSender
  cases c.senders.lookup id with
  | none => simpa using moved_refl h
  | some handle =>
    cases handle with
    | none => exact hgone
    | some sender => exact hf sender

/-- **A message that is accepted is put into its queue**, and the channel is open. -/
theorem moved_trySend (h : Inv c) (id : SenderId) (msg : α) (priority : Priority) :
    Moved c (label (.send id msg priority) (c.trySend id msg priority).1)
      (c.trySend id msg priority).2 := by
  refine moved_withSender h id (by simpa using moved_refl h) ?_
  intro sender
  have hs := Channel.same_pollUnparked c id sender none
  generalize c.pollUnparked id sender none = polled at hs
  obtain ⟨isReady, c'⟩ := polled
  cases isReady with
  | false => simpa using moved_of_same h hs
  | true => exact .of_same hs (moved_doSend (h.same hs) id sender.senderTask msg priority)

/-! ### Receiving -/

section Pop

variable {inner inner' : BoundedInner w α} {p : Priority} {msg : α}

theorem BoundedInner.pop_eq_none_iff : inner.pop p = none ↔ inner.view.queue p = [] := by
  cases p with
  | high => cases hqueue : inner.quickMessageQueue <;>
    simp [pop, view, PriorityChannel.queue, hqueue]
  | normal => cases hqueue : inner.messageQueue <;> simp [pop, view, PriorityChannel.queue, hqueue]

/-- What `pop` leaves. -/
theorem BoundedInner.of_pop_eq_some (hpop : inner.pop p = some (msg, inner')) :
    inner'.state = inner.state ∧ inner.queued = inner'.queued + 1 := by
  cases p <;> simp only [pop] at hpop <;> split at hpop <;> cases hpop
  · next hqueue =>
    refine ⟨rfl, ?_⟩
    simp only [queued, hqueue, List.length_cons]
    omega
  · next hqueue =>
    refine ⟨rfl, ?_⟩
    simp only [queued, hqueue, List.length_cons]
    omega

/-- What `pop` takes is what `next` takes, as long as high priorities go first. -/
theorem BoundedInner.next_of_pop_eq_some (hpop : inner.pop p = some (msg, inner'))
    (hfirst : p = .normal → inner.pop .high = none) :
    inner.view.next = (.item p msg, inner'.view) := by
  cases p with
  | high =>
    simp only [pop] at hpop
    split at hpop
    · next hqueue =>
      cases hpop
      simp [PriorityChannel.next, view, hqueue]
    · cases hpop
  | normal =>
    have hhigh : inner.quickMessageQueue = [] := pop_eq_none_iff.mp (hfirst rfl)
    simp only [pop] at hpop
    split at hpop
    · next hqueue =>
      cases hpop
      simp [PriorityChannel.next, view, hqueue, hhigh]
    · cases hpop

end Pop

/-- What there is to say about a channel after `next_message`. -/
structure Popped (c : Channel w α) (r : PriorityChannel.Received α × Channel w α) : Prop where
  eq : c.inner.view.next = (r.1, r.2.inner.view)
  receiver : r.2.receiver = .after r.1
  inv : Inv r.2

/-- A message has been taken from its queue, so the count was not zero. -/
theorem popped_taken {inner : BoundedInner w α} {p : Priority} {msg : α} (h : Inv c)
    (hactive : c.receiver = .active) (hpop : c.inner.pop p = some (msg, inner))
    (hfirst : p = .normal → c.inner.pop .high = none) :
    Popped c (.item p msg, Channel.taken { c with inner }) := by
  obtain ⟨hstate, hqueued⟩ := BoundedInner.of_pop_eq_some hpop
  have hs := Channel.same_unparkOne { c with inner }
  have hsub := h.counted.sub_one (hqueued ▸ Nat.succ_ne_zero _)
  rw [hqueued, Nat.add_sub_cancel, ← hstate] at hsub
  -- what is left has one message fewer, in the queues and in the word
  have htaken : (Channel.taken { c with inner }).inner.state = inner.state - 1 :=
    congrArg (· - 1) hs.state
  have hcount : (Channel.taken { c with inner }).inner.queued = inner.queued :=
    congrArg₂ (fun quick normal => List.length quick + List.length normal) hs.quick hs.normal
  have hview : (Channel.taken { c with inner }).inner.view = inner.view := by
    have hflag : (decodeState inner.state).isOpen = c.inner.view.isOpen := by
      rw [hstate]
      rfl
    unfold BoundedInner.view
    rw [htaken, isOpen_decodeState hsub, hflag]
    exact congrArg₂ (fun quick normal => PriorityChannel.mk quick normal c.inner.view.isOpen)
      hs.quick hs.normal
  have hreceiver : (Channel.taken { c with inner }).receiver = .active :=
    hs.receiver.trans hactive
  refine ⟨?_, hreceiver, ?_, fun hne => absurd hreceiver hne⟩
  · rw [BoundedInner.next_of_pop_eq_some hpop hfirst, hview]
  · rw [← htaken, ← hcount] at hsub
    exact BoundedInner.counted_of_holds hsub

/-- **`next_message` takes the first message of the two queues.** -/
theorem popped_popMessage (h : Inv c) (hactive : c.receiver = .active) :
    Popped c c.popMessage := by
  unfold Channel.popMessage
  split
  · next msg inner hpop => exact popped_taken h hactive hpop nofun
  · next hhigh =>
    split
    · next msg inner hpop => exact popped_taken h hactive hpop fun _ => hhigh
    · next hnormal =>
      rw [BoundedInner.pop_eq_none_iff] at hhigh hnormal
      have hnext := PriorityChannel.next_of_empty hhigh hnormal
      have hclosed := isClosed_decodeState_iff h.counted
      have hqueued : c.inner.queued = 0 :=
        congrArg₂ (fun quick normal => List.length quick + List.length normal) hhigh hnormal
      split_ifs with hend
      · have hflag := (hclosed.mp hend).1
        refine ⟨?_, rfl, h.counted, fun _ => ?_⟩
        · rw [hnext, hflag]
          rfl
        · exact PriorityChannel.eq_done hhigh hnormal hflag
      · have hflag : c.inner.view.isOpen = true := by
          by_contra hne
          exact hend (hclosed.mpr ⟨by simpa using hne, hqueued⟩)
        refine ⟨?_, hactive, h⟩
        rw [hnext, hflag]
        rfl

theorem nextMessage_of_active (hactive : c.receiver = .active) :
    c.nextMessage = .ok c.popMessage := by
  unfold Channel.nextMessage
  rw [hactive]

theorem nextMessage_of_not_active (hne : c.receiver ≠ .active) :
    c.nextMessage = .error .calledAfterNone := by
  unfold Channel.nextMessage
  split
  · next hactive => exact absurd hactive hne
  · rfl

/-- **The messages that are dropped with the receiver are all that are queued**, and the loop
that drops them ends. -/
theorem drainLoop_eq (h : Inv c) (hactive : c.receiver = .active)
    (hclosed : c.inner.view.isOpen = false) {fuel : ℕ} (hfuel : c.inner.queued < fuel) :
    ∃ c', c.drainLoop fuel = some (c.inner.view.inOrder, c') ∧ Inv c' ∧
      c'.inner.view = ⟨[], [], false⟩ := by
  induction fuel generalizing c with
  | zero => cases hfuel
  | succ fuel ih =>
    have hpopped := popped_popMessage h hactive
    rw [Channel.drainLoop, nextMessage_of_active hactive]
    generalize c.popMessage = popped at hpopped
    obtain ⟨r, c'⟩ := popped
    obtain ⟨heq, hreceiver, hinv⟩ := hpopped
    dsimp only at heq hinv hreceiver
    cases r with
    | item priority msg =>
      have horder := PriorityChannel.inOrder_of_next heq
      obtain ⟨-, -, hopen⟩ := PriorityChannel.queue_next_item heq
      have hfewer : c'.inner.queued < fuel := by
        rw [BoundedInner.queued_eq, horder, List.length_cons] at hfuel
        rw [BoundedInner.queued_eq]
        omega
      obtain ⟨c'', hdrain, hrest⟩ := ih hinv hreceiver (hopen.trans hclosed) hfewer
      dsimp only
      rw [hdrain, horder]
      exact ⟨c'', rfl, hrest⟩
    | ended =>
      have hview := PriorityChannel.next_of_not_item heq nofun
      obtain ⟨-, hhigh, hnormal⟩ := PriorityChannel.next_eq_ended_iff.mp (congrArg Prod.fst heq)
      have hdone := PriorityChannel.eq_done hhigh hnormal hclosed
      rw [hdone]
      exact ⟨c', rfl, hinv, hview.trans hdone⟩
    | pending =>
      have hopen := PriorityChannel.isOpen_of_next_eq_pending (congrArg Prod.fst heq)
      rw [hclosed] at hopen
      cases hopen

/-- What a receive comes to. -/
inductive ReceiveMove (c : Channel w α) : Output α × Channel w α → Prop where
  | popped {r : PriorityChannel.Received α × Channel w α} (hactive : c.receiver = .active)
      (hpopped : Popped c r) : ReceiveMove c (.received r.1, r.2)
  | panicked (hterminated : c.receiver = .terminated) :
      ReceiveMove c (.panicked .calledAfterNone, c)
  | absent (hdropped : c.receiver = .dropped) : ReceiveMove c (.absent, c)

theorem receiveMove_tryNext (h : Inv c) : ReceiveMove c c.tryNext := by
  unfold Channel.tryNext
  cases hreceiver : c.receiver with
  | active =>
    rw [if_neg nofun, nextMessage_of_active hreceiver]
    exact .popped hreceiver (popped_popMessage h hreceiver)
  | terminated =>
    rw [if_neg nofun, nextMessage_of_not_active (by rw [hreceiver]; nofun)]
    exact .panicked hreceiver
  | dropped =>
    rw [if_pos rfl]
    exact .absent hreceiver

theorem receiveMove_pollNext (h : Inv c) (cx : Waker) : ReceiveMove c (c.pollNext cx) := by
  unfold Channel.pollNext
  cases hreceiver : c.receiver with
  | active =>
    have hpopped := popped_popMessage h hreceiver
    rw [if_neg nofun, nextMessage_of_active hreceiver]
    generalize c.popMessage = popped at hpopped
    obtain ⟨r, c'⟩ := popped
    cases r with
    | item priority msg => exact .popped hreceiver hpopped
    | ended => exact .popped hreceiver hpopped
    | pending =>
      -- the queues are looked at again, and are the same
      have hview : c'.inner.view = c.inner.view :=
        PriorityChannel.next_of_not_item hpopped.eq nofun
      have hs : c'.Same { c' with inner := { c'.inner with recvTask := some cx } } :=
        ⟨rfl, rfl, rfl, rfl⟩
      have hactive := hs.receiver.trans hpopped.receiver
      have hagain := popped_popMessage (hpopped.inv.same hs) hactive
      dsimp only
      rw [nextMessage_of_active hactive]
      refine .popped hreceiver ⟨?_, hagain.receiver, hagain.inv⟩
      rw [← hview, ← hs.view_eq]
      exact hagain.eq
  | terminated =>
    rw [if_neg nofun, nextMessage_of_not_active (by rw [hreceiver]; nofun)]
    exact .panicked hreceiver
  | dropped =>
    rw [if_pos rfl]
    exact .absent hreceiver

/-- The calls of the receiver that may give a message. -/
def Op.IsReceive (op : Op α) : Prop := op = .tryNext ∨ ∃ cx, op = .pollNext cx

theorem receiveMove_call (h : Inv c) {op : Op α} (hop : op.IsReceive) :
    ReceiveMove c (call c op) := by
  rcases hop with rfl | ⟨cx, rfl⟩
  · exact receiveMove_tryNext h
  · exact receiveMove_pollNext h cx

theorem moved_receive (h : Inv c) {op : Op α} (hop : op.IsReceive) :
    Moved c (label op (call c op).1) (call c op).2 := by
  have hr := receiveMove_call h hop
  generalize call c op = r at hr
  cases hr with
  | @popped r hactive hpopped =>
    have hmove := Move.received c.inner.view
    have hreceiver := ReceiverMove.received r.1
    rw [hpopped.eq] at hmove
    rw [← hpopped.receiver, ← hactive] at hreceiver
    dsimp only
    rw [label_received]
    exact ⟨hmove, hreceiver, hpopped.inv⟩
  | panicked _ => rcases hop with rfl | ⟨cx, rfl⟩ <;> exact moved_refl h
  | absent _ => rcases hop with rfl | ⟨cx, rfl⟩ <;> exact moved_refl h

/-! ### Every call -/

theorem moved_pollReady (h : Inv c) (id : SenderId) (cx : Waker) :
    Moved c (label (.pollReady id cx) (c.pollReady id cx).1) (c.pollReady id cx).2 := by
  refine moved_withSender h id (moved_refl h) ?_
  intro sender
  split_ifs
  · exact moved_refl h
  · exact moved_of_same h (Channel.same_pollUnparked c id sender (some cx))

theorem moved_clone (h : Inv c) (id : SenderId) :
    Moved c (label (.clone id) (c.clone id).1) (c.clone id).2 := by
  refine moved_withSender h id (moved_of_same h ⟨rfl, rfl, rfl, rfl⟩) ?_
  intro sender
  split_ifs
  · exact moved_refl h
  · exact moved_of_same h ⟨rfl, rfl, rfl, rfl⟩

theorem moved_drop (h : Inv c) (id : SenderId) :
    Moved c (label (.drop id) (c.drop id).1) (c.drop id).2 := by
  have hs : c.Same { c with senders := c.senders.erase id } := ⟨rfl, rfl, rfl, rfl⟩
  refine moved_withSender h id (moved_of_same h hs) ?_
  intro sender
  exact .of_same hs (moved_dropInner (h.same hs))

theorem moved_disconnect (h : Inv c) (id : SenderId) :
    Moved c (label (.disconnect id) (c.disconnect id).1) (c.disconnect id).2 := by
  have hs : c.Same { c with senders := c.senders.insert id none } := ⟨rfl, rfl, rfl, rfl⟩
  refine moved_withSender h id (moved_refl h) ?_
  intro sender
  exact .of_same hs (moved_dropInner (h.same hs))

theorem moved_closeChannel (h : Inv c) (id : SenderId) :
    Moved c (label (.closeChannel id) (c.closeChannel id).1) (c.closeChannel id).2 := by
  refine moved_withSender h id (moved_refl h) ?_
  intro sender
  exact moved_closeInner h

/-- **What is left is dropped with the receiver**, and the call returns. -/
theorem dropReceiver_eq (h : Inv c) (hne : c.receiver ≠ .dropped) :
    ∃ c', c.dropReceiver = (.drained c.inner.view.inOrder, { c' with receiver := .dropped }) ∧
      Inv c' ∧ c'.inner.view = ⟨[], [], false⟩ := by
  unfold Channel.dropReceiver
  split
  · next hdropped => exact absurd hdropped hne
  · next hterminated =>
    have hdone := h.idle (by rw [hterminated]; nofun)
    refine ⟨c, ?_, h, hdone⟩
    rw [hdone]
    rfl
  · next hactive =>
    have hview := view_close h hactive
    obtain ⟨c', hdrain, hrest⟩ := drainLoop_eq (moved_close h).inv (receiver_close hactive)
      (by rw [hview]; rfl) (Nat.lt_add_one c.close.inner.queued)
    unfold BoundedInner.queued at hdrain
    refine ⟨c', ?_, hrest⟩
    dsimp only
    rw [hdrain, hview]
    rfl

theorem moved_dropReceiver (h : Inv c) :
    Moved c (label .dropReceiver c.dropReceiver.1) c.dropReceiver.2 := by
  by_cases hdropped : c.receiver = .dropped
  · unfold Channel.dropReceiver
    rw [hdropped]
    exact moved_refl h
  · obtain ⟨c', heq, hinv, hdone⟩ := dropReceiver_eq h hdropped
    have hmove := Move.drained c.inner.view
    rw [← hdone] at hmove
    rw [heq]
    exact ⟨hmove, .drained _ _, hinv.counted, fun _ => hdone⟩

/-- **Every call is a move**, and keeps the invariant. -/
theorem moved_call (h : Inv c) (op : Op α) :
    Moved c (label op (call c op).1) (call c op).2 := by
  cases op with
  | trySend id msg => exact moved_trySend h id msg .normal
  | tryQuickSend id msg => exact moved_trySend h id msg .high
  | pollReady id cx => exact moved_pollReady h id cx
  | clone id => exact moved_clone h id
  | drop id => exact moved_drop h id
  | disconnect id => exact moved_disconnect h id
  | closeChannel id => exact moved_closeChannel h id
  | close =>
    unfold call
    dsimp only
    split_ifs <;> exact moved_close h
  | tryNext => exact moved_receive h (.inl rfl)
  | pollNext cx => exact moved_receive h (.inr ⟨cx, rfl⟩)
  | dropReceiver => exact moved_dropReceiver h

end Bound

end Tentacle
end CkbP2P

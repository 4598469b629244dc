import Mathlib.Data.List.AList
import CkbP2P.Lib.PackedWord
import CkbP2P.Tentacle.Buffer

/-!
# The bounded channel with two priorities

A channel between any number of senders and one receiver.  Messages wait in one of two queues,
by their priority.  One word holds whether the channel is open and how many messages wait in
both queues together.  A sender whose message is one more than the buffer takes is accepted, but
parked: it may not send again before a message has been received.

The functions below are whole calls.  A machine word has `w + 1` bits.  The queues are lists.
The task of a sender is shared between the sender and the queue of parked tasks, so it has an
address.  Handles of senders have names, and so have wakers; those that are woken are noted.  A
call that panics leaves the channel as it was, up to the flag it keeps for itself.
-/

namespace CkbP2P
namespace Tentacle
namespace Bound

/-! ### The word -/

section Word

variable (w : ℕ)

/-- A machine word. -/
abbrev Usize := BitVec (w + 1)

/-- `usize::max_value()`. -/
def usizeMax : Usize w := BitVec.allOnes (w + 1)

/-- The `is_open` flag is stored in the left-most bit. -/
def openMask : Usize w := usizeMax w - usizeMax w >>> 1

/-- When a new channel is created, it is created in the open state with no pending messages. -/
def initState : Usize w := openMask w

/-- The maximum number of messages that a channel can track. -/
def maxCapacity : Usize w := ~~~openMask w

/-- The maximum requested buffer size must be less than the maximum capacity of a channel.  This
is because each sender gets a guaranteed slot. -/
def maxBuffer : Usize w := maxCapacity w >>> 1

end Word

variable {w : ℕ} {α : Type}

/-- What the word holds. -/
structure State (w : ℕ) where
  isOpen : Bool
  numMessages : Usize w
  deriving DecidableEq, Repr

/-- `is_closed`. -/
def State.isClosed (s : State w) : Bool := !s.isOpen && s.numMessages == 0

/-- `decode_state`. -/
def decodeState (num : Usize w) : State w where
  isOpen := num &&& openMask w == openMask w
  numMessages := num &&& maxCapacity w

/-- `encode_state`. -/
def encodeState (s : State w) : Usize w :=
  if s.isOpen then s.numMessages ||| openMask w else s.numMessages

/-! ### What sender and receiver share -/

inductive SendErrorKind where
  | full
  | disconnected
  deriving DecidableEq, Repr

inductive Panic where
  /-- `"buffer space exhausted; sending this messages would overflow the state"`. -/
  | bufferSpaceExhausted
  /-- "cannot clone `Sender` -- too many outstanding senders". -/
  | tooManyOutstandingSenders
  /-- "Receiver::next_message called after `None`". -/
  | calledAfterNone
  deriving DecidableEq, Repr

/-- The name of a waker. -/
abbrev Waker := ℕ

/-- The address of a task. -/
abbrev TaskId := ℕ

/-- The name of a handle. -/
abbrev SenderId := ℕ

structure SenderTask where
  task : Option Waker
  isParked : Bool
  deriving DecidableEq, Repr

/-- `SenderTask::new`. -/
def SenderTask.new : SenderTask := ⟨none, false⟩

structure BoundedInner (w : ℕ) (α : Type) where
  buffer : Usize w
  state : Usize w
  messageQueue : List α
  quickMessageQueue : List α
  parkedQueue : List TaskId
  numSenders : Usize w
  recvTask : Option Waker
  deriving DecidableEq, Repr

namespace BoundedInner

/-- `max_senders`. -/
def maxSenders (inner : BoundedInner w α) : Usize w := maxCapacity w - inner.buffer

/-- `set_closed`. -/
def setClosed (inner : BoundedInner w α) : BoundedInner w α :=
  if !(decodeState inner.state).isOpen then inner
  else { inner with state := inner.state &&& ~~~openMask w }

/-- `inc_num_messages`. -/
def incNumMessages (inner : BoundedInner w α) :
    Except Panic (Option (Usize w × BoundedInner w α)) :=
  let state := decodeState inner.state
  if !state.isOpen then .ok none
  else if state.numMessages < maxCapacity w then
    let state := { state with numMessages := state.numMessages + 1 }
    .ok (some (state.numMessages, { inner with state := encodeState state }))
  else .error .bufferSpaceExhausted

/-- `dec_num_messages`; the subtraction wraps. -/
def decNumMessages (inner : BoundedInner w α) : BoundedInner w α :=
  { inner with state := inner.state - 1 }

/-- A message is put into the queue of its priority. -/
def push (inner : BoundedInner w α) (msg : α) : Priority → BoundedInner w α
  | .high => { inner with quickMessageQueue := inner.quickMessageQueue ++ [msg] }
  | .normal => { inner with messageQueue := inner.messageQueue ++ [msg] }

/-- `pop_spin` of the queue of a priority. -/
def pop (inner : BoundedInner w α) : Priority → Option (α × BoundedInner w α)
  | .high =>
    match inner.quickMessageQueue with
    | msg :: rest => some (msg, { inner with quickMessageQueue := rest })
    | [] => none
  | .normal =>
    match inner.messageQueue with
    | msg :: rest => some (msg, { inner with messageQueue := rest })
    | [] => none

end BoundedInner

structure BoundedSenderInner where
  senderTask : TaskId
  maybeParked : Bool
  deriving DecidableEq, Repr

/-- The receiver: with the shared part, without it, or gone. -/
inductive Receiver where
  | active
  | terminated
  | dropped
  deriving DecidableEq, Repr

/-- A channel with all its handles. -/
structure Channel (w : ℕ) (α : Type) where
  inner : BoundedInner w α
  tasks : TaskId → SenderTask
  senders : AList fun _ : SenderId => Option BoundedSenderInner
  receiver : Receiver
  /-- The next name of a handle, and the next address of a task. -/
  nextId : ℕ
  /-- The wakers that have been woken. -/
  woken : List Waker

/-- `channel`, unless the requested buffer size is too large. -/
def channel (α : Type) (buffer : Usize w) : Option (Channel w α) :=
  if buffer < maxBuffer w then
    some {
      inner := {
        buffer, state := initState w, messageQueue := [], quickMessageQueue := []
        parkedQueue := [], numSenders := 1, recvTask := none }
      tasks := fun _ => .new
      senders := (∅ : AList fun _ : SenderId => Option BoundedSenderInner).insert 0
        (some ⟨0, false⟩)
      receiver := .active
      nextId := 1
      woken := [] }
  else none

namespace Channel

/-- The task of the receiver is woken. -/
def wakeReceiver (c : Channel w α) : Channel w α :=
  { c with
    inner := { c.inner with recvTask := none }
    woken := c.woken ++ c.inner.recvTask.toList }

/-- `notify` of a task. -/
def notify (c : Channel w α) (t : TaskId) : Channel w α :=
  { c with
    tasks := Function.update c.tasks t ⟨none, false⟩
    woken := c.woken ++ (c.tasks t).task.toList }

/-! ### Senders -/

/-- `poll_unparked`: whether the sender may send. -/
def pollUnparked (c : Channel w α) (id : SenderId) (sender : BoundedSenderInner)
    (cx : Option Waker) : Bool × Channel w α :=
  if sender.maybeParked then
    if !(c.tasks sender.senderTask).isParked then
      (true, { c with senders := c.senders.insert id (some { sender with maybeParked := false }) })
    else
      -- an unpark request is pending; the task may have moved
      (false, { c with tasks := Function.update c.tasks sender.senderTask ⟨cx, true⟩ })
  else (true, c)

/-- `park`. -/
def park (c : Channel w α) (id : SenderId) (t : TaskId) : Channel w α :=
  { c with
    tasks := Function.update c.tasks t ⟨none, true⟩
    inner := { c.inner with parkedQueue := c.inner.parkedQueue ++ [t] }
    senders := c.senders.insert id (some ⟨t, (decodeState c.inner.state).isOpen⟩) }

/-- `queue_push_and_signal`. -/
def queuePushAndSignal (c : Channel w α) (msg : α) (priority : Priority) : Channel w α :=
  wakeReceiver { c with inner := c.inner.push msg priority }

end Channel

/-- What a call gives back. -/
inductive Output (α : Type) where
  | accepted
  | refused (kind : SendErrorKind) (val : α)
  | ready (isReady : Bool)
  | disconnected
  | cloned (id : SenderId)
  | done
  | received (r : PriorityChannel.Received α)
  /-- The messages that are dropped with the receiver. -/
  | drained (messages : List (Priority × α))
  /-- The call does not return. -/
  | spins
  | panicked (p : Panic)
  /-- There is no such handle. -/
  | absent

namespace Channel

/-- `do_send_b`. -/
def doSend (c : Channel w α) (id : SenderId) (t : TaskId) (msg : α) (priority : Priority) :
    Output α × Channel w α :=
  match c.inner.incNumMessages with
  | .error p => (.panicked p, c)
  | .ok none => (.refused .disconnected msg, c)
  | .ok (some (numMessages, inner)) =>
    let c := { c with inner }
    let c := if numMessages > c.inner.buffer then c.park id t else c
    (.accepted, c.queuePushAndSignal msg priority)

/-- A call on a handle: `gone` if the handle has been disconnected. -/
def withSender (c : Channel w α) (id : SenderId) (gone : Output α × Channel w α)
    (f : BoundedSenderInner → Output α × Channel w α) : Output α × Channel w α :=
  match c.senders.lookup id with
  | none => (.absent, c)
  | some none => gone
  | some (some sender) => f sender

/-- `try_send` and `try_quick_send`. -/
def trySend (c : Channel w α) (id : SenderId) (msg : α) (priority : Priority) :
    Output α × Channel w α :=
  c.withSender id (.refused .disconnected msg, c) fun sender =>
    match c.pollUnparked id sender none with
    | (false, c) => (.refused .full msg, c)
    | (true, c) => c.doSend id sender.senderTask msg priority

/-- `poll_ready`. -/
def pollReady (c : Channel w α) (id : SenderId) (cx : Waker) : Output α × Channel w α :=
  c.withSender id (.disconnected, c) fun sender =>
    if !(decodeState c.inner.state).isOpen then (.disconnected, c)
    else
      let (isReady, c) := c.pollUnparked id sender (some cx)
      (.ready isReady, c)

/-- `clone`. -/
def clone (c : Channel w α) (id : SenderId) : Output α × Channel w α :=
  c.withSender id
    (.cloned c.nextId, { c with senders := c.senders.insert c.nextId none, nextId := c.nextId + 1 })
    fun _ =>
      if c.inner.numSenders = c.inner.maxSenders then (.panicked .tooManyOutstandingSenders, c)
      else
        (.cloned c.nextId,
          { c with
            inner := { c.inner with numSenders := c.inner.numSenders + 1 }
            tasks := Function.update c.tasks c.nextId .new
            senders := c.senders.insert c.nextId (some ⟨c.nextId, false⟩)
            nextId := c.nextId + 1 })

/-- `close_channel` of the part of a sender that is shared. -/
def closeInner (c : Channel w α) : Channel w α :=
  wakeReceiver { c with inner := c.inner.setClosed }

/-- `drop` of the part of a sender that is shared; the last sender closes the channel. -/
def dropInner (c : Channel w α) : Channel w α :=
  let prev := c.inner.numSenders
  let c := { c with inner := { c.inner with numSenders := c.inner.numSenders - 1 } }
  if prev = 1 then c.closeInner else c

/-- `drop` of a sender. -/
def drop (c : Channel w α) (id : SenderId) : Output α × Channel w α :=
  c.withSender id (.done, { c with senders := c.senders.erase id }) fun _ =>
    (.done, dropInner { c with senders := c.senders.erase id })

/-- `disconnect`. -/
def disconnect (c : Channel w α) (id : SenderId) : Output α × Channel w α :=
  c.withSender id (.done, c) fun _ =>
    (.done, dropInner { c with senders := c.senders.insert id none })

/-- `close_channel`. -/
def closeChannel (c : Channel w α) (id : SenderId) : Output α × Channel w α :=
  c.withSender id (.done, c) fun _ => (.done, c.closeInner)

/-! ### The receiver -/

/-- All parked tasks are notified. -/
def notifyAll (c : Channel w α) : List TaskId → Channel w α
  | [] => { c with inner := { c.inner with parkedQueue := [] } }
  | t :: ts => (c.notify t).notifyAll ts

/-- `close`. -/
def close (c : Channel w α) : Channel w α :=
  match c.receiver with
  | .active => notifyAll { c with inner := c.inner.setClosed } c.inner.parkedQueue
  | _ => c

/-- `unpark_one`. -/
def unparkOne (c : Channel w α) : Channel w α :=
  match c.inner.parkedQueue with
  | [] => c
  | t :: ts => notify { c with inner := { c.inner with parkedQueue := ts } } t

/-- A message has been taken from its queue. -/
def taken (c : Channel w α) : Channel w α :=
  let c := c.unparkOne
  { c with inner := c.inner.decNumMessages }

/-- `next_message` of a receiver that has not reported the end. -/
def popMessage (c : Channel w α) : PriorityChannel.Received α × Channel w α :=
  match c.inner.pop .high with
  | some (msg, inner) => (.item .high msg, taken { c with inner })
  | none =>
    match c.inner.pop .normal with
    | some (msg, inner) => (.item .normal msg, taken { c with inner })
    | none =>
      -- closed AND no pending messages means end of stream
      if (decodeState c.inner.state).isClosed then (.ended, { c with receiver := .terminated })
      else (.pending, c)

/-- `next_message`. -/
def nextMessage (c : Channel w α) : Except Panic (PriorityChannel.Received α × Channel w α) :=
  match c.receiver with
  | .active => .ok c.popMessage
  | _ => .error .calledAfterNone

/-- A call of the receiver, if it is there. -/
def received (c : Channel w α) :
    Except Panic (PriorityChannel.Received α × Channel w α) → Output α × Channel w α
  | .error p => (.panicked p, c)
  | .ok (r, c) => (.received r, c)

/-- `try_next`. -/
def tryNext (c : Channel w α) : Output α × Channel w α :=
  if c.receiver = .dropped then (.absent, c) else c.received c.nextMessage

/-- `poll_next`. -/
def pollNext (c : Channel w α) (cx : Waker) : Output α × Channel w α :=
  if c.receiver = .dropped then (.absent, c)
  else
    match c.nextMessage with
    | .ok (.pending, c) =>
      -- check queue again after parking to prevent race condition
      let c := { c with inner := { c.inner with recvTask := some cx } }
      c.received c.nextMessage
    | r => c.received r

/-- The loop of `drop` of the receiver; the messages it drops, unless it does not end. -/
def drainLoop (c : Channel w α) : ℕ → Option (List (Priority × α) × Channel w α)
  | 0 => none
  | fuel + 1 =>
    match c.nextMessage with
    | .ok (.item priority msg, c) =>
      match c.drainLoop fuel with
      | some (messages, c) => some ((priority, msg) :: messages, c)
      | none => none
    | .ok (.ended, c) => some ([], c)
    | .ok (.pending, c) =>
      -- without other threads the loop spins for ever
      if (decodeState c.inner.state).isClosed then some ([], c) else none
    | .error _ => none

/-- `drop` of the receiver. -/
def dropReceiver (c : Channel w α) : Output α × Channel w α :=
  match c.receiver with
  | .dropped => (.absent, c)
  | .terminated => (.drained [], { c with receiver := .dropped })
  | .active =>
    let c := c.close
    -- every turn takes a message
    match c.drainLoop (c.inner.quickMessageQueue.length + c.inner.messageQueue.length + 1) with
    | some (messages, c) => (.drained messages, { c with receiver := .dropped })
    | none => (.spins, c)

end Channel

/-! ### Calls -/

inductive Op (α : Type) where
  | trySend (id : SenderId) (msg : α)
  | tryQuickSend (id : SenderId) (msg : α)
  | pollReady (id : SenderId) (cx : Waker)
  | clone (id : SenderId)
  | drop (id : SenderId)
  | disconnect (id : SenderId)
  | closeChannel (id : SenderId)
  | close
  | tryNext
  | pollNext (cx : Waker)
  | dropReceiver
  deriving DecidableEq, Repr

/-- A call. -/
def call (c : Channel w α) : Op α → Output α × Channel w α
  | .trySend id msg => c.trySend id msg .normal
  | .tryQuickSend id msg => c.trySend id msg .high
  | .pollReady id cx => c.pollReady id cx
  | .clone id => c.clone id
  | .drop id => c.drop id
  | .disconnect id => c.disconnect id
  | .closeChannel id => c.closeChannel id
  | .close => (if c.receiver = .dropped then .absent else .done, c.close)
  | .tryNext => c.tryNext
  | .pollNext cx => c.pollNext cx
  | .dropReceiver => c.dropReceiver

end Bound
end Tentacle
end CkbP2P

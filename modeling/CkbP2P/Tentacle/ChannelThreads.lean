import CkbP2P.Lib.Run
import CkbP2P.Lib.StagedQueue
import CkbP2P.Lib.Tally
import CkbP2P.Tentacle.ChannelRefinement

/-!
# The channels, access by access

Both channels, the bounded and the unbounded one, as any number of threads and the receiver use
them at the same time.  A call is a sequence of accesses to what is shared: the word with the
flag and the number of messages, the queues, the task of a sender behind its lock, the flag
`maybe_parked` of a handle, the number of senders and the waker of the receiver.  The accesses of
the threads and of the receiver are interleaved one by one.

A value gets into a queue in two steps, as `Queue.push` does it; a pop that meets a value whose
second step is missing spins.  A handle may be used by several threads at once; it is dropped
when no thread is using it.
-/

namespace CkbP2P
namespace Tentacle
namespace ChannelThreads

open Lib
open CkbP2P.Tentacle.Bound

variable {w : ℕ} {ι α : Type}

/-- The two channels. -/
inductive Kind (w : ℕ) where
  | bounded (buffer : Usize w)
  | unbounded
  deriving DecidableEq, Repr

namespace Kind

/-- `max_senders`; the unbounded channel has `MAX_BUFFER` here. -/
def maxSenders : Kind w → Usize w
  | .bounded buffer => maxCapacity w - buffer
  | .unbounded => maxBuffer w

/-- `num_messages > self.inner.buffer`; the unbounded channel does not park. -/
def parks : Kind w → Usize w → Bool
  | .bounded buffer, numMessages => numMessages > buffer
  | .unbounded, _ => false

/-- The channel has a queue of parked tasks. -/
def hasParked : Kind w → Bool
  | .bounded _ => true
  | .unbounded => false

end Kind

/-- A message on its way, and the handle it is sent with. -/
structure Sending (α : Type) where
  id : SenderId
  priority : Priority
  msg : α
  deriving DecidableEq, Repr

/-- The next access of a thread. -/
inductive Calling (w : ℕ) (α : Type) where
  | idle
  /-- `poll_unparked` of `try_send`: `maybe_parked.load()`. -/
  | loadMaybeParked (m : Sending α)
  /-- The rest of it, behind the lock. -/
  | lockTask (m : Sending α)
  /-- `inc_num_messages`: `state.load()`. -/
  | loadState (m : Sending α)
  /-- `state.compare_exchange(curr, next)`. -/
  | exchange (m : Sending α) (curr : Usize w)
  /-- `park`: the task is marked, behind the lock. -/
  | lockPark (m : Sending α)
  /-- `parked_queue.push(t)`, the first step. -/
  | pushParked (m : Sending α)
  /-- The second step. -/
  | linkParked (m : Sending α)
  /-- `state.load()` of `park`. -/
  | loadOpen (m : Sending α)
  /-- `maybe_parked.store(state.is_open)`. -/
  | storeMaybeParked (m : Sending α) (isOpen : Bool)
  /-- `queue_push_and_signal`: the push, the first step. -/
  | push (m : Sending α)
  /-- The second step. -/
  | link (m : Sending α)
  /-- `recv_task.wake()`, and then the call returns. -/
  | wake (id : Option SenderId) (out : Output α)
  /-- `poll_ready`: `state.load()`. -/
  | readyState (id : SenderId) (cx : Waker)
  /-- `poll_unparked` of `poll_ready`: `maybe_parked.load()`. -/
  | readyMaybeParked (id : SenderId) (cx : Waker)
  /-- The rest of it, behind the lock. -/
  | readyLock (id : SenderId) (cx : Waker)
  /-- `set_closed` of `close_channel`: `state.load()`.  There is no handle when it is the last one
  that is dropped. -/
  | closeLoad (id : Option SenderId)
  /-- `state.fetch_and(!OPEN_MASK)`. -/
  | closeAnd (id : Option SenderId)
  /-- `clone`: `num_senders.load()`. -/
  | cloneLoad (id : SenderId)
  /-- `num_senders.compare_exchange(curr, next)`. -/
  | cloneExchange (id : SenderId) (curr : Usize w)
  /-- `drop`: `num_senders.fetch_sub(1)`. -/
  | dropSub (id : SenderId)

/-- The handle that a thread is using. -/
def Calling.handle : Calling w α → Option SenderId
  | .idle => none
  | .loadMaybeParked m | .lockTask m | .loadState m | .exchange m _ | .lockPark m | .pushParked m
  | .linkParked m | .loadOpen m | .storeMaybeParked m _ | .push m | .link m => some m.id
  | .wake id _ | .closeLoad id | .closeAnd id => id
  | .readyState id _ | .readyMaybeParked id _ | .readyLock id _ | .cloneLoad id
  | .cloneExchange id _ | .dropSub id => some id

/-- What `next_message` is called for. -/
inductive Purpose where
  | tryNext
  /-- `poll_next`, before it has registered its waker. -/
  | first (cx : Waker)
  /-- `poll_next`, after it has registered its waker. -/
  | second (cx : Waker)
  /-- `drop`. -/
  | drain
  deriving DecidableEq, Repr

/-- The next access of the receiver. -/
inductive Receiving (α : Type) where
  | idle
  /-- No call is under way, and the last one was a `poll_next` that returned `Pending`. -/
  | waiting (cx : Waker)
  /-- `next_message`: `pop_spin()` of the queue of a priority. -/
  | pop (priority : Priority) (why : Purpose)
  /-- `unpark_one`: `parked_queue.pop_spin()`. -/
  | popParked (priority : Priority) (msg : α) (why : Purpose)
  /-- `task.lock().notify()`. -/
  | notify (task : TaskId) (priority : Priority) (msg : α) (why : Purpose)
  /-- `dec_num_messages`. -/
  | dec (priority : Priority) (msg : α) (why : Purpose)
  /-- `state.load()`. -/
  | loadState (why : Purpose)
  /-- `recv_task.register()`. -/
  | register (cx : Waker)
  /-- `state.load()` in the loop of `drop`. -/
  | drainLoad
  /-- `close`, on its own or in `drop`: `state.load()`. -/
  | closeLoad (dropping : Bool)
  /-- `state.fetch_and(!OPEN_MASK)`. -/
  | closeAnd (dropping : Bool)
  /-- `parked_queue.pop_spin()` in the loop of `close`. -/
  | closePop (dropping : Bool)
  /-- `task.lock().notify()` in the loop of `close`. -/
  | closeNotify (task : TaskId) (dropping : Bool)
  deriving DecidableEq, Repr

/-- All of a channel: what is shared, where the threads and the receiver are, and, for the
statements, what has happened. -/
structure Sys (w : ℕ) (ι α : Type) where
  kind : Kind w
  state : Usize w
  /-- `quick_message_queue` and `message_queue`. -/
  queue : Priority → List (Staged ι α)
  parkedQueue : List (Staged ι TaskId)
  numSenders : Usize w
  recvTask : Option Waker
  /-- The task of each handle; it has the name of its handle. -/
  tasks : TaskId → SenderTask
  maybeParked : SenderId → Bool
  /-- The handles that there are. -/
  alive : Finset SenderId
  /-- The next name of a handle. -/
  nextId : SenderId
  calling : ι → Calling w α
  receiver : Receiver
  receiving : Receiving α
  /-- The messages that have got their place in a queue. -/
  placed : Priority → List α
  /-- The messages that have been taken from a queue. -/
  taken : Priority → List α
  /-- What the calls of the threads have given. -/
  returned : List (ι × Output α)
  /-- What the calls of the receiver have given. -/
  results : List (Output α)
  /-- The wakers that have been woken. -/
  woken : List Waker
  /-- The waker that was registered last has been woken. -/
  notified : Bool

/-- `channel`, and `unbounded`. -/
def channel (ι α : Type) (kind : Kind w) : Sys w ι α where
  kind := kind
  state := initState w
  queue _ := []
  parkedQueue := []
  numSenders := 1
  recvTask := none
  tasks _ := .new
  maybeParked _ := false
  alive := {0}
  nextId := 1
  calling _ := .idle
  receiver := .active
  receiving := .idle
  placed _ := []
  taken _ := []
  returned := []
  results := []
  woken := []
  notified := false

namespace Sys

/-- The task behind the lock is notified. -/
def notify (s : Sys w ι α) (task : TaskId) : Sys w ι α :=
  { s with
    tasks := Function.update s.tasks task ⟨none, false⟩
    woken := s.woken ++ (s.tasks task).task.toList }

/-! ### Threads -/

section Threads

variable [DecidableEq ι]

/-- The thread goes on. -/
def goto (s : Sys w ι α) (t : ι) (c : Calling w α) : Sys w ι α :=
  { s with calling := Function.update s.calling t c }

@[simp] theorem calling_goto_self (s : Sys w ι α) (t : ι) (c : Calling w α) :
    (s.goto t c).calling t = c := Function.update_self ..

/-- The call of the thread returns. -/
def giveBack (s : Sys w ι α) (t : ι) (out : Output α) : Sys w ι α :=
  { s with
    calling := Function.update s.calling t .idle
    returned := s.returned ++ [(t, out)] }

/-- The loop of `inc_num_messages`, with the word that it has read. -/
def incLoop (s : Sys w ι α) (t : ι) (m : Sending α) (curr : Usize w) : Sys w ι α :=
  let state := decodeState curr
  if !state.isOpen then s.giveBack t (.refused .disconnected m.msg)
  else if state.numMessages < maxCapacity w then s.goto t (.exchange m curr)
  else s.giveBack t (.panicked .bufferSpaceExhausted)

/-- The loop of `clone`, with the number that it has read. -/
def cloneLoop (s : Sys w ι α) (t : ι) (id : SenderId) (curr : Usize w) : Sys w ι α :=
  if curr = s.kind.maxSenders then s.giveBack t (.panicked .tooManyOutstandingSenders)
  else s.goto t (.cloneExchange id curr)

/-- An access of a thread. -/
def access (s : Sys w ι α) (t : ι) : Calling w α → Sys w ι α
  | .idle => s
  | .loadMaybeParked m =>
    if s.maybeParked m.id then s.goto t (.lockTask m) else s.goto t (.loadState m)
  | .lockTask m =>
    if !(s.tasks m.id).isParked then
      goto { s with maybeParked := Function.update s.maybeParked m.id false } t (.loadState m)
    else
      giveBack { s with tasks := Function.update s.tasks m.id ⟨none, true⟩ } t
        (.refused .full m.msg)
  | .loadState m => s.incLoop t m s.state
  | .exchange m curr =>
    if s.state = curr then
      let state := decodeState curr
      let numMessages := state.numMessages + 1
      goto { s with state := encodeState { state with numMessages } } t
        (if s.kind.parks numMessages then .lockPark m else .push m)
    else s.incLoop t m s.state
  | .lockPark m =>
    goto { s with tasks := Function.update s.tasks m.id ⟨none, true⟩ } t (.pushParked m)
  | .pushParked m =>
    goto { s with parkedQueue := StagedQueue.reserve s.parkedQueue t m.id } t (.linkParked m)
  | .linkParked m =>
    goto { s with parkedQueue := StagedQueue.publish s.parkedQueue t } t (.loadOpen m)
  | .loadOpen m => s.goto t (.storeMaybeParked m (decodeState s.state).isOpen)
  | .storeMaybeParked m isOpen =>
    goto { s with maybeParked := Function.update s.maybeParked m.id isOpen } t (.push m)
  | .push m =>
    goto { s with
      queue := Function.update s.queue m.priority
        (StagedQueue.reserve (s.queue m.priority) t m.msg)
      placed := Function.update s.placed m.priority (s.placed m.priority ++ [m.msg]) } t (.link m)
  | .link m =>
    goto { s with
      queue := Function.update s.queue m.priority (StagedQueue.publish (s.queue m.priority) t) } t
      (.wake (some m.id) .accepted)
  | .wake _ out =>
    giveBack { s with
      recvTask := none
      woken := s.woken ++ s.recvTask.toList
      notified := s.notified || s.recvTask.isSome } t out
  | .readyState id cx =>
    if !(decodeState s.state).isOpen then s.giveBack t .disconnected
    else if s.kind.hasParked then s.goto t (.readyMaybeParked id cx)
    else s.giveBack t (.ready true)
  | .readyMaybeParked id cx =>
    if s.maybeParked id then s.goto t (.readyLock id cx) else s.giveBack t (.ready true)
  | .readyLock id cx =>
    if !(s.tasks id).isParked then
      giveBack { s with maybeParked := Function.update s.maybeParked id false } t (.ready true)
    else giveBack { s with tasks := Function.update s.tasks id ⟨some cx, true⟩ } t (.ready false)
  | .closeLoad id =>
    if !(decodeState s.state).isOpen then s.goto t (.wake id .done) else s.goto t (.closeAnd id)
  | .closeAnd id => goto { s with state := s.state &&& ~~~openMask w } t (.wake id .done)
  | .cloneLoad id => s.cloneLoop t id s.numSenders
  | .cloneExchange id curr =>
    if s.numSenders = curr then
      giveBack { s with
        numSenders := curr + 1
        alive := insert s.nextId s.alive
        tasks := Function.update s.tasks s.nextId .new
        maybeParked := Function.update s.maybeParked s.nextId false
        nextId := s.nextId + 1 } t (.cloned s.nextId)
    else s.cloneLoop t id s.numSenders
  | .dropSub id =>
    let prev := s.numSenders
    let s := { s with numSenders := s.numSenders - 1, alive := s.alive.erase id }
    if prev = 1 then s.goto t (.closeLoad none) else s.giveBack t .done

/-- **The next access of a thread.** -/
def threadStep (s : Sys w ι α) (t : ι) : Sys w ι α := s.access t (s.calling t)

end Threads

/-! ### The receiver -/

/-- The receiver goes on. -/
def receive (s : Sys w ι α) (r : Receiving α) : Sys w ι α := { s with receiving := r }

/-- The call of the receiver returns. -/
def answer (s : Sys w ι α) (r : Receiving α) (out : Output α) : Sys w ι α :=
  { s with receiving := r, results := s.results ++ [out] }

/-- The parked tasks have been notified, and `close` is done. -/
def closeDone (s : Sys w ι α) (dropping : Bool) : Sys w ι α :=
  if dropping then s.receive (.pop .high .drain) else s.answer .idle .done

/-- The flag has been cleared. -/
def flagCleared (s : Sys w ι α) (dropping : Bool) : Sys w ι α :=
  if s.kind.hasParked then s.receive (.closePop dropping) else s.closeDone dropping

/-- `pop_spin()` of the queue of a priority. -/
def pop (s : Sys w ι α) (priority : Priority) (why : Purpose) : Sys w ι α :=
  match s.queue priority with
  | ⟨msg, none⟩ :: rest =>
    receive { s with
      queue := Function.update s.queue priority rest
      taken := Function.update s.taken priority (s.taken priority ++ [msg]) }
      (if s.kind.hasParked then .popParked priority msg why else .dec priority msg why)
  | ⟨_, some _⟩ :: _ => s
  | [] =>
    match priority with
    | .high => s.receive (.pop .normal why)
    | .normal => s.receive (.loadState why)

/-- `unpark_one`. -/
def unparkOne (s : Sys w ι α) (priority : Priority) (msg : α) (why : Purpose) : Sys w ι α :=
  match s.parkedQueue with
  | ⟨task, none⟩ :: rest => receive { s with parkedQueue := rest } (.notify task priority msg why)
  | ⟨_, some _⟩ :: _ => s
  | [] => s.receive (.dec priority msg why)

/-- The loop of `close`. -/
def closeLoop (s : Sys w ι α) (dropping : Bool) : Sys w ι α :=
  match s.parkedQueue with
  | ⟨task, none⟩ :: rest => receive { s with parkedQueue := rest } (.closeNotify task dropping)
  | ⟨_, some _⟩ :: _ => s
  | [] => s.closeDone dropping

/-- `next_message` has a message. -/
def gotMessage (s : Sys w ι α) (priority : Priority) (msg : α) (why : Purpose) : Sys w ι α :=
  if why = .drain then s.receive (.pop .high .drain)
  else s.answer .idle (.received (.item priority msg))

/-- `next_message` has found the end. -/
def gotEnd (s : Sys w ι α) (why : Purpose) : Sys w ι α :=
  if why = .drain then answer { s with receiver := .dropped } .idle .done
  else answer { s with receiver := .terminated } .idle (.received .ended)

/-- `next_message` has found nothing. -/
def gotNothing (s : Sys w ι α) : Purpose → Sys w ι α
  | .tryNext => s.answer .idle (.received .pending)
  | .first cx => s.receive (.register cx)
  | .second cx => s.answer (.waiting cx) (.received .pending)
  | .drain => s.receive .drainLoad

/-- An access of the receiver. -/
def receiverAccess (s : Sys w ι α) : Receiving α → Sys w ι α
  | .idle => s
  | .waiting _ => s
  | .pop priority why => s.pop priority why
  | .popParked priority msg why => s.unparkOne priority msg why
  | .notify task priority msg why => (s.notify task).receive (.dec priority msg why)
  | .dec priority msg why => gotMessage { s with state := s.state - 1 } priority msg why
  | .loadState why => if (decodeState s.state).isClosed then s.gotEnd why else s.gotNothing why
  | .register cx =>
    receive { s with recvTask := some cx, notified := false } (.pop .high (.second cx))
  | .drainLoad =>
    if (decodeState s.state).isClosed then answer { s with receiver := .dropped } .idle .done
    else s.receive (.pop .high .drain)
  | .closeLoad dropping =>
    if !(decodeState s.state).isOpen then s.flagCleared dropping
    else s.receive (.closeAnd dropping)
  | .closeAnd dropping => flagCleared { s with state := s.state &&& ~~~openMask w } dropping
  | .closePop dropping => s.closeLoop dropping
  | .closeNotify task dropping => (s.notify task).receive (.closePop dropping)

/-- **The next access of the receiver.** -/
def receiverStep (s : Sys w ι α) : Sys w ι α := s.receiverAccess s.receiving

end Sys

/-! ### Calls -/

/-- A call of a thread. -/
inductive Call (α : Type) where
  /-- `try_send` and `try_quick_send`, or `do_send_nb`. -/
  | send (m : Sending α)
  | pollReady (id : SenderId) (cx : Waker)
  | closeChannel (id : SenderId)
  | clone (id : SenderId)
  /-- `drop`, also of a sender that is disconnected. -/
  | drop (id : SenderId)

def Call.id : Call α → SenderId
  | .send m => m.id
  | .pollReady id _ | .closeChannel id | .clone id | .drop id => id

/-- A call of the receiver. -/
inductive ReceiverCall where
  | tryNext
  | pollNext (cx : Waker)
  | close
  | drop
  deriving DecidableEq, Repr

/-- The first access of a call. -/
def Call.first (kind : Kind w) : Call α → Calling w α
  | .send m => if kind.hasParked then .loadMaybeParked m else .loadState m
  | .pollReady id cx => .readyState id cx
  | .closeChannel id => .closeLoad (some id)
  | .clone id => .cloneLoad id
  | .drop id => .dropSub id

/-- The first access of a call of a receiver that has not reported the end. -/
def ReceiverCall.first : ReceiverCall → Receiving α
  | .tryNext => .pop .high .tryNext
  | .pollNext cx => .pop .high (.first cx)
  | .close => .closeLoad false
  | .drop => .closeLoad true

/-- What can happen next. -/
inductive Access (ι α : Type) where
  /-- A thread begins a call. -/
  | call (t : ι) (c : Call α)
  /-- The next access of a thread. -/
  | thread (t : ι)
  /-- The receiver begins a call. -/
  | receive (c : ReceiverCall)
  /-- The next access of the receiver. -/
  | receiver

def Calling.isIdle : Calling w α → Bool
  | .idle => true
  | _ => false

/-- No call is under way. -/
def Receiving.isIdle : Receiving α → Bool
  | .idle | .waiting _ => true
  | _ => false

/-- The thread is dropping the handle. -/
def Calling.drops : Calling w α → SenderId → Bool
  | .dropSub id, id' => id = id'
  | _, _ => false

/-- A handle is not dropped while a thread is using it, and not used while a thread is dropping
it. -/
def Call.Free (s : Sys w ι α) : Call α → Prop
  | .drop id => ∀ t, (s.calling t).handle ≠ some id
  | c => ∀ t, (s.calling t).drops c.id = false

instance Call.decidableFree [Fintype ι] (s : Sys w ι α) : (c : Call α) → Decidable (c.Free s)
  | .drop id => inferInstanceAs (Decidable (∀ t, (s.calling t).handle ≠ some id))
  | .send m => inferInstanceAs (Decidable (∀ t, (s.calling t).drops m.id = false))
  | .pollReady id _ => inferInstanceAs (Decidable (∀ t, (s.calling t).drops id = false))
  | .closeChannel id => inferInstanceAs (Decidable (∀ t, (s.calling t).drops id = false))
  | .clone id => inferInstanceAs (Decidable (∀ t, (s.calling t).drops id = false))

namespace Sys

/-- A thread begins a call, on a handle that there is. -/
def begin [Fintype ι] [DecidableEq ι] (s : Sys w ι α) (t : ι) (c : Call α) : Sys w ι α :=
  if (s.calling t).isIdle ∧ c.id ∈ s.alive ∧ c.Free s then s.goto t (c.first s.kind) else s

/-- A call of a receiver that has reported the end. -/
def afterEnd (s : Sys w ι α) : ReceiverCall → Sys w ι α
  | .tryNext => s.answer .idle (.panicked .calledAfterNone)
  | .pollNext _ => s.answer .idle (.panicked .calledAfterNone)
  | .close => s.answer .idle .done
  | .drop => answer { s with receiver := .dropped } .idle .done

/-- The receiver begins a call. -/
def beginReceive (s : Sys w ι α) (c : ReceiverCall) : Sys w ι α :=
  if !s.receiving.isIdle then s
  else
    match s.receiver with
    | .active => s.receive c.first
    | .terminated => s.afterEnd c
    | .dropped => s

end Sys

/-- The channel after one of the things that can happen. -/
def step [Fintype ι] [DecidableEq ι] (s : Sys w ι α) : Access ι α → Sys w ι α
  | .call t c => s.begin t c
  | .thread t => s.threadStep t
  | .receive c => s.beginReceive c
  | .receiver => s.receiverStep

/-! ### What a thread has left to do -/

/-- The thread has counted its message, and has yet to put it into its queue. -/
def Calling.owes : Calling w α → ℕ
  | .lockPark _ | .pushParked _ | .linkParked _ | .loadOpen _ | .storeMaybeParked _ _ | .push _ => 1
  | _ => 0

/-- The next but one access of the thread, or the next, wakes the receiver. -/
def Calling.Wakes : Calling w α → Prop
  | .link _ | .wake _ _ => True
  | _ => False

/-! ### What the receiver has left to do -/

/-- The receiver has taken a message, and has yet to count it down. -/
def Receiving.owes : Receiving α → ℕ
  | .popParked _ _ _ | .notify _ _ _ _ | .dec _ _ _ => 1
  | _ => 0

/-- The receiver has seen to it that the flag is cleared. -/
def Receiving.Cleared : Receiving α → Prop
  | .closePop _ | .closeNotify _ _ | .drainLoad => True
  | .pop _ why | .popParked _ _ why | .notify _ _ _ why | .dec _ _ why | .loadState why =>
    why = .drain
  | _ => False

/-- The waker that `poll_next` has registered. -/
def Purpose.waker : Purpose → Option Waker
  | .second cx => some cx
  | _ => none

/-- The waker that the call under way, or the last one, has registered. -/
def Receiving.waker : Receiving α → Option Waker
  | .waiting cx => some cx
  | .pop _ why | .popParked _ _ why | .notify _ _ _ why | .dec _ _ why | .loadState why => why.waker
  | _ => none

/-- The queues that were empty when the receiver looked after it had registered its waker. -/
def Receiving.Saw : Receiving α → Priority → Prop
  | .pop .normal why, .high => why.waker ≠ none
  | .loadState why, _ => why.waker ≠ none
  | .waiting _, _ => True
  | _, _ => False

/-- The flag of the word. -/
def Sys.isOpen (s : Sys w ι α) : Bool := (decodeState s.state).isOpen

/-! ### What an access can do -/

/-- The parts of a channel that the results are about. -/
inductive Part where
  | kind
  | state
  | messages
  | parked
  | waker
  | calling
  | receiver
  | receiving
  deriving DecidableEq, Repr

/-- A part is the same. -/
def Sys.Agrees (s s' : Sys w ι α) : Part → Prop
  | .kind => s'.kind = s.kind
  | .state => s'.state = s.state
  | .messages => s'.queue = s.queue ∧ s'.placed = s.placed ∧ s'.taken = s.taken
  | .parked => s'.parkedQueue = s.parkedQueue
  | .waker => s'.recvTask = s.recvTask ∧ s'.notified = s.notified
  | .calling => s'.calling = s.calling
  | .receiver => s'.receiver = s.receiver
  | .receiving => s'.receiving = s.receiving

/-- What an access of a thread changes. -/
def Sys.Touches (s : Sys w ι α) : Calling w α → Part → Prop
  | _, .calling => True
  | .exchange _ curr, .state => s.state = curr
  | .closeAnd _, .state => True
  | .push _, .messages | .link _, .messages => True
  | .pushParked _, .parked | .linkParked _, .parked => True
  | .wake _ _, .waker => True
  | _, _ => False

/-- What an access of the receiver changes. -/
def Sys.Takes (s : Sys w ι α) : Receiving α → Part → Prop
  | _, .receiving => True
  | .dec _ _ _, .state | .closeAnd _, .state => True
  | .pop p _, .messages => StagedQueue.Ready (s.queue p)
  | .popParked _ _ _, .parked | .closePop _, .parked => StagedQueue.Ready s.parkedQueue
  | .register _, .waker => True
  | .loadState _, .receiver | .drainLoad, .receiver => True
  | _, _ => False

/-- A thread that goes on from `c` to `c'` has the same message left to put into its queue, unless
it has just counted it or put it there, and counts a message only with a word that allows it. -/
structure Sys.Follows (s : Sys w ι α) (c c' : Calling w α) : Prop where
  owes : ¬ s.Touches c .state → ¬ s.Touches c .messages → c'.owes = c.owes
  exchange : ∀ m curr, c' = .exchange m curr →
    (decodeState curr).isOpen = true ∧ (decodeState curr).numMessages < maxCapacity w

/-- **What an access of a thread can do.** -/
structure Sys.Goes [DecidableEq ι] (s : Sys w ι α) (t : ι) (c : Calling w α) (s' : Sys w ι α) :
    Prop where
  agrees : ∀ part, ¬ s.Touches (s.calling t) part → s.Agrees s' part
  calling : s'.calling = Function.update s.calling t c
  follows : s.Follows (s.calling t) c

/-- **What an access of the receiver can do.** -/
structure Sys.Advances (s s' : Sys w ι α) : Prop where
  agrees : ∀ part, ¬ s.Takes s.receiving part → part ≠ .receiver → s.Agrees s' part
  owes : ¬ s.Takes s.receiving .state → ¬ s.Takes s.receiving .messages →
    s'.receiving.owes = s.receiving.owes
  cleared : ¬ s.Takes s.receiving .state → s'.receiving.Cleared →
    s.receiving.Cleared ∨ s.isOpen = false
  /-- The end is found in the word, or a receiver that has reported it is dropped. -/
  ends : s'.receiver = s.receiver ∨ s'.receiving = .idle ∧
    (s.receiver = .active → (decodeState s.state).isClosed = true)
  finished : s.receiver ≠ .active → s.receiving = .idle → s'.receiving = .idle
  waker : ¬ s.Takes s.receiving .waker → ∀ cx, s'.receiving.waker = some cx →
    s.receiving.waker = some cx
  /-- What the receiver has seen empty is what it had seen empty before, or what it has found
  empty. -/
  saw : ∀ p, s'.receiving.Saw p → s'.queue p ≠ [] → s.receiving.Saw p ∧ s.queue p ≠ []
  waits : ∀ cx, s'.receiving = .waiting cx → (decodeState s'.state).isClosed = true →
    s.receiving = .waiting cx ∧ (decodeState s.state).isClosed = true

section Threads

variable [DecidableEq ι] {s s' : Sys w ι α} {t : ι} {c c' : Calling w α}

omit [DecidableEq ι] in
theorem Sys.Agrees.refl (s : Sys w ι α) (part : Part) : s.Agrees s part := by
  cases part <;> first | exact rfl | exact ⟨rfl, rfl⟩ | exact ⟨rfl, rfl, rfl⟩

theorem agrees_threadStep (s : Sys w ι α) (t : ι) (part : Part)
    (h : ¬ s.Touches (s.calling t) part) : s.Agrees (s.threadStep t) part := by
  unfold Sys.threadStep
  generalize s.calling t = c at h
  cases c <;> simp only [Sys.access, Sys.incLoop, Sys.cloneLoop] <;> (try split_ifs) <;>
    cases part <;> first
    | exact rfl
    | exact ⟨rfl, rfl⟩
    | exact ⟨rfl, rfl, rfl⟩
    | exact absurd trivial h
    | exact absurd ‹_› h

omit [DecidableEq ι] in
/-- The call returns, with nothing left to do. -/
theorem Sys.Follows.returns (howes : c.owes = 0) : s.Follows c .idle :=
  ⟨fun _ _ => howes.symm, nofun⟩

theorem follows_incLoop {m : Sending α} (howes : c.owes = 0) (curr : Usize w) :
    ∃ c', (s.incLoop t m curr).calling = Function.update s.calling t c' ∧ s.Follows c c' := by
  unfold Sys.incLoop
  dsimp only
  split_ifs with hclosed hroom
  · exact ⟨.idle, rfl, .returns howes⟩
  · refine ⟨.exchange m curr, rfl, fun _ _ => howes.symm, ?_⟩
    rintro m' curr' ⟨⟩
    exact ⟨by simpa using hclosed, hroom⟩
  · exact ⟨.idle, rfl, .returns howes⟩

theorem follows_cloneLoop {id : SenderId} (howes : c.owes = 0) (curr : Usize w) :
    ∃ c', (s.cloneLoop t id curr).calling = Function.update s.calling t c' ∧ s.Follows c c' := by
  unfold Sys.cloneLoop
  split_ifs
  · exact ⟨.idle, rfl, .returns howes⟩
  · exact ⟨.cloneExchange id curr, rfl, fun _ _ => howes.symm, nofun⟩

theorem follows_access (s : Sys w ι α) (t : ι) {c : Calling w α} (hc : s.calling t = c) :
    ∃ c', (s.access t c).calling = Function.update s.calling t c' ∧ s.Follows c c' := by
  cases c with
  | idle =>
    refine ⟨.idle, ?_, .returns rfl⟩
    rw [Sys.access, ← hc, Function.update_eq_self]
  | loadState m => exact follows_incLoop (c := .loadState m) rfl _
  | exchange m curr =>
    rw [Sys.access]
    split_ifs with hcurr
    · refine ⟨_, rfl, absurd hcurr, ?_⟩
      split_ifs <;> exact nofun
    · exact follows_incLoop (c := .exchange m curr) rfl _
  | cloneLoad id => exact follows_cloneLoop (c := .cloneLoad id) rfl _
  | cloneExchange id curr =>
    rw [Sys.access]
    split_ifs
    · exact ⟨.idle, rfl, .returns rfl⟩
    · exact follows_cloneLoop (c := .cloneExchange id curr) rfl _
  | push m => exact ⟨_, rfl, fun _ h => absurd trivial h, nofun⟩
  | loadMaybeParked m | lockTask m | readyState id cx | readyMaybeParked id cx | readyLock id cx
  | closeLoad id | dropSub id =>
    rw [Sys.access]
    split_ifs <;> exact ⟨_, rfl, fun _ _ => rfl, nofun⟩
  | lockPark m | pushParked m | linkParked m | loadOpen m | storeMaybeParked m isOpen | link m
  | closeAnd id | wake id out =>
    exact ⟨_, rfl, fun _ _ => rfl, nofun⟩

/-- **The next access of a thread.** -/
theorem goes_threadStep (s : Sys w ι α) (t : ι) : ∃ c, s.Goes t c (s.threadStep t) := by
  obtain ⟨c, hcalling, hfollows⟩ := follows_access s t rfl
  exact ⟨c, agrees_threadStep s t, hcalling, hfollows⟩

theorem Sys.Goes.receiver (h : s.Goes t c s') : s'.receiver = s.receiver :=
  h.agrees .receiver (by cases s.calling t <;> exact fun h => h)

theorem Sys.Goes.receiving (h : s.Goes t c s') : s'.receiving = s.receiving :=
  h.agrees .receiving (by cases s.calling t <;> exact fun h => h)

/-- **The beginning of a call.** -/
theorem goes_begin [Fintype ι] (s : Sys w ι α) (t : ι) (call : Call α) :
    s.begin t call = s ∨ ∃ c, s.Goes t c (s.begin t call) ∧
      ∀ part, part ≠ .calling → ¬ s.Touches (s.calling t) part := by
  unfold Sys.begin
  split_ifs with hmay
  · have hidle := hmay.1
    have hpc : s.calling t = .idle := by
      cases hc : s.calling t with
      | idle => rfl
      | _ => rw [hc] at hidle; cases hidle
    refine .inr ⟨call.first s.kind, ⟨?_, rfl, ?_⟩, ?_⟩
    · intro part hpart
      cases part with
      | calling => exact absurd (by cases s.calling t <;> trivial) hpart
      | _ => first | exact rfl | exact ⟨rfl, rfl⟩ | exact ⟨rfl, rfl, rfl⟩
    · rw [hpc]
      cases call with
      | send m =>
        rw [Call.first]
        split_ifs <;> exact ⟨fun _ _ => rfl, nofun⟩
      | _ => exact ⟨fun _ _ => rfl, nofun⟩
    · rw [hpc]
      intro part hne
      cases part <;> first | exact fun h => h | exact absurd rfl hne
  · exact .inl rfl

end Threads

section Receiver

variable {s s' : Sys w ι α}

theorem agrees_receiverStep (s : Sys w ι α) (part : Part) (h : ¬ s.Takes s.receiving part) :
    s.Agrees s.receiverStep part := by
  unfold Sys.receiverStep
  generalize s.receiving = r at h
  cases r with
  | pop p why =>
    rw [Sys.receiverAccess]
    unfold Sys.pop
    split
    · next hqueue =>
      cases part with
      | messages => exact absurd (by rw [Sys.Takes, hqueue]; trivial) h
      | receiving => exact absurd trivial h
      | _ => first | exact rfl | exact ⟨rfl, rfl⟩
    · exact .refl s part
    · cases p <;> cases part <;> first
        | exact absurd trivial h
        | exact rfl
        | exact ⟨rfl, rfl⟩
        | exact ⟨rfl, rfl, rfl⟩
  | popParked p msg why | closePop dropping =>
    simp only [Sys.receiverAccess, Sys.unparkOne, Sys.closeLoop, Sys.closeDone]
    split
    · next hqueue =>
      cases part with
      | parked => exact absurd (by rw [Sys.Takes, hqueue]; trivial) h
      | receiving => exact absurd trivial h
      | _ => first | exact rfl | exact ⟨rfl, rfl⟩ | exact ⟨rfl, rfl, rfl⟩
    · exact .refl s part
    · (try split_ifs) <;> cases part <;>
        first
        | exact absurd trivial h
        | exact rfl
        | exact ⟨rfl, rfl⟩
        | exact ⟨rfl, rfl, rfl⟩
  | loadState why =>
    rw [Sys.receiverAccess, Sys.gotEnd]
    split_ifs
    all_goals try cases why
    all_goals cases part <;> first
        | exact absurd trivial h
        | exact rfl
        | exact ⟨rfl, rfl⟩
        | exact ⟨rfl, rfl, rfl⟩
  | _ =>
    simp only [Sys.receiverAccess, Sys.gotMessage, Sys.flagCleared, Sys.closeDone]
    (try split_ifs) <;> cases part <;> first
        | exact absurd trivial h
        | exact rfl
        | exact ⟨rfl, rfl⟩
        | exact ⟨rfl, rfl, rfl⟩

theorem Sys.Advances.refl (s : Sys w ι α) : s.Advances s where
  agrees part _ _ := .refl s part
  owes _ _ := rfl
  cleared _ := .inl
  ends := .inl rfl
  finished _ hidle := hidle
  waker _ _ hcx := hcx
  saw _ hsaw hne := ⟨hsaw, hne⟩
  waits _ hcx hclosed := ⟨hcx, hclosed⟩

/-- The receiver goes on from `r` to `r'`, and does not wait yet. -/
theorem Sys.Advances.next {r r' : Receiving α} (hpc : s.receiving = r)
    (hagrees : ∀ part, ¬ s.Takes r part → s.Agrees s' part) (hr' : s'.receiving = r')
    (hbusy : s.receiver = .active ∨ r ≠ .idle) (hreceiver : s'.receiver = s.receiver)
    (howes : ¬ s.Takes r .state → ¬ s.Takes r .messages → r'.owes = r.owes)
    (hcleared : ¬ s.Takes r .state → r'.Cleared → r.Cleared ∨ s.isOpen = false)
    (hwaker : ¬ s.Takes r .waker → ∀ cx, r'.waker = some cx → r.waker = some cx)
    (hsaw : ∀ p, r'.Saw p → s'.queue p ≠ [] → r.Saw p ∧ s.queue p ≠ [])
    (hwaits : ∀ cx, r' ≠ .waiting cx) : s.Advances s' := by
  subst hpc hr'
  exact ⟨fun part hpart _ => hagrees part hpart, howes, hcleared, .inl hreceiver,
    fun hne hidle => absurd hidle (hbusy.resolve_left hne), hwaker, hsaw,
    fun cx hcx => absurd hcx (hwaits cx)⟩

/-- The end is found. -/
theorem Sys.Advances.end {r : Receiving α} (hpc : s.receiving = r)
    (hagrees : ∀ part, ¬ s.Takes r part → part ≠ .receiver → s.Agrees s' part)
    (hr' : s'.receiving = .idle) (howes : r.owes = 0)
    (hclosed : s.receiver = .active → (decodeState s.state).isClosed = true) : s.Advances s' := by
  subst hpc
  refine ⟨hagrees, ?_, ?_, .inr ⟨hr', hclosed⟩, fun _ _ => hr', ?_, ?_, ?_⟩
  · rw [hr', howes]
    exact fun _ _ => rfl
  all_goals
    rw [hr']
    exact nofun

/-- **The next access of the receiver.** -/
theorem advances_receiverStep (s : Sys w ι α) : s.Advances s.receiverStep := by
  have hagrees : ∀ part, ¬ s.Takes s.receiving part → s.Agrees s.receiverStep part :=
    agrees_receiverStep s
  unfold Sys.receiverStep at hagrees ⊢
  generalize hpc : s.receiving = r at hagrees
  cases r with
  | idle => exact .refl s
  | waiting cx => exact .refl s
  | pop p why =>
    rw [Sys.receiverAccess] at hagrees ⊢
    unfold Sys.pop at hagrees ⊢
    revert hagrees
    split <;> intro hagrees
    · next hqueue =>
      have hready : s.Takes (.pop p why) .messages := by rw [Sys.Takes, hqueue]; trivial
      split_ifs at hagrees ⊢ <;>
        exact .next hpc hagrees rfl (.inr nofun) rfl (fun _ h => absurd hready h)
          (fun _ => .inl) (fun _ _ h => h) nofun nofun
    · exact .refl s
    · next hqueue =>
      cases p with
      | high =>
        refine .next hpc hagrees rfl (.inr nofun) rfl (fun _ _ => rfl)
          (fun _ => .inl) (fun _ _ h => h) ?_ nofun
        intro p hsaw hne
        cases p with
        | high => exact absurd hqueue hne
        | normal => exact hsaw.elim
      | normal =>
        refine .next hpc hagrees rfl (.inr nofun) rfl (fun _ _ => rfl)
          (fun _ => .inl) (fun _ _ h => h) ?_ nofun
        intro p hsaw hne
        cases p with
        | high => exact ⟨hsaw, hne⟩
        | normal => exact absurd hqueue hne
  | popParked p msg why =>
    rw [Sys.receiverAccess, Sys.unparkOne] at hagrees ⊢
    revert hagrees
    split <;> intro hagrees
    · exact .next hpc hagrees rfl (.inr nofun) rfl (fun _ _ => rfl)
        (fun _ => .inl) (fun _ _ h => h) nofun nofun
    · exact .refl s
    · exact .next hpc hagrees rfl (.inr nofun) rfl (fun _ _ => rfl)
        (fun _ => .inl) (fun _ _ h => h) nofun nofun
  | notify task p msg why =>
    exact .next hpc hagrees rfl (.inr nofun) rfl (fun _ _ => rfl) (fun _ => .inl)
      (fun _ _ h => h) nofun nofun
  | dec p msg why =>
    rw [Sys.receiverAccess, Sys.gotMessage] at hagrees ⊢
    split_ifs at hagrees ⊢ <;> exact .next hpc hagrees rfl (.inr nofun) rfl (absurd trivial)
      (absurd trivial) nofun nofun nofun
  | loadState why =>
    rw [Sys.receiverAccess] at hagrees ⊢
    split_ifs at hagrees ⊢ with hclosed
    · rw [Sys.gotEnd] at hagrees ⊢
      split_ifs at hagrees ⊢ <;>
        exact .end hpc (fun part hpart _ => hagrees part hpart) rfl rfl fun _ => hclosed
    · cases why with
      | second cx =>
        refine ⟨fun part hpart _ => hagrees part (hpc ▸ hpart), ?_, nofun, .inl rfl, ?_, ?_, ?_, ?_⟩
        all_goals rw [hpc]
        · exact fun _ _ => rfl
        · exact nofun
        · exact fun _ _ h => h
        · exact fun p _ hne => ⟨nofun, hne⟩
        · exact fun _ _ h => absurd h hclosed
      | _ =>
        exact .next hpc hagrees rfl (.inr nofun) rfl (fun _ _ => rfl)
          (by first | exact fun _ _ => .inl rfl | exact nofun) nofun nofun nofun
  | register cx =>
    exact .next hpc hagrees rfl (.inr nofun) rfl (fun _ _ => rfl) nofun
      (absurd trivial) nofun nofun
  | drainLoad =>
    rw [Sys.receiverAccess] at hagrees ⊢
    split_ifs at hagrees ⊢ with hclosed
    · exact .end hpc (fun part hpart _ => hagrees part hpart) rfl rfl fun _ => hclosed
    · exact .next hpc hagrees rfl (.inr nofun) rfl (fun _ _ => rfl)
        (fun _ _ => .inl trivial) nofun nofun nofun
  | closeLoad dropping =>
    rw [Sys.receiverAccess] at hagrees ⊢
    split_ifs at hagrees ⊢ with hclosed
    · have hfalse : s.isOpen = false := by simpa [Sys.isOpen] using hclosed
      rw [Sys.flagCleared, Sys.closeDone] at hagrees ⊢
      split_ifs at hagrees ⊢ <;>
        exact .next hpc hagrees rfl (.inr nofun) rfl (fun _ _ => rfl)
          (fun _ _ => .inr hfalse) nofun nofun nofun
    · exact .next hpc hagrees rfl (.inr nofun) rfl (fun _ _ => rfl) nofun nofun
        nofun nofun
  | closeAnd dropping =>
    rw [Sys.receiverAccess, Sys.flagCleared, Sys.closeDone] at hagrees ⊢
    split_ifs at hagrees ⊢ <;> exact .next hpc hagrees rfl (.inr nofun) rfl (absurd trivial)
      (absurd trivial) nofun nofun nofun
  | closePop dropping =>
    rw [Sys.receiverAccess, Sys.closeLoop, Sys.closeDone] at hagrees ⊢
    revert hagrees
    split <;> intro hagrees
    · exact .next hpc hagrees rfl (.inr nofun) rfl (fun _ _ => rfl)
        (fun _ _ => .inl trivial) nofun nofun nofun
    · exact .refl s
    · split_ifs at hagrees ⊢ <;>
        exact .next hpc hagrees rfl (.inr nofun) rfl (fun _ _ => rfl)
          (fun _ _ => .inl trivial) nofun nofun nofun
  | closeNotify task dropping =>
    exact .next hpc hagrees rfl (.inr nofun) rfl (fun _ _ => rfl)
      (fun _ _ => .inl trivial) nofun nofun nofun

/-- **The beginning of a call of the receiver.** -/
theorem advances_beginReceive (s : Sys w ι α) (call : ReceiverCall) :
    s.beginReceive call = s ∨ s.Advances (s.beginReceive call) ∧ s.receiving.isIdle = true ∧
      ∀ part, part ≠ .receiving → ¬ s.Takes s.receiving part := by
  unfold Sys.beginReceive
  split_ifs with hbusy
  · exact .inl rfl
  · have hidle : s.receiving.isIdle = true := by simpa using hbusy
    obtain ⟨howes, hnot, htakes⟩ : s.receiving.owes = 0 ∧
        (∀ part, part ≠ .receiving → ¬ s.Takes s.receiving part) ∧
        s.Takes s.receiving .receiving := by
      cases hr : s.receiving with
      | idle => exact ⟨rfl, by
        rintro (_ | _) hne <;> first | exact id | exact absurd rfl hne, trivial⟩
      | waiting cx =>
        exact ⟨rfl, by rintro (_ | _) hne <;> first | exact id | exact absurd rfl hne, trivial⟩
      | _ => exact absurd (by rw [hr]; rfl) hbusy
    cases hreceiver : s.receiver with
    | active =>
      refine .inr ⟨.next rfl ?_ rfl (.inl hreceiver) rfl ?_ ?_ ?_ ?_ ?_, hidle, hnot⟩
      · intro part hpart
        cases part with
        | receiving => exact absurd htakes hpart
        | _ => first | exact rfl | exact ⟨rfl, rfl⟩ | exact ⟨rfl, rfl, rfl⟩
      · rw [howes]
        cases call <;> exact fun _ _ => rfl
      all_goals cases call <;> exact nofun
    | terminated =>
      refine .inr ⟨.end rfl ?_ ?_ howes (by rw [hreceiver]; nofun), hidle, hnot⟩
      · intro part hpart hne
        cases part with
        | receiving => exact absurd htakes hpart
        | receiver => exact absurd rfl hne
        | _ => cases call <;> first | exact rfl | exact ⟨rfl, rfl⟩ | exact ⟨rfl, rfl, rfl⟩
      · cases call <;> rfl
    | dropped => exact .inl rfl

theorem Sys.Advances.calling (h : s.Advances s') : s'.calling = s.calling :=
  h.agrees .calling (by cases s.receiving <;> exact fun h => h) nofun

end Receiver

/-- **What is to be shown of a step**: for the next access of a thread and of the receiver, and for
accesses that only begin a call. -/
theorem step_rule [Fintype ι] [DecidableEq ι] {P : Sys w ι α → Prop} {s : Sys w ι α} (hself : P s)
    (hthread : ∀ t, P (s.threadStep t)) (hreceiver : P s.receiverStep)
    (hbegin : ∀ t c s', s.Goes t c s' →
      (∀ part, part ≠ .calling → ¬ s.Touches (s.calling t) part) → P s')
    (hreceive : ∀ s', s.Advances s' → s.receiving.isIdle = true →
      (∀ part, part ≠ .receiving → ¬ s.Takes s.receiving part) → P s')
    (a : Access ι α) : P (step s a) := by
  cases a with
  | call t call =>
    rcases goes_begin s t call with heq | ⟨c, hgo, hnot⟩
    · rw [step, heq]
      exact hself
    · exact hbegin t c _ hgo hnot
  | thread t => exact hthread t
  | receive call =>
    rcases advances_beginReceive s call with heq | ⟨ha, hidle, hnot⟩
    · rw [step, heq]
      exact hself
    · exact hreceive _ ha hidle hnot
  | receiver => exact hreceiver

end ChannelThreads
end Tentacle
end CkbP2P

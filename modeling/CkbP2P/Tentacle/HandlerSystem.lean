import Mathlib.Logic.Function.Basic
import CkbP2P.Tentacle.HandlerEvents
import CkbP2P.Tentacle.ProtocolHandle
import CkbP2P.Tentacle.SessionMoves

/-!
# A protocol with its sessions and its handler

One protocol with a handler at service level: the sessions with their substreams, the tasks
that substreams spawn when they close, the queue of the handler and its task.  The events of
a substream go to the queue directly, or through a spawned task when the substream closes;
a session learns that a substream has closed from another spawned task, and may then open
the protocol again.

The handler's end of its queue is there as long as the system runs, so a substream does not
find it disconnected.
-/

namespace CkbP2P
namespace Tentacle

open Lib

/-! ### The system -/

/-- A session, with what its substreams have left to others to send. -/
structure Party where
  session : Session
  /-- What the spawned tasks have still to send to the handler. -/
  spawned : List (List ServiceProtocolEvent)
  /-- The events of the substreams that have not arrived at the session. -/
  events : List ProtocolEvent

/-- The sessions, and the task of the handler with its queue. -/
structure ProtocolSystem where
  parties : SessionId → Party
  queue : List ServiceProtocolEvent
  stream : ServiceProtocolStream
  shutdown : Bool
  callbacks : List Callback

/-- The handler's end of the channel is there. -/
def Answers.connected (answers : Answers) : Answers :=
  { answers with service := answers.service.map fun room => { room with disconnected := false } }

namespace ProtocolSystem

inductive Label where
  /-- Something happens to a session, or to one of its substreams. -/
  | session (id : SessionId) (l : Session.Label)
  /-- An event of a substream arrives at its session. -/
  | deliver (id : SessionId) (i : ℕ)
  /-- A spawned task sends its next event to the handler. -/
  | forward (id : SessionId) (i : ℕ)
  /-- The handler takes an event; the flags may change while it does. -/
  | handle (later : Flags)
  | shutdown

/-- The flags as the handler reads them. -/
def flags (x : ProtocolSystem) : Flags where
  shutdown := x.shutdown
  closed := fun id => (x.parties id).session.context.closed

/-- The task of a substream, as it is polled. -/
def polled (s : Session) (task : Substream) (answers : Answers) : Substream :=
  { task with context := s.context, discarded := [], answers := answers.connected }

theorem serviceProtoSender_polled (s : Session) (task : Substream) (answers : Answers) :
    (polled s task answers).serviceProtoSender = task.serviceProtoSender := rfl

/-- What a poll queues to the handler of the protocol. -/
def queues (protoId : ProtocolId) (task t : Substream) : List ServiceProtocolEvent :=
  if task.protoId = protoId then t.direct.drop task.direct.length else []

/-- What a poll spawns tasks for. -/
def spawns (protoId : ProtocolId) (task t : Substream) : List (List ServiceProtocolEvent) :=
  if task.protoId = protoId then t.spawned.drop task.spawned.length else []

/-- A substream of a session is polled. -/
def pollTask (protoId : ProtocolId) (x : ProtocolSystem) (id : SessionId) (stream : StreamId)
    (answers : Answers) : ProtocolSystem :=
  let p := x.parties id
  match p.session.tasks.lookup stream with
  | none => x
  | some task =>
    let t := (polled p.session task answers).pollNext.1
    { x with
      queue := x.queue ++ queues protoId task t
      parties := Function.update x.parties id
        { session := p.session.pollTask stream answers.connected
          spawned := p.spawned ++ spawns protoId task t
          events := p.events ++ t.toSession.drop task.toSession.length } }

/-- A session takes a step of its own. -/
def setSession (x : ProtocolSystem) (id : SessionId) (s : Session) : ProtocolSystem :=
  { x with parties := Function.update x.parties id { x.parties id with session := s } }

/-- Events that do not come from a substream. -/
def outside : Session.Label → Bool
  | .arrive (.close _ _) | .arrive (.error _ _) => false
  | _ => true

def step (protoId : ProtocolId) (x : ProtocolSystem) : Label → ProtocolSystem
  | .session id (.task stream answers) => x.pollTask protoId id stream answers
  | .session id l => if outside l then x.setSession id ((x.parties id).session.step l) else x
  | .deliver id i =>
    let p := x.parties id
    match p.events[i]? with
    | none => x
    | some event => { x with parties := Function.update x.parties id { p with
        session := p.session.step (.arrive event)
        events := p.events.eraseIdx i } }
  | .forward id i =>
    let p := x.parties id
    match p.spawned[i]? with
    | some (event :: rest) => { x with
        queue := x.queue ++ [event]
        parties := Function.update x.parties id { p with
          spawned := if rest = [] then p.spawned.eraseIdx i else p.spawned.set i rest } }
    | _ => x
  | .handle later =>
    match x.queue with
    | [] => x
    | event :: queue =>
      let (stream, callbacks) := x.stream.handleEvent x.flags later event
      { x with queue, stream, callbacks := x.callbacks ++ callbacks }
  | .shutdown => { x with shutdown := true }

/-- A handler that is started, with sessions that are started. -/
def start (protocols : List ProtocolMeta)
    (beforeReceive : ProtocolId → Option (Bytes → Except IoError Bytes))
    (sendBufferSize sendEventSize recvEventSize : ℕ) (keepBuffer : Bool) : ProtocolSystem where
  parties := fun id =>
    { session := .new id protocols beforeReceive sendBufferSize sendEventSize recvEventSize
        keepBuffer
      spawned := [], events := [] }
  queue := []
  stream := .new
  shutdown := false
  callbacks := []

end ProtocolSystem

/-! ### What the handler should know -/

/-- The buffer before the handler, of a substream of the protocol that is running. -/
def Session.served (protoId : ProtocolId) (s : Session) (stream : StreamId) :
    Option (List ServiceProtocolEvent) :=
  (s.tasks.lookup stream).bind fun t =>
    if t.protoId = protoId then t.serviceProtoSender else none

/-- The session has an open substream of the protocol. -/
def Session.IsOpen (protoId : ProtocolId) (s : Session) : Prop :=
  ∃ stream ∈ s.tasks.keys, (s.served protoId stream).isSome = true

instance (protoId : ProtocolId) (s : Session) : Decidable (s.IsOpen protoId) :=
  List.decidableBEx _ s.tasks.keys

/-- The session an event is about. -/
def ServiceProtocolEvent.about : ServiceProtocolEvent → SessionId
  | .connected session _ | .received session _ | .disconnected session => session

/-- Whether a callback connects or disconnects a session. -/
def Callback.mark (id : SessionId) : Callback → Option Bool
  | .connected session _ => if session = id then some true else none
  | .disconnected session => if session = id then some false else none
  | .received _ _ => none

namespace ProtocolSystem

/-- The connections and disconnections of a session that the handler was told. -/
def told (x : ProtocolSystem) (id : SessionId) : List Bool :=
  x.callbacks.filterMap (Callback.mark id)

/-- No event about the session is on its way to the handler. -/
def Processed (protoId : ProtocolId) (x : ProtocolSystem) (id : SessionId) : Prop :=
  (∀ event ∈ x.queue, event.about ≠ id) ∧ (x.parties id).spawned = [] ∧
    ∀ stream ∈ (x.parties id).session.tasks.keys,
      ((x.parties id).session.served protoId stream).getD [] = []

instance (protoId : ProtocolId) (x : ProtocolSystem) (id : SessionId) :
    Decidable (x.Processed protoId id) :=
  have := List.decidableBAll (fun event : ServiceProtocolEvent => event.about ≠ id) x.queue
  have := List.decidableBAll (fun stream =>
    ((x.parties id).session.served protoId stream).getD [] = []) (x.parties id).session.tasks.keys
  inferInstanceAs (Decidable (_ ∧ _ ∧ _))

/-- **What the handler should know**: once the events about a session are processed, it has
the session if and only if the session has an open substream; and it is told of connections
and disconnections in turn, of a connection first. -/
def View (protoId : ProtocolId) (x : ProtocolSystem) : Prop :=
  ∀ id, (x.Processed protoId id →
      (id ∈ x.stream.sessions ↔ (x.parties id).session.IsOpen protoId)) ∧
    (false :: x.told id).IsChain (· ≠ ·)

end ProtocolSystem

/-! ### Sessions that go on -/

namespace Session

variable {protoId : ProtocolId} {s s' s'' : Session}

/-- The next ids are not in use. -/
def Fresh (s : Session) : Prop :=
  ∀ stream, s.nextStream ≤ stream → s.tasks.lookup stream = none

/-- No substream of the protocol is opened or ends. -/
structure Kept (protoId : ProtocolId) (s s' : Session) : Prop where
  served : ∀ stream, s'.served protoId stream = s.served protoId stream
  fresh : s.Fresh → s'.Fresh
  id : s'.context.id = s.context.id
  closed : s.context.closed = true → s'.context.closed = true

theorem Kept.trans (h : Kept protoId s s') (h' : Kept protoId s' s'') : Kept protoId s s'' where
  served := fun stream => (h'.served stream).trans (h.served stream)
  fresh := fun hfresh => h'.fresh (h.fresh hfresh)
  id := h'.id.trans h.id
  closed := fun hclosed => h'.closed (h.closed hclosed)

theorem kept_of_tasks (htasks : s'.tasks = s.tasks) (hnext : s'.nextStream = s.nextStream)
    (hid : s'.context.id = s.context.id)
    (hclosed : s.context.closed = true → s'.context.closed = true) : Kept protoId s s' where
  served := by
    intro stream
    rw [served, served, htasks]
  fresh := by
    rw [Fresh, Fresh, htasks, hnext]
    exact fun h => h
  id := hid
  closed := hclosed

/-- A task gets something from the session. -/
theorem kept_of_insert {stream : StreamId} {t t' : Substream}
    (ht : s.tasks.lookup stream = some t) (htasks : s'.tasks = s.tasks.insert stream t')
    (hproto : t'.protoId = t.protoId) (hsender : t'.serviceProtoSender = t.serviceProtoSender)
    (hnext : s'.nextStream = s.nextStream) (hcontext : s'.context = s.context) :
    Kept protoId s s' where
  served := by
    intro stream'
    rw [served, served, htasks]
    by_cases heq : stream' = stream
    · rw [heq, AList.lookup_insert, ht, Option.bind_some, Option.bind_some, hproto, hsender]
    · rw [AList.lookup_insert_ne heq]
  fresh := by
    intro hfresh stream' hle
    rw [hnext] at hle
    have hnone := hfresh stream' hle
    rw [htasks]
    by_cases heq : stream' = stream
    · rw [heq, ht] at hnone
      cases hnone
    · rwa [AList.lookup_insert_ne heq]
  id := by rw [hcontext]
  closed := by
    rw [hcontext]
    exact fun h => h

theorem kept_clearBuffer (s : Session) (id : StreamId) : Kept protoId s (s.clearBuffer id) := by
  unfold clearBuffer
  split <;> exact kept_of_tasks rfl rfl rfl (fun h => h)

theorem Move.kept (h : Move s s') : Kept protoId s s' := by
  cases h with
  | other same => exact kept_of_tasks same.tasks same.nextStream same.id same.closed
  | send id =>
    unfold trySendTo
    split
    · exact kept_of_tasks rfl rfl rfl (fun h => h)
    · dsimp only
      split
      · exact kept_of_tasks rfl rfl rfl (fun h => h)
      · next htask => exact kept_of_insert htask rfl rfl rfl rfl rfl
  | command protoId hbuffer => exact kept_of_tasks rfl rfl rfl (fun h => h)
  | clear id hstate => exact kept_clearBuffer s id
  | drop id =>
    refine (kept_clearBuffer s id).trans ?_
    unfold dropSubstream
    dsimp only
    split
    · exact kept_of_tasks rfl rfl rfl (fun h => h)
    · next htask => exact kept_of_insert htask rfl rfl rfl rfl rfl

theorem Moves.kept (h : Moves s s') : Kept protoId s s' := by
  induction h with
  | refl => exact kept_of_tasks rfl rfl rfl (fun h => h)
  | tail _ hmove ih => exact ih.trans hmove.kept

theorem Routing.kept {r : Option Routed} (h : Routing r s s') : Kept protoId s s' := by
  cases h with
  | none => exact kept_of_tasks rfl rfl rfl (fun h => h)
  | some input normal stream hbuffer => exact kept_of_tasks rfl rfl rfl (fun h => h)

/-- What is not a poll leaves the tasks alone. -/
theorem kept_step (l : Label) (hsession : ∀ answers, l ≠ .session answers)
    (htask : ∀ stream answers, l ≠ .task stream answers) : Kept protoId s (s.step l) := by
  cases l with
  | message target priority protoId' data =>
    change Kept protoId s (s.handleMessage target priority protoId' data)
    unfold handleMessage
    split
    · generalize target.copies s.context.id = n
      induction n with
      | zero => exact kept_of_tasks rfl rfl rfl (fun h => h)
      | succ n ih =>
        rw [Function.iterate_succ_apply']
        exact ih.trans (kept_of_tasks rfl rfl rfl (fun h => h))
    · exact kept_of_tasks rfl rfl rfl (fun h => h)
  | passOn =>
    change Kept protoId s s.passOn
    unfold passOn
    split
    · exact kept_of_tasks rfl rfl rfl (fun h => h)
    · dsimp only
      split <;> exact kept_of_tasks rfl rfl rfl (fun h => h)
  | command priority c =>
    simp only [step]
    split <;> exact kept_of_tasks rfl rfl rfl (fun h => h)
  | unregister => exact kept_of_tasks rfl rfl rfl (fun h => h)
  | arrive event =>
    simp only [step]
    split <;> exact kept_of_tasks rfl rfl rfl (fun h => h)
  | session answers => exact absurd rfl (hsession answers)
  | task stream answers => exact absurd rfl (htask stream answers)

/-- A substream that is opened has the connection in its buffer, if there is a handler. -/
theorem served_opened (protoId : ProtocolId) (s : Session) (proto : ProtocolMeta) (version : String)
    (stream : StreamId) :
    (s.opened proto version).served protoId stream =
      if stream = s.nextStream then
        if proto.id = protoId ∧ proto.serviceHandle = true then
          some [.connected s.context.id version]
        else none
      else s.served protoId stream := by
  unfold served opened
  split
  · next heq =>
    rw [heq, AList.lookup_insert, Option.bind_some]
    simp only [newSubstream]
    by_cases hproto : proto.id = protoId <;> simp [hproto]
  · next heq => rw [AList.lookup_insert_ne heq]

theorem fresh_opened (h : s.Fresh) (proto : ProtocolMeta) (version : String) :
    (s.opened proto version).Fresh := by
  intro stream hle
  exact (AList.lookup_insert_ne (Nat.ne_of_gt hle)).trans (h stream (Nat.le_of_succ_le hle))

/-- One substream has been polled, and now has the buffer `buffer`, or has ended. -/
structure ServedAt (protoId : ProtocolId) (stream : StreamId)
    (buffer : Option (List ServiceProtocolEvent)) (s s' : Session) : Prop where
  served : ∀ stream', s'.served protoId stream' =
    if stream' = stream then buffer else s.served protoId stream'
  fresh : s.Fresh → s'.Fresh
  id : s'.context.id = s.context.id
  closed : s.context.closed = true → s'.context.closed = true

theorem ServedAt.kept (stream : StreamId)
    (h : ServedAt protoId stream (s.served protoId stream) s s') : Kept protoId s s' where
  served := by
    intro stream'
    rw [h.served]
    split
    · next heq => rw [heq]
    · rfl
  fresh := h.fresh
  id := h.id
  closed := h.closed

/-- A poll of a substream, as far as the handler is concerned. -/
theorem servedAt_pollTask {stream : StreamId} {task : Substream}
    (htask : s.tasks.lookup stream = some task) (answers : Answers) :
    ServedAt protoId stream
      (if (ProtocolSystem.polled s task answers).pollNext.2 = .done then none
        else if task.protoId = protoId then
          (ProtocolSystem.polled s task answers).pollNext.1.serviceProtoSender
        else none)
      s (s.pollTask stream answers.connected) := by
  have hframe := (ProtocolSystem.polled s task answers).frame_pollNext
  have hpoll : { task with context := s.context, discarded := [] }.poll answers.connected
      = (ProtocolSystem.polled s task answers).pollNext := rfl
  simp only [pollTask, htask, hpoll]
  generalize (ProtocolSystem.polled s task answers).pollNext = r at hframe ⊢
  obtain ⟨t, polled⟩ := r
  have hproto : t.protoId = task.protoId := hframe.protoId
  -- a task that is still there has the buffer it was left with
  have hrunning : ∀ discarded, ServedAt protoId stream
      (if task.protoId = protoId then t.serviceProtoSender else none) s { s with
        context := t.context, discarded
        tasks := s.tasks.insert stream { t with discarded := [] } } := by
    intro discarded
    refine ⟨fun stream' => ?_, fun hfresh stream' hle => ?_, hframe.id, hframe.closed⟩
    · unfold served
      split
      · next heq => rw [heq, AList.lookup_insert, Option.bind_some, hproto]
      · next heq => rw [AList.lookup_insert_ne heq]
    · have hne : stream' ≠ stream := by
        intro heq
        have hnone := hfresh stream' hle
        rw [heq, htask] at hnone
        cases hnone
      exact (AList.lookup_insert_ne hne).trans (hfresh stream' hle)
  have hended : ∀ discarded, ServedAt protoId stream none s { s with
      context := t.context, discarded, tasks := s.tasks.erase stream } := by
    intro discarded
    refine ⟨fun stream' => ?_, fun hfresh stream' hle => ?_, hframe.id, hframe.closed⟩
    · unfold served
      split
      · next heq => rw [heq, AList.lookup_erase, Option.bind_none]
      · next heq => rw [AList.lookup_erase_ne heq]
    · by_cases heq : stream' = stream
      · rw [heq]
        exact AList.lookup_erase ..
      · exact (AList.lookup_erase_ne heq).trans (hfresh stream' hle)
  cases polled with
  | pending => exact hrunning _
  | item => exact hrunning _
  | done => exact hended _

theorem isOpen_iff : s.IsOpen protoId ↔ ∃ stream, (s.served protoId stream).isSome = true := by
  constructor
  · rintro ⟨stream, -, hsome⟩
    exact ⟨stream, hsome⟩
  · rintro ⟨stream, hsome⟩
    refine ⟨stream, AList.lookup_isSome.mp ?_, hsome⟩
    cases hlookup : s.tasks.lookup stream with
    | none =>
      rw [served, hlookup] at hsome
      cases hsome
    | some t => rfl

end Session

end Tentacle
end CkbP2P

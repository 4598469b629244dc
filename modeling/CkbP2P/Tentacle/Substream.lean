import CkbP2P.Tentacle.Buffer

/-!
# Substreams

A protocol that is open on a session is served by a task of its own: it writes the messages
of the session to a multiplexed stream, hands what it reads to the handlers of the protocol
and tells both ends when it closes.

One poll of the task calls outside in many places: the sink, the channels of the handlers
and of the session, the flag that says that the session is closed.  The answers are given
with the poll, one list for each kind of call, and used up in order; a call that finds its
list empty has to wait.

What leaves the substream is recorded: the frames given to the codec, the messages that are
dropped, and the events queued to the handlers and the session, directly or by a task
spawned for it.  Nothing orders the tasks that are spawned, so their events are kept apart.
-/

namespace CkbP2P
namespace Tentacle

open Lib

/-! ### Events -/

/-- Events between a session and its substreams. -/
inductive ProtocolEvent where
  | opened (protoName : String) (version : String)
  | close (id : StreamId) (protoId : ProtocolId)
  | message (data : Bytes)
  | selectError (protoName : Option String)
  | error (protoId : ProtocolId) (error : IoError)
  | timeoutCheck
  deriving DecidableEq

/-- Events to a handler at service level. -/
inductive ServiceProtocolEvent where
  | connected (session : SessionId) (version : String)
  | received (id : SessionId) (data : Bytes)
  | disconnected (id : SessionId)
  deriving DecidableEq

/-- Events to a handler at session level. -/
inductive SessionProtocolEvent where
  | opened (version : String)
  | received (data : Bytes)
  | closed
  | disconnected
  deriving DecidableEq

/-! ### State -/

/-- What the tasks of a session share.  The source subtracts from the size with `fetch_sub`, which
wraps; the size counts what is in the buffers, so what is subtracted is never more, and a natural
number does as well. -/
structure Context where
  id : SessionId
  closed : Bool
  pendingDataSize : ℕ
  deriving DecidableEq

/-- The answer of a sink to `poll_ready` and `start_send`. -/
inductive ReadyAnswer where
  | accepted
  | pending
  | failed (e : IoError)
  deriving DecidableEq

/-- The answer of a sink to `poll_flush`. -/
inductive FlushAnswer where
  | done
  | pending
  | failed (e : IoError)
  deriving DecidableEq

/-- The answer of a stream to `poll_next`. -/
inductive FrameAnswer where
  | data (d : Bytes)
  | ended
  | pending
  | failed (e : IoError)
  deriving DecidableEq

/-- The answers of the outside to the calls of one poll. -/
structure Answers where
  /-- Whether the session has been closed by the time its flag is read. -/
  closed : List Bool
  ready : List ReadyAnswer
  flush : List FlushAnswer
  service : List Room
  session : List Room
  event : List Room
  frame : FrameAnswer
  proceed : Bool
  deriving DecidableEq

structure Substream where
  id : StreamId
  protoId : ProtocolId
  context : Context
  sendEventSize : ℕ
  recvEventSize : ℕ
  highWriteBuf : List Bytes
  writeBuf : List Bytes
  dead : Bool
  keepBuffer : Bool
  eventSender : List ProtocolEvent
  eventReceiver : PriorityChannel ProtocolEvent
  serviceProtoSender : Option (List ServiceProtocolEvent)
  sessionProtoSender : Option (List SessionProtocolEvent)
  beforeReceive : Option (Bytes → Except IoError Bytes)
  answers : Answers
  /-- Frames given to the codec, with the priority they were sent with. -/
  handed : List (Priority × Bytes)
  /-- Messages dropped. -/
  discarded : List Bytes
  /-- Events queued to the session, whoever sends them. -/
  toSession : List ProtocolEvent
  /-- Those among them that the substream has sent itself. -/
  posted : List ProtocolEvent
  /-- The others, for each task that was spawned for them. -/
  reporting : List (List ProtocolEvent)
  /-- Events queued to the handler at service level. -/
  toService : List ServiceProtocolEvent
  /-- Those among them that the substream has queued itself. -/
  direct : List ServiceProtocolEvent
  /-- The others, for each task that was spawned for them. -/
  spawned : List (List ServiceProtocolEvent)
  /-- Events queued to the handler at session level. -/
  toHandle : List SessionProtocolEvent

namespace Substream

/-! ### Calls to the outside -/

def loadClosed (s : Substream) : Bool × Substream :=
  match s.answers.closed with
  | [] => (s.context.closed, s)
  | b :: bs =>
    let closed := s.context.closed || b
    (closed, { s with
      context := { s.context with closed }
      answers := { s.answers with closed := bs } })

def nextReady (s : Substream) : ReadyAnswer × Substream :=
  match s.answers.ready with
  | [] => (.pending, s)
  | a :: as => (a, { s with answers := { s.answers with ready := as } })

def nextFlush (s : Substream) : FlushAnswer × Substream :=
  match s.answers.flush with
  | [] => (.pending, s)
  | a :: as => (a, { s with answers := { s.answers with flush := as } })

/-- The first answer of a list, or a channel that is full. -/
def nextRoom (rooms : List Room) : Room := rooms.headD ⟨0, false⟩

/-! ### Writing -/

/-- `push_front`. -/
def pushFront (s : Substream) (priority : Priority) (frame : Bytes) : Substream :=
  match priority with
  | .high => { s with highWriteBuf := frame :: s.highWriteBuf }
  | .normal => { s with writeBuf := frame :: s.writeBuf }

/-- `push_back`. -/
def pushBack (s : Substream) (priority : Priority) (frame : Bytes) : Substream :=
  match priority with
  | .high => { s with highWriteBuf := s.highWriteBuf ++ [frame] }
  | .normal => { s with writeBuf := s.writeBuf ++ [frame] }

/-- `poll_complete`. -/
def pollComplete (s : Substream) : Substream × Except IoError Bool :=
  match s.nextFlush with
  | (.pending, s) => (s, .ok true)
  | (.done, s) => (s, .ok false)
  | (.failed e, s) => (s, .error e)

/-- The codec has taken a frame, and `decr_pending_data_size`. -/
def hand (s : Substream) (frame : Bytes) (priority : Priority) : Substream :=
  { s with
    handed := s.handed ++ [(priority, frame)]
    context := { s.context with
      pendingDataSize := s.context.pendingDataSize - frame.length } }

/-- `send_inner`: whether the sink has to be waited for.  A frame the sink fails on is
gone. -/
def sendInner (s : Substream) (frame : Bytes) (priority : Priority) :
    Substream × Except IoError Bool :=
  match s.nextReady with
  | (.failed e, s) => ({ s with discarded := s.discarded ++ [frame] }, .error e)
  | (.accepted, s) => (s.hand frame priority, .ok false)
  | (.pending, s) =>
    match (s.pushFront priority frame).pollComplete with
    | (s, .error e) => (s, .error e)
    | (s, .ok _) => (s, .ok true)

/-- The buffer of a priority. -/
def buf (s : Substream) : Priority → List Bytes
  | .high => s.highWriteBuf
  | .normal => s.writeBuf

def setBuf (s : Substream) (priority : Priority) (frames : List Bytes) : Substream :=
  match priority with
  | .high => { s with highWriteBuf := frames }
  | .normal => { s with writeBuf := frames }

/-- A loop of `send_data`, over the frames of a priority. -/
def sendLoop (priority : Priority) : List Bytes → Substream → Substream × Except IoError Bool
  | [], s => (s, .ok false)
  | frame :: frames, s =>
    match (s.setBuf priority frames).sendInner frame priority with
    | (s, .error e) => (s, .error e)
    | (s, .ok true) => (s, .ok true)
    | (s, .ok false) => sendLoop priority frames s

/-- `send_data`. -/
def sendData (s : Substream) : Substream × Except IoError Unit :=
  match sendLoop .high s.highWriteBuf s with
  | (s, .error e) => (s, .error e)
  | (s, .ok true) => (s, .ok ())
  | (s, .ok false) =>
    match sendLoop .normal s.writeBuf s with
    | (s, .error e) => (s, .error e)
    | (s, .ok true) => (s, .ok ())
    | (s, .ok false) =>
      match s.pollComplete with
      | (s, .error e) => (s, .error e)
      | (s, .ok _) => (s, .ok ())

/-- A frame that is taken leaves the buffers alone. -/
theorem buf_sendInner {frame : Bytes} {priority : Priority} {t t' : Substream}
    (h : t.sendInner frame priority = (t', .ok false)) : t'.buf priority = t.buf priority := by
  have hbuf : t.nextReady.2.buf priority = t.buf priority := by
    unfold nextReady
    split <;> rfl
  unfold sendInner at h
  rcases hn : t.nextReady with ⟨_ | _ | e, r⟩ <;> rw [hn] at hbuf h
  · rw [← (Prod.mk.inj h).1, ← hbuf]
    cases priority <;> rfl
  · dsimp only at h
    split at h <;> simp at h
  · simp at h

/-! ### Telling the session and the handlers -/

/-- `output`. -/
def output (s : Substream) : Substream :=
  let r := trySend s.eventSender (nextRoom s.answers.event)
  { s with
    eventSender := r.kept
    toSession := s.toSession ++ r.sent
    posted := s.posted ++ r.sent
    dead := s.dead || r.result == .disconnect
    answers := { s.answers with event := s.answers.event.tail } }

/-- `output_event`. -/
def outputEvent (s : Substream) (event : ProtocolEvent) : Substream :=
  { s with eventSender := s.eventSender ++ [event] }.output

/-- The part of `distribute_to_user_level` for the handler at service level. -/
def distributeToService (s : Substream) : Substream :=
  match s.serviceProtoSender with
  | none => s
  | some buffer =>
    let r := trySend buffer (nextRoom s.answers.service)
    { s with
      serviceProtoSender := some r.kept
      toService := s.toService ++ r.sent
      direct := s.direct ++ r.sent
      dead := s.dead || r.result == .disconnect
      answers := { s.answers with service := s.answers.service.tail } }

/-- The part of `distribute_to_user_level` for the handler at session level. -/
def distributeToHandle (s : Substream) : Substream :=
  match s.sessionProtoSender with
  | none => s
  | some buffer =>
    let r := trySend buffer (nextRoom s.answers.session)
    { s with
      sessionProtoSender := some r.kept
      toHandle := s.toHandle ++ r.sent
      dead := s.dead || r.result == .disconnect
      answers := { s.answers with session := s.answers.session.tail } }

/-- `distribute_to_user_level`. -/
def distributeToUserLevel (s : Substream) : Substream :=
  let s := s.distributeToService.distributeToHandle
  if s.dead then s.output else s

/-! ### Closing -/

/-- The part of `close_proto_stream` that tells the handler at service level. -/
def closeService (s : Substream) : Substream :=
  match s.serviceProtoSender with
  | none => s
  | some events =>
    { s with
      serviceProtoSender := some []
      toService := s.toService ++ events ++ [.disconnected s.context.id]
      spawned := s.spawned ++ [events ++ [.disconnected s.context.id]] }

/-- The part of `close_proto_stream` that tells the handler at session level. -/
def closeHandle (s : Substream) : Substream :=
  match s.sessionProtoSender with
  | none => s
  | some events =>
    let (closed, s) := s.loadClosed
    { s with
      sessionProtoSender := some []
      toHandle := s.toHandle ++ events ++ .closed :: if closed then [.disconnected] else [] }

/-- The part of `close_proto_stream` that tells the session. -/
def closeSession (s : Substream) : Substream :=
  let (closed, s) := s.loadClosed
  if closed then s.output
  else
    { s with
      eventSender := []
      toSession := s.toSession ++ s.eventSender ++ [.close s.id s.protoId]
      reporting := s.reporting ++ [s.eventSender ++ [.close s.id s.protoId]] }

/-- `close_proto_stream`. -/
def closeProtoStream (s : Substream) : Substream :=
  let s := { s with eventReceiver := s.eventReceiver.close }
  let s := if s.keepBuffer then s else { s with eventSender := [] }
  s.closeService.closeHandle.closeSession

/-- The kinds of errors that say that the connection is gone. -/
def isConnection : ErrorKind → Bool
  | .brokenPipe | .connectionAborted | .connectionReset | .notConnected | .unexpectedEof => true
  | .other _ => false

/-- `error_close`. -/
def errorClose (s : Substream) (error : IoError) : Substream :=
  let s := { s with dead := true }
  if isConnection error.kind then s
  else { s with
    eventSender := s.eventSender ++ [ProtocolEvent.error s.protoId error] }.closeProtoStream

/-! ### Polling -/

/-- `handle_proto_event`. -/
def handleProtoEvent (s : Substream) (event : ProtocolEvent) (priority : Priority) : Substream :=
  match event with
  | .message data =>
    match (s.pushBack priority data).sendData with
    | (s, .error e) => { s.outputEvent (.error s.protoId e) with dead := true }
    | (s, .ok ()) => s
  | .close _ _ => { s with discarded := s.discarded ++ s.writeBuf, writeBuf := [], dead := true }
  | _ => s

/-- `recv_event`: whether it has to wait. -/
def recvEvent (s : Substream) : Substream × Bool :=
  if s.dead then (s, false)
  else if s.writeBuf.length > s.sendEventSize then (s, true)
  else match s.eventReceiver.next with
    | (.item priority event, receiver) =>
      ({ s with eventReceiver := receiver }.handleProtoEvent event priority, false)
    | (.ended, receiver) => ({ s with eventReceiver := receiver, dead := true }, false)
    | (.pending, receiver) => ({ s with eventReceiver := receiver }, true)

/-- A frame goes to the handlers. -/
def receive (s : Substream) (data : Bytes) : Substream :=
  { s with
    sessionProtoSender := s.sessionProtoSender.map (· ++ [SessionProtocolEvent.received data])
    serviceProtoSender :=
      s.serviceProtoSender.map (· ++ [ServiceProtocolEvent.received s.context.id data])
  }.distributeToUserLevel

/-- `recv_frame`: whether it has to wait. -/
def recvFrame (s : Substream) : Substream × Bool :=
  if s.dead then (s, false)
  else if (s.serviceProtoSender.map List.length).getD 0 > s.recvEventSize ∨
      (s.sessionProtoSender.map List.length).getD 0 > s.recvEventSize then (s, true)
  else match s.answers.frame with
    | .data data =>
      match s.beforeReceive with
      | none => (s.receive data, false)
      | some function =>
        match function data with
        | .error e => (s.errorClose e, false)
        | .ok data => (s.receive data, false)
    | .ended => ({ s with dead := true }, false)
    | .pending => (s, true)
    | .failed e => (s.errorClose e, false)

/-- `flush`. -/
def flush (s : Substream) : Substream × Except IoError Unit :=
  match s.pollComplete with
  | (s, .error e) => (s, .error e)
  | (s, .ok _) =>
    let s := if s.serviceProtoSender.getD [] ≠ [] ∨ s.sessionProtoSender.getD [] ≠ [] then
        s.distributeToUserLevel else s
    if s.eventSender ≠ [] ∨ s.writeBuf ≠ [] ∨ s.highWriteBuf ≠ [] then s.output.sendData
    else (s, .ok ())

/-- What a poll returns. -/
inductive Polled where
  | pending
  | item
  | done
  deriving DecidableEq, Repr

/-- `poll_next`. -/
def pollNext (s : Substream) : Substream × Polled :=
  let (closed, s) := if s.dead then (true, s) else s.loadClosed
  if closed then (s.closeProtoStream, .done)
  else match s.flush with
    | (s, .error e) => (s.errorClose e, .done)
    | (s, .ok ()) =>
      if !s.answers.proceed then (s, .pending)
      else
        let (s, framePending) := s.recvFrame
        let (s, eventPending) := s.recvEvent
        (s, if framePending && eventPending then .pending else .item)

/-- A poll with the answers of the outside. -/
def poll (s : Substream) (answers : Answers) : Substream × Polled :=
  { s with answers }.pollNext

end Substream

end Tentacle
end CkbP2P

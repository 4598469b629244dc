import Mathlib.Data.List.AList
import CkbP2P.Tentacle.Substream

/-!
# Sessions

A session stands between the service and the substreams of one connection.  It takes
messages and commands of the service from one channel and events of its substreams from
another, and passes the messages on to the substream of their protocol through a buffer.

The tasks of the substreams are part of the state, with the queues of their channels.
Negotiating a protocol happens outside: a protocol that has been agreed on arrives as an
event.  As with a substream, the answers of the outside are given with a poll.
-/

namespace CkbP2P
namespace Tentacle

open Lib

inductive SessionState where
  | remoteClose
  | localClose
  | normal
  | abnormal
  deriving DecidableEq, Repr

/-- What a session is told, apart from messages. -/
inductive Command where
  | sessionClose
  | protocolOpen (protoId : ProtocolId)
  | protocolClose (protoId : ProtocolId)
  | streamStart
  | changeState (state : SessionState) (error : Option IoError)
  deriving DecidableEq

/-- What a session receives from the service. -/
inductive SessionInput where
  | protocolMessage (protoId : ProtocolId) (data : Bytes)
  | command (c : Command)
  deriving DecidableEq

/-- The answers of the outside to the calls of one poll. -/
structure SessionAnswers where
  /-- The order in which a map is walked through. -/
  order : List StreamId
  /-- The channels of the substreams. -/
  stream : List Room
  /-- The channel of the service. -/
  service : List Room
  proceed : Bool
  /-- The handles of the session have ended. -/
  waited : Bool

structure Session where
  context : Context
  state : SessionState
  protocols : List ProtocolMeta
  beforeReceive : ProtocolId → Option (Bytes → Except IoError Bytes)
  sendBufferSize : ℕ
  sendEventSize : ℕ
  recvEventSize : ℕ
  keepBuffer : Bool
  nextStream : StreamId
  substreams : AList fun _ : StreamId => PriorityBuffer ProtocolEvent
  protoStreams : AList fun _ : ProtocolId => StreamId
  /-- The queue of `proto_event_receiver`, and whether it is open. -/
  protoEvents : List ProtocolEvent
  protoEventsOpen : Bool
  serviceSender : List SessionEvent
  serviceReceiver : PriorityChannel SessionInput
  answers : SessionAnswers
  /-- The tasks of the substreams. -/
  tasks : AList fun _ : StreamId => Substream
  /-- Events queued to the service. -/
  toService : List SessionEvent
  /-- The protocols that were asked to be opened. -/
  opening : List String
  /-- Messages dropped. -/
  discarded : List Bytes
  /-- The service knows the session. -/
  registered : Bool
  /-- The service waits to send these to the session. -/
  sending : List (Priority × ProtocolId × Bytes)
  /-- The task of the session has ended. -/
  ended : Bool

/-- The messages among some events. -/
def messages (events : List ProtocolEvent) : List Bytes :=
  events.filterMap fun
    | .message data => some data
    | _ => none

/-- The messages among some inputs. -/
def inputMessages (inputs : List SessionInput) : List Bytes :=
  inputs.filterMap fun
    | .protocolMessage _ data => some data
    | _ => none

namespace Session

/-! ### Sending -/

/-- `output`. -/
def output (s : Session) : Session :=
  let r := trySend s.serviceSender (s.answers.service.headD ⟨0, false⟩)
  { s with
    serviceSender := r.kept
    toService := s.toService ++ r.sent
    state := if r.result = .disconnect then .abnormal else s.state
    answers := { s.answers with service := s.answers.service.tail } }

/-- `event_output`. -/
def eventOutput (s : Session) (event : SessionEvent) : Session :=
  { s with serviceSender := s.serviceSender ++ [event] }.output

/-- What arrives at a task. -/
def deliver (t : Substream) (high normal : List ProtocolEvent) : Substream :=
  { t with eventReceiver := { t.eventReceiver with
      high := t.eventReceiver.high ++ high
      normal := t.eventReceiver.normal ++ normal } }

/-- `try_send` of the buffer of a substream: what is sent is in the queue of its task.  The
receiver is gone when the task has ended or has closed its end. -/
def trySendTo (s : Session) (id : StreamId) : SendResult × Session :=
  match s.substreams.lookup id with
  | none => (.ok, s)
  | some buffer =>
    let answers := { s.answers with stream := s.answers.stream.tail }
    match s.tasks.lookup id with
    | none =>
      let r := buffer.trySend ⟨0, true⟩
      (r.result, { s with
        answers
        substreams := s.substreams.insert id r.kept
        discarded := s.discarded ++ messages r.dropped })
    | some task =>
      let room := if task.eventReceiver.isOpen then s.answers.stream.headD ⟨0, false⟩ else ⟨0, true⟩
      let r := buffer.trySend room
      (r.result, { s with
        answers
        substreams := s.substreams.insert id r.kept
        tasks := s.tasks.insert id (deliver task r.high r.normal)
        discarded := s.discarded ++ messages r.dropped })

/-- Add an event to the buffer of a substream and try to send. -/
def pushTo (s : Session) (id : StreamId) (priority : Priority) (event : ProtocolEvent) : Session :=
  match s.substreams.lookup id with
  | none => s
  | some buffer =>
    ({ s with substreams := s.substreams.insert id (buffer.push priority event) }.trySendTo id).2

/-- `clear` of the buffer of a substream. -/
def clearBuffer (s : Session) (id : StreamId) : Session :=
  match s.substreams.lookup id with
  | none => s
  | some buffer => { s with
      substreams := s.substreams.insert id .empty
      discarded := s.discarded ++ messages buffer.toList }

/-- The order in which the substreams are walked through. -/
def walk (s : Session) : List StreamId :=
  (s.answers.order.filter (· ∈ s.substreams)).dedup ++
    s.substreams.keys.filter (· ∉ s.answers.order)

/-- The loop of `distribute_to_substream`. -/
def distributeLoop : List StreamId → Session → Session
  | [], s => s
  | id :: ids, s =>
    if ((s.substreams.lookup id).map PriorityBuffer.isEmpty).getD true then distributeLoop ids s
    else match s.trySendTo id with
      | (.pending, s) =>
        if s.context.pendingDataSize > s.sendBufferSize then
          (clearBuffer { s with state := .abnormal } id).eventOutput (.changeState s.context.id)
        else s
      | (_, s) => distributeLoop ids s

/-- `distribute_to_substream`. -/
def distributeToSubstream (s : Session) : Session := distributeLoop s.walk s

/-- `flush`. -/
def flush (s : Session) : Session :=
  let s := s.distributeToSubstream
  if s.serviceSender.isEmpty then s else s.output

/-! ### Closing -/

/-- The end of a channel to a substream. -/
def hangUp (t : Substream) : Substream := { t with eventReceiver := t.eventReceiver.close }

/-- The sender to a substream is gone, and its buffer with it. -/
def dropSubstream (s : Session) (id : StreamId) : Session :=
  let s := s.clearBuffer id
  { s with
    substreams := s.substreams.erase id
    tasks := match s.tasks.lookup id with
      | none => s.tasks
      | some task => s.tasks.insert id (hangUp task) }

/-- `clean`. -/
def clean (s : Session) : Session :=
  let s := s.substreams.keys.foldl dropSubstream s
  { s with serviceReceiver := s.serviceReceiver.close, protoEventsOpen := false }

/-- `close_session`. -/
def closeSession (s : Session) : Session :=
  { s with
    context := { s.context with closed := true }
    serviceSender := []
    toService := s.toService ++ s.serviceSender ++ [SessionEvent.sessionClose s.context.id] }.clean

/-- `close_all_proto`. -/
def closeAllProto (s : Session) : Session :=
  if s.context.closed then s.closeSession
  else
    let s := s.walk.foldl (fun s id => s.pushTo id .high (.close id 0)) s
    { s with context := { s.context with closed := true } }

/-! ### Events of substreams -/

/-- A new substream for a protocol. -/
def newSubstream (s : Session) (proto : ProtocolMeta) (version : String) : Substream :=
  { id := s.nextStream, protoId := proto.id, context := s.context
    sendEventSize := s.sendEventSize, recvEventSize := s.recvEventSize
    highWriteBuf := [], writeBuf := [], dead := false, keepBuffer := s.keepBuffer
    eventSender := [], eventReceiver := .empty
    serviceProtoSender :=
      if proto.serviceHandle then some [.connected s.context.id version] else none
    sessionProtoSender := if proto.sessionHandle then some [.opened version] else none
    beforeReceive := s.beforeReceive proto.id
    answers := ⟨[], [], [], [], [], [], .pending, true⟩
    handed := [], discarded := [], toSession := [], posted := [], reporting := []
    toService := [], direct := [], spawned := [], toHandle := [] }

/-- `open_protocol`. -/
def openProtocol (s : Session) (name version : String) : Session :=
  match s.protocols.find? fun proto => proto.name == name with
  | none => { s with state := .abnormal }.eventOutput (.protocolSelectError s.context.id none)
  | some proto =>
    if proto.id ∈ s.protoStreams then s
    else { s with
      substreams := s.substreams.insert s.nextStream .empty
      protoStreams := s.protoStreams.insert proto.id s.nextStream
      tasks := s.tasks.insert s.nextStream (s.newSubstream proto version)
      nextStream := s.nextStream + 1 }

/-- `handle_stream_event`. -/
def handleStreamEvent (s : Session) : ProtocolEvent → Session
  | .opened protoName version => s.openProtocol protoName version
  | .close id protoId =>
    if id ∈ s.substreams then
      let s := s.dropSubstream id
      { s with protoStreams := s.protoStreams.erase protoId }
    else s
  | .message _ => s
  | .selectError protoName => s.eventOutput (.protocolSelectError s.context.id protoName)
  | .error protoId error => s.eventOutput (.protocolError s.context.id protoId error)
  | .timeoutCheck =>
    if s.substreams.keys.isEmpty then
      { s.eventOutput (.sessionTimeout s.context.id) with state := .localClose }
    else s

/-! ### Events of the service -/

/-- A message that goes nowhere. -/
def discard (s : Session) (data : Bytes) : Session :=
  { s with discarded := s.discarded ++ [data] }

/-- The handling of a message. -/
def handleProtocolMessage (s : Session) (protoId : ProtocolId) (data : Bytes)
    (priority : Priority) : Session :=
  match s.protoStreams.lookup protoId with
  | none => s.discard data
  | some id => if id ∈ s.substreams then s.pushTo id priority (.message data) else s.discard data

/-- The handling of a command. -/
def handleCommand (s : Session) : Command → Session
  | .sessionClose =>
    if s.substreams.keys.isEmpty then s.closeSession
    else { s with state := .localClose }.closeAllProto
  | .protocolOpen protoId =>
    if protoId ∈ s.protoStreams then s
    else match s.protocols.find? fun proto => proto.id == protoId with
      | some proto => { s with opening := s.opening ++ [proto.name] }
      | none => s
  | .protocolClose protoId =>
    match s.protoStreams.lookup protoId with
    | some id => s.pushTo id .high (.close id protoId)
    | none => s
  | .streamStart => s
  | .changeState state error =>
    if s.state = .normal then
      let s := { s with state }
      match error with
      | none => s
      | some e =>
        let s := if s.keepBuffer then s else { s with serviceSender := [] }
        s.eventOutput (.muxerError s.context.id e)
    else s

/-- `handle_session_event`. -/
def handleSessionEvent (s : Session) (event : SessionInput) (priority : Priority) : Session :=
  match event with
  | .protocolMessage protoId data => s.handleProtocolMessage protoId data priority
  | .command c => s.handleCommand c

/-! ### Polling -/

/-- `recv_substreams`: whether it has to wait. -/
def recvSubstreams (s : Session) : Session × Bool :=
  match s.protoEvents with
  | event :: events =>
    let s := { s with protoEvents := events }
    (if s.state = .localClose then s else s.handleStreamEvent event, false)
  | [] => if s.protoEventsOpen then (s, true) else ({ s with state := .localClose }, false)

/-- What is done with an input that comes too late. -/
def discardInput (s : Session) : SessionInput → Session
  | .protocolMessage _ data => s.discard data
  | .command _ => s

/-- `recv_service`: whether it has to wait. -/
def recvService (s : Session) : Session × Bool :=
  match s.serviceReceiver.next with
  | (.item priority event, receiver) =>
    let s := { s with serviceReceiver := receiver }
    (if s.state = .normal then s.handleSessionEvent event priority else s.discardInput event, false)
  | (.ended, receiver) =>
    ({ s with serviceReceiver := receiver, state := .localClose }.clean, false)
  | (.pending, receiver) => ({ s with serviceReceiver := receiver }, true)

/-- What a poll returns. -/
inductive Polled where
  | pending
  | item
  | done
  deriving DecidableEq, Repr

/-- `wait_handle_poll`. -/
def waitHandlePoll (s : Session) : Session × Polled :=
  (s, if s.answers.waited then .done else .pending)

/-- The end of `poll_next`, by the state of the session. -/
def conclude (s : Session) (isPending : Bool) : Session × Polled :=
  match s.state with
  | .localClose | .abnormal => waitHandlePoll { s with protoStreams := ∅ }.closeSession
  | .remoteClose =>
    if s.protoStreams.keys.isEmpty then s.closeSession.waitHandlePoll
    else (s.closeAllProto, if isPending then .pending else .item)
  | .normal => (s, if isPending then .pending else .item)

/-- `poll_next`. -/
def pollNext (s : Session) : Session × Polled :=
  if s.state = .localClose then (s, .done)
  else
    let s := s.flush
    if !s.answers.proceed then (s, .pending)
    else
      let (s, substreamsPending) := s.recvSubstreams
      let (s, servicePending) := s.recvService
      s.conclude (substreamsPending && servicePending)

/-- The task of the session ends, and what it holds is gone. -/
def drop (s : Session) : Session :=
  let s := s.clean
  { s with
    ended := true
    discarded := s.discarded ++ inputMessages s.serviceReceiver.toList
    serviceReceiver := { s.serviceReceiver with high := [], normal := [] } }

/-! ### The service, the session and its substreams -/

/-- The task of a substream is polled.  The context is shared; what the task drops is noted
with the session, and a task that has ended drops what it holds. -/
def pollTask (s : Session) (id : StreamId) (answers : Answers) : Session :=
  match s.tasks.lookup id with
  | none => s
  | some task =>
    let (t, polled) := { task with context := s.context, discarded := [] }.poll answers
    let s := { s with context := t.context, discarded := s.discarded ++ t.discarded }
    match polled with
    | .done => { s with
        tasks := s.tasks.erase id
        discarded := s.discarded ++ t.highWriteBuf ++ t.writeBuf ++
          messages t.eventReceiver.toList }
    | _ => { s with tasks := s.tasks.insert id { t with discarded := [] } }

/-- The task of the session is polled. -/
def poll (s : Session) (answers : SessionAnswers) : Session :=
  if s.ended then s
  else match { s with answers }.pollNext with
    | (s, .done) => s.drop
    | (s, _) => s

end Session

/-- The sessions a message is for. -/
inductive TargetSession where
  | all
  | filter (f : SessionId → Bool)
  | multi (ids : List SessionId)
  | single (id : SessionId)

/-- How often `handle_message` sends a message to a session it knows. -/
def TargetSession.copies (id : SessionId) : TargetSession → ℕ
  | .all => 1
  | .filter f => if f id then 1 else 0
  | .multi ids => ids.count id
  | .single id' => if id' = id then 1 else 0

namespace Session

/-- One send of `handle_message`, up to the point where it waits for the channel: the
message is charged to the session. -/
def charge (s : Session) (priority : Priority) (protoId : ProtocolId) (data : Bytes) : Session :=
  { s with
    context := { s.context with
      pendingDataSize := s.context.pendingDataSize + data.length }
    sending := s.sending ++ [(priority, protoId, data)] }

/-- `handle_message`, as far as this session is concerned. -/
def handleMessage (s : Session) (target : TargetSession) (priority : Priority)
    (protoId : ProtocolId) (data : Bytes) : Session :=
  if s.registered then
    (fun s => s.charge priority protoId data)^[target.copies s.context.id] s
  else s

/-- A send of the service gets through, or finds the channel closed. -/
def passOn (s : Session) : Session :=
  match s.sending with
  | [] => s
  | (priority, protoId, data) :: sending =>
    let s := { s with sending }
    if s.serviceReceiver.isOpen then
      { s with serviceReceiver :=
          s.serviceReceiver.push priority (.protocolMessage protoId data) }
    else s.discard data

/-- What can happen in the life of a session. -/
inductive Label where
  /-- The service handles a message of the user. -/
  | message (target : TargetSession) (priority : Priority) (protoId : ProtocolId) (data : Bytes)
  /-- The channel of the session takes a message. -/
  | passOn
  /-- The session is sent something else. -/
  | command (priority : Priority) (c : Command)
  /-- The service forgets the session. -/
  | unregister
  /-- An event of a substream, or of a negotiation, arrives. -/
  | arrive (event : ProtocolEvent)
  | session (answers : SessionAnswers)
  | task (id : StreamId) (answers : Answers)

/-- The system. -/
def step (s : Session) : Label → Session
  | .message target priority protoId data => s.handleMessage target priority protoId data
  | .passOn => s.passOn
  | .command priority c =>
    if s.serviceReceiver.isOpen then
      { s with serviceReceiver := s.serviceReceiver.push priority (.command c) }
    else s
  | .unregister => { s with registered := false }
  | .arrive event =>
    if s.protoEventsOpen then { s with protoEvents := s.protoEvents ++ [event] } else s
  | .session answers => s.poll answers
  | .task id answers => s.pollTask id answers

/-- A session as it is started. -/
def new (id : SessionId) (protocols : List ProtocolMeta)
    (beforeReceive : ProtocolId → Option (Bytes → Except IoError Bytes))
    (sendBufferSize sendEventSize recvEventSize : ℕ) (keepBuffer : Bool) : Session :=
  { context := { id, closed := false, pendingDataSize := 0 }, state := .normal, protocols
    beforeReceive, sendBufferSize, sendEventSize, recvEventSize, keepBuffer, nextStream := 0
    substreams := ∅, protoStreams := ∅, protoEvents := [], protoEventsOpen := true
    serviceSender := [], serviceReceiver := .empty, answers := ⟨[], [], [], true, true⟩
    tasks := ∅, toService := [], opening := [], discarded := [], registered := true
    sending := [], ended := false }

end Session
end Tentacle
end CkbP2P

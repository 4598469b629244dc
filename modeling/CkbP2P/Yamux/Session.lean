import Mathlib.Data.List.AList
import CkbP2P.Yamux.Slot

/-!
# The session

One end of a connection: it multiplexes the frames of all its streams onto one
transport, and distributes the frames that arrive.

A frame on its way out goes through the event channel, `writePendingFrames` and
the transport (`outgoing`); a frame on its way in through the transport
(`incoming`), `readPendingFrames` and the channel of its stream.  The answers of
the transport to polls, the clock and the keep-alive timer come from outside, so
every schedule of `Pending` answers is covered.  Failures of the transport itself
other than its end are not modelled.

The handles a session has created are kept in `handles`, also after the owner has
dropped them; `streams` maps the id of a registered stream to the index of its
handle.
-/

namespace CkbP2P
namespace Yamux

open Lib

/-- The configuration a session accepts: `Session::new` asserts the bound. -/
structure Config where
  acceptBacklog : ℕ
  enableKeepalive : Bool
  maxStreamCount : ℕ
  maxStreamWindowSize : UInt32
  window_ge : initialStreamWindow ≤ maxStreamWindowSize

/-- `Config::default`. -/
def Config.default : Config :=
  { acceptBacklog := 256, enableKeepalive := true, maxStreamCount := 65535,
    maxStreamWindowSize := initialStreamWindow, window_ge := UInt32.le_refl _ }

/-- Client or server. -/
inductive SessionType where
  | client
  | server
  deriving DecidableEq, Repr

/-- What a `Control` asks of the session. -/
inductive Command where
  | openStream
  | shutdown
  deriving DecidableEq, Repr

/-- How the transport answers when the session wants to put a frame into it. -/
inductive SinkAnswer where
  /-- `poll_ready` is ready. -/
  | ready
  /-- `poll_ready` is pending, and the flush that follows succeeds. -/
  | flushed
  /-- Both are pending. -/
  | pending
  deriving DecidableEq, Repr

/-- How the transport answers when the session wants to read. -/
inductive ReadAnswer where
  | pending
  /-- The next frame, if one has arrived. -/
  | ready
  | eof
  deriving DecidableEq, Repr

/-- The errors `poll_next` returns. -/
inductive SessionError where
  | timedOut
  | decode (e : DecodeError)
  deriving DecidableEq, Repr

/-- `TIMEOUT`, in milliseconds. -/
def pingTimeout : ℕ := 30000

/-- The session. -/
structure Session where
  /-- The transport has ended. -/
  eof : Bool
  remoteGoAway : Bool
  localGoAway : Bool
  nextStreamId : StreamId
  ty : SessionType
  config : Config
  /-- Pings in flight, with the time they were sent. -/
  pings : List (UInt32 × ℕ)
  pingId : UInt32
  /-- The registered streams: id and index of the handle. -/
  streams : AList fun _ : StreamId => ℕ
  /-- Accepted streams whose handle has not been handed out. -/
  pendingStreams : List ℕ
  writePendingFrames : List Frame
  readPendingFrames : List Frame
  eventReceiver : List StreamEvent
  controlReceiver : List Command
  /-- There is a keep-alive (or go-away) timer. -/
  keepalive : Bool
  /-- The transport's coming answers to writes. -/
  sink : List SinkAnswer
  /-- Frames put into the transport and not yet carried over. -/
  outgoing : List Frame
  /-- Frames carried over and not yet read. -/
  incoming : List Frame
  /-- All handles created so far. -/
  handles : List Slot

namespace Session

/-- `Session::new`. -/
def new (config : Config) (ty : SessionType) : Session :=
  { eof := false, remoteGoAway := false, localGoAway := false
    nextStreamId := match ty with
      | .client => 1
      | .server => 2
    ty, config, pings := [], pingId := 0, streams := ∅, pendingStreams := []
    writePendingFrames := [], readPendingFrames := [], eventReceiver := [], controlReceiver := []
    keepalive := config.enableKeepalive, sink := [], outgoing := [], incoming := [], handles := [] }

/-- `is_dead`. -/
def isDead (s : Session) : Bool := s.remoteGoAway && s.localGoAway || s.eof

/-! ### Writing -/

/-- The loop of `send_all`, over the answers of the transport.  A dead session loses
the frame it has just taken from the queue. -/
def sendAllLoop : List SinkAnswer → Session → Session
  | answers, s =>
    match s.writePendingFrames with
    | [] => { s with sink := answers }
    | frame :: rest =>
      if s.isDead then { s with writePendingFrames := rest, sink := answers }
      else
        match answers with
        | [] => { s with sink := [] }
        | .pending :: answers => { s with sink := answers }
        | .flushed :: answers => sendAllLoop answers s
        | .ready :: answers =>
          sendAllLoop answers
            { s with writePendingFrames := rest, outgoing := s.outgoing ++ [frame] }

theorem sendAllLoop_of_nil {s : Session} (hw : s.writePendingFrames = [])
    (answers : List SinkAnswer) : sendAllLoop answers s = { s with sink := answers } := by
  unfold sendAllLoop
  rw [hw]

theorem sendAllLoop_of_dead {s : Session} {frame : Frame} {rest : List Frame}
    (hw : s.writePendingFrames = frame :: rest) (hd : s.isDead = true)
    (answers : List SinkAnswer) :
    sendAllLoop answers s = { s with writePendingFrames := rest, sink := answers } := by
  unfold sendAllLoop
  rw [hw]
  exact if_pos hd

/-- The rounds of the loop of a session that is not dead. -/
theorem sendAllLoop_of_alive {s : Session} {frame : Frame} {rest : List Frame}
    (hw : s.writePendingFrames = frame :: rest) (hd : s.isDead = false) :
    ∀ answers, sendAllLoop answers s = match answers with
      | [] => { s with sink := [] }
      | .pending :: answers => { s with sink := answers }
      | .flushed :: answers => sendAllLoop answers s
      | .ready :: answers =>
        sendAllLoop answers
          { s with writePendingFrames := rest, outgoing := s.outgoing ++ [frame] } := by
  intro answers
  have hd' : ¬ s.isDead = true := by simp [hd]
  rcases answers with _ | ⟨a, answers⟩
  · rw [sendAllLoop, hw]
    exact if_neg hd'
  · cases a <;>
    · rw [sendAllLoop, hw]
      exact if_neg hd'

/-- `send_all`: pass on what the transport takes. -/
def sendAll (s : Session) : Session := sendAllLoop s.sink s

/-- `send_frame`. -/
def sendFrame (s : Session) (frame : Frame) : Session :=
  { s with writePendingFrames := s.writePendingFrames ++ [frame] }.sendAll

/-- `send_ping`: an answer to a ping, or a new one. -/
def sendPing (s : Session) : Option UInt32 → Session × UInt32
  | some pingId => (s.sendFrame (.newPing (.ofFlag .ack) pingId), pingId)
  | none =>
    let s := { s with pingId := s.pingId + 1 }
    (s.sendFrame (.newPing (.ofFlag .syn) s.pingId), s.pingId)

/-- `send_go_away_with_code`: the queue is cleared first. -/
def sendGoAwayWithCode (s : Session) (code : GoAwayCode) : Session :=
  { { s with writePendingFrames := [] }.sendFrame (.newGoAway code) with
    localGoAway := true, keepalive := true }

/-- `send_go_away`. -/
def sendGoAway (s : Session) : Session := s.sendGoAwayWithCode .normal

/-- `shutdown`. -/
def shutdown (s : Session) : Session :=
  if s.isDead then s else { s with writePendingFrames := [] }.sendGoAway

/-- `keep_alive` at time `now`. -/
def keepAlive (s : Session) (now : ℕ) : Session × Except SessionError Unit :=
  if s.pings.any fun p => decide (pingTimeout < now - p.2) then (s, .error .timedOut)
  else
    let (s, pingId) := s.sendPing none
    ({ s with pings := (pingId, now) :: s.pings.filter (·.1 ≠ pingId) }, .ok ())

/-! ### Streams -/

/-- The end of `create_stream`: register the id and create the handle. -/
def insertStream (s : Session) (id : StreamId) (state : StreamState) :
    Session × Except Error ℕ :=
  if id ∈ s.streams then (s, .error .duplicateStream)
  else
    let (slot, events) := Slot.create id state s.config.maxStreamWindowSize
    ({ s with
        streams := s.streams.insert id s.handles.length
        handles := s.handles ++ [slot]
        eventReceiver := s.eventReceiver ++ events }, .ok s.handles.length)

/-- `create_stream`: for a SYN of the peer, or with the next id of our own. -/
def createStream (s : Session) : Option StreamId → Session × Except Error ℕ
  | some id => s.insertStream id .synReceived
  | none =>
    if s.nextStreamId.toNat + 2 < 2 ^ 32 then
      { s with nextStreamId := s.nextStreamId + 2 }.insertStream s.nextStreamId .init
    else (s, .error .streamsExhausted)

/-- `open_stream`. -/
def openStream (s : Session) : Session × Except Error ℕ :=
  if s.isDead then (s, .error .sessionShutdown)
  else if s.remoteGoAway then (s, .error .remoteGoAway)
  else s.createStream none

/-- `streams.remove`, which drops the sender of the stream's channel. -/
def removeStream (s : Session) (id : StreamId) : Session :=
  { s with
    streams := s.streams.erase id
    handles := match s.streams.lookup id with
      | none => s.handles
      | some i => s.handles.modify i Slot.closeSender }

/-! ### Reading -/

/-- The part of the loop of `distribute_to_substream` that looks at SYN; `false` when
the loop returns there, which drops the frames not yet looked at. -/
def acceptSyn (s : Session) (frame : Frame) : Session × Bool :=
  if frame.flags.contains .syn then
    if s.localGoAway then
      (s.sendFrame (.newWindowUpdate (.ofFlag .rst) frame.streamId 0), false)
    else if s.streams.keys.length < s.config.maxStreamCount ∧
        s.pendingStreams.length < s.config.acceptBacklog then
      match s.createStream (some frame.streamId) with
      | (s, .error _) => (s.sendGoAwayWithCode .protocolError, false)
      | (s, .ok i) => ({ s with pendingStreams := s.pendingStreams ++ [i] }, true)
    else
      ({ s with writePendingFrames := s.writePendingFrames ++
          [.newWindowUpdate ((Flags.ofFlag .ack).add .rst) frame.streamId 0] }, true)
  else (s, true)

/-- The frame stays for the next round. -/
def requeue (s : Session) (frame : Frame) : Session :=
  { s with readPendingFrames := s.readPendingFrames ++ [frame] }

/-- The part of the loop that hands the frame to its stream; `true` when the stream's
channel is full and the frame is put back.  A registered stream always has a handle,
possibly a dropped one. -/
def passOn (s : Session) (frame : Frame) : Session × Bool :=
  match s.streams.lookup frame.streamId with
  | none => (s, false)
  | some i =>
    match s.handles[i]? with
    | none => (s.removeStream frame.streamId, false)
    | some slot =>
      match slot.handle.frameReceiver.pollReady with
      | .ready (.ok ()) =>
        match slot.handle.frameReceiver.trySend frame with
        | .ok _ => ({ s with handles := s.handles.modify i fun slot => slot.push frame }, false)
        | .error .full => (s.requeue frame, true)
        | .error .disconnected => (s.removeStream frame.streamId, false)
      | .pending => (s.requeue frame, true)
      | .ready (.error _) => (s.removeStream frame.streamId, false)

/-- The loop of `distribute_to_substream` over the frames taken from the queue. -/
def distributeLoop : List Frame → List StreamId → Session → Session
  | [], _, s => s
  | frame :: buf, blockSubstream, s =>
    if frame.streamId ∈ blockSubstream then
      distributeLoop buf blockSubstream (s.requeue frame)
    else
      match s.acceptSyn frame with
      | (s, false) => s
      | (s, true) =>
        match s.passOn frame with
        | (s, true) => distributeLoop buf (frame.streamId :: blockSubstream) s
        | (s, false) => distributeLoop buf blockSubstream s

/-- `distribute_to_substream`. -/
def distributeToSubstream (s : Session) : Session :=
  distributeLoop s.readPendingFrames [] { s with readPendingFrames := [] }

/-- `flush`. -/
def flush (s : Session) : Session :=
  if s.readPendingFrames.isEmpty && s.writePendingFrames.isEmpty then s
  else s.sendAll.distributeToSubstream

/-- `handle_stream_message`. -/
def handleStreamMessage (s : Session) (frame : Frame) : Session :=
  (s.requeue frame).distributeToSubstream

/-- `handle_ping`. -/
def handlePing (s : Session) (frame : Frame) : Session :=
  if frame.flags.contains .syn then (s.sendPing (some frame.length)).1
  else if frame.flags.contains .ack then
    { s with pings := (s.pings.filter (·.1 ≠ frame.length)).filter (frame.length ≤ ·.1) }
  else s

/-- `handle_go_away`: all codes are treated alike. -/
def handleGoAway (s : Session) (frame : Frame) : Session :=
  let close (s : Session) :=
    let s := { s with remoteGoAway := true, writePendingFrames := [] }
    if s.localGoAway then s else s.sendGoAway
  match GoAwayCode.ofU32 frame.length with
  | .normal => close s
  | .protocolError => close s
  | .internalError => close s

/-- `handle_frame`. -/
def handleFrame (s : Session) (frame : Frame) : Session :=
  match frame.ty with
  | .data | .windowUpdate => s.handleStreamMessage frame
  | .ping => s.handlePing frame
  | .goAway => s.handleGoAway frame

/-- `recv_frames`: the next frame comes out of the codec as the peer's codec has
written it. -/
def recvFrames (s : Session) : ReadAnswer → Session × Poll (Option (Except SessionError Unit))
  | .pending => (s, .pending)
  | .eof => ({ s with eof := true }, .ready none)
  | .ready =>
    match s.incoming with
    | [] => (s, .pending)
    | frame :: rest =>
      let codec := FrameCodec.withMaxFrameSize s.config.maxStreamWindowSize
      let s := { s with incoming := rest }
      match codec.decode (FrameCodec.encode frame) with
      | (_, _, .ok (some frame)) => (s.handleFrame frame, .ready (some (.ok ())))
      | (_, _, .ok none) => (s, .pending)
      | (_, _, .error e) => (s, .ready (some (.error (.decode e))))

/-! ### Events and commands -/

/-- `handle_event`. -/
def handleEvent (s : Session) : StreamEvent → Session
  | .frame frame => s.sendFrame frame
  | .closed id => s.removeStream id
  | .goAway => s.sendGoAwayWithCode .protocolError

/-- `recv_events`; `false` when there is none. -/
def recvEvents (s : Session) : Session × Bool :=
  match s.eventReceiver with
  | [] => (s, false)
  | event :: rest => ({ s with eventReceiver := rest }.handleEvent event, true)

/-- `control_poll`; `false` when there is no command. -/
def controlPoll (s : Session) : Session × Bool :=
  match s.controlReceiver with
  | [] => (s, false)
  | .openStream :: rest => ({ s with controlReceiver := rest }.openStream.1, true)
  | .shutdown :: rest => ({ s with controlReceiver := rest }.shutdown, true)

/-! ### The poll function -/

/-- The loop of `poll_next`, of at most `n` rounds.  The answers to reads are taken
from `reads`, one for each round. -/
def pollLoop : ℕ → List ReadAnswer → Session →
    Session × Poll (Option (Except SessionError ℕ))
  | 0, _, s => (s, .pending)
  | n + 1, reads, s =>
    if s.isDead then (s, .ready none)
    else
      let s := s.flush
      match s.pendingStreams with
      | i :: rest => ({ s with pendingStreams := rest }, .ready (some (.ok i)))
      | [] =>
        let (s, command) := s.controlPoll
        match s.recvFrames (reads.headD .pending) with
        | (s, .ready (some (.error e))) => (s, .ready (some (.error e)))
        | (s, read) =>
          let (s, event) := s.recvEvents
          if command = false ∧ read = .pending ∧ event = false then (s, .pending)
          else pollLoop n reads.tail s

/-- The keep-alive timer has fired: a ping, or the end of the wait for the peer's
go-away. -/
def onTick (s : Session) (now : ℕ) : Session × Except SessionError Unit :=
  if s.localGoAway then ({ s with remoteGoAway := true }, .ok ()) else s.keepAlive now

/-- `poll_next`.  `tick` says whether the timer has fired. -/
def pollNext (s : Session) (now : ℕ) (tick : Bool) (reads : List ReadAnswer) :
    Session × Poll (Option (Except SessionError ℕ)) :=
  if s.isDead then (s, .ready none)
  else
    match if s.keepalive && tick then s.onTick now else (s, .ok ()) with
    | (s, .error e) => (s, .ready (some (.error e)))
    | (s, .ok ()) => pollLoop 16 reads s

/-! ### Runs of one end -/

/-- What can happen at one end of a connection. -/
inductive SessionAct where
  /-- The session is polled; the transport answers writes by `sink` and reads by
  `reads`. -/
  | poll (now : ℕ) (tick : Bool) (sink : List SinkAnswer) (reads : List ReadAnswer)
  /-- `open_stream` is called. -/
  | openStream
  /-- `shutdown` is called. -/
  | shutdown (sink : List SinkAnswer)
  /-- `send_go_away` is called. -/
  | sendGoAway (sink : List SinkAnswer)
  /-- A `Control` sends a command. -/
  | control (c : Command)
  /-- The owner of the `i`-th handle calls it. -/
  | handle (i : ℕ) (op : HandleOp)
  deriving Repr

/-- A call on the `i`-th handle, if it exists and has been handed out. -/
def applyHandle (s : Session) (i : ℕ) (op : HandleOp) : Session :=
  if i ∈ s.pendingStreams then s
  else
    match s.handles[i]? with
    | none => s
    | some slot =>
      { s with
        handles := s.handles.set i (slot.apply op).1
        eventReceiver := s.eventReceiver ++ (slot.apply op).2 }

/-- One step of one end. -/
def step (s : Session) : SessionAct → Session
  | .poll now tick sink reads => ({ s with sink }.pollNext now tick reads).1
  | .openStream => s.openStream.1
  | .shutdown sink => { s with sink }.shutdown
  | .sendGoAway sink => { s with sink }.sendGoAway
  | .control c => { s with controlReceiver := s.controlReceiver ++ [c] }
  | .handle i op => s.applyHandle i op

end Session

end Yamux
end CkbP2P

import CkbP2P.Lib.Channel
import CkbP2P.Yamux.Frame

/-!
# The stream handle

One end of a yamux stream: its state, the two windows, the bytes of the last data
frame that have not been read, and the channel its session puts frames into.

A handle talks back to its session over an unbounded channel that all handles of
the session share; `outbox` holds the events one call has put there, and the
session's receiver takes them over after the call.  Wakers carry no data and are
left out.
-/

namespace CkbP2P
namespace Yamux

open Lib

/-- The errors of the crate that a stream or a session produces. -/
inductive Error where
  | invalidMsgType
  | sessionShutdown
  | streamsExhausted
  | duplicateStream
  | recvWindowExceeded
  | unexpectedFlag
  | remoteGoAway
  | subStreamRemoteClosing
  | wouldBlock
  deriving DecidableEq, Repr

/-- The `io::ErrorKind`s a stream reports to its owner. -/
inductive ErrorKind where
  | invalidData
  | connectionReset
  | brokenPipe
  deriving DecidableEq, Repr

/-- The stream state. -/
inductive StreamState where
  /-- Just created. -/
  | init
  /-- We sent a SYN. -/
  | synSent
  /-- We received a SYN. -/
  | synReceived
  | established
  /-- We closed the stream. -/
  | localClosing
  /-- The remote closed the stream. -/
  | remoteClosing
  /-- Both sides closed it. -/
  | closed
  /-- Rejected by the remote. -/
  | reset
  deriving DecidableEq, Repr

/-- What a handle tells its session. -/
inductive StreamEvent where
  | frame (f : Frame)
  | closed (id : StreamId)
  /-- Only used on a protocol error. -/
  | goAway
  deriving DecidableEq, Repr

/-- The substream. -/
structure StreamHandle where
  id : StreamId
  state : StreamState
  maxRecvWindow : UInt32
  recvWindow : UInt32
  sendWindow : UInt32
  readBuf : Bytes
  /-- The session is gone: sending it an event fails. -/
  eventClosed : Bool
  /-- Events sent and not yet taken over by the session. -/
  outbox : List StreamEvent
  /-- The frames the session has put in for this stream. -/
  frameReceiver : Channel Frame
  deriving DecidableEq, Repr

namespace StreamHandle

/-- Create a handle from its session. -/
def new (id : StreamId) (frameReceiver : Channel Frame) (state : StreamState)
    (maxWindowSize : UInt32) : StreamHandle :=
  { id, state, maxRecvWindow := maxWindowSize, recvWindow := initialStreamWindow,
    sendWindow := initialStreamWindow, readBuf := [], eventClosed := false, outbox := [],
    frameReceiver }

/-- `unbound_send_event`. -/
def unboundSendEvent (h : StreamHandle) (event : StreamEvent) :
    StreamHandle × Except Error Unit :=
  if h.eventClosed then (h, .error .sessionShutdown)
  else ({ h with outbox := h.outbox ++ [event] }, .ok ())

/-- `get_flags`: the first frame an end sends carries SYN or ACK. -/
def getFlags (h : StreamHandle) : StreamHandle × Flags :=
  match h.state with
  | .init => ({ h with state := .synSent }, .ofFlag .syn)
  | .synReceived => ({ h with state := .established }, .ofFlag .ack)
  | _ => (h, .empty)

/-- `send_window_update`: open the window up to what the buffer leaves free, unless
the gain is small and there is no flag to carry. -/
def sendWindowUpdate (h : StreamHandle) : StreamHandle × Except Error Unit :=
  let bufLen := UInt32.ofNat h.readBuf.length
  let delta := h.maxRecvWindow - bufLen - h.recvWindow
  let (h, flags) := h.getFlags
  if delta < h.maxRecvWindow / 2 ∧ flags.value = 0 then (h, .ok ())
  else
    { h with recvWindow := h.recvWindow + delta }.unboundSendEvent
      (.frame (.newWindowUpdate flags h.id delta))

/-- `send_data`. -/
def sendData (h : StreamHandle) (data : Bytes) : StreamHandle × Except Error Unit :=
  let (h, flags) := h.getFlags
  h.unboundSendEvent (.frame (.newData flags h.id data))

/-- `send_close`. -/
def sendClose (h : StreamHandle) : StreamHandle × Except Error Unit :=
  let (h, flags) := h.getFlags
  h.unboundSendEvent (.frame (.newWindowUpdate (flags.add .fin) h.id 0))

/-- `close`. -/
def close (h : StreamHandle) : StreamHandle × Except Error Unit :=
  match h.state with
  | .synSent | .synReceived | .established | .init =>
    { h with state := .localClosing }.sendClose
  | .remoteClosing =>
    match { h with state := .closed }.sendClose with
    | (h, .error e) => (h, .error e)
    | (h, .ok ()) => h.unboundSendEvent (.closed h.id)
  | .reset | .closed | .localClosing =>
    { h with state := .closed }.unboundSendEvent (.closed h.id)

/-- `send_go_away`: a failed send is ignored. -/
def sendGoAway (h : StreamHandle) : StreamHandle :=
  ({ h with state := .localClosing }.unboundSendEvent .goAway).1

/-- `process_flags`. -/
def processFlags (h : StreamHandle) (flags : Flags) : StreamHandle × Except Error Unit :=
  let h := if flags.contains .ack ∧ h.state = .synSent then { h with state := .synReceived } else h
  let fin : StreamHandle × Except Error Unit :=
    if flags.contains .fin then
      match h.state with
      | .init | .synSent | .synReceived | .established =>
        ({ h with state := .remoteClosing }, .ok ())
      | .localClosing => ({ h with state := .closed }, .ok ())
      | _ => (h, .error .unexpectedFlag)
    else (h, .ok ())
  match fin with
  | (h, .error e) => (h, .error e)
  | (h, .ok ()) => (if flags.contains .rst then { h with state := .reset } else h, .ok ())

/-- `handle_window_update`: the window grows by a checked addition. -/
def handleWindowUpdate (h : StreamHandle) (frame : Frame) : StreamHandle × Except Error Unit :=
  match h.processFlags frame.flags with
  | (h, .error e) => (h, .error e)
  | (h, .ok ()) =>
    if h.sendWindow.toNat + frame.length.toNat < 2 ^ 32 then
      ({ h with sendWindow := h.sendWindow + frame.length }, .ok ())
    else (h, .error .invalidMsgType)

/-- `handle_data`: the body replaces the buffer. -/
def handleData (h : StreamHandle) (frame : Frame) : StreamHandle × Except Error Unit :=
  match h.processFlags frame.flags with
  | (h, .error e) => (h, .error e)
  | (h, .ok ()) =>
    if h.recvWindow < frame.length then (h, .error .recvWindowExceeded)
    else
      ({ h with
          readBuf := frame.body.getD h.readBuf
          recvWindow := h.recvWindow - frame.length }, .ok ())

/-- `handle_frame`. -/
def handleFrame (h : StreamHandle) (frame : Frame) : StreamHandle × Except Error Unit :=
  match frame.ty with
  | .windowUpdate => h.handleWindowUpdate frame
  | .data => h.handleData frame
  | _ => (h, .error .invalidMsgType)

/-- The checks at the head of the loop of `recv_frames`: the result when the loop
ends there. -/
def recvCheck (h : StreamHandle) : Option (StreamHandle × Except Error Unit) :=
  match h.state with
  | .remoteClosing => some (h, .error .subStreamRemoteClosing)
  | .reset | .closed => some (h, .error .sessionShutdown)
  | _ =>
    if !h.readBuf.isEmpty then some (h, .ok ())
    else if h.frameReceiver.terminated then
      some ({ h with state := .remoteClosing }, .error .sessionShutdown)
    else none

/-- The loop of `recv_frames`, over the frames that wait in the channel. -/
def recvFramesLoop : List Frame → StreamHandle → StreamHandle × Except Error Unit
  | [], h =>
    match h.recvCheck with
    | some r => r
    | none =>
      match h.frameReceiver.pollNext with
      | (ch, .pending) => ({ h with frameReceiver := ch }, .ok ())
      | (ch, .ready _) =>
        ({ h with frameReceiver := ch, state := .remoteClosing }, .error .sessionShutdown)
  | frame :: frames, h =>
    match h.recvCheck with
    | some r => r
    | none =>
      match { h with frameReceiver := h.frameReceiver.pop }.handleFrame frame with
      | (h, .error e) => (h, .error e)
      | (h, .ok ()) => recvFramesLoop frames h

/-- `recv_frames`. -/
def recvFrames (h : StreamHandle) : StreamHandle × Except Error Unit :=
  recvFramesLoop h.frameReceiver.queue h

/-- `check_self_state`: `ok true` only if the end of the stream is reached. -/
def checkSelfState (h : StreamHandle) : Except ErrorKind Bool :=
  if h.readBuf.isEmpty then
    match h.state with
    | .remoteClosing | .closed => .ok true
    | .reset => .error .connectionReset
    | _ => .ok false
  else .ok false

/-- The end of `poll_read`, when `b` has been put into the caller's buffer: announce
the room, unless the peer is gone. -/
def announceRoom (h : StreamHandle) (b : Bytes) : StreamHandle × Poll (Except ErrorKind Bytes) :=
  match h.state with
  | .remoteClosing | .closed | .reset => (h, .ready (.ok b))
  | _ =>
    match h.sendWindowUpdate with
    | (h, .error _) => (h, .ready (.error .brokenPipe))
    | (h, .ok ()) => (h, .ready (.ok b))

/-- The part of `poll_read` after the frames have been received: hand out what is
buffered. -/
def readBuffered (h : StreamHandle) (remaining : ℕ) :
    StreamHandle × Poll (Except ErrorKind Bytes) :=
  let n := min remaining h.readBuf.length
  if n = 0 then (h, .pending)
  else { h with readBuf := h.readBuf.drop n }.announceRoom (h.readBuf.take n)

/-- `poll_read` into a buffer with `remaining` free bytes.  An empty answer is the
end of the stream. -/
def pollRead (h : StreamHandle) (remaining : ℕ) :
    StreamHandle × Poll (Except ErrorKind Bytes) :=
  match h.checkSelfState with
  | .error e => (h, .ready (.error e))
  | .ok true => (h, .ready (.ok []))
  | .ok false =>
    match h.recvFrames with
    | (h, .error .unexpectedFlag) | (h, .error .recvWindowExceeded)
    | (h, .error .invalidMsgType) => (h.sendGoAway, .ready (.error .invalidData))
    | (h, _) =>
      match h.checkSelfState with
      | .error e => (h, .ready (.error e))
      | .ok true => (h, .ready (.ok []))
      | .ok false => h.readBuffered remaining

/-- `poll_write`: as much of `buf` as the window takes. -/
def pollWrite (h : StreamHandle) (buf : Bytes) : StreamHandle × Poll (Except ErrorKind ℕ) :=
  match h.state with
  | .reset | .localClosing | .closed => (h, .ready (.error .brokenPipe))
  | _ =>
    if h.sendWindow = 0 then (h, .pending)
    else
      let n := min h.sendWindow.toNat buf.length
      match h.sendData (buf.take n) with
      | (h, .ok ()) => ({ h with sendWindow := h.sendWindow - UInt32.ofNat n }, .ready (.ok n))
      | (h, .error .wouldBlock) => (h, .pending)
      | (h, .error _) => (h, .ready (.error .brokenPipe))

/-- `poll_shutdown`. -/
def pollShutdown (h : StreamHandle) : StreamHandle × Poll (Except ErrorKind Unit) :=
  match h.close with
  | (h, .error _) => (h, .ready (.error .brokenPipe))
  | (h, .ok ()) => (h, .ready (.ok ()))

/-- The reset a dropped stream sends; a failed send is ignored. -/
def sendReset (h : StreamHandle) : StreamHandle :=
  let (h, flags) := h.getFlags
  (h.unboundSendEvent (.frame (.newWindowUpdate (flags.add .rst) h.id 0))).1

/-- The body of `Drop::drop`: tell the peer, unless it knows, and the session. -/
def announceDrop (h : StreamHandle) : StreamHandle :=
  if h.eventClosed ∨ h.state = .closed then h
  else
    let h :=
      match h.state with
      -- a FIN has been sent, or the peer has reset the stream
      | .localClosing | .reset => h
      | _ => h.sendReset
    (h.unboundSendEvent (.closed h.id)).1

/-- Dropping the handle, which leaves its channel without a receiver. -/
def dropHandle (h : StreamHandle) : StreamHandle :=
  { h.announceDrop with frameReceiver := h.announceDrop.frameReceiver.dropReceiver }

end StreamHandle

end Yamux
end CkbP2P

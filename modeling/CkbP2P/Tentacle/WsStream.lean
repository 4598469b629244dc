import CkbP2P.Secio.SecureRead
import CkbP2P.Tentacle.Types

/-!
# Streams over websockets

A binary message is a piece of the stream; other messages carry nothing, and a ping is answered
when the sink takes the answer.  What does not fit the reader's buffer is kept for the following
reads, as for an encrypted stream.  A message without data is passed over: the call waits.

The socket is a queue of messages and of errors; the answers of its sink are parameters of the
calls.
-/

namespace CkbP2P
namespace Tentacle

open Lib

/-- `tungstenite::Message`. -/
inductive Message where
  | text (data : Bytes)
  | binary (data : Bytes)
  | ping (data : Bytes)
  | pong (data : Bytes)
  | close
  deriving DecidableEq, Repr

/-- The answers of a sink to one attempt to send. -/
structure Sink where
  /-- `poll_ready`, where `false` is an error. -/
  ready : Poll Bool
  startSend : Bool
  flush : Bool

structure WsStream where
  /-- Messages and errors the socket has ready. -/
  incoming : List (Except Unit Message)
  /-- No more messages will come. -/
  ended : Bool
  /-- Messages put into the socket. -/
  sent : List Message
  recvBuf : Bytes
  pendingPing : Option Bytes
  alreadySendClose : Bool

namespace WsStream

/-- `io::ErrorKind::BrokenPipe`. -/
def brokenPipe : IoError := ⟨.brokenPipe⟩

def new : WsStream :=
  { incoming := [], ended := false, sent := [], recvBuf := [], pendingPing := none
    alreadySendClose := false }

/-- `poll_ready`, `start_send` and `poll_flush` of the sink. -/
def send (s : WsStream) (sink : Sink) (message : Message) :
    WsStream × Poll (Except IoError Unit) :=
  match sink.ready with
  | .pending => (s, .pending)
  | .ready false => (s, .ready (.error brokenPipe))
  | .ready true =>
    if !sink.startSend then (s, .ready (.error brokenPipe))
    else
      let s := { s with sent := s.sent ++ [message] }
      if sink.flush then (s, .ready (.ok ())) else (s, .ready (.error brokenPipe))

/-- `respond_ping`. -/
def respondPing (s : WsStream) (sink : Sink) : WsStream × Except IoError Unit :=
  if s.alreadySendClose then (s, .ok ())
  else
    match s.pendingPing with
    | none => (s, .ok ())
    | some data =>
      match { s with pendingPing := none }.send sink (.pong data) with
      | (s, .ready r) => (s, r)
      | (s, .pending) => ({ s with pendingPing := some data }, .ok ())

/-- `drain` into a buffer with `remaining` free bytes. -/
def drain (s : WsStream) (remaining : ℕ) : WsStream × Bytes :=
  if s.recvBuf.isEmpty then (s, [])
  else
    let n := min remaining s.recvBuf.length
    ({ s with recvBuf := s.recvBuf.drop n }, s.recvBuf.take n)

/-- The data of a message. -/
def dataOf (s : WsStream) (sink : Sink) : Message → WsStream × Except IoError Bytes
  | .binary data => (s, .ok data)
  | .close => (s, .error brokenPipe)
  | .ping data =>
    match { s with pendingPing := some data }.respondPing sink with
    | (s, .error e) => (s, .error e)
    | (s, .ok ()) => (s, .ok [])
  | .pong _ => (s, .ok [])
  | .text _ => (s, .ok [])

/-- The end of `poll_read`, when there are data. -/
def fill (s : WsStream) (data : Bytes) (remaining : ℕ) :
    WsStream × Poll (Except IoError Bytes) :=
  if data.isEmpty then (s, .pending)
  else if data.length ≤ remaining then (s, .ready (.ok data))
  else
    -- what is left in the old buffer, if anything, is gone
    let (s, out) := { s with recvBuf := data }.drain remaining
    (s, .ready (.ok out))

/-- `poll_read` into a buffer with `remaining` free bytes.  A ping may be answered before the
messages are looked at, with the answers `first`, and after one was read, with the answers
`second`. -/
def pollRead (s : WsStream) (first second : Sink) (remaining : ℕ) :
    WsStream × Poll (Except IoError Bytes) :=
  match s.respondPing first with
  | (s, .error e) => (s, .ready (.error e))
  | (s, .ok ()) =>
    let (s, copied) := s.drain remaining
    if copied ≠ [] then (s, .ready (.ok copied))
    else
      match s.incoming with
      | [] => (s, if s.ended then .ready (.error brokenPipe) else .pending)
      | .error () :: rest => ({ s with incoming := rest }, .ready (.error brokenPipe))
      | .ok message :: rest =>
        match { s with incoming := rest }.dataOf second message with
        | (s, .error e) => (s, .ready (.error e))
        | (s, .ok data) => s.fill data remaining

/-- `poll_write`. -/
def pollWrite (s : WsStream) (first second : Sink) (buf : Bytes) :
    WsStream × Poll (Except IoError ℕ) :=
  if s.alreadySendClose then (s, .ready (.error brokenPipe))
  else
    match s.respondPing first with
    | (s, .error e) => (s, .ready (.error e))
    | (s, .ok ()) =>
      match s.send second (.binary buf) with
      | (s, .ready (.ok ())) => (s, .ready (.ok buf.length))
      | (s, .ready (.error e)) => (s, .ready (.error e))
      | (s, .pending) => (s, .pending)

/-- `poll_shutdown`, where `closed` is the answer of `poll_close`. -/
def pollShutdown (s : WsStream) (sink : Sink) (closed : Poll Bool) :
    WsStream × Poll (Except IoError Unit) :=
  let answer : Poll (Except IoError Unit) :=
    match closed with
    | .ready true => .ready (.ok ())
    | .ready false => .ready (.error brokenPipe)
    | .pending => .pending
  if s.alreadySendClose then (s, answer)
  else
    match s.send sink .close with
    | (s, .ready (.ok ())) => ({ s with alreadySendClose := true }, answer)
    | (s, r) => (s, r)

/-! ### One call -/

/-- The data of the next message, if it is a binary one. -/
def payload (s : WsStream) : Option Bytes :=
  match s.incoming with
  | .ok (.binary data) :: _ => some data
  | _ => none

/-- One call of `poll_read`: the room, and the answers of the sink. -/
structure ReadCall where
  remaining : ℕ
  first : Sink
  second : Sink

def call (s : WsStream) (k : ReadCall) : WsStream × Poll (Except IoError Bytes) :=
  s.pollRead k.first k.second k.remaining

/-- A pong is owed, and the sink fails on it. -/
def pongFails (s : WsStream) (sink : Sink) : Bool :=
  !s.alreadySendClose && s.pendingPing.isSome &&
    match sink.ready with
    | .pending => false
    | .ready ready => !(ready && sink.startSend && sink.flush)

/-- The data that a call takes from the socket: the next ones, when no pong fails and none of the
bytes that are kept can be handed out. -/
def taken (s : WsStream) (k : ReadCall) : Bytes :=
  if s.pongFails k.first = false ∧ s.recvBuf.take k.remaining = [] then s.payload.getD [] else []

/-- **What a call of `poll_read` does.** -/
inductive Outcome (s : WsStream) (remaining : ℕ) (pongFails : Bool) :
    WsStream × Poll (Except IoError Bytes) → Prop
  | drained {s' : WsStream} (h : s.recvBuf.take remaining ≠ [])
    (hbuf : s'.recvBuf = s.recvBuf.drop remaining) :
    Outcome s remaining pongFails (s', .ready (.ok (s.recvBuf.take remaining)))
  /-- No data are taken, and the call waits or fails. -/
  | idle {s' : WsStream} {r : Poll (Except IoError Bytes)}
    (hnone : pongFails = false → s.payload.getD [] = []) (hbuf : s'.recvBuf = s.recvBuf)
    (hr : r = .pending ∨ ∃ e, r = .ready (.error e)) : Outcome s remaining pongFails (s', r)
  | whole {s' : WsStream} {data : Bytes} (hpong : pongFails = false)
    (h : s.recvBuf.take remaining = []) (hsome : s.payload = some data) (hne : data ≠ [])
    (hbuf : s'.recvBuf = s.recvBuf) (hfits : data.length ≤ remaining) :
    Outcome s remaining pongFails (s', .ready (.ok data))
  | part {s' : WsStream} {data : Bytes} (hpong : pongFails = false)
    (h : s.recvBuf.take remaining = []) (hsome : s.payload = some data)
    (hbuf : s'.recvBuf = data.drop remaining) (hlong : remaining < data.length) :
    Outcome s remaining pongFails (s', .ready (.ok (data.take remaining)))

/-- The two streams differ in what was sent and in the ping to be answered. -/
def SameInput (s s' : WsStream) : Prop :=
  s'.incoming = s.incoming ∧ s'.recvBuf = s.recvBuf

variable {s : WsStream}

theorem sameInput_send (s : WsStream) (sink : Sink) (message : Message) :
    s.SameInput (s.send sink message).1 := by
  unfold send
  split
  · exact ⟨rfl, rfl⟩
  · exact ⟨rfl, rfl⟩
  · split
    · exact ⟨rfl, rfl⟩
    · dsimp only
      split <;> exact ⟨rfl, rfl⟩

theorem sameInput_respondPing (s : WsStream) (sink : Sink) :
    s.SameInput (s.respondPing sink).1 := by
  unfold respondPing
  split
  · exact ⟨rfl, rfl⟩
  · split
    case _ => exact ⟨rfl, rfl⟩
    case _ data _ =>
      have hsend := sameInput_send { s with pendingPing := none } sink (.pong data)
      rcases hcase : send { s with pendingPing := none } sink (.pong data) with ⟨s', r | _⟩
      all_goals
        rw [hcase] at hsend
        exact hsend

theorem sameInput_dataOf (s : WsStream) (sink : Sink) (message : Message) :
    s.SameInput (s.dataOf sink message).1 := by
  cases message with
  | ping data =>
    have hping := sameInput_respondPing { s with pendingPing := some data } sink
    simp only [dataOf]
    rcases hcase : respondPing { s with pendingPing := some data } sink with ⟨s', e | _⟩
    all_goals
      rw [hcase] at hping
      exact hping
  | text data => exact ⟨rfl, rfl⟩
  | binary data => exact ⟨rfl, rfl⟩
  | pong data => exact ⟨rfl, rfl⟩
  | close => exact ⟨rfl, rfl⟩

/-- Only a binary message has data. -/
theorem dataOf_ok {sink : Sink} {message : Message} {rest : List (Except Unit Message)}
    {t t' : WsStream} {data : Bytes} (hin : s.incoming = .ok message :: rest)
    (h : t.dataOf sink message = (t', .ok data)) : s.payload.getD [] = data := by
  unfold payload
  rw [hin]
  cases message with
  | binary d =>
    cases h
    rfl
  | close => cases h
  | ping d =>
    simp only [dataOf] at h
    split at h
    · cases h
    · cases h
      rfl
  | pong d =>
    cases h
    rfl
  | text d =>
    cases h
    rfl

theorem drain_eq (s : WsStream) (remaining : ℕ) : s.drain remaining
    = ({ s with recvBuf := s.recvBuf.drop remaining }, s.recvBuf.take remaining) := by
  unfold drain
  split
  case isTrue hempty =>
    have hnil : s.recvBuf = [] := List.isEmpty_iff.mp hempty
    rw [hnil, List.take_nil, List.drop_nil, ← hnil]
  case isFalse =>
    dsimp only
    rw [← List.take_eq_take_min, ← List.drop_eq_drop_min]

/-- The data of a message are handed out or kept. -/
theorem outcome_fill {remaining : ℕ} {t : WsStream} {data : Bytes}
    (h : s.recvBuf.take remaining = []) (hbuf : t.recvBuf = s.recvBuf)
    (hdata : s.payload.getD [] = data) : Outcome s remaining false (t.fill data remaining) := by
  unfold fill
  split
  case isTrue hempty =>
    rw [List.isEmpty_iff.mp hempty] at hdata
    exact .idle (fun _ => hdata) hbuf (.inl rfl)
  case isFalse hempty =>
    have hne : data ≠ [] := fun hnil => hempty (List.isEmpty_iff.mpr hnil)
    have hsome : s.payload = some data := by
      cases hpayload : s.payload with
      | none =>
        rw [hpayload] at hdata
        exact absurd hdata.symm hne
      | some d =>
        rw [hpayload] at hdata
        exact congrArg some hdata
    split
    case isTrue hfits => exact .whole rfl h hsome hne hbuf hfits
    case isFalse hlong =>
      rw [drain_eq]
      exact .part rfl h hsome rfl (Nat.lt_of_not_le hlong)

/-- A message that ends the call has no data, and one that does not is handed out or kept. -/
theorem outcome_dataOf {remaining : ℕ} {sink : Sink} {t : WsStream} {message : Message}
    {rest : List (Except Unit Message)} (h : s.recvBuf.take remaining = [])
    (hcase : s.incoming = .ok message :: rest) (hbuf : t.recvBuf = s.recvBuf) :
    Outcome s remaining false (match t.dataOf sink message with
      | (u, .error e) => (u, .ready (.error e))
      | (u, .ok data) => u.fill data remaining) := by
  obtain ⟨-, hrecvBuf⟩ := t.sameInput_dataOf sink message
  rcases hdata : t.dataOf sink message with ⟨u, e | data⟩
  · rw [hdata] at hrecvBuf
    have hnone : s.payload.getD [] = [] := by
      unfold payload
      rw [hcase]
      cases message with
      | binary d => cases hdata
      | _ => rfl
    exact .idle (fun _ => hnone) (hrecvBuf.trans hbuf) (.inr ⟨e, rfl⟩)
  · rw [hdata] at hrecvBuf
    exact outcome_fill h (hrecvBuf.trans hbuf) (dataOf_ok hcase hdata)

/-- The answer to a ping fails exactly when a pong is owed and the sink fails on it. -/
theorem isOk_respondPing (s : WsStream) (sink : Sink) :
    (s.respondPing sink).2.isOk = !s.pongFails sink := by
  unfold respondPing pongFails send
  rcases hclose : s.alreadySendClose with _ | _
  · rcases hping : s.pendingPing with _ | data
    · rfl
    · rcases hready : sink.ready with (_ | _) | _
      · rfl
      · cases hstart : sink.startSend <;> cases hflush : sink.flush <;> rfl
      · rfl
  · rfl

theorem outcome_pollRead (s : WsStream) (first second : Sink) (remaining : ℕ) :
    Outcome s remaining (s.pongFails first) (s.pollRead first second remaining) := by
  have hping := s.sameInput_respondPing first
  have hfails := s.isOk_respondPing first
  unfold pollRead
  generalize s.respondPing first = answer at hping hfails ⊢
  generalize s.pongFails first = fails at hfails ⊢
  rcases answer with ⟨t, e | _⟩
  · refine .idle (fun hpong => ?_) hping.2 (.inr ⟨e, rfl⟩)
    rw [hpong] at hfails
    cases hfails
  · obtain ⟨hin, hbuf⟩ := hping
    obtain rfl : fails = false := Bool.not_inj hfails.symm
    dsimp only at hin hbuf ⊢
    rw [drain_eq, hbuf]
    dsimp only
    by_cases hcopied : s.recvBuf.take remaining = []
    case neg =>
      rw [if_pos hcopied]
      exact .drained hcopied rfl
    case pos =>
      rw [if_neg (not_not.mpr hcopied)]
      have hkept : s.recvBuf.drop remaining = s.recvBuf := by
        have happend := List.take_append_drop remaining s.recvBuf
        rwa [hcopied, List.nil_append] at happend
      rw [hkept, hin]
      rcases hcase : s.incoming with _ | ⟨item, rest⟩
      · have hnone : s.payload.getD [] = [] := by
          unfold payload
          rw [hcase]
          rfl
        dsimp only
        cases t.ended with
        | false => exact .idle (fun _ => hnone) rfl (.inl rfl)
        | true => exact .idle (fun _ => hnone) rfl (.inr ⟨_, rfl⟩)
      · cases item with
        | error e =>
          have hnone : s.payload.getD [] = [] := by
            unfold payload
            rw [hcase]
            rfl
          exact .idle (fun _ => hnone) rfl (.inr ⟨_, rfl⟩)
        | ok message => exact outcome_dataOf hcopied hcase rfl

/-! ### The stream as a reader -/

/-- What happens to a stream besides reading. -/
inductive WsEvent where
  | item (item : Except Unit Message)
  | ended
  | write (first second : Sink) (buf : Bytes)
  | shutdown (sink : Sink) (closed : Poll Bool)

def happen (s : WsStream) : WsEvent → WsStream
  | .item item => { s with incoming := s.incoming ++ [item] }
  | .ended => { s with ended := true }
  | .write first second buf => (s.pollWrite first second buf).1
  | .shutdown sink closed => (s.pollShutdown sink closed).1

theorem recvBuf_happen (s : WsStream) (i : WsEvent) : (s.happen i).recvBuf = s.recvBuf := by
  cases i with
  | item item => rfl
  | ended => rfl
  | write first second buf =>
    simp only [happen, pollWrite]
    split
    · rfl
    · have hping := (s.sameInput_respondPing first).2
      generalize s.respondPing first = answer at hping ⊢
      rcases answer with ⟨t, e | _⟩
      · exact hping
      · have hsend := (t.sameInput_send second (.binary buf)).2
        dsimp only at hping ⊢
        generalize t.send second (.binary buf) = answer at hsend ⊢
        rcases answer with ⟨u, (e | _) | _⟩ <;> exact hsend.trans hping
  | shutdown sink closed =>
    simp only [happen, pollShutdown]
    split
    · rfl
    · have hsend := (s.sameInput_send sink .close).2
      generalize s.send sink .close = answer at hsend ⊢
      rcases answer with ⟨u, (e | _) | _⟩ <;> exact hsend

theorem reads_call (s : WsStream) (k : ReadCall) :
    Reads k.remaining s.recvBuf (s.taken k) (s.call k).2 (s.call k).1.recvBuf := by
  have h : Outcome s k.remaining (s.pongFails k.first) (s.call k) :=
    s.outcome_pollRead k.first k.second k.remaining
  unfold taken
  generalize s.call k = answer at h ⊢
  cases h with
  | drained h hbuf =>
    rw [if_neg fun hand => h hand.2, hbuf]
    exact .drained h
  | idle hnone hbuf hr =>
    have htaken : (if s.pongFails k.first = false ∧ s.recvBuf.take k.remaining = []
        then s.payload.getD [] else []) = [] := by
      split
      · next hand => exact hnone hand.1
      · rfl
    rw [htaken, hbuf]
    refine .idle ?_
    rcases hr with rfl | ⟨e, rfl⟩ <;> rfl
  | whole hpong h hsome hne hbuf hfits =>
    rw [if_pos ⟨hpong, h⟩, hsome, hbuf]
    exact .whole h hfits
  | part hpong h hsome hbuf hlong =>
    rw [if_pos ⟨hpong, h⟩, hsome, hbuf]
    exact .part h hlong

/-- A call with room never succeeds without a byte. -/
theorem isBlank_call (s : WsStream) (k : ReadCall) (hroom : k.remaining ≠ 0) :
    isBlank (s.call k).2 = false := by
  have h : Outcome s k.remaining (s.pongFails k.first) (s.call k) :=
    s.outcome_pollRead k.first k.second k.remaining
  generalize s.call k = answer at h ⊢
  cases h with
  | drained h hbuf =>
    rw [isBlank_ok]
    exact List.isEmpty_eq_false_iff.mpr h
  | idle hnone hbuf hr => rcases hr with rfl | ⟨e, rfl⟩ <;> rfl
  | whole hpong h hsome hne hbuf hfits =>
    rw [isBlank_ok]
    exact List.isEmpty_eq_false_iff.mpr hne
  | part hpong h hsome hbuf hlong =>
    rename_i s' data
    have hne : data ≠ [] := List.ne_nil_of_length_pos (by omega)
    rw [isBlank_ok]
    exact List.isEmpty_eq_false_iff.mpr fun hnil =>
      (List.take_eq_nil_iff.mp hnil).elim hroom hne

/-- A stream over websockets as a reader. -/
def reader : Reader WsStream UInt8 IoError WsEvent ReadCall where
  kept := recvBuf
  happen := happen
  room := ReadCall.remaining
  read := call
  taken := taken
  takesNothing _ _ := false
  kept_happen := recvBuf_happen
  reads := reads_call
  isBlank_read := isBlank_call

end WsStream

/-! ### Both streams -/

/-- **Reading an encrypted stream or a stream over websockets**: throughout a run, whatever
arrives and whatever room the calls have, the bytes handed out and the bytes kept are the payloads
received, and no call with room succeeds without a byte, if and only if no call without room takes
a payload while bytes are kept, and, for encrypted streams, no call with room takes a frame without
a payload. -/
theorem reading_exact_iff (aead : Secio.Aead) (maxFrameLength : ℕ)
    (decodeCipher encodeCipher : Secio.AeadCipher)
    (labels : List (Reader.Label Secio.SocketEvent ℕ))
    (labels' : List (Reader.Label WsStream.WsEvent WsStream.ReadCall)) :
    (Throughout (Secio.SecureStream.reader aead).step (Secio.SecureStream.reader aead).Exact
        (Reader.start (.new maxFrameLength decodeCipher encodeCipher)) labels ↔
      Guarded (Secio.SecureStream.reader aead).step (Secio.SecureStream.reader aead).Careful
        (Reader.start (.new maxFrameLength decodeCipher encodeCipher)) labels) ∧
    (Throughout WsStream.reader.step WsStream.reader.Exact (Reader.start .new) labels' ↔
      Guarded WsStream.reader.step WsStream.reader.Careful (Reader.start .new) labels') := by
  constructor
  · refine Reader.exact_iff ?_ labels
    change (if decodeCipher.isInPlace then Secio.RecvBuf.byte [] else .vec []).bytes = []
    cases decodeCipher.isInPlace <;> rfl
  · exact Reader.exact_iff rfl labels'

/-- A sink that takes everything. -/
def Sink.accepting : Sink := { ready := .ready true, startSend := true, flush := true }

/-- A call of `poll_read` with the given room. -/
def WsStream.ReadCall.of (remaining : ℕ) : ReadCall := ⟨remaining, .accepting, .accepting⟩

example : Guarded WsStream.reader.step WsStream.reader.Careful (Reader.start .new)
    [.happen (.item (.ok (.binary [1, 2]))), .happen (.item (.ok (.ping [9]))),
      .happen (.item (.ok (.binary [3]))), .read (.of 1), .read (.of 1), .read (.of 0),
      .read (.of 1)] := by
  decide +kernel

/-- An encrypted stream under the key of zeros. -/
def zeroStream : Secio.SecureStream :=
  let cipher (mode : Secio.CryptoMode) : Secio.AeadCipher :=
    .newStream .openssl ⟨.chaCha20Poly1305, List.replicate 32 0, mode⟩
  .new 100 (cipher .decrypt) (cipher .encrypt)

/-- The frame of a chunk under the key of zeros and a nonce that begins with the given byte. -/
def sealedFrame (n : UInt8) (chunk : Bytes) : Bytes :=
  let (text, tag) := ChaCha.encrypt (List.replicate 32 0) (n :: List.replicate 11 0) chunk
  text ++ tag

/-- Two frames, of which the first is read in part when a call has no room. -/
def secureLost : Reader.Watched Secio.SecureStream UInt8 :=
  runFrom (Secio.SecureStream.reader .chaCha).step (Reader.start zeroStream)
    [.happen (.frame (sealedFrame 1 [1, 2])), .happen (.frame (sealedFrame 2 [3])),
      .read 1, .read 0]

/-- A frame without a payload, and a call with room for four bytes. -/
def secureBlank : Reader.Watched Secio.SecureStream UInt8 :=
  runFrom (Secio.SecureStream.reader .chaCha).step (Reader.start zeroStream)
    [.happen (.frame (sealedFrame 1 [])), .read 4]

/-- Two messages, of which the first is read in part when a call has no room. -/
def wsLost : Reader.Watched WsStream UInt8 :=
  runFrom WsStream.reader.step (Reader.start .new)
    [.happen (.item (.ok (.binary [1, 2]))), .happen (.item (.ok (.binary [3]))), .read (.of 1),
      .read (.of 0)]

/-- **A call without room loses what is kept**, and a frame without a payload reads like the end
of the stream. -/
theorem reading_loses_or_ends :
    (secureLost.out = [1] ∧ secureLost.stream.recvBuf.bytes = [3] ∧
      secureLost.received = [1, 2, 3]) ∧
    (secureBlank.blank = true ∧ secureBlank.stream.ended = false) ∧
    wsLost.out = [1] ∧ wsLost.stream.recvBuf = [3] ∧ wsLost.received = [1, 2, 3] := by
  decide +kernel

end Tentacle
end CkbP2P

import CkbP2P.Secio.SecureStream
import CkbP2P.Yamux.Network

/-!
# From the windows of streams to the frames of the encrypted layer

What a stream writes becomes a yamux frame, as long as its window allows.  The frames of all streams
of a session go through the buffer of a `Framed`, and all that is in the buffer is passed to the
encrypted stream at once, where it becomes one frame of the length-delimited codec.  That codec
refuses a frame that is too long.

The builder of a service compares the window of a stream with the length of a frame.  It leaves out
the header of a yamux frame, the tag of the encryption and what else is in the buffer.

The transport of the yamux sessions is the one of `Yamux.World`; here the bytes it takes are
followed on their way.  A `Framed` answers that it is ready while its buffer is below a boundary,
which is a constant of a crate outside the repository and a parameter here, and flushes it first
otherwise.

## Main results

* `Yamux.World.Inv.size_le` — a frame in the transport fits the window of the configuration.
* `WritePath.inv_step` — what is in a buffer is bounded.
* `WritePath.accepts_of_room` — **with room for the header, the tag and the boundary, nothing is
  refused**.
* `WritePath.room_of_accepts` — **the room is needed**.
-/

namespace CkbP2P

open Lib

/-! ### The size of frames -/

namespace Yamux

/-- `size`: the length of the encoded frame. -/
def Frame.size (f : Frame) : ℕ := (FrameCodec.encode f).length

/-- The encoding of a frame is its header and its body. -/
theorem Frame.WellFormed.size_eq {f : Frame} (h : f.WellFormed) :
    f.size = 12 + if f.ty = .data then f.length.toNat else 0 := by
  obtain ⟨-, hbody⟩ := h
  have hheader : ∀ header : Header, (FrameCodec.encodeHeader header).length = 12 := fun _ => rfl
  rw [Frame.size, FrameCodec.encode, List.length_append, hheader]
  cases hty : f.ty with
  | data =>
    rw [hty] at hbody
    obtain ⟨b, hb, hlength⟩ := hbody
    rw [hb, if_pos rfl, hlength]
    rfl
  | windowUpdate | ping | goAway =>
    rw [hty] at hbody
    rw [show f.body = none from hbody]
    rfl

/-- **A frame in the transport fits the window** of the other side's configuration. -/
theorem World.Inv.size_le {w : World} (h : w.Inv FlowInv) (side : SessionType) :
    ∀ f ∈ (w side).outgoing, f.size ≤ 12 + (w side.peer).config.maxStreamWindowSize.toNat := by
  intro f hf
  by_cases hs : f.isStream = true
  · have hwire : f ∈ onStream f.streamId (w side).outgoing := mem_onStream.mpr ⟨hf, hs, rfl⟩
    have hdeparted : f ∈ ((w side).view f.streamId).departed := List.mem_append_left _ hwire
    have hwell := (h.honest side _ f (List.mem_append_right _ hdeparted)).wellFormed
    rw [hwell.size_eq]
    split
    · next hdata =>
      -- its bytes are owed by this side, so they fit the receive window of the other one
      have hbytes : f.length.toNat = f.dataBytes := by simp [Frame.dataBytes, hdata]
      have hle := bytesOf_sublist (List.singleton_sublist.mpr hdeparted)
      simp only [bytesOf_cons, bytesOf_nil, ← hbytes] at hle
      have hwindow := h.window side.peer f.streamId
      rw [SessionType.peer_peer] at hwindow
      have hmax : ((w side.peer).view f.streamId).recvWindow
          ≤ (w side.peer).config.maxStreamWindowSize.toNat :=
        (h.slotOk side.peer f.streamId).recvWindow_le
      unfold View.owed at hwindow
      omega
    · omega
  · have hs : f.isStream = false := by simpa using hs
    have hdata : f.ty ≠ .data := by
      intro hdata
      simp [Frame.isStream, hdata] at hs
    rw [(h.control side f (.inr (.inl hf)) hs).size_eq, if_neg hdata]
    omega

/-! ### What a call puts into the transport -/

theorem Moves.config_eq {s t : Session} (h : Moves s t) : t.config = s.config := by
  induction h with
  | refl => rfl
  | tail _ hm ih => exact hm.config_eq.trans ih

namespace Session

/-- There is nothing to do for the session but to take events. -/
structure Idle (s : Session) : Prop where
  alive : s.isDead = false
  read : s.readPendingFrames = []
  write : s.writePendingFrames = []
  pending : s.pendingStreams = []
  control : s.controlReceiver = []

/-- A frame of a handle has gone into the transport. -/
def sent (s : Session) (f : Frame) (rest : List StreamEvent) (answers : List SinkAnswer) :
    Session :=
  { s with eventReceiver := rest, sink := answers, outgoing := s.outgoing ++ [f] }

variable {s : Session} {f : Frame} {rest : List StreamEvent} {answers : List SinkAnswer}

theorem Idle.sent (h : s.Idle) : (s.sent f rest answers).Idle :=
  ⟨h.alive, h.read, h.write, h.pending, h.control⟩

theorem Idle.flush_eq (h : s.Idle) : s.flush = s := by
  rw [flush, h.read, h.write]
  rfl

theorem Idle.controlPoll_eq (h : s.Idle) : s.controlPoll = (s, false) := by
  rw [controlPoll, h.control]

theorem Idle.recvEvents_eq (h : s.Idle) (hevent : s.eventReceiver = .frame f :: rest)
    (hsink : s.sink = .ready :: answers) : s.recvEvents = (s.sent f rest answers, true) := by
  let t : Session := { s with eventReceiver := rest, writePendingFrames := [f] }
  have hqueue : { s with eventReceiver := rest }.sendFrame f = sendAllLoop s.sink t := by
    rw [sendFrame, sendAll, h.write]
    rfl
  have halive : t.isDead = false := h.alive
  rw [recvEvents, hevent]
  change ({ s with eventReceiver := rest }.sendFrame f, true) = _
  rw [hqueue, hsink, sendAllLoop_of_alive rfl halive]
  dsimp only
  rw [sendAllLoop_of_nil rfl, Session.sent, h.write]

/-- One round of the loop, with nothing to read. -/
theorem pollLoop_of_idle (n : ℕ) (h : s.Idle) : pollLoop (n + 1) [] s =
    if s.recvEvents.2 = false then (s.recvEvents.1, .pending)
      else pollLoop n [] s.recvEvents.1 := by
  rw [pollLoop, if_neg (by rw [h.alive]; decide), h.flush_eq]
  dsimp only
  split
  · next hpending =>
    rw [h.pending] at hpending
    cases hpending
  · rw [h.controlPoll_eq]
    simp [recvFrames]

/-- One round of the loop takes one frame of a handle. -/
theorem pollLoop_event (n : ℕ) (h : s.Idle) (hevent : s.eventReceiver = .frame f :: rest)
    (hsink : s.sink = .ready :: answers) :
    pollLoop (n + 1) [] s = pollLoop n [] (s.sent f rest answers) := by
  rw [pollLoop_of_idle n h, h.recvEvents_eq hevent hsink]
  rfl

/-- The loop takes the frames of the handles one by one, and ends when there are no more. -/
theorem outgoing_pollLoop : ∀ (frames : List Frame) {n : ℕ} {s : Session}, s.Idle →
    frames.length < n → s.eventReceiver = frames.map .frame →
    s.sink = List.replicate frames.length .ready →
    (pollLoop n [] s).1.outgoing = s.outgoing ++ frames
  | [], n + 1, s, h, _, hevents, _ => by
    have hnone : s.recvEvents = (s, false) := by rw [recvEvents, hevents]; rfl
    rw [pollLoop_of_idle n h, hnone, List.append_nil]
    rfl
  | f :: frames, n + 1, s, h, hn, hevents, hsink => by
    rw [pollLoop_event n h hevents hsink,
      outgoing_pollLoop frames h.sent (Nat.lt_of_succ_lt_succ hn) rfl rfl]
    exact (List.append_assoc s.outgoing [f] frames)

theorem Idle.pollNext_eq (h : s.Idle) (now : ℕ) (reads : List ReadAnswer) :
    s.pollNext now false reads = pollLoop 16 reads s := by
  simp [pollNext, h.alive]

end Session

/-- A configuration with windows of the given size. -/
def Config.wide (size : UInt32) (h : initialStreamWindow ≤ size) : Config :=
  { Config.default with maxStreamWindowSize := size, window_ge := h }

theorem Session.recvFrames_hello {s : Session} {flag : Flag} {id : StreamId} {size : UInt32}
    {rest : List Frame} (hin : s.incoming = Slot.hello flag id size :: rest) :
    s.recvFrames .ready = ({ s with incoming := rest }.handleFrame (Slot.hello flag id size),
      .ready (some (.ok ()))) := by
  have haccepts : FrameCodec.Accepts s.config.maxStreamWindowSize (Slot.hello flag id size) :=
    ⟨Frame.wellFormed_newWindowUpdate _ _ _, fun hty => by cases hty⟩
  have hdecode := FrameCodec.decode_encode haccepts []
  rw [List.append_nil] at hdecode
  rw [Session.recvFrames, hin]
  dsimp only
  rw [hdecode]

/-- A stream takes data as long as its window allows. -/
theorem Slot.apply_write {sl : Slot} {data : Bytes}
    (hstate : sl.handle.state = .synSent ∨ sl.handle.state = .established)
    (hpresent : sl.handle.frameReceiver.receiverGone = false)
    (hclosed : sl.handle.eventClosed = false) (houtbox : sl.handle.outbox = [])
    (hwindow : sl.handle.sendWindow ≠ 0) (hfits : data.length ≤ sl.handle.sendWindow.toNat) :
    (sl.apply (.write data)).2 = [.frame (.newData .empty sl.handle.id data)] := by
  have hmin : min sl.handle.sendWindow.toNat data.length = data.length := Nat.min_eq_right hfits
  rcases hstate with hstate | hstate <;>
    simp [Slot.apply, StreamHandle.pollWrite, hpresent, hstate, hwindow, hmin,
      StreamHandle.sendData, StreamHandle.getFlags, StreamHandle.unboundSendEvent, hclosed, houtbox,
      Slot.settle]

/-! ### A stream that the other side has opened -/

namespace Wide

variable {size : UInt32} (h : initialStreamWindow ≤ size)

/-- The stream that the server has accepted, with the frame that has opened it. -/
def acceptedSlot (size : UInt32) : Slot :=
  (Slot.create 1 .synReceived size).1.push (Slot.hello .syn 1 size)

/-- The server has accepted the stream. -/
def accepted : Session :=
  { Session.new (.wide size h) .server with
    streams := AList.singleton 1 0
    handles := [acceptedSlot size]
    outgoing := [Slot.hello .ack 1 size] }

/-- The server has read the frame that opens the stream. -/
def greeted : Session :=
  { Session.new (.wide size h) .server with
    streams := AList.singleton 1 0
    handles := [acceptedSlot size]
    eventReceiver := [.frame (Slot.hello .ack 1 size)]
    pendingStreams := [0]
    sink := [.ready] }

theorem handleFrame_hello {s : Session}
    (hs : s = { Session.new (.wide size h) .server with sink := [.ready] }) :
    s.handleFrame (Slot.hello .syn 1 size) = greeted h := by
  subst hs
  have hsyn : (Slot.hello .syn 1 size).flags.contains .syn = true := by
    change (Flags.ofFlag .syn).contains .syn = true
    decide
  have hid : (Slot.hello .syn 1 size).streamId = 1 := rfl
  have hty : (Slot.hello .syn 1 size).ty = .windowUpdate := rfl
  have hcreate := Slot.create_eq 1 size (.inr ⟨rfl, rfl, rfl⟩)
  simp only [Session.handleFrame, hty, Session.handleStreamMessage, Session.requeue,
    Session.distributeToSubstream, Session.new, List.nil_append, Session.distributeLoop, hid,
    List.not_mem_nil, if_false, Session.acceptSyn, hsyn, if_true]
  have hlookup : (AList.singleton 1 0 : AList fun _ : StreamId => ℕ).lookup
      (Slot.hello .syn 1 size).streamId = some 0 := AList.lookup_insert ∅
  simp [Session.createStream, Session.insertStream, hcreate, Config.wide, Config.default]
  rw [Session.passOn]
  dsimp only
  rw [hlookup, greeted, acceptedSlot, hcreate]
  rfl

theorem poll_hello : { Session.new (.wide size h) .server with
    incoming := [Slot.hello .syn 1 size] }.step (.poll 0 false [.ready] [.ready])
      = accepted h := by
  let s : Session := { Session.new (.wide size h) .server with
    incoming := [Slot.hello .syn 1 size], sink := [.ready] }
  have hidle : s.Idle := ⟨rfl, rfl, rfl, rfl, rfl⟩
  have hread : s.recvFrames .ready = (greeted h, .ready (some (.ok ()))) :=
    (Session.recvFrames_hello (s := s) rfl).trans
      (congrArg (·, _) (handleFrame_hello h rfl))
  change (s.pollNext 0 false [.ready]).1 = _
  rw [hidle.pollNext_eq, Session.pollLoop, if_neg (by rw [hidle.alive]; decide), hidle.flush_eq]
  dsimp only
  rw [hidle.pending]
  dsimp only
  rw [hidle.controlPoll_eq]
  dsimp only
  rw [List.headD_cons, hread]
  rfl

theorem handleFrame_window (sh : StreamHandle) (h : initialStreamWindow ≤ size)
    (hwindow : sh.sendWindow = initialStreamWindow) :
    sh.handleFrame (Slot.hello .syn 1 size) = ({ sh with sendWindow := size }, .ok ()) := by
  have hsum : sh.sendWindow.toNat + (Slot.hello .syn 1 size).length.toNat < 2 ^ 32 := by
    change _ + (size - initialStreamWindow).toNat < _
    have hle := UInt32.le_iff_toNat_le.mp h
    have hlt := size.toNat_lt
    rw [hwindow, UInt32.toNat_sub_of_le _ _ h]
    omega
  have hopen : sh.sendWindow + (Slot.hello .syn 1 size).length = size := by
    change _ + (size - initialStreamWindow) = _
    rw [hwindow, UInt32.add_comm, UInt32.sub_add_cancel]
  have hflags : sh.processFlags (Slot.hello .syn 1 size).flags = (sh, .ok ()) := by
    change sh.processFlags (.ofFlag .syn) = _
    simp only [StreamHandle.processFlags, show (Flags.ofFlag .syn).contains .ack = false by decide,
      show (Flags.ofFlag .syn).contains .fin = false by decide,
      show (Flags.ofFlag .syn).contains .rst = false by decide, Bool.false_eq_true, false_and,
      if_false]
  change sh.handleWindowUpdate _ = _
  rw [StreamHandle.handleWindowUpdate, hflags]
  dsimp only
  rw [if_pos hsum, hopen]

/-- The handle of the accepted stream, with a send window of the given size. -/
def openHandle (size sendWindow : UInt32) : StreamHandle :=
  { StreamHandle.new 1 (Channel.new Frame 8) .established size with recvWindow := size, sendWindow }

/-- The owner of the stream has asked for data, and the send window is open. -/
def openSlot (size : UInt32) : Slot :=
  ⟨openHandle size size, [], [], [Slot.hello .ack 1 size], [Slot.hello .syn 1 size]⟩

theorem apply_read (h : initialStreamWindow ≤ size) :
    (acceptedSlot size).apply (.read 0) = (openSlot size, []) := by
  let waiting : StreamHandle := { openHandle size initialStreamWindow with
    frameReceiver := (Channel.new Frame 8).push (Slot.hello .syn 1 size) }
  have hslot : acceptedSlot size = ⟨waiting, [], [], [Slot.hello .ack 1 size], []⟩ := by
    rw [acceptedSlot, Slot.create_eq 1 size (.inr ⟨rfl, rfl, rfl⟩)]
    rfl
  have hframe := handleFrame_window (openHandle size initialStreamWindow) h rfl
  have hrecv : waiting.recvFrames = (openHandle size size, .ok ()) := by
    change StreamHandle.recvFramesLoop [Slot.hello .syn 1 size] waiting = _
    have hcheck : waiting.recvCheck = none := rfl
    have hpop : { waiting with frameReceiver := waiting.frameReceiver.pop }
        = openHandle size initialStreamWindow := rfl
    rw [StreamHandle.recvFramesLoop, hcheck]
    dsimp only
    rw [hpop, hframe]
    rfl
  have hread : waiting.pollRead 0 = (openHandle size size, .pending) := by
    have hstate : waiting.checkSelfState = .ok false := rfl
    simp only [StreamHandle.pollRead, hstate, hrecv]
    rfl
  rw [hslot, Slot.apply]
  dsimp only
  rw [hread]
  rfl

/-- The owner of the stream has asked for data, and a stream of the server's own is open. -/
def both : Session :=
  { accepted h with
    nextStreamId := 4
    streams := (AList.singleton 1 0).insert 2 1
    handles := [openSlot size, (Slot.create 2 .init size).1]
    eventReceiver := [.frame (Slot.hello .syn 2 size)] }

theorem read_open_accepted :
    ((accepted h).step (.handle 0 (.read 0))).step .openStream = both h := by
  have hread : (accepted h).step (.handle 0 (.read 0))
      = { accepted h with handles := [openSlot size] } := by
    change { accepted h with
      handles := [((acceptedSlot size).apply (.read 0)).1]
      eventReceiver := ((acceptedSlot size).apply (.read 0)).2 } = _
    rw [apply_read h]
    rfl
  have hcreate := Slot.create_eq 2 size (.inl ⟨rfl, rfl, rfl⟩)
  rw [hread, both, hcreate]
  change ({ accepted h with handles := [openSlot size], nextStreamId := 4 }.insertStream 2
    .init).1 = _
  rw [Session.insertStream, if_neg (by change ¬ 2 ∈ AList.singleton 1 0; decide)]
  dsimp only [accepted, Session.new, Config.wide]
  rw [hcreate]
  rfl

variable {little data : Bytes}

/-- The frames with what the server writes, and the one that opens its own stream. -/
def frames (size : UInt32) (little data : Bytes) : List Frame :=
  [Slot.hello .syn 2 size, .newData .empty 2 little, .newData .empty 1 data]

theorem written_both (hlittle : little.length ≤ 262144) (hdata : data.length ≤ size.toNat) :
    let s := ((both h).step (.handle 1 (.write little))).step (.handle 0 (.write data))
    s.Idle ∧ s.outgoing = [Slot.hello .ack 1 size] ∧
      s.eventReceiver = (frames size little data).map .frame := by
  have hpositive : size ≠ 0 := by
    rintro rfl
    exact absurd h (by decide)
  have hown : ((Slot.create 2 .init size).1.apply (.write little)).2
      = [.frame (.newData .empty 2 little)] := by
    rw [Slot.create_eq 2 size (.inl ⟨rfl, rfl, rfl⟩)]
    exact Slot.apply_write (.inl rfl) rfl rfl rfl (by change initialStreamWindow ≠ 0; decide)
      hlittle
  have htheirs : ((openSlot size).apply (.write data)).2 = [.frame (.newData .empty 1 data)] :=
    Slot.apply_write (.inr rfl) rfl rfl rfl hpositive hdata
  refine ⟨⟨rfl, rfl, rfl, rfl, rfl⟩, rfl, ?_⟩
  change ((both h).eventReceiver ++ ((Slot.create 2 .init size).1.apply (.write little)).2)
    ++ ((openSlot size).apply (.write data)).2 = _
  rw [hown, htheirs]
  rfl

end Wide

namespace World

/-- The frames that a call puts into the transport. -/
def transmitted (w : World) (side : SessionType) (a : Session.SessionAct) : List Frame :=
  ((w side).step a).outgoing.drop (w side).outgoing.length

variable {w : World} (h : w.Inv FlowInv)
include h

theorem Inv.config_step (l : Label) (side : SessionType) :
    (w.step l side).config = (w side).config := by
  cases l with
  | act actor a =>
    by_cases hs : side = actor
    · subst hs
      simpa [World.step] using (Session.step_moves (h.readable side) a).config_eq
    · simp [World.step, hs]
  | carry actor =>
    cases ho : (w actor).outgoing with
    | nil => simp [World.step, ho]
    | cons f rest =>
      rcases actor.eq_or_eq_peer side with rfl | rfl
      · simp [World.step, ho, (SessionType.peer_ne side).symm]
      · simp [World.step, ho, SessionType.peer_ne]

end World

end Yamux

/-! ### The length of what is encrypted -/

namespace Secio

/-- The encryption keeps the length, and adds a tag. -/
def Aead.Sized (aead : Aead) : Prop :=
  ∀ t key nonce chunk text tag, aead.encrypt t key nonce chunk = some (text, tag) →
    text.length = chunk.length ∧ tag.length = t.tagSize

theorem tagSize_eq (t : CipherType) : t.tagSize = 16 := by
  cases t <;> rfl

variable {aead : Aead} {buf frame : Bytes}

theorem length_of_encrypt (haead : aead.Sized) {cipher : AeadCipher}
    (h : (cipher.encrypt aead buf).2 = .ok frame) : frame.length = buf.length + 16 := by
  have hseal : ∀ cipher : AeadCipher, (cipher.sealWith aead buf).2 = .ok frame →
      frame.length = buf.length + 16 := by
    intro cipher hseal
    unfold AeadCipher.sealWith at hseal
    dsimp only at hseal
    split at hseal
    · cases hseal
    · next text tag hencrypt =>
      cases hseal
      obtain ⟨htext, htag⟩ := haead _ _ _ _ _ _ hencrypt
      rw [List.length_append, htext, htag, tagSize_eq]
  unfold AeadCipher.encrypt at h
  split at h
  · exact hseal _ h
  · exact hseal _ h
  · exact hseal _ h
  · cases h

/-- What is short enough is not refused. -/
theorem pollWrite_of_length_le (haead : aead.Sized) {s : SecureStream}
    (h : buf.length + 16 ≤ s.maxFrameLength) :
    (s.pollWrite aead buf true).1.maxFrameLength = s.maxFrameLength ∧
      (s.pollWrite aead buf true).2 ≠ .pending ∧
      (s.pollWrite aead buf true).2 ≠ .ready (.error .frameTooBig) := by
  have hlength : ∀ frame, (s.encodeBuffer aead buf).2 = .ok frame →
      frame.length = buf.length + 16 :=
    fun frame => length_of_encrypt haead
  have hlimit : (s.encodeBuffer aead buf).1.maxFrameLength = s.maxFrameLength := rfl
  unfold SecureStream.pollWrite
  rw [if_neg (by decide)]
  generalize s.encodeBuffer aead buf = r at hlength hlimit
  obtain ⟨s', result⟩ := r
  cases result with
  | error e => exact ⟨hlimit, nofun, nofun⟩
  | ok frame =>
    have hfits : ¬ s'.maxFrameLength < frame.length := by
      rw [hlength frame rfl]
      dsimp only at hlimit
      omega
    dsimp only
    rw [if_neg hfits]
    exact ⟨hlimit, nofun, nofun⟩

/-- What is too long is refused. -/
theorem pollWrite_of_lt (haead : aead.Sized) {s : SecureStream}
    (h : s.maxFrameLength < buf.length + 16) (hencrypt : (s.encodeBuffer aead buf).2 = .ok frame) :
    (s.pollWrite aead buf true).2 = .ready (.error .frameTooBig) := by
  have hlength : frame.length = buf.length + 16 := length_of_encrypt haead hencrypt
  have hlimit : (s.encodeBuffer aead buf).1.maxFrameLength = s.maxFrameLength := rfl
  unfold SecureStream.pollWrite
  rw [if_neg (by decide)]
  generalize s.encodeBuffer aead buf = r at hencrypt hlimit
  obtain ⟨s', result⟩ := r
  cases hencrypt
  have hlong : s'.maxFrameLength < frame.length := by
    rw [hlength]
    exact hlimit.trans_lt h
  dsimp only
  rw [if_pos hlong]

end Secio

namespace Tentacle

/-! ### The limits -/

/-- The limits of the configuration of a service, as the builder accepts them.  The length of a
frame is compared as a `u32`. -/
structure ServiceConfig where
  maxFrameLength : ℕ
  maxStreamWindowSize : UInt32
  accepted : maxStreamWindowSize ≤ UInt32.ofNat maxFrameLength

namespace ServiceConfig

/-- `default`. -/
def default : ServiceConfig where
  maxFrameLength := 1024 * 1024 * 8
  maxStreamWindowSize := Yamux.initialStreamWindow
  accepted := by decide

/-- `yamux_config`; there is no configuration when the assertion fails. -/
def yamuxConfig (c : ServiceConfig) (size : UInt32) : Option ServiceConfig :=
  if h : size ≤ UInt32.ofNat c.maxFrameLength then
    some { c with maxStreamWindowSize := size, accepted := h }
  else none

/-- `max_frame_length`. -/
def withMaxFrameLength (c : ServiceConfig) (size : ℕ) : Option ServiceConfig :=
  if h : c.maxStreamWindowSize ≤ UInt32.ofNat size then
    some { c with maxFrameLength := size, accepted := h }
  else none

/-- There is room for the header of a yamux frame, the tag, and what may be in the buffer when
another frame is put into it. -/
def Room (c : ServiceConfig) (boundary : ℕ) : Prop :=
  (boundary - 1) + (12 + c.maxStreamWindowSize.toNat) + 16 ≤ c.maxFrameLength

end ServiceConfig

/-! ### The buffer and the encrypted stream -/

/-- The way of frames from the transport of a session to the socket. -/
structure Writer where
  /-- The length from which on the buffer is flushed before a frame is put into it. -/
  boundary : ℕ
  /-- The frames whose encodings are in the buffer. -/
  buffer : List Yamux.Frame
  stream : Secio.SecureStream
  /-- What was passed to `poll_write` of the encrypted stream so far. -/
  passed : List Bytes
  /-- The error that has ended the connection. -/
  failed : Option Secio.StreamError

namespace Writer

variable (aead : Secio.Aead)

/-- The bytes in the buffer. -/
def bytes (w : Writer) : Bytes := w.buffer.flatMap Yamux.FrameCodec.encode

/-- `poll_flush`, when the encrypted stream is ready: it gets all that is in the buffer. -/
def flush (w : Writer) : Writer :=
  if w.buffer.isEmpty then w
  else
    match w.stream.pollWrite aead w.bytes true with
    | (stream, .pending) => { w with stream }
    | (stream, .ready (.ok _)) => { w with stream, buffer := [], passed := w.passed ++ [w.bytes] }
    | (stream, .ready (.error e)) =>
      { w with stream, passed := w.passed ++ [w.bytes], failed := some e }

/-- `poll_ready`, when the answer is that the next frame is taken. -/
def ready (w : Writer) : Writer := if w.boundary ≤ w.bytes.length then w.flush aead else w

/-- `start_send`. -/
def startSend (w : Writer) (f : Yamux.Frame) : Writer := { w with buffer := w.buffer ++ [f] }

/-- The frames of one call, each put into the buffer when it is ready.  After a frame comes
`poll_complete`, which flushes the buffer, unless the encrypted stream has to be waited for.  A
connection that has failed takes no more frames. -/
def send : Writer → List Yamux.Frame → List Bool → Writer
  | w, [], _ => w
  | w, f :: frames, flushes =>
    let w := w.ready aead
    if w.failed.isSome then w
    else
      let w := w.startSend f
      let w := if flushes.headD false then w.flush aead else w
      if w.failed.isSome then w else send w frames flushes.tail

end Writer

/-- Two yamux sessions and their writers. -/
structure WritePath where
  world : Yamux.World
  writer : Yamux.SessionType → Writer

/-- What can happen. -/
inductive WriteLabel where
  /-- A call on a side's session or on one of its handles, with the flushes after the frames that
  it puts into the transport. -/
  | act (side : Yamux.SessionType) (a : Yamux.Session.SessionAct) (flushes : List Bool)
  /-- A side flushes its buffer. -/
  | flush (side : Yamux.SessionType)
  /-- The first frame of a side that has left its buffer reaches the other side. -/
  | carry (side : Yamux.SessionType)

namespace WritePath

variable (aead : Secio.Aead)

/-- Two new sessions over encrypted streams. -/
def new (config : Yamux.SessionType → Yamux.Config) (boundary : ℕ)
    (stream : Yamux.SessionType → Secio.SecureStream) : WritePath where
  world := .new config
  writer side :=
    { boundary, buffer := [], stream := stream side, passed := [], failed := none }

/-- One step.  A side whose connection has failed does nothing more. -/
def step (p : WritePath) : WriteLabel → WritePath
  | .act side a flushes =>
    if (p.writer side).failed.isSome then p
    else
      { world := p.world.step (.act side a)
        writer := Function.update p.writer side
          ((p.writer side).send aead (p.world.transmitted side a) flushes) }
  | .flush side =>
    if (p.writer side).failed.isSome then p
    else { p with writer := Function.update p.writer side ((p.writer side).flush aead) }
  | .carry side =>
    if (p.writer side).buffer.length < (p.world side).outgoing.length then
      { p with world := p.world.step (.carry side) }
    else p

end WritePath

variable {aead : Secio.Aead} {c : ServiceConfig} {boundary : ℕ}

/-! ### What is in a buffer -/

namespace Writer

/-- What a writer does within the limits. -/
structure Bounded (c : ServiceConfig) (boundary : ℕ) (w : Writer) : Prop where
  boundary_eq : w.boundary = boundary
  limit : w.stream.maxFrameLength = c.maxFrameLength
  /-- Before the last frame, the buffer was below the boundary. -/
  buffer : w.bytes.length ≤ (boundary - 1) + (12 + c.maxStreamWindowSize.toNat)
  passed : ∀ buf ∈ w.passed, buf.length + 16 ≤ c.maxFrameLength
  accepted : w.failed ≠ some .frameTooBig

variable {w : Writer}

/-- A flush of what is too long fails. -/
theorem failed_flush (haead : aead.Sized) {frame : Bytes} (hne : w.buffer ≠ [])
    (h : w.stream.maxFrameLength < w.bytes.length + 16)
    (hencrypt : (w.stream.encodeBuffer aead w.bytes).2 = .ok frame) :
    (w.flush aead).failed = some .frameTooBig ∧ (w.flush aead).passed = w.passed ++ [w.bytes] := by
  have hrefused := Secio.pollWrite_of_lt haead h hencrypt
  have hne' : ¬ w.buffer.isEmpty = true := by simpa using hne
  unfold flush
  rw [if_neg hne']
  generalize w.stream.pollWrite aead w.bytes true = r at hrefused
  obtain ⟨stream, answer⟩ := r
  cases hrefused
  exact ⟨rfl, rfl⟩

theorem bytes_nil (h : w.buffer = []) : w.bytes = [] := by
  rw [bytes, h]
  rfl

/-- A flush empties the buffer, or the connection has failed. -/
theorem Bounded.flush (haead : aead.Sized) (hroom : c.Room boundary) (h : w.Bounded c boundary) :
    (w.flush aead).Bounded c boundary ∧
      ((w.flush aead).failed.isSome ∨ (w.flush aead).buffer = []) := by
  unfold Writer.flush
  split
  · next hempty => exact ⟨h, .inr (List.isEmpty_iff.mp hempty)⟩
  · have hfits : w.bytes.length + 16 ≤ c.maxFrameLength := by
      have hbuffer := h.buffer
      unfold ServiceConfig.Room at hroom
      omega
    obtain ⟨hlimit, hnow, haccept⟩ := Secio.pollWrite_of_length_le haead (h.limit.symm ▸ hfits)
    have hpassed : ∀ buf ∈ w.passed ++ [w.bytes], buf.length + 16 ≤ c.maxFrameLength := by
      intro buf hbuf
      rcases List.mem_append.mp hbuf with hbuf | hbuf
      · exact h.passed buf hbuf
      · rw [List.mem_singleton.mp hbuf]
        exact hfits
    generalize w.stream.pollWrite aead w.bytes true = r at hlimit hnow haccept
    obtain ⟨stream, answer⟩ := r
    have hlimit' : stream.maxFrameLength = c.maxFrameLength := hlimit.trans h.limit
    cases answer with
    | pending => exact absurd rfl hnow
    | ready result =>
      cases result with
      | ok n => exact ⟨⟨h.boundary_eq, hlimit', Nat.zero_le _, hpassed, h.accepted⟩, .inr rfl⟩
      | error e =>
        refine ⟨⟨h.boundary_eq, hlimit', h.buffer, hpassed, ?_⟩, .inl rfl⟩
        rintro ⟨⟩
        exact haccept rfl

/-- A buffer that takes a frame is below the boundary. -/
theorem Bounded.ready (haead : aead.Sized) (hroom : c.Room boundary) (h : w.Bounded c boundary) :
    (w.ready aead).Bounded c boundary ∧
      ((w.ready aead).failed.isSome ∨ (w.ready aead).bytes.length ≤ boundary - 1) := by
  unfold Writer.ready
  split
  · obtain ⟨hbounded, hfailed | hbuffer⟩ := h.flush haead hroom
    · exact ⟨hbounded, .inl hfailed⟩
    · refine ⟨hbounded, .inr ?_⟩
      rw [bytes_nil hbuffer]
      exact Nat.zero_le _
  · next hlt =>
    refine ⟨h, .inr ?_⟩
    rw [h.boundary_eq] at hlt
    omega

theorem bytes_startSend (w : Writer) (f : Yamux.Frame) :
    (w.startSend f).bytes.length = w.bytes.length + f.size := by
  unfold bytes startSend
  rw [List.flatMap_append, List.length_append, List.flatMap_singleton]
  rfl

/-- Frames that fit the window are taken within the limits. -/
theorem Bounded.send (haead : aead.Sized) (hroom : c.Room boundary) :
    ∀ (frames : List Yamux.Frame) (flushes : List Bool) (w : Writer), w.Bounded c boundary →
      (∀ f ∈ frames, f.size ≤ 12 + c.maxStreamWindowSize.toNat) →
      (w.send aead frames flushes).Bounded c boundary := by
  intro frames
  induction frames with
  | nil =>
    intro flushes w h hframes
    exact h
  | cons f frames ih =>
    intro flushes w h hframes
    rw [Writer.send]
    obtain ⟨hready, hbelow⟩ := h.ready haead hroom
    generalize w.ready aead = w' at hready hbelow ⊢
    dsimp only
    split
    · exact hready
    · next hfailed =>
      have hbelow := hbelow.resolve_left hfailed
      have hsize := hframes f List.mem_cons_self
      have hstart : (w'.startSend f).Bounded c boundary := by
        refine { hready with buffer := ?_ }
        rw [bytes_startSend]
        omega
      have hflushed : (if flushes.headD false then (w'.startSend f).flush aead
          else w'.startSend f).Bounded c boundary := by
        split
        · exact (hstart.flush haead hroom).1
        · exact hstart
      generalize (if flushes.headD false then (w'.startSend f).flush aead
        else w'.startSend f) = w'' at hflushed
      split
      · exact hflushed
      · exact ih flushes.tail _ hflushed fun g hg => hframes g (List.mem_cons_of_mem f hg)

end Writer

/-! ### The invariant -/

namespace WritePath

/-- Both sides keep the limits. -/
structure Inv (c : ServiceConfig) (boundary : ℕ) (p : WritePath) : Prop where
  world : p.world.Inv Yamux.FlowInv
  config : ∀ side, (p.world side).config.maxStreamWindowSize = c.maxStreamWindowSize
  writer : ∀ side, (p.writer side).Bounded c boundary

variable {p : WritePath}

theorem Inv.world_step (h : p.Inv c boundary) (l : Yamux.Label) :
    (p.world.step l).Inv Yamux.FlowInv ∧
      ∀ side, (p.world.step l side).config.maxStreamWindowSize = c.maxStreamWindowSize := by
  refine ⟨h.world.step Yamux.pairInv_flow l, fun side => ?_⟩
  rw [h.world.config_step l side, h.config side]

theorem Inv.update_writer (h : p.Inv c boundary) {side : Yamux.SessionType} {w : Writer}
    (hw : w.Bounded c boundary) :
    ∀ side', (Function.update p.writer side w side').Bounded c boundary := by
  intro side'
  by_cases hs : side' = side
  · subst hs
    rwa [Function.update_self]
  · rw [Function.update_of_ne hs]
    exact h.writer side'

/-- **Every step keeps the limits.** -/
theorem inv_step (haead : aead.Sized) (hroom : c.Room boundary) :
    ∀ (p : WritePath) (l : WriteLabel), p.Inv c boundary → (p.step aead l).Inv c boundary := by
  intro p l h
  cases l with
  | act side a flushes =>
    obtain ⟨hworld, hconfig⟩ := h.world_step (.act side a)
    have hframes : ∀ f ∈ p.world.transmitted side a,
        f.size ≤ 12 + c.maxStreamWindowSize.toNat := by
      intro f hf
      have hout : f ∈ (p.world.step (.act side a) side).outgoing := by
        rw [Yamux.World.step, Function.update_self]
        exact List.mem_of_mem_drop hf
      have hsize := hworld.size_le side f hout
      rwa [hconfig] at hsize
    unfold step
    dsimp only
    split
    · exact h
    · exact ⟨hworld, hconfig,
        h.update_writer ((h.writer side).send haead hroom _ flushes _ hframes)⟩
  | flush side =>
    unfold step
    dsimp only
    split
    · exact h
    · exact ⟨h.world, h.config, h.update_writer ((h.writer side).flush haead hroom).1⟩
  | carry side =>
    obtain ⟨hworld, hconfig⟩ := h.world_step (.carry side)
    unfold step
    dsimp only
    split
    · exact ⟨hworld, hconfig, h.writer⟩
    · exact h

theorem inv_new (c : ServiceConfig) (boundary : ℕ) {config : Yamux.SessionType → Yamux.Config}
    {stream : Yamux.SessionType → Secio.SecureStream}
    (hconfig : ∀ side, (config side).maxStreamWindowSize = c.maxStreamWindowSize)
    (hstream : ∀ side, (stream side).maxFrameLength = c.maxFrameLength) :
    (new config boundary stream).Inv c boundary where
  world := Yamux.pairInv_flow.inv_new config
  config := hconfig
  writer side :=
    { boundary_eq := rfl
      limit := hstream side
      buffer := Nat.zero_le _
      passed := nofun
      accepted := nofun }

/-- What the encrypted streams of two sessions with the limits of one configuration get is short
enough, and no frame is refused. -/
def Accepts (aead : Secio.Aead) (c : ServiceConfig) (boundary : ℕ) : Prop :=
  ∀ (config : Yamux.SessionType → Yamux.Config) (stream : Yamux.SessionType → Secio.SecureStream),
    (∀ side, (config side).maxStreamWindowSize = c.maxStreamWindowSize) →
    (∀ side, (stream side).maxFrameLength = c.maxFrameLength) →
    ∀ (ls : List WriteLabel) (side : Yamux.SessionType),
      let w := (runFrom (step aead) (new config boundary stream) ls).writer side
      (∀ buf ∈ w.passed, buf.length + 16 ≤ c.maxFrameLength) ∧ w.failed ≠ some .frameTooBig

theorem accepts_of_room (haead : aead.Sized) (hroom : c.Room boundary) :
    Accepts aead c boundary := by
  intro config stream hconfig hstream ls side w
  have h := inv_runFrom (inv_step haead hroom) (inv_new c boundary hconfig hstream) ls
  exact ⟨(h.writer side).passed, (h.writer side).accepted⟩

/-! ### A frame that fills the window -/

end WritePath

namespace Writer

variable {key : Bytes} {limit : ℕ} {buffer frames : List Yamux.Frame} {f : Yamux.Frame}
  {flushes : List Bool} {w : Writer}

/-- The frames are in the buffer, which is below the boundary, and the connection is alive. -/
structure Holding (key : Bytes) (limit boundary : ℕ) (buffer : List Yamux.Frame) (w : Writer) :
    Prop where
  buffer_eq : w.buffer = buffer
  failed : w.failed = none
  limit : w.stream.maxFrameLength = limit
  boundary_eq : w.boundary = boundary
  keyed : Secio.Keyed .chaCha20Poly1305 key .encrypt w.stream.encodeCipher
  below : w.bytes.length < boundary

theorem flush_of_length_le (haead : aead.Inverts .chaCha20Poly1305 key limit)
    (hlimit : w.stream.maxFrameLength = limit)
    (hkeyed : Secio.Keyed .chaCha20Poly1305 key .encrypt w.stream.encodeCipher)
    (hne : w.buffer ≠ [])
    (hfits : w.bytes.length + Secio.CipherType.tagSize .chaCha20Poly1305 ≤ limit) :
    ∃ stream : Secio.SecureStream,
      Secio.Keyed .chaCha20Poly1305 key .encrypt stream.encodeCipher ∧
      stream.maxFrameLength = limit ∧
      w.flush aead = { w with stream, buffer := [], passed := w.passed ++ [w.bytes] } := by
  subst hlimit
  obtain ⟨frame, -, hwrite⟩ := Secio.SecureStream.pollWrite_ready haead hkeyed hfits
  have hne' : ¬ w.buffer.isEmpty = true := by simpa using hne
  refine ⟨(w.stream.pollWrite aead w.bytes true).1, ?_, ?_, ?_⟩
  · rw [hwrite]
    exact (Secio.encrypt_keyed aead hkeyed w.bytes).1
  · rw [hwrite]
  · rw [Writer.flush, if_neg hne', hwrite]

/-- What a frame does to such a writer. -/
theorem Holding.send_eq (h : w.Holding key limit boundary buffer) (flush : Bool) :
    w.send aead (f :: frames) (flush :: flushes)
      = let w := if flush then (w.startSend f).flush aead else w.startSend f
        if w.failed.isSome then w else w.send aead frames flushes := by
  have hready : w.ready aead = w := if_neg (by rw [h.boundary_eq]; exact h.below.not_ge)
  have halive : ¬ w.failed.isSome = true := by
    rw [h.failed]
    decide
  rw [Writer.send, hready]
  dsimp only
  rw [if_neg halive]
  rfl

/-- A frame stays in the buffer when the stream has to be waited for. -/
theorem Holding.send_kept (h : w.Holding key limit boundary buffer)
    (hbelow : w.bytes.length + f.size < boundary) :
    w.send aead (f :: frames) (false :: flushes) = (w.startSend f).send aead frames flushes ∧
      (w.startSend f).Holding key limit boundary (buffer ++ [f]) := by
  have halive : ¬ (w.startSend f).failed.isSome = true := by
    change ¬ w.failed.isSome = true
    rw [h.failed]
    decide
  constructor
  · rw [h.send_eq]
    exact if_neg halive
  · refine ⟨?_, h.failed, h.limit, h.boundary_eq, h.keyed, ?_⟩
    · rw [startSend, h.buffer_eq]
    · rwa [bytes_startSend]

/-- What fits is passed on. -/
theorem Holding.send_flushed (frames flushes) (haead : aead.Inverts .chaCha20Poly1305 key limit)
    (h : w.Holding key limit boundary buffer) (hfits : w.bytes.length + f.size + 16 ≤ limit) :
    ∃ w' : Writer, w.send aead (f :: frames) (true :: flushes) = w'.send aead frames flushes ∧
      w'.Holding key limit boundary [] := by
  have hlength : (w.startSend f).bytes.length + Secio.CipherType.tagSize .chaCha20Poly1305
      ≤ limit := by
    rw [bytes_startSend]
    exact hfits
  have hne : (w.startSend f).buffer ≠ [] := by simp [startSend]
  obtain ⟨stream, hkeyed, hlimit, hflush⟩ :=
    flush_of_length_le (w := w.startSend f) haead h.limit h.keyed hne hlength
  have halive : ¬ ((w.startSend f).flush aead).failed.isSome = true := by
    rw [hflush]
    change ¬ w.failed.isSome = true
    rw [h.failed]
    decide
  refine ⟨(w.startSend f).flush aead, ?_, ?_⟩
  · rw [h.send_eq]
    exact if_neg halive
  · rw [hflush]
    exact ⟨rfl, h.failed, hlimit, h.boundary_eq, hkeyed, (Nat.zero_le _).trans_lt h.below⟩

/-- What does not fit is refused. -/
theorem Holding.send_refused (hsized : aead.Sized)
    (haead : ∀ limit, aead.Inverts .chaCha20Poly1305 key limit)
    (h : w.Holding key limit boundary buffer) (hlong : limit < w.bytes.length + f.size + 16) :
    (w.send aead (f :: frames) (true :: flushes)).failed = some .frameTooBig ∧
      ∃ buf ∈ (w.send aead (f :: frames) (true :: flushes)).passed, limit < buf.length + 16 := by
  have hne : (w.startSend f).buffer ≠ [] := by simp [startSend]
  have hlong' : (w.startSend f).stream.maxFrameLength < (w.startSend f).bytes.length + 16 := by
    rw [bytes_startSend]
    exact h.limit.trans_lt hlong
  obtain ⟨frame, hencrypt, -⟩ := Secio.encrypt_holds (haead _) h.keyed
    (Nat.le_refl ((w.startSend f).bytes.length + _))
  obtain ⟨hfailed, hpassed⟩ := failed_flush hsized hne hlong' hencrypt
  have hsend : w.send aead (f :: frames) (true :: flushes) = (w.startSend f).flush aead := by
    rw [h.send_eq]
    exact if_pos (show ((w.startSend f).flush aead).failed.isSome = true by rw [hfailed]; rfl)
  rw [hsend, hfailed, hpassed]
  refine ⟨rfl, (w.startSend f).bytes, List.mem_append_right _ (List.mem_singleton_self _), ?_⟩
  rw [bytes_startSend]
  exact hlong

end Writer

namespace WritePath

/-- The two sides. -/
def pair (s t : Yamux.Session) (v w : Writer) : WritePath where
  world side := match side with | .client => s | .server => t
  writer side := match side with | .client => v | .server => w

variable {s t : Yamux.Session} {v w : Writer}

theorem pair_client (hfailed : v.failed = none) (a : Yamux.Session.SessionAct)
    (flushes : List Bool) : (pair s t v w).step aead (.act .client a flushes)
      = pair (s.step a) t (v.send aead ((s.step a).outgoing.drop s.outgoing.length) flushes) w := by
  have halive : ¬ v.failed.isSome = true := by
    rw [hfailed]
    decide
  unfold step
  dsimp only
  rw [if_neg (show ¬ ((pair s t v w).writer .client).failed.isSome = true from halive)]
  congr 1 <;> funext side <;> cases side <;> rfl

theorem pair_server (hfailed : w.failed = none) (a : Yamux.Session.SessionAct)
    (flushes : List Bool) : (pair s t v w).step aead (.act .server a flushes)
      = pair s (t.step a) v (w.send aead ((t.step a).outgoing.drop t.outgoing.length) flushes) := by
  have halive : ¬ w.failed.isSome = true := by
    rw [hfailed]
    decide
  unfold step
  dsimp only
  rw [if_neg (show ¬ ((pair s t v w).writer .server).failed.isSome = true from halive)]
  congr 1 <;> funext side <;> cases side <;> rfl

theorem pair_carry {f : Yamux.Frame} {rest : List Yamux.Frame} (hout : s.outgoing = f :: rest)
    (hsent : v.buffer = []) : (pair s t v w).step aead (.carry .client)
      = pair { s with outgoing := rest } { t with incoming := t.incoming ++ [f] } v w := by
  have hless : v.buffer.length < s.outgoing.length := by
    rw [hout, hsent]
    exact Nat.succ_pos _
  unfold step
  dsimp only
  rw [if_pos (show ((pair s t v w).writer .client).buffer.length
    < ((pair s t v w).world .client).outgoing.length from hless)]
  congr 1
  unfold Yamux.World.step
  dsimp only
  rw [show ((pair s t v w).world .client).outgoing = f :: rest from hout]
  funext side
  cases side <;> rfl

/-- An encrypted stream with the given limit and with fixed keys. -/
def sampleStream (maxFrameLength : ℕ) : Secio.SecureStream :=
  let cipher := fun mode => Secio.AeadCipher.newStream .openssl
    ⟨.chaCha20Poly1305, List.replicate 32 0, mode⟩
  .new maxFrameLength (cipher .decrypt) (cipher .encrypt)

theorem size_newData (id : Yamux.StreamId) (data : Bytes) :
    (Yamux.Frame.newData .empty id data).size = 12 + data.length := by
  simp [Yamux.Frame.size, Yamux.FrameCodec.encode, Yamux.FrameCodec.encodeHeader, putU16, putU32,
    Yamux.Frame.newData]
  omega

/-- A client opens a stream, and the server accepts it and opens a stream of its own. -/
def openBoth : List WriteLabel :=
  [.act .client .openStream [], .act .client (.poll 0 false [.ready] []) [true], .carry .client,
    .act .server (.poll 0 false [.ready] [.ready]) [true], .act .server (.handle 0 (.read 0)) [],
    .act .server .openStream []]

/-- The server writes to both streams.  When it is polled, the frames are passed on one by one; if
`waits`, the encrypted stream has to be waited for before the last one. -/
def fillWindow (waits : Bool) (little data : Bytes) : List WriteLabel :=
  openBoth ++ [.act .server (.handle 1 (.write little)) [],
    .act .server (.handle 0 (.write data)) [],
    .act .server (.poll 0 false [.ready, .ready, .ready] []) [true, !waits, true]]

section FillWindow

variable {size : UInt32} {limit : ℕ} {little data : Bytes}
  (h : Yamux.initialStreamWindow ≤ size)

theorem run_openBoth (haead : aead.Inverts .chaCha20Poly1305 (List.replicate 32 0) limit)
    (hboundary : 0 < boundary) (hshort : 28 ≤ limit) :
    ∃ s v w, w.Holding (List.replicate 32 0) limit boundary [] ∧
      runFrom (step aead) (new (fun _ => .wide size h) boundary fun _ => sampleStream limit)
        openBoth = pair s (Yamux.Wide.both h) v w := by
  let v : Writer :=
    { boundary, buffer := [], stream := sampleStream limit, passed := [], failed := none }
  have hv : v.Holding (List.replicate 32 0) limit boundary [] :=
    ⟨rfl, rfl, rfl, rfl, ⟨rfl, rfl, rfl⟩, hboundary⟩
  have hhello : ∀ flag id, v.bytes.length + (Yamux.Slot.hello flag id size).size + 16 ≤ limit :=
    fun _ _ => hshort
  let s₀ := Yamux.Session.new (.wide size h) .client
  let t₀ := Yamux.Session.new (.wide size h) .server
  have hnew : new (fun _ => .wide size h) boundary (fun _ => sampleStream limit)
      = pair s₀ t₀ v v := by
    unfold new pair
    congr 1 <;> funext side <;> cases side <;> rfl
  -- the client opens the stream
  let s₁ := s₀.step .openStream
  let s₂ := s₁.step (.poll 0 false [.ready] [])
  have hopened : s₁.eventReceiver = [.frame (Yamux.Slot.hello .syn 1 size)] := by
    change (Yamux.Slot.create 1 .init size).2 = _
    rw [Yamux.Slot.create_eq 1 size (.inl ⟨rfl, rfl, rfl⟩)]
  have hpolled : s₂.outgoing = [Yamux.Slot.hello .syn 1 size] := by
    have hidle : { s₁ with sink := [.ready] }.Idle := ⟨rfl, rfl, rfl, rfl, rfl⟩
    change (s₁.step _).outgoing = _
    rw [Yamux.Session.step, hidle.pollNext_eq]
    exact Yamux.Session.outgoing_pollLoop [_] hidle (show 1 < 16 by decide) hopened rfl
  obtain ⟨v', hsent, hv'⟩ := hv.send_flushed [] [] haead (hhello .syn 1)
  have h₁ : (pair s₀ t₀ v v).step aead (.act .client .openStream []) = pair s₁ t₀ v v :=
    pair_client rfl _ _
  have h₂ : (pair s₁ t₀ v v).step aead (.act .client (.poll 0 false [.ready] []) [true])
      = pair s₂ t₀ v' v := by
    rw [pair_client rfl, show (s₁.step _).outgoing = _ from hpolled]
    exact congrArg (pair _ t₀ · v) hsent
  let s₃ : Yamux.Session := { s₂ with outgoing := [] }
  have h₃ : (pair s₂ t₀ v' v).step aead (.carry .client)
      = pair s₃ { t₀ with incoming := [Yamux.Slot.hello .syn 1 size] } v' v :=
    pair_carry hpolled hv'.buffer_eq
  -- the server accepts it
  let t₄ := Yamux.Wide.accepted h
  obtain ⟨w, hanswered, hw⟩ := hv.send_flushed [] [] haead (hhello .ack 1)
  have h₄ : (pair s₃ { t₀ with incoming := [Yamux.Slot.hello .syn 1 size] } v' v).step aead
      (.act .server (.poll 0 false [.ready] [.ready]) [true]) = pair s₃ t₄ v' w := by
    rw [pair_server rfl, Yamux.Wide.poll_hello h]
    exact congrArg (pair s₃ _ v') hanswered
  have h₅ : (pair s₃ t₄ v' w).step aead (.act .server (.handle 0 (.read 0)) [])
      = pair s₃ (t₄.step (.handle 0 (.read 0))) v' w := pair_server hw.failed _ _
  have h₆ : (pair s₃ (t₄.step (.handle 0 (.read 0))) v' w).step aead
      (.act .server .openStream []) = pair s₃ (Yamux.Wide.both h) v' w := by
    rw [pair_server hw.failed, Yamux.Wide.read_open_accepted h]
    rfl
  refine ⟨s₃, v', w, hw, ?_⟩
  rw [hnew, openBoth, runFrom, h₁, runFrom, h₂, runFrom, h₃, runFrom, h₄, runFrom, h₅, runFrom, h₆,
    runFrom]

theorem writer_fillWindow (waits : Bool)
    (haead : aead.Inverts .chaCha20Poly1305 (List.replicate 32 0) limit) (hboundary : 0 < boundary)
    (hshort : 28 ≤ limit) (hlittle : little.length ≤ 262144) (hdata : data.length ≤ size.toNat) :
    ∃ w : Writer, w.Holding (List.replicate 32 0) limit boundary [] ∧
      (runFrom (step aead) (new (fun _ => .wide size h) boundary fun _ => sampleStream limit)
        (fillWindow waits little data)).writer .server
        = w.send aead (Yamux.Wide.frames size little data) [true, !waits, true] := by
  obtain ⟨s, v, w, hw, hopened⟩ := run_openBoth h haead hboundary hshort
  let t₁ := (Yamux.Wide.both h).step (.handle 1 (.write little))
  let t₂ := t₁.step (.handle 0 (.write data))
  have h₁ : (pair s (Yamux.Wide.both h) v w).step aead (.act .server (.handle 1 (.write little)) [])
      = pair s t₁ v w := pair_server hw.failed _ _
  have h₂ : (pair s t₁ v w).step aead (.act .server (.handle 0 (.write data)) [])
      = pair s t₂ v w := pair_server hw.failed _ _
  obtain ⟨hidle, hout, hevents⟩ := Yamux.Wide.written_both h hlittle hdata
  have hlast : (t₂.step (.poll 0 false [.ready, .ready, .ready] [])).outgoing
      = Yamux.Slot.hello .ack 1 size :: Yamux.Wide.frames size little data := by
    have hidle' : { t₂ with sink := [.ready, .ready, .ready] }.Idle :=
      ⟨hidle.alive, hidle.read, hidle.write, hidle.pending, hidle.control⟩
    rw [Yamux.Session.step, hidle'.pollNext_eq]
    exact (Yamux.Session.outgoing_pollLoop (Yamux.Wide.frames size little data) hidle'
      (show 3 < 16 by decide) hevents rfl).trans (congrArg (· ++ _) hout)
  refine ⟨w, hw, ?_⟩
  rw [fillWindow, runFrom_append, hopened, runFrom, h₁, runFrom, h₂, runFrom,
    pair_server hw.failed, hlast, runFrom]
  change w.send aead ((Yamux.Slot.hello .ack 1 size :: Yamux.Wide.frames size little data).drop
    t₂.outgoing.length) _ = _
  rw [show t₂.outgoing = _ from hout]
  rfl

/-- The last frame of the run is refused, when it is too long with what is in the buffer. -/
theorem refused_fillWindow (waits : Bool) (hsized : aead.Sized)
    (haead : ∀ limit, aead.Inverts .chaCha20Poly1305 (List.replicate 32 0) limit)
    (hlittle : little.length ≤ 262144) (hdata : data.length ≤ size.toNat)
    (hboundary : 0 < boundary) (hshort : 28 ≤ limit)
    (hbefore : if waits then 12 + little.length < boundary else 12 + little.length + 16 ≤ limit)
    (hlong : limit < (if waits then 12 + little.length else 0) + (12 + data.length) + 16) :
    let w := (runFrom (step aead)
      (new (fun _ => .wide size h) boundary fun _ => sampleStream limit)
      (fillWindow waits little data)).writer .server
    w.failed = some .frameTooBig ∧ ∃ buf ∈ w.passed, limit < buf.length + 16 := by
  obtain ⟨w₁, h₁, hrun⟩ :=
    writer_fillWindow h waits (haead limit) hboundary hshort hlittle hdata
  have hempty : ∀ {w : Writer}, w.Holding (List.replicate 32 0) limit boundary [] →
      w.bytes.length = 0 := by
    intro w hw
    rw [Writer.bytes_nil hw.buffer_eq]
    rfl
  dsimp only
  obtain ⟨w₂, hw₂, h₂⟩ := h₁.send_flushed _ _ (haead limit) (f := Yamux.Slot.hello .syn 2 size)
    (by rw [hempty h₁]; exact hshort)
  rw [hrun, Yamux.Wide.frames, hw₂]
  cases waits with
  | false =>
    obtain ⟨w₃, hw₃, h₃⟩ := h₂.send_flushed _ _ (haead limit) (f := .newData .empty 2 little)
      (by rw [hempty h₂, size_newData, Nat.zero_add]; exact hbefore)
    rw [Bool.not_false, hw₃]
    exact h₃.send_refused hsized haead (by rw [hempty h₃, size_newData]; exact hlong)
  | true =>
    obtain ⟨hw₃, h₃⟩ := h₂.send_kept (f := .newData .empty 2 little)
      (by rw [hempty h₂, size_newData, Nat.zero_add]; exact hbefore)
    rw [Bool.not_true, hw₃]
    refine h₃.send_refused hsized haead ?_
    rw [Writer.bytes_startSend, hempty h₂, size_newData, size_newData, Nat.zero_add]
    exact hlong

end FillWindow

/-- The room is needed. -/
theorem room_of_accepts (hsized : aead.Sized)
    (haead : ∀ key limit, aead.Inverts .chaCha20Poly1305 key limit)
    (hwindow : Yamux.initialStreamWindow ≤ c.maxStreamWindowSize) (hlow : 13 ≤ boundary)
    (hhigh : boundary ≤ 262157) (h : Accepts aead c boundary) : c.Room boundary := by
  have hlimit : 262144 ≤ c.maxFrameLength := by
    have haccepted := UInt32.le_iff_toNat_le.mp (UInt32.le_trans hwindow c.accepted)
    rw [UInt32.toNat_ofNat'] at haccepted
    exact haccepted.trans (Nat.mod_le _ _)
  by_contra hroom
  have hlong := not_le.mp hroom
  let little : Bytes := List.replicate (boundary - 13) 0
  let data : Bytes := List.replicate c.maxStreamWindowSize.toNat 0
  have hlittle : little.length = boundary - 13 := List.length_replicate
  have hdata : data.length = c.maxStreamWindowSize.toNat := List.length_replicate
  refine (h (fun _ => .wide c.maxStreamWindowSize hwindow)
    (fun _ => sampleStream c.maxFrameLength) (fun _ => rfl) (fun _ => rfl)
    (fillWindow true little data) .server).2 (refused_fillWindow hwindow true hsized (haead _)
      (by omega) hdata.le (by omega) (by omega) ?_ ?_).1
  · rw [if_pos rfl, hlittle]
    omega
  · rw [if_pos rfl, hlittle, hdata]
    omega

/-- **Nothing is refused exactly when there is room.**  Two sessions with the limits of one
configuration run over encrypted streams.  When there is room for the header of a frame, for the
tag, and for what may be in the buffer before the frame, all that is passed to an encrypted stream
is short enough, and no frame is refused; without the room some run ends with a frame that is
refused. -/
theorem accepts_iff_room (aead : Secio.Aead) (hsized : aead.Sized) (c : ServiceConfig)
    (boundary : ℕ) :
    (c.Room boundary → Accepts aead c boundary) ∧
      ((∀ key limit, aead.Inverts .chaCha20Poly1305 key limit) →
        Yamux.initialStreamWindow ≤ c.maxStreamWindowSize → 13 ≤ boundary → boundary ≤ 262157 →
        (Accepts aead c boundary ↔ c.Room boundary)) :=
  ⟨accepts_of_room hsized, fun haead hwindow hlow hhigh =>
    ⟨room_of_accepts hsized haead hwindow hlow hhigh, accepts_of_room hsized⟩⟩

theorem sized_chaCha : Secio.Aead.chaCha.Sized := by
  intro t key nonce chunk text tag h
  unfold Secio.Aead.chaCha at h
  dsimp only at h
  split at h
  · cases h
    exact ⟨ChaCha.length_crypt key nonce chunk,
      (ChaCha.length_tag key nonce _).trans (Secio.tagSize_eq t).symm⟩
  · cases h

/-- The default limits have room for a boundary of 8 KiB. -/
theorem accepts_iff_room_default : Accepts .chaCha .default 8192 ∧
    (Accepts .chaCha .default 8192 ↔ ServiceConfig.default.Room 8192) := by
  have hroom : ServiceConfig.default.Room 8192 := by
    unfold ServiceConfig.Room
    decide
  obtain ⟨haccepts, hiff⟩ := accepts_iff_room .chaCha sized_chaCha .default 8192
  exact ⟨haccepts hroom, hiff Secio.Aead.inverts_chaCha (UInt32.le_refl _) (by decide) (by decide)⟩

/-- The limits that are left when the length of a frame is set to the size of a window. -/
def tight : ServiceConfig where
  maxFrameLength := 262144
  maxStreamWindowSize := Yamux.initialStreamWindow
  accepted := by decide

theorem withMaxFrameLength_tight :
    ServiceConfig.default.withMaxFrameLength 262144 = some tight := by
  have haccept : ServiceConfig.default.maxStreamWindowSize ≤ UInt32.ofNat 262144 := by decide
  unfold ServiceConfig.withMaxFrameLength
  rw [dif_pos haccept]
  rfl

/-- **A write that fills the window is refused**, with limits that the builder accepts. -/
theorem refused_full_window : ServiceConfig.default.withMaxFrameLength 262144 = some tight ∧
    let p := runFrom (step .chaCha)
      (new (fun _ => .default) 8192 fun _ => sampleStream tight.maxFrameLength)
      (fillWindow false [0] (List.replicate 262144 0))
    (p.writer .server).failed = some .frameTooBig ∧
      ∃ buf ∈ (p.writer .server).passed, tight.maxFrameLength < buf.length + 16 := by
  refine ⟨withMaxFrameLength_tight, ?_⟩
  have hlength : (List.replicate 262144 (0 : UInt8)).length = 262144 := List.length_replicate
  generalize List.replicate 262144 (0 : UInt8) = data at hlength
  have hlimit : tight.maxFrameLength = 262144 := rfl
  have hdata : data.length ≤ Yamux.initialStreamWindow.toNat := hlength.le
  have hdefault : (fun _ : Yamux.SessionType => Yamux.Config.default)
      = fun _ => .wide Yamux.initialStreamWindow (UInt32.le_refl _) := rfl
  rw [hdefault]
  generalize tight.maxFrameLength = limit at hlimit ⊢
  refine refused_fillWindow (UInt32.le_refl _) false sized_chaCha (Secio.Aead.inverts_chaCha _)
    (by decide) hdata (by decide) (by omega) ?_ ?_
  · rw [if_neg Bool.false_ne_true, hlimit]
    decide
  · rw [if_neg Bool.false_ne_true, hlength, hlimit]
    decide

end WritePath

end Tentacle

end CkbP2P

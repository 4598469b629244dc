import CkbP2P.Lib.Run
import CkbP2P.Yamux.Slot

/-!
# The receive window under a hostile peer

The window arithmetic of a handle is unchecked: `max_recv_window - buf_len - recv_window`,
`recv_window -= length` and `send_window -= n` wrap around when the subtrahend is too large.
`Checked` repeats the functions that subtract, and those that call them, in a semantics
where such a subtraction has no result; neither has a data frame that would replace bytes
nobody has read.  The peer is free: any frame the decoder can produce may wait in the
channel, and the session may let go of the stream at any point.
-/

namespace CkbP2P
namespace Yamux

open Lib

/-- `a - b` where overflow is checked. -/
def checkedSub (a b : UInt32) : Option UInt32 := if b ≤ a then some (a - b) else none

theorem checkedSub_of_le {a b : UInt32} (h : b ≤ a) : checkedSub a b = some (a - b) := if_pos h

/-- What can happen to a handle. -/
inductive Stimulus where
  /-- The session puts a frame into the channel. -/
  | frame (f : Frame)
  /-- The session lets go of the stream. -/
  | closeSender
  /-- The session is dropped. -/
  | sessionGone
  /-- The owner calls. -/
  | call (op : HandleOp)
  deriving Repr

/-! ### The checked functions -/

namespace Checked

/-- The body of a data frame as the new buffer, if that loses no unread byte. -/
def refill (readBuf : Bytes) : Option Bytes → Option Bytes
  | none => some readBuf
  | some body => if readBuf.isEmpty then some body else none

/-- `send_window_update`. -/
def sendWindowUpdate (h : StreamHandle) : Option (StreamHandle × Except Error Unit) := do
  let bufLen := UInt32.ofNat h.readBuf.length
  let room ← checkedSub h.maxRecvWindow bufLen
  let delta ← checkedSub room h.recvWindow
  let (h, flags) := h.getFlags
  if delta < h.maxRecvWindow / 2 ∧ flags.value = 0 then some (h, .ok ())
  else
    some ({ h with recvWindow := h.recvWindow + delta }.unboundSendEvent
      (.frame (.newWindowUpdate flags h.id delta)))

/-- `handle_data`. -/
def handleData (h : StreamHandle) (frame : Frame) : Option (StreamHandle × Except Error Unit) :=
  match h.processFlags frame.flags with
  | (h, .error e) => some (h, .error e)
  | (h, .ok ()) =>
    if h.recvWindow < frame.length then some (h, .error .recvWindowExceeded)
    else do
      let readBuf ← refill h.readBuf frame.body
      let recvWindow ← checkedSub h.recvWindow frame.length
      some ({ h with readBuf, recvWindow }, .ok ())

/-- `handle_frame`. -/
def handleFrame (h : StreamHandle) (frame : Frame) : Option (StreamHandle × Except Error Unit) :=
  match frame.ty with
  | .windowUpdate => some (h.handleWindowUpdate frame)
  | .data => handleData h frame
  | _ => some (h, .error .invalidMsgType)

/-- The loop of `recv_frames`. -/
def recvFramesLoop : List Frame → StreamHandle → Option (StreamHandle × Except Error Unit)
  | [], h => some (h.recvFramesLoop [])
  | frame :: frames, h =>
    match h.recvCheck with
    | some r => some r
    | none => do
      match ← handleFrame { h with frameReceiver := h.frameReceiver.pop } frame with
      | (h, .error e) => some (h, .error e)
      | (h, .ok ()) => recvFramesLoop frames h

/-- The end of `poll_read`. -/
def announceRoom (h : StreamHandle) (b : Bytes) :
    Option (StreamHandle × Poll (Except ErrorKind Bytes)) :=
  match h.state with
  | .remoteClosing | .closed | .reset => some (h, .ready (.ok b))
  | _ => do
    match ← sendWindowUpdate h with
    | (h, .error _) => some (h, .ready (.error .brokenPipe))
    | (h, .ok ()) => some (h, .ready (.ok b))

/-- The part of `poll_read` after the frames have been received. -/
def readBuffered (h : StreamHandle) (remaining : ℕ) :
    Option (StreamHandle × Poll (Except ErrorKind Bytes)) :=
  let n := min remaining h.readBuf.length
  if n = 0 then some (h, .pending)
  else announceRoom { h with readBuf := h.readBuf.drop n } (h.readBuf.take n)

/-- `poll_read`. -/
def pollRead (h : StreamHandle) (remaining : ℕ) :
    Option (StreamHandle × Poll (Except ErrorKind Bytes)) :=
  match h.checkSelfState with
  | .error e => some (h, .ready (.error e))
  | .ok true => some (h, .ready (.ok []))
  | .ok false => do
    match ← recvFramesLoop h.frameReceiver.queue h with
    | (h, .error .unexpectedFlag) | (h, .error .recvWindowExceeded)
    | (h, .error .invalidMsgType) => some (h.sendGoAway, .ready (.error .invalidData))
    | (h, _) =>
      match h.checkSelfState with
      | .error e => some (h, .ready (.error e))
      | .ok true => some (h, .ready (.ok []))
      | .ok false => readBuffered h remaining

/-- `poll_write`. -/
def pollWrite (h : StreamHandle) (buf : Bytes) :
    Option (StreamHandle × Poll (Except ErrorKind ℕ)) :=
  match h.state with
  | .reset | .localClosing | .closed => some (h, .ready (.error .brokenPipe))
  | _ =>
    if h.sendWindow = 0 then some (h, .pending)
    else
      let n := min h.sendWindow.toNat buf.length
      match h.sendData (buf.take n) with
      | (h, .ok ()) => do
        let sendWindow ← checkedSub h.sendWindow (UInt32.ofNat n)
        some ({ h with sendWindow }, .ready (.ok n))
      | (h, .error .wouldBlock) => some (h, .pending)
      | (h, .error _) => some (h, .ready (.error .brokenPipe))

/-- A call of the owner, who cannot call a dropped handle. -/
def call (h : StreamHandle) (op : HandleOp) : Option StreamHandle :=
  if h.frameReceiver.receiverGone then some h
  else
    match op with
    | .read remaining => (pollRead h remaining).map (·.1)
    | .write buf => (pollWrite h buf).map (·.1)
    | .shutdown => some h.pollShutdown.1
    | .drop => some h.dropHandle

/-- What happens to the handle. -/
def react (h : StreamHandle) : Stimulus → Option StreamHandle
  | .frame f => some { h with frameReceiver := h.frameReceiver.push f }
  | .closeSender => some { h with frameReceiver := h.frameReceiver.closeSender }
  | .sessionGone => some { h with eventClosed := true }
  | .call op => call h op

/-- A whole run. -/
def run (h : StreamHandle) : List Stimulus → Option StreamHandle
  | [] => some h
  | a :: as => react h a >>= (run · as)

/-- The end of `create_stream`. -/
def create (id : StreamId) (state : StreamState) (maxWindowSize : UInt32) :
    Option StreamHandle :=
  (sendWindowUpdate (.new id (Channel.new Frame 8) state maxWindowSize)).map (·.1)

end Checked

/-! ### The functions of the handle -/

namespace StreamHandle

/-- A call of the owner, who cannot call a dropped handle. -/
def call (h : StreamHandle) (op : HandleOp) : StreamHandle :=
  if h.frameReceiver.receiverGone then h
  else
    match op with
    | .read remaining => (h.pollRead remaining).1
    | .write buf => (h.pollWrite buf).1
    | .shutdown => h.pollShutdown.1
    | .drop => h.dropHandle

/-- What happens to the handle. -/
def react (h : StreamHandle) : Stimulus → StreamHandle
  | .frame f => { h with frameReceiver := h.frameReceiver.push f }
  | .closeSender => { h with frameReceiver := h.frameReceiver.closeSender }
  | .sessionGone => { h with eventClosed := true }
  | .call op => h.call op

/-- A handle as `create_stream` returns it. -/
def create (id : StreamId) (state : StreamState) (maxWindowSize : UInt32) : StreamHandle :=
  (new id (Channel.new Frame 8) state maxWindowSize).sendWindowUpdate.1

/-- The open window and the unread bytes fit the maximum. -/
def Room (h : StreamHandle) : Prop :=
  h.recvWindow.toNat + h.readBuf.length ≤ h.maxRecvWindow.toNat

/-- The frames that wait come from the decoder. -/
def Decoded (h : StreamHandle) : Prop := ∀ f ∈ h.frameReceiver.queue, f.WellFormed

/-- `h'` differs from `h` neither in the receive window nor in what has been received. -/
structure KeepsRoom (h h' : StreamHandle) : Prop where
  max : h'.maxRecvWindow = h.maxRecvWindow
  recvWindow : h'.recvWindow = h.recvWindow
  readBuf : h'.readBuf = h.readBuf
  receiver : h'.frameReceiver = h.frameReceiver

namespace KeepsRoom

variable {h h' h'' : StreamHandle}

theorem refl (h : StreamHandle) : KeepsRoom h h := ⟨rfl, rfl, rfl, rfl⟩

theorem trans (a : KeepsRoom h h') (b : KeepsRoom h' h'') : KeepsRoom h h'' :=
  ⟨b.max.trans a.max, b.recvWindow.trans a.recvWindow, b.readBuf.trans a.readBuf,
    b.receiver.trans a.receiver⟩

theorem room (a : KeepsRoom h h') (hr : h.Room) : h'.Room := by
  unfold Room
  rw [a.max, a.recvWindow, a.readBuf]
  exact hr

theorem decoded (a : KeepsRoom h h') (hd : h.Decoded) : h'.Decoded := by
  unfold Decoded
  rw [a.receiver]
  exact hd

end KeepsRoom

section Keeps

variable (h : StreamHandle)

theorem unboundSendEvent_keepsRoom (event : StreamEvent) :
    KeepsRoom h (h.unboundSendEvent event).1 := by
  unfold unboundSendEvent
  split_ifs
  · exact .refl h
  · exact ⟨rfl, rfl, rfl, rfl⟩

theorem getFlags_keepsRoom : KeepsRoom h h.getFlags.1 := by
  unfold getFlags
  split <;> exact ⟨rfl, rfl, rfl, rfl⟩

theorem processFlags_keepsRoom (flags : Flags) : KeepsRoom h (h.processFlags flags).1 := by
  obtain ⟨_, state, _, _, _, _, _, _, _⟩ := h
  unfold processFlags
  cases flags.contains .ack <;> cases flags.contains .fin <;> cases flags.contains .rst <;>
    cases state <;> exact ⟨rfl, rfl, rfl, rfl⟩

theorem sendClose_keepsRoom : KeepsRoom h h.sendClose.1 :=
  h.getFlags_keepsRoom.trans (unboundSendEvent_keepsRoom _ _)

theorem sendData_keepsRoom (data : Bytes) : KeepsRoom h (h.sendData data).1 :=
  h.getFlags_keepsRoom.trans (unboundSendEvent_keepsRoom _ _)

theorem close_keepsRoom : KeepsRoom h h.close.1 := by
  have moved (st : StreamState) : KeepsRoom h { h with state := st } := ⟨rfl, rfl, rfl, rfl⟩
  unfold close
  cases h.state with
  | init | synSent | synReceived | established =>
    exact (moved .localClosing).trans (sendClose_keepsRoom _)
  | remoteClosing =>
    have hsent := (moved .closed).trans (sendClose_keepsRoom _)
    dsimp only
    generalize ({ h with state := .closed } : StreamHandle).sendClose = r at hsent ⊢
    obtain ⟨h', _ | _⟩ := r
    · exact hsent
    · exact hsent.trans (unboundSendEvent_keepsRoom _ _)
  | reset | closed | localClosing => exact (moved .closed).trans (unboundSendEvent_keepsRoom _ _)

theorem pollShutdown_keepsRoom : KeepsRoom h h.pollShutdown.1 := by
  have hclose := h.close_keepsRoom
  unfold pollShutdown
  generalize h.close = r at hclose ⊢
  obtain ⟨h', _ | _⟩ := r <;> exact hclose

theorem sendGoAway_keepsRoom : KeepsRoom h h.sendGoAway := by
  have moved : KeepsRoom h { h with state := .localClosing } := ⟨rfl, rfl, rfl, rfl⟩
  exact moved.trans (unboundSendEvent_keepsRoom _ _)

theorem sendReset_keepsRoom : KeepsRoom h h.sendReset :=
  h.getFlags_keepsRoom.trans (unboundSendEvent_keepsRoom _ _)

theorem announceDrop_keepsRoom : KeepsRoom h h.announceDrop := by
  unfold announceDrop
  split_ifs
  · exact .refl h
  · cases h.state with
    | localClosing | reset => exact unboundSendEvent_keepsRoom _ _
    | init | synSent | synReceived | established | remoteClosing | closed =>
      exact h.sendReset_keepsRoom.trans (unboundSendEvent_keepsRoom _ _)

theorem handleWindowUpdate_keepsRoom (frame : Frame) :
    KeepsRoom h (h.handleWindowUpdate frame).1 := by
  have hflags := h.processFlags_keepsRoom frame.flags
  unfold handleWindowUpdate
  generalize h.processFlags frame.flags = r at hflags ⊢
  obtain ⟨h', _ | _⟩ := r
  · exact hflags
  · dsimp only
    split_ifs
    · exact { hflags with }
    · exact hflags

end Keeps

end StreamHandle

/-! ### No subtraction underflows -/

namespace Checked

open StreamHandle

variable {h : StreamHandle} {α : Type}

/-- The checked call has the result of the call, which keeps the bound and only takes
frames from the channel. -/
structure Agrees (h : StreamHandle) (c : Option (StreamHandle × α)) (r : StreamHandle × α) :
    Prop where
  eq : c = some r
  room : r.1.Room
  queue : r.1.frameReceiver.queue ⊆ h.frameReceiver.queue

theorem Agrees.of_keeps {h' : StreamHandle} (hr : h.Room) (hk : KeepsRoom h h') (a : α) :
    Agrees h (some (h', a)) (h', a) :=
  ⟨rfl, hk.room hr, by rw [hk.receiver]; exact List.Subset.refl _⟩

/-- The room for an update is what the unread bytes and the open window leave. -/
theorem sendWindowUpdate_agrees (hr : h.Room) :
    Agrees h (sendWindowUpdate h) h.sendWindowUpdate := by
  have hmax := h.maxRecvWindow.toNat_lt
  have hroom : h.recvWindow.toNat + h.readBuf.length ≤ h.maxRecvWindow.toNat := hr
  have hlen : (UInt32.ofNat h.readBuf.length).toNat = h.readBuf.length :=
    UInt32.toNat_ofNat_of_lt' (by simp only [UInt32.size]; omega)
  have hle : UInt32.ofNat h.readBuf.length ≤ h.maxRecvWindow := by
    rw [UInt32.le_iff_toNat_le, hlen]
    omega
  have hroomNat : (h.maxRecvWindow - UInt32.ofNat h.readBuf.length).toNat
      = h.maxRecvWindow.toNat - h.readBuf.length := by
    rw [UInt32.toNat_sub_of_le _ _ hle, hlen]
  have hle' : h.recvWindow ≤ h.maxRecvWindow - UInt32.ofNat h.readBuf.length := by
    rw [UInt32.le_iff_toNat_le, hroomNat]
    omega
  have hkeeps := h.getFlags_keepsRoom
  have hdelta : (h.recvWindow
      + (h.maxRecvWindow - UInt32.ofNat h.readBuf.length - h.recvWindow)).toNat
      = h.maxRecvWindow.toNat - h.readBuf.length := by
    rw [UInt32.add_comm, UInt32.sub_add_cancel, hroomNat]
  unfold sendWindowUpdate StreamHandle.sendWindowUpdate
  simp only [checkedSub_of_le hle, checkedSub_of_le hle', Option.bind_eq_bind, Option.bind_some]
  generalize h.getFlags = r at hkeeps ⊢
  obtain ⟨h', flags⟩ := r
  dsimp only at hkeeps ⊢
  split_ifs
  · exact .of_keeps hr hkeeps _
  · refine ⟨rfl, (unboundSendEvent_keepsRoom _ _).room ?_, ?_⟩
    · unfold Room
      dsimp only
      rw [hkeeps.recvWindow, hkeeps.readBuf, hkeeps.max, hdelta]
      omega
    · rw [(unboundSendEvent_keepsRoom _ _).receiver]
      dsimp only
      rw [hkeeps.receiver]
      exact List.Subset.refl _

/-- A data frame that fits the window moves bytes from the window to the empty buffer. -/
theorem handleData_agrees (hr : h.Room) (hbuf : h.readBuf = []) {f : Frame}
    (hf : f.WellFormed) (hty : f.ty = .data) : Agrees h (handleData h f) (h.handleData f) := by
  obtain ⟨b, hbody, hlen⟩ : ∃ b, f.body = some b ∧ f.length.toNat = b.length := by
    have hshape := hf.2
    rwa [hty] at hshape
  have hkeeps := h.processFlags_keepsRoom f.flags
  unfold handleData StreamHandle.handleData
  generalize h.processFlags f.flags = r at hkeeps ⊢
  obtain ⟨h', _ | _⟩ := r
  · exact .of_keeps hr hkeeps _
  dsimp only at hkeeps ⊢
  split_ifs with hlt
  · exact .of_keeps hr hkeeps _
  · have hle : f.length ≤ h'.recvWindow := UInt32.not_lt.mp hlt
    have hle' := UInt32.le_iff_toNat_le.mp hle
    have hroom : h'.recvWindow.toNat + h'.readBuf.length ≤ h'.maxRecvWindow.toNat :=
      hkeeps.room hr
    have hempty : h'.readBuf = [] := hkeeps.readBuf.trans hbuf
    have hrefill : refill h'.readBuf f.body = some (f.body.getD h'.readBuf) := by
      rw [hempty, hbody]
      rfl
    refine ⟨?_, ?_, ?_⟩
    · simp only [hrefill, checkedSub_of_le hle, Option.bind_eq_bind, Option.bind_some]
    · unfold Room
      dsimp only
      rw [hbody, Option.getD_some, UInt32.toNat_sub_of_le _ _ hle]
      omega
    · dsimp only
      rw [hkeeps.receiver]
      exact List.Subset.refl _

theorem handleFrame_agrees (hr : h.Room) (hbuf : h.readBuf = []) {f : Frame}
    (hf : f.WellFormed) : Agrees h (handleFrame h f) (h.handleFrame f) := by
  unfold handleFrame StreamHandle.handleFrame
  cases hty : f.ty with
  | data => exact handleData_agrees hr hbuf hf hty
  | windowUpdate => exact .of_keeps hr (h.handleWindowUpdate_keepsRoom f) _
  | ping | goAway => exact .of_keeps hr (.refl h) _

/-- Only the state changes when the loop ends at its head. -/
theorem recvCheck_keepsRoom {p : StreamHandle × Except Error Unit} (hc : h.recvCheck = some p) :
    KeepsRoom h p.1 := by
  unfold recvCheck at hc
  split at hc
  · cases hc
    exact .refl h
  · cases hc
    exact .refl h
  · cases hc
    exact .refl h
  · split_ifs at hc <;> cases hc
    · exact .refl h
    · exact ⟨rfl, rfl, rfl, rfl⟩

/-- A frame is only taken when the buffer is empty. -/
theorem recvFramesLoop_agrees (frames : List Frame) :
    ∀ {h : StreamHandle}, h.Room → (∀ f ∈ frames, f.WellFormed) →
      Agrees h (recvFramesLoop frames h) (h.recvFramesLoop frames) := by
  induction frames with
  | nil =>
    intro h hr _
    refine ⟨rfl, ?_, ?_⟩ <;> unfold StreamHandle.recvFramesLoop <;> cases hc : h.recvCheck with
    | some p =>
      first
      | exact (recvCheck_keepsRoom hc).room hr
      | simp [(recvCheck_keepsRoom hc).receiver]
    | none =>
      unfold Channel.pollNext
      cases hq : h.frameReceiver.queue with
      | nil => by_cases hs : h.frameReceiver.senderGone <;> simp [hs, hq] <;> exact hr
      | cons f fs => first | exact hr | simp [hq]
  | cons f frames ih =>
    intro h hr hwf
    unfold recvFramesLoop StreamHandle.recvFramesLoop
    cases hc : h.recvCheck with
    | some p => exact .of_keeps hr (recvCheck_keepsRoom hc) p.2
    | none =>
      have hpop : ∀ g ∈ h.frameReceiver.pop.queue, g ∈ h.frameReceiver.queue :=
        fun g hg => List.mem_of_mem_tail hg
      have hframe := handleFrame_agrees (h := { h with frameReceiver := h.frameReceiver.pop })
        hr (recvCheck_none hc).2 (hwf f List.mem_cons_self)
      simp only [hframe.eq, Option.bind_eq_bind, Option.bind_some]
      generalize StreamHandle.handleFrame _ f = r at hframe ⊢
      have hsub := fun g hg => hpop g (hframe.queue hg)
      obtain ⟨h', _ | _⟩ := r
      · exact ⟨rfl, hframe.room, hsub⟩
      · have hrest := ih hframe.room fun g hg => hwf g (List.mem_cons_of_mem f hg)
        exact { hrest with queue := fun g hg => hsub g (hrest.queue hg) }

theorem announceRoom_agrees (hr : h.Room) (b : Bytes) :
    Agrees h (announceRoom h b) (h.announceRoom b) := by
  have hupdate := sendWindowUpdate_agrees hr
  have hquiet : Agrees h (some (h, Poll.ready (Except.ok (ε := ErrorKind) b)))
      (h, .ready (.ok b)) := .of_keeps hr (.refl h) _
  unfold announceRoom StreamHandle.announceRoom
  cases h.state with
  | remoteClosing | closed | reset => exact hquiet
  | init | synSent | synReceived | established | localClosing =>
    simp only [hupdate.eq, Option.bind_eq_bind, Option.bind_some]
    generalize h.sendWindowUpdate = r at hupdate ⊢
    obtain ⟨h', _ | _⟩ := r <;> exact ⟨rfl, hupdate.room, hupdate.queue⟩

theorem readBuffered_agrees (hr : h.Room) (remaining : ℕ) :
    Agrees h (readBuffered h remaining) (h.readBuffered remaining) := by
  unfold readBuffered StreamHandle.readBuffered
  dsimp only
  split_ifs
  · exact .of_keeps hr (.refl h) _
  · refine { announceRoom_agrees (h := { h with readBuf := h.readBuf.drop _ }) ?_ _ with }
    have hroom : h.recvWindow.toNat + h.readBuf.length ≤ h.maxRecvWindow.toNat := hr
    unfold Room
    dsimp only
    rw [List.length_drop]
    omega

/-- **Reading**, whatever waits in the channel. -/
theorem pollRead_agrees (hr : h.Room) (hd : h.Decoded) (remaining : ℕ) :
    Agrees h (pollRead h remaining) (h.pollRead remaining) := by
  have hrecv := recvFramesLoop_agrees h.frameReceiver.queue hr hd
  unfold pollRead StreamHandle.pollRead recvFrames
  cases h.checkSelfState with
  | error e => exact .of_keeps hr (.refl h) _
  | ok eof =>
    cases eof with
    | true => exact .of_keeps hr (.refl h) _
    | false =>
      simp only [hrecv.eq, Option.bind_eq_bind, Option.bind_some]
      generalize h.recvFramesLoop h.frameReceiver.queue = r at hrecv ⊢
      obtain ⟨h', res⟩ := r
      have later {c : Option (StreamHandle × Poll (Except ErrorKind Bytes))}
          {r : StreamHandle × Poll (Except ErrorKind Bytes)} (ha : Agrees h' c r) :
          Agrees h c r := { ha with queue := fun g hg => hrecv.queue (ha.queue hg) }
      have hbad := later (.of_keeps hrecv.room h'.sendGoAway_keepsRoom
        (Poll.ready (Except.error (α := Bytes) ErrorKind.invalidData)))
      have hgood : Agrees h
          (match h'.checkSelfState with
            | .error e => some (h', .ready (.error e))
            | .ok true => some (h', .ready (.ok []))
            | .ok false => readBuffered h' remaining)
          (match h'.checkSelfState with
            | .error e => (h', .ready (.error e))
            | .ok true => (h', .ready (.ok []))
            | .ok false => h'.readBuffered remaining) := by
        cases h'.checkSelfState with
        | error e => exact later (.of_keeps hrecv.room (.refl h') _)
        | ok eof =>
          cases eof with
          | true => exact later (.of_keeps hrecv.room (.refl h') _)
          | false => exact later (readBuffered_agrees hrecv.room remaining)
      rcases res with e | _
      · cases e <;> first | exact hbad | exact hgood
      · exact hgood

/-- Sending data leaves the window to the caller. -/
theorem sendWindow_sendData (h : StreamHandle) (data : Bytes) :
    (h.sendData data).1.sendWindow = h.sendWindow := by
  unfold sendData getFlags unboundSendEvent
  cases h.state <;> dsimp only <;> split_ifs <;> rfl

/-- **Writing** takes no more than the send window. -/
theorem pollWrite_agrees (hr : h.Room) (buf : Bytes) :
    Agrees h (pollWrite h buf) (h.pollWrite buf) := by
  have hwin := h.sendWindow.toNat_lt
  unfold pollWrite StreamHandle.pollWrite
  cases h.state with
  | reset | localClosing | closed => exact .of_keeps hr (.refl h) _
  | init | synSent | synReceived | established | remoteClosing =>
    dsimp only
    split_ifs
    · exact .of_keeps hr (.refl h) _
    · generalize hn : min h.sendWindow.toNat buf.length = n
      have hkeeps := h.sendData_keepsRoom (buf.take n)
      have hsame := sendWindow_sendData h (buf.take n)
      generalize h.sendData (buf.take n) = r at hkeeps hsame ⊢
      obtain ⟨h', e | _⟩ := r
      · cases e <;> exact .of_keeps hr hkeeps _
      · have hle : UInt32.ofNat n ≤ h'.sendWindow := by
          rw [hsame, UInt32.le_iff_toNat_le,
            UInt32.toNat_ofNat_of_lt' (by simp only [UInt32.size]; omega)]
          omega
        simp only [checkedSub_of_le hle, Option.bind_eq_bind, Option.bind_some]
        have hspent : KeepsRoom h { h' with sendWindow := h'.sendWindow - UInt32.ofNat n } :=
          ⟨hkeeps.max, hkeeps.recvWindow, hkeeps.readBuf, hkeeps.receiver⟩
        exact .of_keeps hr hspent _

/-! ### Runs -/

/-- What holds of a handle at any point: the bound, and frames from the decoder. -/
structure Bounded (h : StreamHandle) : Prop where
  room : h.Room
  decoded : h.Decoded

theorem Agrees.bounded {c : Option (StreamHandle × α)} {r : StreamHandle × α} (ha : Agrees h c r)
    (hb : Bounded h) : c.map (·.1) = some r.1 ∧ Bounded r.1 :=
  ⟨by rw [ha.eq]; rfl, ha.room, fun f hf => hb.decoded f (ha.queue hf)⟩

/-- A call of the owner has a result, that of the unchecked call. -/
theorem call_eq (hb : Bounded h) (op : HandleOp) :
    call h op = some (h.call op) ∧ Bounded (h.call op) := by
  unfold call StreamHandle.call
  split_ifs
  · exact ⟨rfl, hb⟩
  cases op with
  | read remaining => exact (pollRead_agrees hb.room hb.decoded remaining).bounded hb
  | write buf => exact (pollWrite_agrees hb.room buf).bounded hb
  | shutdown =>
    exact ⟨rfl, h.pollShutdown_keepsRoom.room hb.room, h.pollShutdown_keepsRoom.decoded hb.decoded⟩
  | drop => exact ⟨rfl, h.announceDrop_keepsRoom.room hb.room, fun f hf => by cases hf⟩

/-- **One step**: whatever happens, the checked handle does what the handle does, and the
bound stays. -/
theorem react_eq (hb : Bounded h) {a : Stimulus} (ha : ∀ f, a = .frame f → f.WellFormed) :
    react h a = some (h.react a) ∧ Bounded (h.react a) := by
  cases a with
  | frame f =>
    refine ⟨rfl, hb.room, fun g hg => ?_⟩
    rcases List.mem_append.mp hg with hg | hg
    · exact hb.decoded g hg
    · cases List.mem_singleton.mp hg
      exact ha f rfl
  | closeSender => exact ⟨rfl, hb.room, hb.decoded⟩
  | sessionGone => exact ⟨rfl, hb.room, hb.decoded⟩
  | call op => exact call_eq hb op

/-- The first window update of a handle whose maximum is at least the initial window. -/
theorem create_eq (id : StreamId) (state : StreamState) {maxWindowSize : UInt32}
    (hmax : initialStreamWindow ≤ maxWindowSize) :
    create id state maxWindowSize = some (.create id state maxWindowSize) ∧
      Bounded (.create id state maxWindowSize) := by
  have hnew : (StreamHandle.new id (Channel.new Frame 8) state maxWindowSize).Room :=
    UInt32.le_iff_toNat_le.mp hmax
  exact (sendWindowUpdate_agrees hnew).bounded ⟨hnew, fun f hf => by cases hf⟩

theorem run_eq (hb : Bounded h) (as : List Stimulus) (has : ∀ f, .frame f ∈ as → f.WellFormed) :
    run h as = some (runFrom StreamHandle.react h as) ∧
      Bounded (runFrom StreamHandle.react h as) := by
  induction as generalizing h with
  | nil => exact ⟨rfl, hb⟩
  | cons a as ih =>
    obtain ⟨heq, hb'⟩ := react_eq hb fun f hf => has f (hf ▸ List.mem_cons_self)
    have hrest := ih hb' fun f hf => has f (List.mem_cons_of_mem a hf)
    refine ⟨?_, hrest.2⟩
    rw [run, heq, Option.bind_eq_bind, Option.bind_some]
    exact hrest.1

end Checked

/-- **The receive window under a hostile peer.**  From its creation on, whatever frames of
the decoder reach the handle and however the owner's calls fall between them: no
subtraction underflows and no unread byte is overwritten (the checked run has a result,
that of the run), and the open window and the unread bytes never exceed the maximum. -/
theorem window_never_underflows (id : StreamId) (state : StreamState) (maxWindowSize : UInt32)
    (hmax : initialStreamWindow ≤ maxWindowSize) (as : List Stimulus)
    (has : ∀ f, .frame f ∈ as → f.WellFormed) :
    ∃ h, (Checked.create id state maxWindowSize >>= (Checked.run · as)) = some h ∧
      h = runFrom StreamHandle.react (.create id state maxWindowSize) as ∧
      h.recvWindow.toNat + h.readBuf.length ≤ h.maxRecvWindow.toNat := by
  obtain ⟨hcreate, hb⟩ := Checked.create_eq id state hmax
  obtain ⟨hrun, hb'⟩ := Checked.run_eq hb as has
  refine ⟨_, ?_, rfl, hb'.room⟩
  rw [hcreate, Option.bind_eq_bind, Option.bind_some]
  exact hrun

/-- A window update by the largest delta, a ping and data with all flags set reach an
opener, who reads once. -/
theorem window_never_underflows_hostile :
    ∃ h, (Checked.create 1 .init initialStreamWindow >>= (Checked.run ·
        [.frame (.newWindowUpdate .empty 1 4294967295), .frame (.newPing .empty 7),
          .frame (.newData ⟨15⟩ 1 [1, 2, 3]), .call (.read 2)])) = some h ∧
      h = runFrom StreamHandle.react (.create 1 .init initialStreamWindow)
        [.frame (.newWindowUpdate .empty 1 4294967295), .frame (.newPing .empty 7),
          .frame (.newData ⟨15⟩ 1 [1, 2, 3]), .call (.read 2)] ∧
      h.recvWindow.toNat + h.readBuf.length ≤ h.maxRecvWindow.toNat := by
  refine window_never_underflows 1 .init initialStreamWindow (UInt32.le_refl _) _ ?_
  intro f hf
  simp only [List.mem_cons, List.not_mem_nil, Stimulus.frame.injEq, reduceCtorEq, or_false] at hf
  rcases hf with rfl | rfl | rfl
  · exact Frame.wellFormed_newWindowUpdate _ _ _
  · exact Frame.wellFormed_newPing _ _
  · exact Frame.wellFormed_newData (by decide)

end Yamux
end CkbP2P

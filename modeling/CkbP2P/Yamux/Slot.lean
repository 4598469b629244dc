import CkbP2P.Yamux.StreamSpec

/-!
# Stream handles with their history

To speak of the bytes written and read so far, a handle is kept together with four
history variables that no function of the source looks at.  A slot stays in place
when its handle is dropped, so that its history can still be referred to.
-/

namespace CkbP2P
namespace Yamux

open Lib

/-- What the owner of a handle does with it. -/
inductive HandleOp where
  /-- `poll_read` with a buffer that has `remaining` free bytes. -/
  | read (remaining : ℕ)
  /-- `poll_write`. -/
  | write (buf : Bytes)
  /-- `poll_shutdown`. -/
  | shutdown
  | drop
  deriving DecidableEq, Repr

/-- A handle and its history. -/
structure Slot where
  handle : StreamHandle
  /-- Bytes accepted by `poll_write` so far. -/
  written : Bytes
  /-- Bytes returned by `poll_read` so far. -/
  returned : Bytes
  /-- Frames emitted so far. -/
  sent : List Frame
  /-- Frames taken from the channel so far. -/
  received : List Frame
  deriving DecidableEq, Repr

namespace Slot

/-- The handle after a call, with its events passed on to the session. -/
def settle (sl : Slot) (h : StreamHandle) : Slot × List StreamEvent :=
  ({ sl with handle := { h with outbox := [] }, sent := sl.sent ++ framesOf h.outbox }, h.outbox)

/-- A stream is created and sends its first window update. -/
def create (id : StreamId) (state : StreamState) (maxWindowSize : UInt32) :
    Slot × List StreamEvent :=
  let h := StreamHandle.new id (Channel.new Frame 8) state maxWindowSize
  Slot.settle ⟨h, [], [], [], []⟩ h.sendWindowUpdate.1

/-- The frames a call took from the channel. -/
def takenBy (h h' : StreamHandle) : List Frame :=
  h.frameReceiver.queue.take (h.frameReceiver.queue.length - h'.frameReceiver.queue.length)

/-- One call on the handle.  A dropped handle cannot be called. -/
def apply (sl : Slot) (op : HandleOp) : Slot × List StreamEvent :=
  if sl.handle.frameReceiver.receiverGone then (sl, [])
  else
    match op with
    | .read remaining =>
      let (h, r) := sl.handle.pollRead remaining
      { sl with
        received := sl.received ++ takenBy sl.handle h
        returned := sl.returned ++ StreamHandle.readBytes r }.settle h
    | .write buf =>
      let (h, r) := sl.handle.pollWrite buf
      { sl with written := sl.written ++ StreamHandle.acceptedBy buf r }.settle h
    | .shutdown => sl.settle sl.handle.pollShutdown.1
    | .drop => sl.settle sl.handle.dropHandle

/-- The session puts a frame into the channel. -/
def push (sl : Slot) (f : Frame) : Slot :=
  { sl with handle := { sl.handle with frameReceiver := sl.handle.frameReceiver.push f } }

/-- The session lets go of the stream. -/
def closeSender (sl : Slot) : Slot :=
  { sl with handle := { sl.handle with frameReceiver := sl.handle.frameReceiver.closeSender } }

/-- The frames waiting in the channel. -/
def queue (sl : Slot) : List Frame := sl.handle.frameReceiver.queue

/-- The owner has dropped the handle. -/
def gone (sl : Slot) : Bool := sl.handle.frameReceiver.receiverGone

/-- The history agrees with the handle. -/
structure Inv (sl : Slot) : Prop where
  good : sl.handle.Good
  outbox : sl.handle.outbox = []
  written : sl.written = payloadOf sl.sent
  returned : payloadOf sl.received = sl.returned ++ sl.handle.readBuf
  /-- A FIN, once taken, is the last frame taken, and everything has been read. -/
  fin : NoFin sl.received ∨ EndsWithFin sl.received ∧ sl.handle.Stopped ∧ sl.handle.readBuf = []

/-- `sl` became `sl'` by a call that took the frames `taken` and emitted `emitted`. -/
structure Step (sl sl' : Slot) (taken emitted : List Frame) : Prop where
  id : sl'.handle.id = sl.handle.id
  max : sl'.handle.maxRecvWindow = sl.handle.maxRecvWindow
  inv : sl'.Inv
  sent : sl'.sent = sl.sent ++ emitted
  received : sl'.received = sl.received ++ taken
  /-- A prefix of the queue is taken; dropping the handle empties it. -/
  queue : sl.queue = taken ++ sl'.queue ∨ taken = [] ∧ sl'.queue = [] ∧ sl'.gone = true
  sendWindow : sl'.handle.sendWindow.toNat + bytesOf emitted
    = sl.handle.sendWindow.toNat + deltasOf taken
  recvWindow : sl'.handle.recvWindow.toNat + bytesOf taken
    = sl.handle.recvWindow.toNat + deltasOf emitted
  honest : ∀ f ∈ emitted, f.Honest sl.handle.id ∧ f.isSyn = false

theorem Step.refl {sl : Slot} (hi : sl.Inv) : Step sl sl [] [] where
  id := rfl
  max := rfl
  inv := hi
  sent := by simp
  received := by simp
  queue := .inl (by simp)
  sendWindow := by simp
  recvWindow := by simp
  honest := by simp

theorem takenBy_eq {h h' : StreamHandle} {t e : List Frame} {o w : Bytes}
    (heff : Effect h h' t e o w) : takenBy h h' = t := by
  simp [takenBy, heff.queue]

/-- A call whose effect on the handle is known, and whose history is recorded, is a
step of the slot. -/
theorem step_of_effect {sl : Slot} (hi : sl.Inv) {h : StreamHandle} {t e : List Frame}
    {o w : Bytes} (heff : Effect sl.handle h t e o w) :
    let sl₁ : Slot := { sl with received := sl.received ++ t, returned := sl.returned ++ o,
                                written := sl.written ++ w }
    Step sl (sl₁.settle h).1 t (framesOf (sl₁.settle h).2) := by
  have hout : framesOf h.outbox = e := by simpa [hi.outbox] using heff.outbox
  show Step sl _ t (framesOf h.outbox)
  rw [hout]
  exact
    { id := heff.id, max := heff.max
      inv :=
        { good := ⟨heff.good.alive, heff.good.started, heff.good.room⟩
          outbox := rfl
          written := by simp [settle, hout, hi.written, heff.payload]
          returned := by
            simp only [settle, payloadOf_append, hi.returned, List.append_assoc]
            rw [heff.bytes]
          fin := by
            rcases hi.fin with hn | ⟨he, hs, hb⟩
            · exact heff.fin.imp hn.append fun ⟨he, hs, hb⟩ =>
                ⟨hn.append_endsWithFin he, hs, hb⟩
            · obtain ⟨hs', rfl⟩ := heff.stopped hs
              have hbytes := heff.bytes
              rw [hb] at hbytes
              exact .inr ⟨by simpa [settle] using he, hs',
                (List.append_eq_nil_iff.mp hbytes.symm).2⟩ }
      sent := by simp [settle, hout]
      received := rfl
      queue := .inl heff.queue
      sendWindow := heff.sendWindow
      recvWindow := heff.recvWindow
      honest := heff.honest }

/-- Losing the channel is a step that empties the queue. -/
theorem Step.dropReceiver {sl sl' : Slot} {e : List Frame} (hs : Step sl sl' [] e) :
    Step sl { sl' with handle := { sl'.handle with
        frameReceiver := sl'.handle.frameReceiver.dropReceiver } } [] e :=
  { hs with
    inv := { hs.inv with good := ⟨hs.inv.good.alive, hs.inv.good.started, hs.inv.good.room⟩ }
    queue := .inr ⟨rfl, rfl, rfl⟩ }

/-- **Every call on a slot whose waiting frames are safe is a step.** -/
theorem apply_step {sl : Slot} (hi : sl.Inv) (hsafe : sl.handle.Safe) (op : HandleOp) :
    ∃ taken, Step sl (sl.apply op).1 taken (framesOf (sl.apply op).2) := by
  unfold apply
  split_ifs
  · exact ⟨[], .refl hi⟩
  cases op with
  | read remaining =>
    obtain ⟨h, r, t, e, heq, heff⟩ := StreamHandle.pollRead_effect hi.good hsafe remaining
    simp only [heq, takenBy_eq heff]
    exact ⟨t, by simpa using step_of_effect hi heff⟩
  | write buf =>
    obtain ⟨h, e, r, heq, heff⟩ := StreamHandle.pollWrite_effect hi.good buf
    simp only [heq]
    exact ⟨[], by simpa using step_of_effect hi heff⟩
  | shutdown =>
    obtain ⟨h, e, heq, heff⟩ := StreamHandle.pollShutdown_effect hi.good
    simp only [heq]
    exact ⟨[], by simpa using step_of_effect hi heff⟩
  | drop =>
    obtain ⟨e, heff⟩ := StreamHandle.announceDrop_effect hi.good
    have hstep := (step_of_effect hi heff).dropReceiver
    simp only [List.append_nil] at hstep
    exact ⟨[], hstep⟩

/-- A dropped handle does nothing. -/
theorem apply_of_gone {sl : Slot} (h : sl.gone = true) (op : HandleOp) : sl.apply op = (sl, []) :=
  if_pos h

/-- A handle that can be called has taken a prefix of its queue, if it is still there after
the call. -/
theorem apply_queue {sl : Slot} {op : HandleOp} {taken : List Frame}
    (hst : Step sl (sl.apply op).1 taken (framesOf (sl.apply op).2))
    (hgone : (sl.apply op).1.gone = false) :
    sl.gone = false ∧ sl.queue = taken ++ (sl.apply op).1.queue := by
  refine ⟨?_, ?_⟩
  · by_contra h
    rw [apply_of_gone (by simpa using h)] at hgone
    exact h hgone
  · rcases hst.queue with hq | ⟨-, -, hq⟩
    · exact hq
    · simp [hq] at hgone

/-- The channel's sender leaves the history alone. -/
theorem Inv.push {sl : Slot} (hi : sl.Inv) (f : Frame) : (sl.push f).Inv :=
  { hi with good := ⟨hi.good.alive, hi.good.started, hi.good.room⟩ }

theorem Inv.closeSender {sl : Slot} (hi : sl.Inv) : sl.closeSender.Inv :=
  { hi with good := ⟨hi.good.alive, hi.good.started, hi.good.room⟩ }

@[simp] theorem queue_push (sl : Slot) (f : Frame) : (sl.push f).queue = sl.queue ++ [f] := rfl

theorem id_push (sl : Slot) (f : Frame) : (sl.push f).handle.id = sl.handle.id := rfl

theorem id_closeSender (sl : Slot) : sl.closeSender.handle.id = sl.handle.id := rfl

@[simp] theorem sendWindow_push (sl : Slot) (f : Frame) :
    (sl.push f).handle.sendWindow = sl.handle.sendWindow := rfl

@[simp] theorem recvWindow_push (sl : Slot) (f : Frame) :
    (sl.push f).handle.recvWindow = sl.handle.recvWindow := rfl

@[simp] theorem sendWindow_closeSender (sl : Slot) :
    sl.closeSender.handle.sendWindow = sl.handle.sendWindow := rfl

@[simp] theorem recvWindow_closeSender (sl : Slot) :
    sl.closeSender.handle.recvWindow = sl.handle.recvWindow := rfl

@[simp] theorem queue_closeSender (sl : Slot) : sl.closeSender.queue = sl.queue := rfl

/-! ### New streams -/

/-- The frame a new stream announces its window with. -/
def hello (flag : Flag) (id : StreamId) (maxWindowSize : UInt32) : Frame :=
  .newWindowUpdate (.ofFlag flag) id (maxWindowSize - initialStreamWindow)

/-- A new stream: the window is open to the maximum, and the difference to the
initial window is announced in the frame with the first flag. -/
theorem create_eq (id : StreamId) (maxWindowSize : UInt32) {state st : StreamState} {flag : Flag}
    (hst : state = .init ∧ st = .synSent ∧ flag = .syn ∨
      state = .synReceived ∧ st = .established ∧ flag = .ack) :
    create id state maxWindowSize =
      (⟨{ StreamHandle.new id (Channel.new Frame 8) st maxWindowSize with
          recvWindow := maxWindowSize }, [], [], [hello flag id maxWindowSize], []⟩,
        [.frame (hello flag id maxWindowSize)]) := by
  have hopen : initialStreamWindow + (maxWindowSize - initialStreamWindow) = maxWindowSize := by
    rw [UInt32.add_comm, UInt32.sub_add_cancel]
  rcases hst with ⟨rfl, rfl, rfl⟩ | ⟨rfl, rfl, rfl⟩ <;>
    simp [create, settle, StreamHandle.sendWindowUpdate, StreamHandle.new, StreamHandle.getFlags,
      StreamHandle.unboundSendEvent, hello, hopen, Flags.ofFlag, Flag.bit]

theorem create_id {id : StreamId} {n : UInt32} {state : StreamState} {sl : Slot}
    {events : List StreamEvent} (hst : state = .init ∨ state = .synReceived)
    (hc : create id state n = (sl, events)) : sl.handle.id = id := by
  rcases hst with rfl | rfl
  · rw [create_eq id n (.inl ⟨rfl, rfl, rfl⟩)] at hc
    cases hc
    rfl
  · rw [create_eq id n (.inr ⟨rfl, rfl, rfl⟩)] at hc
    cases hc
    rfl

/-- An accepted stream starts with an empty channel. -/
theorem create_frameReceiver (id : StreamId) (maxWindowSize : UInt32) :
    (create id .synReceived maxWindowSize).1.handle.frameReceiver = Channel.new Frame 8 := by
  rw [create_eq id maxWindowSize (.inr ⟨rfl, rfl, rfl⟩)]
  rfl

/-- A new stream satisfies the invariant. -/
theorem create_inv (id : StreamId) (maxWindowSize : UInt32) {state : StreamState}
    (hst : state = .init ∨ state = .synReceived) : (create id state maxWindowSize).1.Inv := by
  rcases hst with rfl | rfl
  · rw [create_eq id maxWindowSize (.inl ⟨rfl, rfl, rfl⟩)]
    exact ⟨⟨rfl, by simp [StreamHandle.new], by simp [StreamHandle.new]⟩, rfl, rfl, rfl,
      .inl noFin_nil⟩
  · rw [create_eq id maxWindowSize (.inr ⟨rfl, rfl, rfl⟩)]
    exact ⟨⟨rfl, by simp [StreamHandle.new], by simp [StreamHandle.new]⟩, rfl, rfl, rfl,
      .inl noFin_nil⟩

end Slot

end Yamux
end CkbP2P

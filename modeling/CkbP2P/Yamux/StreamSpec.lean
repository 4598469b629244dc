import CkbP2P.Yamux.Stream

/-!
# What a stream handle does to its windows and queues

Every call on a handle takes a prefix of the frames waiting in its channel, emits
some frames, and hands out some bytes.  `Effect` relates the handle before and
after to these three lists; the window arithmetic and the byte accounting are
equations between them.
-/

namespace CkbP2P
namespace Yamux

open Lib

/-! ### Measuring lists of frames -/

namespace Frame

/-- Data bytes counted against the receiver's window. -/
def dataBytes (f : Frame) : ℕ := if f.ty = .data then f.length.toNat else 0

/-- What the frame adds to the window of the end it travels to. -/
def delta (f : Frame) : ℕ := if f.ty = .windowUpdate then f.length.toNat else 0

/-- The bytes the frame carries. -/
def payload (f : Frame) : Bytes := if f.ty = .data then f.body.getD [] else []

/-- The frame ends its direction of the stream. -/
def isFin (f : Frame) : Bool := f.flags.contains .fin

/-- The frame asks for a new stream. -/
def isSyn (f : Frame) : Bool := f.flags.contains .syn

/-- The shapes of the frames an end of stream `id` emits; a data frame never
carries FIN. -/
inductive Honest (id : StreamId) : Frame → Prop
  | data (fs : Flags) (b : Bytes) (hb : b.length < 2 ^ 32) (hfin : fs.contains .fin = false) :
    Honest id (newData fs id b)
  | windowUpdate (fs : Flags) (delta : UInt32) : Honest id (newWindowUpdate fs id delta)

end Frame

/-- Data bytes of a list of frames. -/
def bytesOf (l : List Frame) : ℕ := (l.map Frame.dataBytes).sum

/-- Window deltas of a list of frames. -/
def deltasOf (l : List Frame) : ℕ := (l.map Frame.delta).sum

/-- Payload of a list of frames. -/
def payloadOf (l : List Frame) : Bytes := l.flatMap Frame.payload

@[simp] theorem bytesOf_nil : bytesOf [] = 0 := rfl
@[simp] theorem deltasOf_nil : deltasOf [] = 0 := rfl
@[simp] theorem payloadOf_nil : payloadOf [] = [] := rfl

@[simp] theorem bytesOf_cons (f : Frame) (l : List Frame) :
    bytesOf (f :: l) = f.dataBytes + bytesOf l := by simp [bytesOf]

@[simp] theorem deltasOf_cons (f : Frame) (l : List Frame) :
    deltasOf (f :: l) = f.delta + deltasOf l := by simp [deltasOf]

@[simp] theorem payloadOf_cons (f : Frame) (l : List Frame) :
    payloadOf (f :: l) = f.payload ++ payloadOf l := by simp [payloadOf]

@[simp] theorem bytesOf_append (l l' : List Frame) :
    bytesOf (l ++ l') = bytesOf l + bytesOf l' := by simp [bytesOf]

@[simp] theorem deltasOf_append (l l' : List Frame) :
    deltasOf (l ++ l') = deltasOf l + deltasOf l' := by simp [deltasOf]

@[simp] theorem payloadOf_append (l l' : List Frame) :
    payloadOf (l ++ l') = payloadOf l ++ payloadOf l' := by simp [payloadOf]

theorem payloadOf_isPrefix {l l' : List Frame} (h : l <+: l') : payloadOf l <+: payloadOf l' := by
  obtain ⟨r, rfl⟩ := h
  exact ⟨payloadOf r, by simp⟩

@[simp] theorem dataBytes_newWindowUpdate (fs : Flags) (id : StreamId) (d : UInt32) :
    (Frame.newWindowUpdate fs id d).dataBytes = 0 := rfl

@[simp] theorem delta_newWindowUpdate (fs : Flags) (id : StreamId) (d : UInt32) :
    (Frame.newWindowUpdate fs id d).delta = d.toNat := rfl

@[simp] theorem payload_newWindowUpdate (fs : Flags) (id : StreamId) (d : UInt32) :
    (Frame.newWindowUpdate fs id d).payload = [] := rfl

@[simp] theorem delta_newData (fs : Flags) (id : StreamId) (b : Bytes) :
    (Frame.newData fs id b).delta = 0 := rfl

@[simp] theorem payload_newData (fs : Flags) (id : StreamId) (b : Bytes) :
    (Frame.newData fs id b).payload = b := rfl

@[simp] theorem isSyn_newWindowUpdate (fs : Flags) (id : StreamId) (d : UInt32) :
    (Frame.newWindowUpdate fs id d).isSyn = fs.contains .syn := rfl

@[simp] theorem isFin_newWindowUpdate (fs : Flags) (id : StreamId) (d : UInt32) :
    (Frame.newWindowUpdate fs id d).isFin = fs.contains .fin := rfl

@[simp] theorem isSyn_newData (fs : Flags) (id : StreamId) (b : Bytes) :
    (Frame.newData fs id b).isSyn = fs.contains .syn := rfl

theorem dataBytes_newData {fs : Flags} {id : StreamId} {b : Bytes} (hb : b.length < 2 ^ 32) :
    (Frame.newData fs id b).dataBytes = b.length := UInt32.toNat_ofNat_of_lt' hb

namespace Frame.Honest

variable {id : StreamId} {f : Frame}

theorem wellFormed (h : Honest id f) : f.WellFormed := by
  cases h with
  | data fs b hb _ => exact wellFormed_newData hb
  | windowUpdate fs d => exact wellFormed_newWindowUpdate fs id d

theorem streamId_eq (h : Honest id f) : f.streamId = id := by cases h <;> rfl

/-- A frame that ends a direction carries no bytes. -/
theorem payload_of_isFin (h : Honest id f) (hf : f.isFin) : f.payload = [] := by
  cases h with
  | data fs b _ hfin => exact absurd hf (by simp [isFin, flags, newData, hfin])
  | windowUpdate fs d => rfl

end Frame.Honest

/-- No frame of the list ends the direction. -/
def NoFin (l : List Frame) : Prop := ∀ f ∈ l, f.isFin = false

/-- The last frame of the list, and no other, ends the direction; it carries no bytes. -/
def EndsWithFin (l : List Frame) : Prop :=
  ∃ l₀ f, l = l₀ ++ [f] ∧ NoFin l₀ ∧ f.isFin = true ∧ f.payload = []

theorem noFin_nil : NoFin [] := by simp [NoFin]

theorem NoFin.append {l l' : List Frame} (h : NoFin l) (h' : NoFin l') : NoFin (l ++ l') := by
  intro f hf
  rcases List.mem_append.mp hf with hf | hf
  · exact h f hf
  · exact h' f hf

theorem NoFin.append_endsWithFin {l l' : List Frame} (h : NoFin l) (h' : EndsWithFin l') :
    EndsWithFin (l ++ l') := by
  obtain ⟨l₀, f, rfl, h₀, hf⟩ := h'
  exact ⟨l ++ l₀, f, by simp, h.append h₀, hf⟩

/-- The frames among a list of events. -/
def framesOf (l : List StreamEvent) : List Frame :=
  l.filterMap fun
    | .frame f => some f
    | _ => none

@[simp] theorem framesOf_nil : framesOf [] = [] := rfl

@[simp] theorem framesOf_append (l l' : List StreamEvent) :
    framesOf (l ++ l') = framesOf l ++ framesOf l' := by simp [framesOf]

@[simp] theorem framesOf_frame_cons (f : Frame) (l : List StreamEvent) :
    framesOf (.frame f :: l) = f :: framesOf l := rfl

@[simp] theorem framesOf_closed_cons (id : StreamId) (l : List StreamEvent) :
    framesOf (.closed id :: l) = framesOf l := rfl

@[simp] theorem framesOf_goAway_cons (l : List StreamEvent) :
    framesOf (.goAway :: l) = framesOf l := rfl

/-! ### The effect of a call -/

namespace StreamHandle

/-- The handle takes no further frames. -/
def Stopped (h : StreamHandle) : Prop :=
  h.state = .remoteClosing ∨ h.state = .closed ∨ h.state = .reset

/-- The handle's own invariant. -/
structure Good (h : StreamHandle) : Prop where
  /-- The session is there. -/
  alive : h.eventClosed = false
  /-- The first frame has been emitted. -/
  started : h.state ≠ .init
  /-- Unread bytes and the open window fit the maximum together. -/
  room : h.recvWindow.toNat + h.readBuf.length ≤ h.maxRecvWindow.toNat

/-- The waiting frames can be processed without an error. -/
structure Safe (h : StreamHandle) : Prop where
  honest : ∀ f ∈ h.frameReceiver.queue, f.Honest h.id
  recv : bytesOf h.frameReceiver.queue ≤ h.recvWindow.toNat
  send : h.sendWindow.toNat + deltasOf h.frameReceiver.queue < 2 ^ 32

end StreamHandle

open StreamHandle in
/-- `h` became `h'` by taking the frames `taken` from the channel, emitting
`emitted`, handing out the bytes `out` and accepting the bytes `accepted`. -/
structure Effect (h h' : StreamHandle) (taken emitted : List Frame) (out accepted : Bytes) :
    Prop where
  id : h'.id = h.id
  max : h'.maxRecvWindow = h.maxRecvWindow
  good : h'.Good
  outbox : framesOf h'.outbox = framesOf h.outbox ++ emitted
  queue : h.frameReceiver.queue = taken ++ h'.frameReceiver.queue
  sendWindow : h'.sendWindow.toNat + bytesOf emitted = h.sendWindow.toNat + deltasOf taken
  recvWindow : h'.recvWindow.toNat + bytesOf taken = h.recvWindow.toNat + deltasOf emitted
  bytes : h.readBuf ++ payloadOf taken = out ++ h'.readBuf
  payload : payloadOf emitted = accepted
  honest : ∀ f ∈ emitted, f.Honest h.id ∧ f.isSyn = false
  /-- A stopped handle stays stopped and takes nothing. -/
  stopped : h.Stopped → h'.Stopped ∧ taken = []
  /-- A FIN is the last frame taken, and leaves nothing to read. -/
  fin : NoFin taken ∨ EndsWithFin taken ∧ h'.Stopped ∧ h'.readBuf = []

namespace Effect

variable {h h₁ h₂ : StreamHandle} {t₁ t₂ e₁ e₂ : List Frame} {o₁ o₂ w₁ w₂ : Bytes}

/-- A change of nothing the relation sees. -/
theorem refl (hg : h.Good) : Effect h h [] [] [] [] where
  id := rfl
  max := rfl
  good := hg
  outbox := by simp
  queue := by simp
  sendWindow := by simp
  recvWindow := by simp
  bytes := by simp
  payload := rfl
  honest := by simp
  stopped := fun hs => ⟨hs, rfl⟩
  fin := .inl noFin_nil

theorem trans (a : Effect h h₁ t₁ e₁ o₁ w₁) (b : Effect h₁ h₂ t₂ e₂ o₂ w₂) :
    Effect h h₂ (t₁ ++ t₂) (e₁ ++ e₂) (o₁ ++ o₂) (w₁ ++ w₂) where
  id := b.id.trans a.id
  max := b.max.trans a.max
  good := b.good
  outbox := by rw [b.outbox, a.outbox, List.append_assoc]
  queue := by rw [a.queue, b.queue, List.append_assoc]
  sendWindow := by
    have := a.sendWindow
    have := b.sendWindow
    simp only [bytesOf_append, deltasOf_append]
    omega
  recvWindow := by
    have := a.recvWindow
    have := b.recvWindow
    simp only [bytesOf_append, deltasOf_append]
    omega
  bytes := by
    rw [payloadOf_append, ← List.append_assoc, a.bytes, List.append_assoc, b.bytes,
      List.append_assoc]
  payload := by rw [payloadOf_append, a.payload, b.payload]
  honest := by
    intro f hf
    rcases List.mem_append.mp hf with hf | hf
    · exact a.honest f hf
    · have := b.honest f hf
      rwa [a.id] at this
  stopped := by
    intro hs
    obtain ⟨hs₁, rfl⟩ := a.stopped hs
    obtain ⟨hs₂, rfl⟩ := b.stopped hs₁
    exact ⟨hs₂, rfl⟩
  fin := by
    rcases a.fin with hn | ⟨he, hs, hb⟩
    · rcases b.fin with hn' | ⟨he', hs', hb'⟩
      · exact .inl (hn.append hn')
      · exact .inr ⟨hn.append_endsWithFin he', hs', hb'⟩
    · -- the handle has stopped: the second call takes nothing and has nothing to hand out
      obtain ⟨hs₂, rfl⟩ := b.stopped hs
      have hbytes := b.bytes
      rw [hb] at hbytes
      have : h₂.readBuf = [] := (List.append_eq_nil_iff.mp hbytes.symm).2
      exact .inr ⟨by simpa using he, hs₂, this⟩

/-- A change of state, and events that are no frames. -/
theorem ofState (hg : h.Good) {st : StreamState} (hst : st ≠ .init)
    (hstop : h.Stopped → { h with state := st }.Stopped) {evs : List StreamEvent}
    (hevs : framesOf evs = []) :
    Effect h { h with state := st, outbox := h.outbox ++ evs } [] [] [] [] where
  id := rfl
  max := rfl
  good := ⟨hg.alive, hst, hg.room⟩
  outbox := by simp [hevs]
  queue := by simp
  sendWindow := by simp
  recvWindow := by simp
  bytes := by simp
  payload := rfl
  honest := by simp
  stopped := fun hs => ⟨hstop hs, rfl⟩
  fin := .inl noFin_nil

/-- A change of state alone. -/
theorem setState (hg : h.Good) {st : StreamState} (hst : st ≠ .init)
    (hstop : h.Stopped → { h with state := st }.Stopped) :
    Effect h { h with state := st } [] [] [] [] := by
  have heff := ofState hg hst hstop framesOf_nil
  rwa [List.append_nil] at heff

/-- One frame is emitted, and the windows move with it. -/
theorem ofEmit (hg : h.Good) {st : StreamState} (hst : st ≠ .init)
    (hstop : h.Stopped → { h with state := st }.Stopped) {f : Frame} (hf : f.Honest h.id)
    (hsyn : f.isSyn = false) {sw rw : UInt32}
    (hsw : sw.toNat + f.dataBytes = h.sendWindow.toNat)
    (hrw : rw.toNat = h.recvWindow.toNat + f.delta)
    (hroom : rw.toNat + h.readBuf.length ≤ h.maxRecvWindow.toNat) :
    Effect h { h with state := st, sendWindow := sw, recvWindow := rw,
                      outbox := h.outbox ++ [.frame f] } [] [f] [] f.payload where
  id := rfl
  max := rfl
  good := ⟨hg.alive, hst, hroom⟩
  outbox := by simp
  queue := by simp
  sendWindow := by simpa using hsw
  recvWindow := by simpa using hrw
  bytes := by simp
  payload := by simp
  honest := by simpa using ⟨hf, hsyn⟩
  stopped := fun hs => ⟨hstop hs, rfl⟩
  fin := .inl noFin_nil

end Effect

namespace StreamHandle

variable {h : StreamHandle}

theorem unboundSendEvent_eq {ev : StreamEvent} (hg : h.eventClosed = false) :
    h.unboundSendEvent ev = ({ h with outbox := h.outbox ++ [ev] }, .ok ()) := by
  simp [unboundSendEvent, hg]

/-- A started handle attaches at most an ACK. -/
theorem getFlags_eq (hi : h.state ≠ .init) :
    ∃ st fs, h.getFlags = ({ h with state := st }, fs) ∧ st ≠ .init ∧
      (h.state ≠ .synReceived → st = h.state) ∧ (fs = .empty ∨ fs = .ofFlag .ack) := by
  unfold getFlags
  cases hs : h.state with
  | init => exact absurd hs hi
  | synReceived => exact ⟨.established, .ofFlag .ack, rfl, by simp, by simp, .inr rfl⟩
  | synSent | established | localClosing | remoteClosing | closed | reset =>
    exact ⟨h.state, .empty, rfl, hi, fun _ => hs, .inl rfl⟩

theorem stopped_of_state_eq {st : StreamState} (hst : h.state ≠ .synReceived → st = h.state)
    (hs : h.Stopped) : { h with state := st }.Stopped := by
  have : st = h.state := hst (by rcases hs with hs | hs | hs <;> simp [hs])
  subst this
  exact hs

/-- The window opened by an update: exactly up to the maximum. -/
theorem windowGain (hg : h.Good) :
    (h.maxRecvWindow - UInt32.ofNat h.readBuf.length - h.recvWindow).toNat
      = h.maxRecvWindow.toNat - h.readBuf.length - h.recvWindow.toNat := by
  have hroom := hg.room
  have hmax := h.maxRecvWindow.toNat_lt
  have hlen : (UInt32.ofNat h.readBuf.length).toNat = h.readBuf.length :=
    UInt32.toNat_ofNat_of_lt' (by simp only [UInt32.size]; omega)
  rw [UInt32.toNat_sub_of_le, UInt32.toNat_sub_of_le, hlen]
  · rw [UInt32.le_iff_toNat_le]
    omega
  · rw [UInt32.le_iff_toNat_le, UInt32.toNat_sub_of_le, hlen]
    · omega
    · rw [UInt32.le_iff_toNat_le]
      omega

/-- A window update takes nothing and opens the window by what it announces. -/
theorem sendWindowUpdate_effect (hg : h.Good) :
    ∃ h' e, h.sendWindowUpdate = (h', .ok ()) ∧ Effect h h' [] e [] [] := by
  obtain ⟨st, fs, hflags, hst, hsame, hfs⟩ := getFlags_eq hg.started
  have hstop := stopped_of_state_eq (h := h) hsame
  have hgain := windowGain hg
  simp only [sendWindowUpdate, hflags]
  split_ifs with hsmall
  · refine ⟨_, [], rfl, ?_⟩
    exact Effect.setState hg hst hstop
  · have hroom := hg.room
    have hmax := h.maxRecvWindow.toNat_lt
    set delta := h.maxRecvWindow - UInt32.ofNat h.readBuf.length - h.recvWindow
    have hopen : (h.recvWindow + delta).toNat = h.recvWindow.toNat + delta.toNat := by
      rw [UInt32.toNat_add]
      omega
    refine ⟨_, [.newWindowUpdate fs h.id delta], unboundSendEvent_eq (by exact hg.alive),
      Effect.ofEmit hg hst hstop (.windowUpdate fs delta) ?_ (by simp) (by simpa using hopen) ?_⟩
    · rw [isSyn_newWindowUpdate]
      rcases hfs with rfl | rfl <;> decide
    · show (h.recvWindow + delta).toNat + _ ≤ _
      omega

/-- `send_close` emits a FIN. -/
theorem sendClose_effect (hg : h.Good) :
    ∃ h' e, h.sendClose = (h', .ok ()) ∧ Effect h h' [] e [] [] := by
  obtain ⟨st, fs, hflags, hst, hsame, hfs⟩ := getFlags_eq hg.started
  simp only [sendClose, hflags]
  refine ⟨_, [.newWindowUpdate (fs.add .fin) h.id 0], unboundSendEvent_eq (by exact hg.alive),
    Effect.ofEmit hg hst (stopped_of_state_eq hsame) (.windowUpdate _ 0) ?_ (by simp) (by simp)
      hg.room⟩
  rw [isSyn_newWindowUpdate]
  rcases hfs with rfl | rfl <;> decide

/-- A closed event is no frame. -/
theorem closedEvent_effect (hg : h.Good) (id : StreamId) :
    ∃ h', h.unboundSendEvent (.closed id) = (h', .ok ()) ∧ Effect h h' [] [] [] [] :=
  ⟨_, unboundSendEvent_eq (by exact hg.alive), Effect.ofState hg hg.started (fun hs => hs) rfl⟩

/-- **Closing** emits at most a FIN. -/
theorem close_effect (hg : h.Good) : ∃ h' e, h.close = (h', .ok ()) ∧ Effect h h' [] e [] [] := by
  unfold close
  cases hs : h.state with
  | init => exact absurd hs hg.started
  | synSent | synReceived | established =>
    have a : Effect h { h with state := .localClosing } [] [] [] [] :=
      Effect.setState hg (by simp) fun hst => absurd hst (by simp [Stopped, hs])
    obtain ⟨h', e, heq, b⟩ := sendClose_effect a.good
    exact ⟨h', e, heq, a.trans b⟩
  | remoteClosing =>
    have a : Effect h { h with state := .closed } [] [] [] [] :=
      Effect.setState hg (by simp) fun _ => .inr (.inl rfl)
    obtain ⟨h₁, e, heq, b⟩ := sendClose_effect a.good
    obtain ⟨h₂, heq', c⟩ := closedEvent_effect b.good h₁.id
    simp only [heq]
    exact ⟨h₂, _, heq', (a.trans b).trans c⟩
  | localClosing | closed | reset =>
    have a : Effect h { h with state := .closed } [] [] [] [] :=
      Effect.setState hg (by simp) fun _ => .inr (.inl rfl)
    obtain ⟨h₁, heq, b⟩ := closedEvent_effect a.good h.id
    exact ⟨h₁, _, heq, a.trans b⟩

/-- **`poll_shutdown`**. -/
theorem pollShutdown_effect (hg : h.Good) :
    ∃ h' e, h.pollShutdown = (h', .ready (.ok ())) ∧ Effect h h' [] e [] [] := by
  obtain ⟨h', e, heq, heff⟩ := close_effect hg
  exact ⟨h', e, by simp [pollShutdown, heq], heff⟩

/-- What `poll_write` reports as accepted. -/
def acceptedBy (buf : Bytes) : Poll (Except ErrorKind ℕ) → Bytes
  | .ready (.ok n) => buf.take n
  | _ => []

/-- **`poll_write`** emits exactly the bytes it reports as accepted. -/
theorem pollWrite_effect (hg : h.Good) (buf : Bytes) :
    ∃ h' e r, h.pollWrite buf = (h', r) ∧ Effect h h' [] e [] (acceptedBy buf r) := by
  have stay (r : Poll (Except ErrorKind ℕ)) (hr : acceptedBy buf r = []) :
      ∃ h' e r', (h, r) = (h', r') ∧ Effect h h' [] e [] (acceptedBy buf r') :=
    ⟨h, [], r, rfl, by rw [hr]; exact .refl hg⟩
  unfold pollWrite
  cases hs : h.state with
  | init => exact absurd hs hg.started
  | reset | localClosing | closed => exact stay _ rfl
  | synSent | synReceived | established | remoteClosing =>
    dsimp only
    split_ifs with hw
    · exact stay _ rfl
    obtain ⟨st, fs, hflags, hst, hsame, hfs⟩ := getFlags_eq hg.started
    have hwin := h.sendWindow.toNat_lt
    set n := min h.sendWindow.toNat buf.length with hn
    have hlen : (buf.take n).length = n := by
      rw [List.length_take]
      omega
    have hn32 : (UInt32.ofNat n).toNat = n :=
      UInt32.toNat_ofNat_of_lt' (by simp only [UInt32.size]; omega)
    have hlen32 : (buf.take n).length < 2 ^ 32 := by omega
    simp only [sendData, hflags, unboundSendEvent_eq (h := { h with state := st }) hg.alive]
    refine ⟨_, [.newData fs h.id (buf.take n)], .ready (.ok n), rfl,
      Effect.ofEmit hg hst (stopped_of_state_eq hsame) (.data fs _ hlen32 ?_) ?_ ?_ (by simp)
        hg.room⟩
    · rcases hfs with rfl | rfl <;> decide
    · rw [isSyn_newData]
      rcases hfs with rfl | rfl <;> decide
    · rw [dataBytes_newData hlen32, hlen, UInt32.toNat_sub_of_le]
      · omega
      · rw [UInt32.le_iff_toNat_le]
        omega

theorem sendReset_effect (hg : h.Good) : ∃ e, Effect h h.sendReset [] e [] [] := by
  obtain ⟨st, fs, hflags, hst, hsame, hfs⟩ := getFlags_eq hg.started
  simp only [sendReset, hflags, unboundSendEvent_eq (h := { h with state := st }) hg.alive]
  refine ⟨[.newWindowUpdate (fs.add .rst) h.id 0],
    Effect.ofEmit hg hst (stopped_of_state_eq hsame) (.windowUpdate _ 0) ?_ (by simp) (by simp)
      hg.room⟩
  rw [isSyn_newWindowUpdate]
  rcases hfs with rfl | rfl <;> decide

/-- **Dropping** emits at most an RST. -/
theorem announceDrop_effect (hg : h.Good) : ∃ e, Effect h h.announceDrop [] e [] [] := by
  have closing {h₁ : StreamHandle} {e : List Frame} (a : Effect h h₁ [] e [] []) :
      ∃ e, Effect h (h₁.unboundSendEvent (.closed h₁.id)).1 [] e [] [] := by
    obtain ⟨h₂, heq, b⟩ := closedEvent_effect a.good h₁.id
    rw [heq]
    exact ⟨_, a.trans b⟩
  unfold announceDrop
  split_ifs with hdone
  · exact ⟨[], .refl hg⟩
  obtain ⟨e, heff⟩ := sendReset_effect hg
  cases hs : h.state <;> first | exact closing (.refl hg) | exact closing heff

/-! ### Receiving -/

/-- The flags of a frame move a running handle without an error; FIN stops it. -/
theorem processFlags_eq (hi : h.state ≠ .init) (hrun : ¬ h.Stopped) (fs : Flags) :
    ∃ st, h.processFlags fs = ({ h with state := st }, .ok ()) ∧ st ≠ .init ∧
      (fs.contains .fin = true → { h with state := st }.Stopped) := by
  obtain ⟨_, state, _, _, _, _, _, _, _⟩ := h
  unfold processFlags
  cases state with
  | init => exact absurd rfl hi
  | remoteClosing | closed | reset => exact absurd (by simp [Stopped]) hrun
  | synSent | synReceived | established | localClosing =>
    cases fs.contains .ack <;> cases fs.contains .fin <;> cases fs.contains .rst <;>
      simp [Stopped]

/-- A frame with FIN, once its flags are processed, is the last frame taken. -/
theorem fin_of_processFlags {h' : StreamHandle} {id : StreamId} {f : Frame} (hf : f.Honest id)
    (hfin : f.flags.contains .fin = true → h'.Stopped) (hbuf : h'.readBuf = f.payload) :
    NoFin [f] ∨ EndsWithFin [f] ∧ h'.Stopped ∧ h'.readBuf = [] := by
  cases hc : f.isFin with
  | false => exact .inl (by simpa [NoFin] using hc)
  | true =>
    have hp := hf.payload_of_isFin hc
    exact .inr ⟨⟨[], f, rfl, noFin_nil, hc, hp⟩, hfin hc, hbuf.trans hp⟩

section HandleFrame

variable (hg : h.Good) (hsafe : h.Safe) (hrun : ¬ h.Stopped) (hbuf : h.readBuf = [])
  {fs : List Frame}
include hg hsafe hrun hbuf

/-- A window update at the head of the channel. -/
theorem handleWindowUpdate_effect {flags : Flags} {d : UInt32}
    (hq : h.frameReceiver.queue = .newWindowUpdate flags h.id d :: fs) :
    ∃ h', { h with frameReceiver := h.frameReceiver.pop }.handleWindowUpdate
        (.newWindowUpdate flags h.id d) = (h', .ok ()) ∧
      Effect h h' [.newWindowUpdate flags h.id d] [] [] [] ∧ h'.Safe := by
  obtain ⟨st, hflags, hst, hfin⟩ :=
    processFlags_eq (h := { h with frameReceiver := h.frameReceiver.pop }) hg.started hrun flags
  have hsend := hsafe.send
  rw [hq, deltasOf_cons, delta_newWindowUpdate] at hsend
  have hrecv := hsafe.recv
  rw [hq, bytesOf_cons, dataBytes_newWindowUpdate] at hrecv
  have hsum : (h.sendWindow + d).toNat = h.sendWindow.toNat + d.toNat := by
    rw [UInt32.toNat_add]
    omega
  refine ⟨{ h with frameReceiver := h.frameReceiver.pop, state := st,
                   sendWindow := h.sendWindow + d }, ?_, ?_, ?_⟩
  · rw [handleWindowUpdate, show (Frame.newWindowUpdate flags h.id d).flags = flags from rfl,
      hflags]
    exact if_pos (show h.sendWindow.toNat + d.toNat < 2 ^ 32 by omega)
  · exact
      { id := rfl, max := rfl, good := ⟨hg.alive, hst, hg.room⟩, outbox := by simp
        queue := by simp [hq], sendWindow := by simpa using hsum, recvWindow := by simp
        bytes := by simp, payload := rfl, honest := by simp, stopped := fun hs => absurd hs hrun
        fin := fin_of_processFlags (.windowUpdate flags d) hfin hbuf }
  · refine ⟨fun g hg' => hsafe.honest g (List.mem_of_mem_tail hg'), ?_, ?_⟩
    · simpa [hq] using hrecv
    · show (h.sendWindow + d).toNat + deltasOf h.frameReceiver.queue.tail < 2 ^ 32
      rw [hq, List.tail_cons]
      omega

/-- A data frame at the head of the channel: its body becomes the buffer. -/
theorem handleData_effect {flags : Flags} {b : Bytes} (hb : b.length < 2 ^ 32)
    (hnofin : flags.contains .fin = false)
    (hq : h.frameReceiver.queue = .newData flags h.id b :: fs) :
    ∃ h', { h with frameReceiver := h.frameReceiver.pop }.handleData
        (.newData flags h.id b) = (h', .ok ()) ∧
      Effect h h' [.newData flags h.id b] [] [] [] ∧ h'.Safe := by
  obtain ⟨st, hflags, hst, hfin⟩ :=
    processFlags_eq (h := { h with frameReceiver := h.frameReceiver.pop }) hg.started hrun flags
  have hsend := hsafe.send
  rw [hq, deltasOf_cons, delta_newData, Nat.zero_add] at hsend
  have hrecv := hsafe.recv
  rw [hq, bytesOf_cons, dataBytes_newData hb] at hrecv
  have hlen : (UInt32.ofNat b.length).toNat = b.length := UInt32.toNat_ofNat_of_lt' hb
  have hfits : ¬ h.recvWindow < UInt32.ofNat b.length := by
    rw [UInt32.lt_iff_toNat_lt, hlen]
    omega
  have hsub : (h.recvWindow - UInt32.ofNat b.length).toNat = h.recvWindow.toNat - b.length := by
    rw [UInt32.toNat_sub_of_le _ _ (UInt32.not_lt.mp hfits), hlen]
  have hroom := hg.room
  rw [hbuf, List.length_nil] at hroom
  refine ⟨{ h with frameReceiver := h.frameReceiver.pop, state := st, readBuf := b,
                   recvWindow := h.recvWindow - UInt32.ofNat b.length }, ?_, ?_, ?_⟩
  · rw [handleData, show (Frame.newData flags h.id b).flags = flags from rfl, hflags]
    exact if_neg hfits
  · exact
      { id := rfl, max := rfl, outbox := by simp, queue := by simp [hq]
        good := ⟨hg.alive, hst, by rw [hsub]; show _ + b.length ≤ h.maxRecvWindow.toNat; omega⟩
        sendWindow := by simp
        recvWindow := by
          rw [bytesOf_cons, dataBytes_newData hb, hsub, bytesOf_nil, deltasOf_nil]
          omega
        bytes := by simp [hbuf], payload := rfl, honest := by simp
        stopped := fun hs => absurd hs hrun
        fin := fin_of_processFlags (.data flags b hb hnofin) hfin rfl }
  · refine ⟨fun g hg' => hsafe.honest g (List.mem_of_mem_tail hg'), ?_, ?_⟩
    · show bytesOf h.frameReceiver.queue.tail ≤ (h.recvWindow - UInt32.ofNat b.length).toNat
      rw [hq, List.tail_cons, hsub]
      omega
    · simpa [hq] using hsend

/-- The first of the waiting frames is processed without an error. -/
theorem handleFrame_effect {f : Frame} (hq : h.frameReceiver.queue = f :: fs) :
    ∃ h', { h with frameReceiver := h.frameReceiver.pop }.handleFrame f = (h', .ok ()) ∧
      Effect h h' [f] [] [] [] ∧ h'.Safe := by
  have hf := hsafe.honest f (by simp [hq])
  cases hf with
  | windowUpdate flags d => exact handleWindowUpdate_effect hg hsafe hrun hbuf hq
  | data flags b hb hnofin => exact handleData_effect hg hsafe hrun hbuf hb hnofin hq

end HandleFrame

/-- The errors on which a read gives up the session. -/
def Fatal : Except Error Unit → Prop
  | .error .unexpectedFlag | .error .recvWindowExceeded | .error .invalidMsgType => True
  | _ => False

/-- Where the loop of `recv_frames` ends before it polls, nothing has happened. -/
theorem recvCheck_some (hg : h.Good) {p : StreamHandle × Except Error Unit}
    (hc : h.recvCheck = some p) : Effect h p.1 [] [] [] [] ∧ ¬ Fatal p.2 := by
  unfold recvCheck at hc
  cases hs : h.state <;> simp only [hs] at hc
  case init => exact absurd hs hg.started
  case remoteClosing | closed | reset =>
    cases hc
    exact ⟨.refl hg, by simp [Fatal]⟩
  all_goals
    split_ifs at hc
    · cases hc
      exact ⟨.refl hg, by simp [Fatal]⟩
    · cases hc
      exact ⟨Effect.setState hg (by simp) fun _ => .inl rfl, by simp [Fatal]⟩

theorem recvCheck_none (hc : h.recvCheck = none) : ¬ h.Stopped ∧ h.readBuf = [] := by
  unfold recvCheck at hc
  cases hs : h.state <;> simp only [hs] at hc
  case remoteClosing | closed | reset => cases hc
  all_goals
    split_ifs at hc with hb
    exact ⟨by simp [Stopped, hs], by simpa using hb⟩

/-- **The receive loop** takes frames one by one and meets no fatal error. -/
theorem recvFramesLoop_effect (fs : List Frame) :
    ∀ h : StreamHandle, h.frameReceiver.queue = fs → h.Good → h.Safe →
      ∃ h' r taken, recvFramesLoop fs h = (h', r) ∧ Effect h h' taken [] [] [] ∧ ¬ Fatal r := by
  induction fs with
  | nil =>
    intro h hq hg hsafe
    unfold recvFramesLoop
    cases hc : h.recvCheck with
    | some p =>
      obtain ⟨heff, hr⟩ := recvCheck_some hg hc
      exact ⟨p.1, p.2, [], rfl, heff, hr⟩
    | none =>
      have hrun := (recvCheck_none hc).1
      simp only [Channel.pollNext, hq]
      split_ifs with hgone
      · refine ⟨_, _, [], rfl, ?_, by simp [Fatal]⟩
        -- the session has let go of the stream
        exact
          { Effect.refl hg with
            good := ⟨hg.alive, by simp, hg.room⟩
            queue := by simp [hq]
            stopped := fun hs => absurd hs hrun
            fin := .inl noFin_nil }
      · exact ⟨h, _, [], rfl, .refl hg, by simp [Fatal]⟩
  | cons f fs ih =>
    intro h hq hg hsafe
    unfold recvFramesLoop
    cases hc : h.recvCheck with
    | some p =>
      obtain ⟨heff, hr⟩ := recvCheck_some hg hc
      exact ⟨p.1, p.2, [], rfl, heff, hr⟩
    | none =>
      obtain ⟨hrun, hbuf⟩ := recvCheck_none hc
      obtain ⟨h₁, heq, a, hsafe₁⟩ := handleFrame_effect hg hsafe hrun hbuf hq
      have hq₁ : h₁.frameReceiver.queue = fs := by
        have := a.queue
        rw [hq] at this
        simpa using this.symm
      obtain ⟨h₂, r, taken, heq₂, b, hr⟩ := ih h₁ hq₁ a.good hsafe₁
      exact ⟨h₂, r, f :: taken, by simp only [heq, heq₂], a.trans b, hr⟩

theorem recvFrames_effect (hg : h.Good) (hsafe : h.Safe) :
    ∃ h' r taken, h.recvFrames = (h', r) ∧ Effect h h' taken [] [] [] ∧ ¬ Fatal r :=
  recvFramesLoop_effect _ h rfl hg hsafe

/-- What a read hands to the caller. -/
def readBytes : Poll (Except ErrorKind Bytes) → Bytes
  | .ready (.ok b) => b
  | _ => []

theorem announceRoom_effect (hg : h.Good) (b : Bytes) :
    ∃ h' e, h.announceRoom b = (h', .ready (.ok b)) ∧ Effect h h' [] e [] [] := by
  have quiet : ∃ h' e, (h, Poll.ready (Except.ok b))
      = (h', Poll.ready (Except.ok (ε := ErrorKind) b)) ∧
      Effect h h' [] e [] [] := ⟨h, [], rfl, .refl hg⟩
  obtain ⟨h', e, heq, heff⟩ := sendWindowUpdate_effect hg
  unfold announceRoom
  cases h.state <;> first | exact quiet | exact ⟨h', e, by rw [heq], heff⟩

/-- Handing out buffered bytes, with the window update that may follow. -/
theorem readBuffered_effect (hg : h.Good) (remaining : ℕ) :
    ∃ h' r e, h.readBuffered remaining = (h', r) ∧ Effect h h' [] e (readBytes r) [] := by
  simp only [readBuffered]
  set n := min remaining h.readBuf.length
  split_ifs with hn
  · exact ⟨h, _, [], rfl, .refl hg⟩
  have a : Effect h { h with readBuf := h.readBuf.drop n } [] [] (h.readBuf.take n) [] :=
    { Effect.refl hg with
      good := ⟨hg.alive, hg.started, by
        have := hg.room
        show h.recvWindow.toNat + (h.readBuf.drop n).length ≤ h.maxRecvWindow.toNat
        rw [List.length_drop]
        omega⟩
      bytes := by simp
      fin := .inl noFin_nil }
  obtain ⟨h', e, heq, b⟩ := announceRoom_effect a.good (h.readBuf.take n)
  have ab : Effect h h' [] e (h.readBuf.take n) [] := by simpa using a.trans b
  exact ⟨h', _, _, heq, ab⟩

/-- **`poll_read`**: frames are taken, bytes are handed out in order, the window moves
by what was taken and what is announced. -/
theorem pollRead_effect (hg : h.Good) (hsafe : h.Safe) (remaining : ℕ) :
    ∃ h' r taken e, h.pollRead remaining = (h', r) ∧ Effect h h' taken e (readBytes r) [] := by
  unfold pollRead
  cases h.checkSelfState with
  | error k => exact ⟨h, _, [], [], rfl, .refl hg⟩
  | ok eof =>
  cases eof with
  | true => exact ⟨h, _, [], [], rfl, .refl hg⟩
  | false =>
  obtain ⟨h₁, r, taken, heq, a, hr⟩ := recvFrames_effect hg hsafe
  simp only [heq]
  -- An error the frames raise is not one of the three that end the session, so the
  -- state is looked at again whatever they answered.
  rcases r with err | u
  on_goal 1 => cases err
  all_goals first | exact absurd trivial hr | dsimp only
  all_goals
    cases h₁.checkSelfState with
    | error k => exact ⟨h₁, _, taken, [], rfl, a⟩
    | ok eof =>
    cases eof with
    | true => exact ⟨h₁, _, taken, [], rfl, a⟩
    | false =>
      obtain ⟨h₂, r₂, e, heq₂, b⟩ := readBuffered_effect a.good remaining
      exact ⟨h₂, r₂, _, _, heq₂, by simpa using a.trans b⟩

end StreamHandle

end Yamux
end CkbP2P

import CkbP2P.Yamux.Release
import CkbP2P.Yamux.View

/-!
# The calls inside a session

One call of `poll_next` makes up to sixteen rounds of flushing, handing out a stream,
looking at the commands, reading a frame and hearing an event.  To speak of what has been
received when a stream comes into being, runs are cut finer than calls: a micro step is
one of these inner calls, or what can happen between two polls.  A run of inner calls may
order them in any way; those the session makes are among them.
-/

namespace CkbP2P
namespace Yamux
namespace Session

open Lib

/-- The inner calls of one end, and what happens to it from outside. -/
inductive Micro where
  /-- The transport will answer writes by `sink`. -/
  | setSink (sink : List SinkAnswer)
  /-- The keep-alive timer fires. -/
  | onTick (now : ℕ)
  | flush
  /-- `poll_next` returns an accepted stream. -/
  | handOut
  | controlPoll
  | recvFrames (a : ReadAnswer)
  | recvEvents
  | openStream
  | shutdown
  | sendGoAway
  /-- A `Control` sends a command. -/
  | command (c : Command)
  /-- The owner of the `i`-th handle calls it. -/
  | handle (i : ℕ) (op : HandleOp)
  /-- A frame arrives. -/
  | arrive (f : Frame)
  deriving Repr

/-- One inner call. -/
def micro (s : Session) : Micro → Session
  | .setSink sink => { s with sink }
  | .onTick now => (s.onTick now).1
  | .flush => s.flush
  | .handOut => { s with pendingStreams := s.pendingStreams.tail }
  | .controlPoll => s.controlPoll.1
  | .recvFrames a => (s.recvFrames a).1
  | .recvEvents => s.recvEvents.1
  | .openStream => s.openStream.1
  | .shutdown => s.shutdown
  | .sendGoAway => s.sendGoAway
  | .command c => { s with controlReceiver := s.controlReceiver ++ [c] }
  | .handle i op => s.applyHandle i op
  | .arrive f => { s with incoming := s.incoming ++ [f] }

/-- The session's own calls, and those of its user: all but the arrival of a frame. -/
def Micro.own : Micro → Bool
  | .arrive _ => false
  | _ => true

/-- The loop of `poll_next`. -/
theorem pollLoop_micro (n : ℕ) :
    ∀ (reads : List ReadAnswer) (s : Session), ∃ ms : List Micro, (∀ m ∈ ms, m.own = true) ∧
      runFrom micro s ms = (pollLoop n reads s).1 := by
  induction n with
  | zero =>
    intro reads s
    exact ⟨[], by simp, rfl⟩
  | succ n ih =>
    intro reads s
    rw [pollLoop]
    split_ifs
    · exact ⟨[], by simp, rfl⟩
    dsimp only
    cases hp : s.flush.pendingStreams with
    | cons i rest =>
      refine ⟨[.flush, .handOut], by simp [Micro.own], ?_⟩
      show { s.flush with pendingStreams := s.flush.pendingStreams.tail } = _
      rw [hp]
      rfl
    | nil =>
      -- the calls of one round, up to the answer of the transport
      have hround := fun (ms : List Micro) s' (hown : ∀ m ∈ ms, m.own = true)
          (h : runFrom micro (s.flush.controlPoll.1.recvFrames (reads.headD .pending)).1 ms = s') =>
        show ∃ ms : List Micro, (∀ m ∈ ms, m.own = true) ∧ runFrom micro s ms = s' from
          ⟨.flush :: .controlPoll :: .recvFrames (reads.headD .pending) :: ms,
            by simpa [Micro.own] using hown, h⟩
      dsimp only
      generalize s.flush.controlPoll = c at hround ⊢
      generalize c.1.recvFrames (reads.headD .pending) = r at hround ⊢
      obtain ⟨s₃, read⟩ := r
      split
      · next heq =>
        cases heq
        exact hround [] _ (by simp) rfl
      · next heq =>
        cases heq
        split_ifs
        · exact hround [.recvEvents] _ (by simp [Micro.own]) rfl
        · obtain ⟨ms, hown, hms⟩ := ih reads.tail s₃.recvEvents.1
          exact hround (.recvEvents :: ms) _ (by simpa [Micro.own] using hown) hms

theorem pollNext_micro (s : Session) (now : ℕ) (tick : Bool) (reads : List ReadAnswer) :
    ∃ ms : List Micro, (∀ m ∈ ms, m.own = true) ∧
      runFrom micro s ms = (s.pollNext now tick reads).1 := by
  unfold pollNext
  by_cases hdead : s.isDead = true
  · rw [if_pos hdead]
    exact ⟨[], by simp, rfl⟩
  rw [if_neg hdead]
  by_cases htick : (s.keepalive && tick) = true
  · rw [if_pos htick]
    have hfirst := fun (ms : List Micro) s' (hown : ∀ m ∈ ms, m.own = true)
        (h : runFrom micro (s.onTick now).1 ms = s') =>
      show ∃ ms : List Micro, (∀ m ∈ ms, m.own = true) ∧ runFrom micro s ms = s' from
        ⟨.onTick now :: ms, by simpa [Micro.own] using hown, h⟩
    generalize s.onTick now = p at hfirst ⊢
    obtain ⟨s₁, _ | _⟩ := p
    · exact hfirst [] _ (by simp) rfl
    · obtain ⟨ms, hown, hms⟩ := pollLoop_micro 16 reads s₁
      exact hfirst ms _ hown hms
  · rw [if_neg htick]
    exact pollLoop_micro 16 reads s

/-- **Every call is a run of inner calls.** -/
theorem step_micro (s : Session) (a : SessionAct) :
    ∃ ms : List Micro, (∀ m ∈ ms, m.own = true) ∧ runFrom micro s ms = s.step a := by
  cases a with
  | poll now tick sink reads =>
    obtain ⟨ms, hown, hms⟩ := pollNext_micro { s with sink } now tick reads
    exact ⟨.setSink sink :: ms, by simpa [Micro.own] using hown, hms⟩
  | openStream => exact ⟨[.openStream], by simp [Micro.own], rfl⟩
  | shutdown sink => exact ⟨[.setSink sink, .shutdown], by simp [Micro.own], rfl⟩
  | sendGoAway sink => exact ⟨[.setSink sink, .sendGoAway], by simp [Micro.own], rfl⟩
  | control c => exact ⟨[.command c], by simp [Micro.own], rfl⟩
  | handle i op => exact ⟨[.handle i op], by simp [Micro.own], rfl⟩

theorem input_micro (s : Session) (l : Input) : ∃ ms, runFrom micro s ms = s.input l := by
  cases l with
  | arrive f => exact ⟨[.arrive f], rfl⟩
  | act a =>
    obtain ⟨ms, -, hms⟩ := step_micro s a
    exact ⟨ms, hms⟩

/-- **Every run is a run of inner calls.** -/
theorem run_micro (s : Session) (ls : List Input) :
    ∃ ms, runFrom micro s ms = runFrom input s ls := by
  induction ls generalizing s with
  | nil => exact ⟨[], rfl⟩
  | cons l ls ih =>
    obtain ⟨ms, hms⟩ := input_micro s l
    obtain ⟨ms', hms'⟩ := ih (s.input l)
    refine ⟨ms ++ ms', ?_⟩
    rw [runFrom_append, hms]
    exact hms'

/-- What every inner call keeps, every run keeps. -/
theorem run_keeps {P : Session → Prop} (hstep : ∀ s m, P s → P (s.micro m)) {s : Session}
    (h : P s) (ls : List Input) : P (runFrom input s ls) := by
  obtain ⟨ms, hms⟩ := run_micro s ls
  rw [← hms]
  exact inv_runFrom hstep h ms

/-! ### Properties of the book -/

/-- A property of the streams, handles and events of a session that is kept by what can be
done to them: a stream is inserted, a frame passed on, an event heard, a handle called. -/
structure BookInv (P : Session → Prop) : Prop where
  book : ∀ {s t : Session}, P s → t.book = s.book → P t
  insertStream : ∀ {s : Session} (id : StreamId) {state : StreamState},
    state = .init ∨ state = .synReceived → P s → P (s.insertStream id state).1
  passOn : ∀ {s : Session} (f : Frame), P s → P (s.passOn f).1
  recvEvents : ∀ {s : Session}, P s → P s.recvEvents.1
  applyHandle : ∀ {s : Session} (i : ℕ) (op : HandleOp), P s → P (s.applyHandle i op)

namespace BookInv

variable {P : Session → Prop} (hP : BookInv P) {s : Session}
include hP

theorem acceptSyn (f : Frame) (h : P s) : P (s.acceptSyn f).1 := by
  unfold Session.acceptSyn
  split_ifs
  · exact hP.book h (book_sendFrame s _)
  · have hins := hP.insertStream f.streamId (.inr rfl) h
    simp only [createStream]
    generalize s.insertStream f.streamId .synReceived = r at hins ⊢
    obtain ⟨s₁, _ | _⟩ := r
    · exact hP.book hins (book_sendGoAwayWithCode _ _)
    · exact hP.book hins rfl
  · exact hP.book h rfl
  · exact h

theorem distributeLoop (buf : List Frame) :
    ∀ (blocked : List StreamId) (s : Session), P s → P (distributeLoop buf blocked s) := by
  induction buf with
  | nil =>
    intro blocked s h
    exact h
  | cons f buf ih =>
    intro blocked s h
    rw [Session.distributeLoop]
    split_ifs
    · exact ih blocked _ (hP.book h rfl)
    · have hacc := hP.acceptSyn f h
      generalize s.acceptSyn f = r at hacc ⊢
      obtain ⟨s₁, _ | _⟩ := r
      · exact hacc
      · have hpass := hP.passOn f hacc
        dsimp only at hpass ⊢
        generalize s₁.passOn f = r at hpass ⊢
        obtain ⟨s₂, _ | _⟩ := r
        · exact ih _ s₂ hpass
        · exact ih _ s₂ hpass

theorem distributeToSubstream (h : P s) : P s.distributeToSubstream :=
  hP.distributeLoop _ _ { s with readPendingFrames := [] } (hP.book h rfl)

theorem flush (h : P s) : P s.flush := by
  unfold Session.flush
  split_ifs
  · exact h
  · exact hP.distributeToSubstream (hP.book h (book_sendAllLoop s.sink s))

theorem handleFrame (f : Frame) (h : P s) : P (s.handleFrame f) := by
  unfold Session.handleFrame
  cases f.ty with
  | data | windowUpdate => exact hP.distributeToSubstream (s := s.requeue f) (hP.book h rfl)
  | ping => exact hP.book h (book_handlePing s f)
  | goAway => exact hP.book h (book_handleGoAway s f)

theorem recvFrames (a : ReadAnswer) (h : P s) : P (s.recvFrames a).1 := by
  cases a with
  | pending => exact h
  | eof => exact hP.book h rfl
  | ready =>
    unfold Session.recvFrames
    dsimp only
    split
    · exact h
    · next f rest _ =>
      split
      · exact hP.handleFrame (s := { s with incoming := rest }) _ (hP.book h rfl)
      · exact hP.book h rfl
      · exact hP.book h rfl

theorem openStream (h : P s) : P s.openStream.1 := by
  unfold Session.openStream createStream
  split_ifs
  · exact h
  · exact h
  · exact hP.insertStream (s := { s with nextStreamId := s.nextStreamId + 2 }) _ (.inl rfl)
      (hP.book h rfl)
  · exact h

theorem controlPoll (h : P s) : P s.controlPoll.1 := by
  unfold Session.controlPoll
  split
  · exact h
  · next rest _ => exact hP.openStream (s := { s with controlReceiver := rest }) (hP.book h rfl)
  · next rest _ => exact hP.book h (book_shutdown { s with controlReceiver := rest })

/-- **The rule**: every inner call keeps the property. -/
theorem micro (m : Micro) (h : P s) : P (s.micro m) := by
  cases m with
  | setSink | handOut | command | arrive => exact hP.book h rfl
  | onTick now => exact hP.book h (book_onTick s now)
  | flush => exact hP.flush h
  | controlPoll => exact hP.controlPoll h
  | recvFrames a => exact hP.recvFrames a h
  | recvEvents => exact hP.recvEvents h
  | openStream => exact hP.openStream h
  | shutdown => exact hP.book h (book_shutdown s)
  | sendGoAway => exact hP.book h (book_sendGoAwayWithCode s .normal)
  | handle i op => exact hP.applyHandle i op h

end BookInv

/-! ### Registered streams -/

theorem idsOf_removeStream (s : Session) (id : StreamId) :
    idsOf (s.removeStream id).handles = idsOf s.handles := by
  cases hlook : s.streams.lookup id with
  | none => rw [Good.handles_removeStream_of_none hlook]
  | some i =>
    have hmod : (s.removeStream id).handles = s.handles.modify i Slot.closeSender := by
      simp only [Session.removeStream, hlook]
    cases hi : s.handles[i]? with
    | none => rw [hmod, List.modify_eq_set_getElem?, hi]; rfl
    | some sl => rw [Good.handles_removeStream hlook hi, idsOf_set hi sl.id_closeSender]

/-- A registered stream has a handle with its id. -/
def Registered (s : Session) : Prop :=
  ∀ id i, s.streams.lookup id = some i → ∃ sl, s.handles[i]? = some sl ∧ sl.handle.id = id

namespace Registered

variable {s t : Session}

/-- A handle is replaced by one with the same id. -/
theorem set (hr : s.Registered) {i : ℕ} {sl sl' : Slot} (hi : s.handles[i]? = some sl)
    (hid : sl'.handle.id = sl.handle.id) (hh : t.handles = s.handles.set i sl')
    (hlook : ∀ id j, t.streams.lookup id = some j → s.streams.lookup id = some j) :
    t.Registered := by
  intro id j hj
  obtain ⟨x, hx, hxid⟩ := hr id j (hlook id j hj)
  rw [hh]
  by_cases hij : i = j
  · subst hij
    rw [hi] at hx
    cases hx
    exact ⟨sl', List.getElem?_set_self (List.getElem?_eq_some_iff.mp hi).1, hid.trans hxid⟩
  · exact ⟨x, by rw [List.getElem?_set_ne hij]; exact hx, hxid⟩

/-- A stream is registered with a handle of its own. -/
theorem insertStream (hr : s.Registered) (id : StreamId) {state : StreamState}
    (hst : state = .init ∨ state = .synReceived) : (s.insertStream id state).1.Registered := by
  unfold Session.insertStream
  split_ifs
  · exact hr
  intro id' j hj
  rcases lookup_insert_eq_some_iff.mp hj with ⟨rfl, rfl⟩ | ⟨-, hj⟩
  · exact ⟨_, List.getElem?_concat_length, Slot.create_id hst rfl⟩
  · obtain ⟨x, hx, hxid⟩ := hr id' j hj
    exact ⟨x, by rw [List.getElem?_append_left (List.getElem?_eq_some_iff.mp hx).1]; exact hx, hxid⟩

theorem removeStream (hr : s.Registered) (id : StreamId) : (s.removeStream id).Registered := by
  have hless : ∀ id' j, (s.removeStream id).streams.lookup id' = some j →
      s.streams.lookup id' = some j := by
    intro id' j hj
    rw [Good.lookup_removeStream] at hj
    split_ifs at hj
    exact hj
  cases hlook : s.streams.lookup id with
  | none =>
    intro id' j hj
    rw [Good.handles_removeStream_of_none hlook]
    exact hr id' j (hless id' j hj)
  | some i =>
    obtain ⟨sl, hi, -⟩ := hr id i hlook
    exact hr.set hi sl.id_closeSender (Good.handles_removeStream hlook hi) hless

theorem of_book (hr : s.Registered) (hb : t.book = s.book) : t.Registered := by
  obtain ⟨hs, hrest⟩ := Prod.mk.inj hb
  obtain ⟨hh, -⟩ := Prod.mk.inj hrest
  unfold Registered
  rw [hs, hh]
  exact hr

theorem bookInv : BookInv Registered where
  book := of_book
  insertStream id _ hst hr := hr.insertStream id hst
  passOn f hr := by
    rcases passOn_outcome _ f with ⟨-, heq⟩ | ⟨i, -, ⟨-, heq⟩ |
      ⟨sl, hi, ⟨-, heq⟩ | ⟨-, -, heq⟩ | ⟨-, -, heq⟩⟩⟩ <;> rw [heq]
    · exact hr
    · exact hr.removeStream _
    · exact hr.removeStream _
    · exact hr.of_book rfl
    · exact hr.set hi (sl.id_push f) (modify_eq_set hi _) fun _ _ hj => hj
  recvEvents := by
    intro s hr
    unfold Session.recvEvents
    cases s.eventReceiver with
    | nil => exact hr
    | cons ev rest =>
      have hrest : { s with eventReceiver := rest }.Registered := hr
      cases ev with
      | frame f => exact hrest.of_book (book_sendFrame _ f)
      | closed id => exact hrest.removeStream id
      | goAway => exact hrest.of_book (book_sendGoAwayWithCode _ _)
  applyHandle i op hr := by
    rcases applyHandle_cases _ i op with ⟨-, heq⟩ | ⟨sl, hi, -, -, heq⟩ <;> rw [heq]
    · exact hr
    · exact hr.set hi (sl.id_apply op) rfl fun _ _ hj => hj

end Registered

/-- The handles of a run can reach their session. -/
theorem linked_bookInv : BookInv Linked where
  book hl hb := linked_of_extends (.of_book hb) hl
  insertStream id _ _ hl := linked_of_extends (extends_insertStream _ id _) hl
  passOn f hl := linked_of_extends (extends_passOn _ f) hl
  recvEvents hl := linked_recvEvents hl
  applyHandle i op hl := linked_applyHandle hl i op

end Session

end Yamux
end CkbP2P

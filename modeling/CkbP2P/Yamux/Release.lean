import Mathlib.Order.Basic
import Mathlib.Data.List.AList
import CkbP2P.Lib.Entries
import CkbP2P.Lib.Run
import CkbP2P.Yamux.Moves

/-!
# When a stream gives its slot back

A registered stream counts against `max_stream_count` until the session hears
`Closed` of it.  A dropped handle sends `Closed`, unless its state is `Closed`
already: then `close` is supposed to have sent it.  But a handle also becomes
`Closed` when it reads the peer's FIN after its own, and nothing is sent there.

The peer is arbitrary: any frame may arrive at any time.
-/

namespace CkbP2P
namespace Yamux

open Lib

/-! ### Calls on a handle -/

namespace StreamHandle

/-- What calls on a handle leave alone: its id, the way to its session, and its end of
the channel. -/
def fixedPart (h : StreamHandle) : StreamId × Bool × Bool :=
  (h.id, h.eventClosed, h.frameReceiver.receiverGone)

variable (h : StreamHandle)

theorem fixedPart_unboundSendEvent (ev : StreamEvent) :
    (h.unboundSendEvent ev).1.fixedPart = h.fixedPart := by
  unfold unboundSendEvent
  split_ifs <;> rfl

theorem fixedPart_getFlags : h.getFlags.1.fixedPart = h.fixedPart := by
  unfold getFlags
  split <;> rfl

theorem fixedPart_sendWindowUpdate : h.sendWindowUpdate.1.fixedPart = h.fixedPart := by
  unfold sendWindowUpdate
  dsimp only
  split_ifs
  · exact fixedPart_getFlags h
  · rw [fixedPart_unboundSendEvent]
    exact fixedPart_getFlags h

theorem fixedPart_sendData (data : Bytes) : (h.sendData data).1.fixedPart = h.fixedPart := by
  unfold sendData
  rw [fixedPart_unboundSendEvent, fixedPart_getFlags]

theorem fixedPart_sendClose : h.sendClose.1.fixedPart = h.fixedPart := by
  unfold sendClose
  rw [fixedPart_unboundSendEvent, fixedPart_getFlags]

theorem fixedPart_close : h.close.1.fixedPart = h.fixedPart := by
  have hclosing (st : StreamState) :
      { h with state := st }.sendClose.1.fixedPart = h.fixedPart := fixedPart_sendClose _
  unfold close
  split
  · exact hclosing _
  · exact hclosing _
  · exact hclosing _
  · exact hclosing _
  · have hsend := hclosing .closed
    generalize { h with state := .closed }.sendClose = r at hsend ⊢
    rcases r with ⟨h₁, e | u⟩
    · exact hsend
    · dsimp only
      rw [fixedPart_unboundSendEvent]
      exact hsend
  all_goals exact fixedPart_unboundSendEvent _ _

theorem fixedPart_sendGoAway : h.sendGoAway.fixedPart = h.fixedPart :=
  fixedPart_unboundSendEvent _ _

theorem fixedPart_processFlags (flags : Flags) :
    (h.processFlags flags).1.fixedPart = h.fixedPart := by
  unfold processFlags
  dsimp only
  generalize hack : (if flags.contains .ack ∧ h.state = .synSent then
    { h with state := .synReceived } else h) = h₁
  have hfix : h₁.fixedPart = h.fixedPart := by
    rw [← hack]
    split_ifs <;> rfl
  rw [← hfix]
  split_ifs with hfin hrst
  · cases h₁.state <;> rfl
  · cases h₁.state <;> rfl
  all_goals rfl

theorem fixedPart_handleFrame (frame : Frame) :
    (h.handleFrame frame).1.fixedPart = h.fixedPart := by
  have hflags := fixedPart_processFlags h frame.flags
  unfold handleFrame handleWindowUpdate handleData
  generalize h.processFlags frame.flags = r at hflags ⊢
  rcases r with ⟨h₁, e | u⟩
  · cases frame.ty <;> first | exact hflags | rfl
  · cases frame.ty with
    | data | windowUpdate =>
      dsimp only
      split_ifs <;> exact hflags
    | ping | goAway => rfl

/-- The loop ends early with a handle that differs in its state alone. -/
theorem fixedPart_recvCheck {p : StreamHandle × Except Error Unit} (hc : h.recvCheck = some p) :
    p.1.fixedPart = h.fixedPart := by
  unfold recvCheck at hc
  split at hc
  · cases hc
    rfl
  · cases hc
    rfl
  · cases hc
    rfl
  · split_ifs at hc <;> cases hc <;> rfl

theorem fixedPart_recvFramesLoop (frames : List Frame) :
    ∀ h : StreamHandle, (recvFramesLoop frames h).1.fixedPart = h.fixedPart := by
  induction frames with
  | nil =>
    intro h
    rw [recvFramesLoop]
    cases hc : h.recvCheck with
    | some p => exact fixedPart_recvCheck h hc
    | none =>
      have hgone := Channel.receiverGone_pollNext h.frameReceiver
      generalize h.frameReceiver.pollNext = r at hgone ⊢
      rcases r with ⟨ch, _ | _⟩ <;>
        exact congrArg (fun gone => (h.id, h.eventClosed, gone)) hgone
  | cons frame frames ih =>
    intro h
    rw [recvFramesLoop]
    cases hc : h.recvCheck with
    | some p => exact fixedPart_recvCheck h hc
    | none =>
      have hframe := fixedPart_handleFrame { h with frameReceiver := h.frameReceiver.pop } frame
      generalize { h with frameReceiver := h.frameReceiver.pop }.handleFrame frame = r at hframe ⊢
      rcases r with ⟨h₁, e | u⟩
      · exact hframe
      · exact (ih h₁).trans hframe

theorem fixedPart_readBuffered (remaining : ℕ) :
    (h.readBuffered remaining).1.fixedPart = h.fixedPart := by
  unfold readBuffered announceRoom
  dsimp only
  split_ifs
  · rfl
  · split
    · rfl
    · rfl
    · rfl
    · generalize h.readBuf.drop (min remaining h.readBuf.length) = left
      have hupd := fixedPart_sendWindowUpdate { h with readBuf := left }
      generalize { h with readBuf := left }.sendWindowUpdate = r at hupd ⊢
      rcases r with ⟨h₁, e | u⟩ <;> exact hupd

theorem fixedPart_pollRead (remaining : ℕ) :
    (h.pollRead remaining).1.fixedPart = h.fixedPart := by
  have hrecv : h.recvFrames.1.fixedPart = h.fixedPart := fixedPart_recvFramesLoop _ h
  unfold pollRead
  split
  · rfl
  · rfl
  · generalize h.recvFrames = p at hrecv ⊢
    rcases p with ⟨h₁, r⟩
    rw [← hrecv]
    split
    · next heq => cases heq; exact fixedPart_sendGoAway h₁
    · next heq => cases heq; exact fixedPart_sendGoAway h₁
    · next heq => cases heq; exact fixedPart_sendGoAway h₁
    · next heq =>
      cases heq
      split
      · rfl
      · rfl
      · exact fixedPart_readBuffered h₁ remaining

theorem fixedPart_pollWrite (buf : Bytes) : (h.pollWrite buf).1.fixedPart = h.fixedPart := by
  unfold pollWrite
  dsimp only
  split
  · rfl
  · rfl
  · rfl
  · have hsend := fixedPart_sendData h (buf.take (min h.sendWindow.toNat buf.length))
    split_ifs
    · rfl
    · generalize h.sendData (buf.take (min h.sendWindow.toNat buf.length)) = r at hsend ⊢
      rcases r with ⟨h₁, e | u⟩
      · cases e <;> exact hsend
      · exact hsend

theorem fixedPart_pollShutdown : h.pollShutdown.1.fixedPart = h.fixedPart := by
  have hclose := fixedPart_close h
  unfold pollShutdown
  generalize h.close = r at hclose ⊢
  rcases r with ⟨h₁, e | u⟩ <;> exact hclose

theorem fixedPart_sendReset : h.sendReset.fixedPart = h.fixedPart := by
  unfold sendReset
  rw [fixedPart_unboundSendEvent, fixedPart_getFlags]

theorem fixedPart_announceDrop : h.announceDrop.fixedPart = h.fixedPart := by
  unfold announceDrop
  split_ifs
  · rfl
  · dsimp only
    rw [fixedPart_unboundSendEvent]
    split
    · rfl
    · rfl
    · exact fixedPart_sendReset h

/-- A handle dropped in the state `Closed` says nothing. -/
theorem announceDrop_of_closed (hst : h.state = .closed) : h.announceDrop = h :=
  if_pos (.inr hst)

/-- A handle dropped in any other state says so. -/
theorem closed_mem_announceDrop (hev : h.eventClosed = false) (hst : h.state ≠ .closed) :
    .closed h.id ∈ h.announceDrop.outbox := by
  have hsay (h₁ : StreamHandle) (hfix : h₁.fixedPart = h.fixedPart) :
      .closed h.id ∈ (h₁.unboundSendEvent (.closed h₁.id)).1.outbox := by
    have hid : h₁.id = h.id := congrArg Prod.fst hfix
    have hopen : h₁.eventClosed = h.eventClosed := congrArg (fun p => p.2.1) hfix
    rw [unboundSendEvent_eq (hopen.trans hev), hid]
    simp
  unfold announceDrop
  rw [if_neg (by simp [hev, hst])]
  dsimp only
  split
  · exact hsay h rfl
  · exact hsay h rfl
  · exact hsay h.sendReset (fixedPart_sendReset h)

end StreamHandle

namespace Slot

/-- The handle can reach its session, and the session has taken over its events. -/
def Linked (sl : Slot) : Prop := sl.handle.eventClosed = false ∧ sl.handle.outbox = []

theorem linked_settle (sl : Slot) {h h' : StreamHandle} (hopen : h.eventClosed = false)
    (hfix : h'.fixedPart = h.fixedPart) : (sl.settle h').1.Linked :=
  ⟨(congrArg (fun p => p.2.1) hfix).trans hopen, rfl⟩

/-- A call other than the drop leaves the handle where it is. -/
theorem fixedPart_apply (sl : Slot) {op : HandleOp} (hop : op ≠ .drop) :
    (sl.apply op).1.handle.fixedPart = sl.handle.fixedPart := by
  unfold apply
  split_ifs
  · rfl
  cases op with
  | read remaining => exact StreamHandle.fixedPart_pollRead sl.handle remaining
  | write buf => exact StreamHandle.fixedPart_pollWrite sl.handle buf
  | shutdown => exact StreamHandle.fixedPart_pollShutdown sl.handle
  | drop => exact absurd rfl hop

theorem id_apply (sl : Slot) (op : HandleOp) : (sl.apply op).1.handle.id = sl.handle.id := by
  by_cases hop : op = .drop
  · subst hop
    unfold apply
    split_ifs
    · rfl
    · exact congrArg Prod.fst (StreamHandle.fixedPart_announceDrop sl.handle)
  · exact congrArg Prod.fst (fixedPart_apply sl hop)

theorem linked_apply {sl : Slot} (hl : sl.Linked) (op : HandleOp) : (sl.apply op).1.Linked := by
  unfold apply
  split_ifs
  · exact hl
  cases op with
  | read remaining =>
    exact linked_settle _ hl.1 (StreamHandle.fixedPart_pollRead sl.handle remaining)
  | write buf => exact linked_settle _ hl.1 (StreamHandle.fixedPart_pollWrite sl.handle buf)
  | shutdown => exact linked_settle _ hl.1 (StreamHandle.fixedPart_pollShutdown sl.handle)
  | drop =>
    have hfix := StreamHandle.fixedPart_announceDrop sl.handle
    exact ⟨(congrArg (fun p => p.2.1) hfix).trans hl.1, rfl⟩

/-- **Dropping a handle**: the session is told, unless the state is `Closed`. -/
theorem apply_drop {sl : Slot} (hl : sl.Linked) (hgone : sl.gone = false) :
    (sl.apply .drop).1.gone = true ∧
      (.closed sl.handle.id ∈ (sl.apply .drop).2 ↔ sl.handle.state ≠ .closed) := by
  have heq : sl.apply .drop = sl.settle sl.handle.dropHandle :=
    if_neg (ne_true_of_eq_false hgone)
  rw [heq]
  refine ⟨rfl, ?_, ?_⟩
  · intro hmem hst
    have hout : (sl.settle sl.handle.dropHandle).2 = sl.handle.announceDrop.outbox := rfl
    rw [hout, StreamHandle.announceDrop_of_closed _ hst, hl.2] at hmem
    exact absurd hmem List.not_mem_nil
  · intro hst
    exact StreamHandle.closed_mem_announceDrop sl.handle hl.1 hst

theorem linked_create (id : StreamId) (state : StreamState) (n : UInt32) :
    (create id state n).1.Linked :=
  linked_settle _ rfl (StreamHandle.fixedPart_sendWindowUpdate _)

theorem gone_create (id : StreamId) (state : StreamState) (n : UInt32) :
    (create id state n).1.gone = false :=
  congrArg (fun p => p.2.2) (StreamHandle.fixedPart_sendWindowUpdate
    (.new id (Channel.new Frame 8) state n))

end Slot

/-! ### The session's own doing -/

/-- What the session knows of its streams. -/
def Session.book (s : Session) : (AList fun _ : StreamId => ℕ) × List Slot × List StreamEvent :=
  (s.streams, s.handles, s.eventReceiver)

/-- What writing and the session's own messages leave alone: its streams, the frames
waiting for them, and where the next id comes from. -/
def Session.desk (s : Session) :
    ((AList fun _ : StreamId => ℕ) × List Slot × List StreamEvent) × List Frame × StreamId ×
      SessionType :=
  (s.book, s.readPendingFrames, s.nextStreamId, s.ty)

/-- `s` became `t` without an event being handled or a handle called: streams may be
added and forgotten, handles may be added. -/
structure Extends (s t : Session) : Prop where
  length_le : s.handles.length ≤ t.handles.length
  handle : ∀ {i : ℕ} {sl : Slot}, t.handles[i]? = some sl →
    (∃ sl₀, s.handles[i]? = some sl₀ ∧ sl.handle.fixedPart = sl₀.handle.fixedPart ∧
      sl.handle.outbox = sl₀.handle.outbox) ∨
    s.handles.length ≤ i ∧ sl.gone = false ∧ sl.Linked
  lookup : ∀ {id : StreamId} {i : ℕ}, t.streams.lookup id = some i →
    s.streams.lookup id = some i ∨ s.handles.length ≤ i
  events : s.eventReceiver ⊆ t.eventReceiver

namespace Extends

variable {s t : Session}

theorem refl (s : Session) : Extends s s where
  length_le := le_refl _
  handle hi := .inl ⟨_, hi, rfl, rfl⟩
  lookup hi := .inl hi
  events := List.Subset.refl _

theorem of_book (h : t.book = s.book) : Extends s t := by
  obtain ⟨hs, hh⟩ := Prod.mk.inj h
  obtain ⟨hh, he⟩ := Prod.mk.inj hh
  refine ⟨by rw [hh], fun hi => ?_, fun hi => ?_, fun _ hev => he ▸ hev⟩
  · rw [hh] at hi
    exact (refl s).handle hi
  · rw [hs] at hi
    exact .inl hi

theorem trans {u : Session} (h : Extends s t) (h' : Extends t u) : Extends s u where
  length_le := h.length_le.trans h'.length_le
  handle := by
    intro i sl hi
    rcases h'.handle hi with ⟨sl₁, hi₁, hfix, hout⟩ | ⟨hlen, hnew⟩
    · rcases h.handle hi₁ with ⟨sl₀, hi₀, hfix₀, hout₀⟩ | ⟨hlen, hgone, hopen, hempty⟩
      · exact .inl ⟨sl₀, hi₀, hfix.trans hfix₀, hout.trans hout₀⟩
      · exact .inr ⟨hlen, (congrArg (fun p => p.2.2) hfix).trans hgone,
          (congrArg (fun p => p.2.1) hfix).trans hopen, hout.trans hempty⟩
    · exact .inr ⟨h.length_le.trans hlen, hnew⟩
  lookup := by
    intro id i hi
    rcases h'.lookup hi with hi | hlen
    · exact h.lookup hi
    · exact .inr (h.length_le.trans hlen)
  events := List.Subset.trans h.events h'.events

/-- The start may differ in what the streams are not concerned with. -/
theorem after {u : Session} (h : Extends t u) (hb : t.book = s.book) : Extends s u :=
  (of_book hb).trans h

/-- One handle is changed in a way no call sees. -/
theorem of_modify {f : Slot → Slot} {i : ℕ}
    (hfix : ∀ sl, (f sl).handle.fixedPart = sl.handle.fixedPart)
    (hout : ∀ sl, (f sl).handle.outbox = sl.handle.outbox)
    (hstreams : ∀ {id j}, t.streams.lookup id = some j → s.streams.lookup id = some j)
    (hhandles : t.handles = s.handles.modify i f) (hevents : t.eventReceiver = s.eventReceiver) :
    Extends s t where
  length_le := by rw [hhandles, List.length_modify]
  handle := by
    intro j sl hj
    rw [hhandles, List.getElem?_modify] at hj
    cases hold : s.handles[j]? with
    | none => simp [hold] at hj
    | some sl₀ =>
      rw [hold] at hj
      cases hj
      refine .inl ⟨sl₀, rfl, ?_, ?_⟩
      · dsimp only
        split_ifs
        · exact hfix sl₀
        · rfl
      · dsimp only
        split_ifs
        · exact hout sl₀
        · rfl
  lookup hi := .inl (hstreams hi)
  events := hevents ▸ List.Subset.refl _

end Extends

namespace Session

variable {s : Session}

theorem desk_sendAllLoop (answers : List SinkAnswer) :
    ∀ s : Session, (sendAllLoop answers s).desk = s.desk := by
  induction answers with
  | nil =>
    intro s
    unfold sendAllLoop
    split
    · rfl
    · split_ifs <;> rfl
  | cons a answers ih =>
    intro s
    unfold sendAllLoop
    split
    · rfl
    · split_ifs
      · rfl
      · cases a with
        | pending => rfl
        | flushed => exact ih s
        | ready => exact ih _

theorem desk_sendFrame (s : Session) (frame : Frame) : (s.sendFrame frame).desk = s.desk :=
  desk_sendAllLoop s.sink { s with writePendingFrames := s.writePendingFrames ++ [frame] }

theorem desk_sendPing (s : Session) (n : Option UInt32) : (s.sendPing n).1.desk = s.desk := by
  cases n with
  | some n => exact desk_sendFrame s _
  | none => exact desk_sendFrame { s with pingId := s.pingId + 1 } _

theorem desk_sendGoAwayWithCode (s : Session) (code : GoAwayCode) :
    (s.sendGoAwayWithCode code).desk = s.desk :=
  desk_sendFrame { s with writePendingFrames := [] } _

theorem desk_shutdown (s : Session) : s.shutdown.desk = s.desk := by
  unfold shutdown
  split_ifs
  · rfl
  · exact desk_sendGoAwayWithCode { s with writePendingFrames := [] } _

theorem desk_onTick (s : Session) (now : ℕ) : (s.onTick now).1.desk = s.desk := by
  unfold onTick keepAlive
  split_ifs
  · rfl
  · rfl
  · exact desk_sendPing s none

theorem desk_handlePing (s : Session) (f : Frame) : (s.handlePing f).desk = s.desk := by
  unfold handlePing
  split_ifs
  · exact desk_sendPing s _
  · rfl
  · rfl

theorem desk_handleGoAway (s : Session) (f : Frame) : (s.handleGoAway f).desk = s.desk := by
  unfold handleGoAway
  cases GoAwayCode.ofU32 f.length <;>
  · dsimp only
    split_ifs
    · rfl
    · exact desk_sendGoAwayWithCode { s with remoteGoAway := true, writePendingFrames := [] } _

theorem book_of_desk {t : Session} (hd : t.desk = s.desk) : t.book = s.book :=
  congrArg Prod.fst hd

theorem book_sendAllLoop (answers : List SinkAnswer) (s : Session) :
    (sendAllLoop answers s).book = s.book :=
  book_of_desk (desk_sendAllLoop answers s)

theorem book_sendFrame (s : Session) (frame : Frame) : (s.sendFrame frame).book = s.book :=
  book_of_desk (desk_sendFrame s frame)

theorem book_sendGoAwayWithCode (s : Session) (code : GoAwayCode) :
    (s.sendGoAwayWithCode code).book = s.book :=
  book_of_desk (desk_sendGoAwayWithCode s code)

theorem book_shutdown (s : Session) : s.shutdown.book = s.book :=
  book_of_desk (desk_shutdown s)

theorem book_onTick (s : Session) (now : ℕ) : (s.onTick now).1.book = s.book :=
  book_of_desk (desk_onTick s now)

theorem book_handlePing (s : Session) (f : Frame) : (s.handlePing f).book = s.book :=
  book_of_desk (desk_handlePing s f)

theorem book_handleGoAway (s : Session) (f : Frame) : (s.handleGoAway f).book = s.book :=
  book_of_desk (desk_handleGoAway s f)

/-! ### Streams come and go -/

theorem extends_removeStream (s : Session) (id : StreamId) : Extends s (s.removeStream id) := by
  have hless : ∀ {id' j}, (s.removeStream id).streams.lookup id' = some j →
      s.streams.lookup id' = some j := by
    intro id' j hj
    change (s.streams.erase id).lookup id' = some j at hj
    by_cases h : id' = id
    · rw [h, AList.lookup_erase] at hj
      cases hj
    · rwa [AList.lookup_erase_ne h] at hj
  cases hl : s.streams.lookup id with
  | none =>
    have hsame : (s.removeStream id).handles = s.handles := by simp only [removeStream, hl]
    refine ⟨by rw [hsame], fun hi => ?_, fun hi => .inl (hless hi), List.Subset.refl _⟩
    rw [hsame] at hi
    exact (Extends.refl s).handle hi
  | some i =>
    exact .of_modify (f := Slot.closeSender) (i := i) (fun _ => rfl) (fun _ => rfl) hless
      (by simp only [removeStream, hl]) rfl

/-- A stream is registered with a handle of its own. -/
theorem extends_insertStream (s : Session) (id : StreamId) (state : StreamState) :
    Extends s (s.insertStream id state).1 := by
  unfold insertStream
  split_ifs with hold
  · exact .refl s
  · refine ⟨by simp, ?_, ?_, List.subset_append_left _ _⟩
    · intro i sl hi
      rw [List.getElem?_append] at hi
      split_ifs at hi with hlt
      · exact .inl ⟨sl, hi, rfl, rfl⟩
      · have hsl := List.mem_of_getElem? hi
        rw [List.mem_singleton.mp hsl]
        exact .inr ⟨not_lt.mp hlt, Slot.gone_create _ _ _, Slot.linked_create _ _ _⟩
    · intro id' i hi
      rcases lookup_insert_eq_some_iff.mp hi with ⟨-, rfl⟩ | ⟨-, hi⟩
      · exact .inr (le_refl _)
      · exact .inl hi

theorem extends_openStream (s : Session) : Extends s s.openStream.1 := by
  unfold openStream createStream
  split_ifs
  · exact .refl s
  · exact .refl s
  · exact (extends_insertStream { s with nextStreamId := s.nextStreamId + 2 } _ _).after rfl
  · exact .refl s

theorem extends_acceptSyn (s : Session) (frame : Frame) : Extends s (s.acceptSyn frame).1 := by
  unfold acceptSyn
  split_ifs
  · exact .of_book (book_sendFrame s _)
  · have hins := extends_insertStream s frame.streamId .synReceived
    simp only [createStream]
    generalize s.insertStream frame.streamId .synReceived = r at hins ⊢
    rcases r with ⟨s₁, e | i⟩
    · exact hins.trans (.of_book (book_sendGoAwayWithCode _ _))
    · exact hins.trans (.of_book rfl)
  · exact .of_book rfl
  · exact .refl s

theorem extends_passOn (s : Session) (frame : Frame) : Extends s (s.passOn frame).1 := by
  rcases passOn_cases s frame with ⟨-, heq⟩ | ⟨i, slot, -, -, -, heq⟩ | heq | ⟨-, heq⟩
  · rw [heq]
    exact .refl s
  · rw [heq]
    exact .of_modify (f := fun slot => slot.push frame) (i := i) (fun _ => rfl) (fun _ => rfl)
      id rfl rfl
  · rw [heq]
    exact .of_book rfl
  · rw [heq]
    exact extends_removeStream s _

theorem extends_distributeLoop (buf : List Frame) :
    ∀ (blocked : List StreamId) (s : Session), Extends s (distributeLoop buf blocked s) := by
  induction buf with
  | nil =>
    intro blocked s
    exact .refl s
  | cons frame buf ih =>
    intro blocked s
    rw [distributeLoop]
    split_ifs
    · exact (ih blocked (s.requeue frame)).after rfl
    · have hacc := extends_acceptSyn s frame
      generalize s.acceptSyn frame = r at hacc ⊢
      rcases r with ⟨s₁, _ | _⟩
      · exact hacc
      · have hpass := extends_passOn s₁ frame
        dsimp only
        generalize s₁.passOn frame = r at hpass ⊢
        rcases r with ⟨s₂, _ | _⟩
        · exact (hacc.trans hpass).trans (ih _ s₂)
        · exact (hacc.trans hpass).trans (ih _ s₂)

theorem extends_distributeToSubstream (s : Session) : Extends s s.distributeToSubstream :=
  (extends_distributeLoop _ _ { s with readPendingFrames := [] }).after rfl

theorem extends_flush (s : Session) : Extends s s.flush := by
  unfold flush
  split_ifs
  · exact .refl s
  · exact (extends_distributeToSubstream s.sendAll).after (book_sendAllLoop s.sink s)

theorem extends_handleFrame (s : Session) (frame : Frame) : Extends s (s.handleFrame frame) := by
  unfold handleFrame
  cases frame.ty with
  | data | windowUpdate =>
    exact (extends_distributeToSubstream (s.requeue frame)).after rfl
  | ping => exact .of_book (book_handlePing s frame)
  | goAway => exact .of_book (book_handleGoAway s frame)

/-- Whatever comes out of the codec. -/
theorem extends_recvFrames (s : Session) (a : ReadAnswer) : Extends s (s.recvFrames a).1 := by
  cases a with
  | pending => exact .refl s
  | eof => exact .of_book rfl
  | ready =>
    unfold recvFrames
    dsimp only
    split
    · exact .refl s
    · next f rest hin =>
      split
      · exact (extends_handleFrame { s with incoming := rest } _).after rfl
      · exact .of_book rfl
      · exact .of_book rfl

theorem extends_controlPoll (s : Session) : Extends s s.controlPoll.1 := by
  unfold controlPoll
  split
  · exact .refl s
  · next rest _ =>
    exact (extends_openStream { s with controlReceiver := rest }).after rfl
  · next rest _ => exact .of_book (book_shutdown { s with controlReceiver := rest })

/-! ### The rule of `poll_next` -/

/-- **What survives the session's own doing and the events survives `poll_next`.** -/
theorem pollLoop_keeps {P : Session → Prop} (hext : ∀ {s t}, Extends s t → P s → P t)
    (hevent : ∀ s, P s → P s.recvEvents.1) (n : ℕ) :
    ∀ (reads : List ReadAnswer) (s : Session), P s → P (pollLoop n reads s).1 := by
  induction n with
  | zero =>
    intro reads s hp
    exact hp
  | succ n ih =>
    intro reads s hp
    rw [pollLoop]
    split_ifs
    · exact hp
    have hp₁ : P s.flush := hext (extends_flush s) hp
    dsimp only
    split
    · exact hext (s := s.flush) (.of_book rfl) hp₁
    have hp₂ : P s.flush.controlPoll.1 := hext (extends_controlPoll _) hp₁
    generalize s.flush.controlPoll = c at hp₂ ⊢
    have hp₃ := hext (extends_recvFrames c.1 (reads.headD .pending)) hp₂
    generalize c.1.recvFrames (reads.headD .pending) = r at hp₃ ⊢
    rcases r with ⟨s₃, read⟩
    split
    · next heq =>
      cases heq
      exact hp₃
    · next heq =>
      cases heq
      split_ifs
      · exact hevent _ hp₃
      · exact ih _ _ (hevent _ hp₃)

theorem pollNext_keeps {P : Session → Prop} (hext : ∀ {s t}, Extends s t → P s → P t)
    (hevent : ∀ s, P s → P s.recvEvents.1) (now : ℕ) (tick : Bool) (reads : List ReadAnswer)
    {s : Session} (hp : P s) : P (s.pollNext now tick reads).1 := by
  have htick : P (if s.keepalive && tick then s.onTick now else (s, .ok ())).1 := by
    split_ifs
    · exact hext (.of_book (book_onTick s now)) hp
    · exact hp
  unfold pollNext
  by_cases hdead : s.isDead = true
  · rw [if_pos hdead]
    exact hp
  rw [if_neg hdead]
  generalize (if s.keepalive && tick then s.onTick now else (s, .ok ())) = p at htick ⊢
  rcases p with ⟨s₁, _ | _⟩
  · exact htick
  · exact pollLoop_keeps hext hevent 16 reads s₁ htick

/-! ### Runs against an arbitrary peer -/

/-- What can happen to one end of a connection whose peer does as it likes. -/
inductive Input where
  /-- A call on the session or on one of its handles. -/
  | act (a : SessionAct)
  /-- A frame arrives. -/
  | arrive (f : Frame)
  deriving Repr

/-- One step of one end. -/
def input (s : Session) : Input → Session
  | .act a => s.step a
  | .arrive f => { s with incoming := s.incoming ++ [f] }

/-- No dropped handle keeps its place in `streams` once the session has heard `Closed`
of it.  (An id that the peer has used again stands for a newer handle.) -/
def Released (s : Session) : Prop :=
  ∀ i sl, s.handles[i]? = some sl → sl.gone = true → .closed sl.handle.id ∉ s.eventReceiver →
    s.streams.lookup sl.handle.id ≠ some i

/-- Every handle can reach the session. -/
def Linked (s : Session) : Prop := ∀ sl ∈ s.handles, sl.Linked

/-- A handle that is dropped in the state `Closed` has sent `Closed` before: the session
has forgotten the stream, or the event is on its way. -/
def Announced (s : Session) : Input → Prop
  | .act (.handle i .drop) =>
    ∀ sl, s.handles[i]? = some sl → i ∉ s.pendingStreams → sl.gone = false →
      sl.handle.state = .closed → s.streams.lookup sl.handle.id = some i →
      .closed sl.handle.id ∈ s.eventReceiver
  | _ => True

/-! #### What the session does by itself -/

theorem linked_of_extends {t : Session} (h : Extends s t) (hl : s.Linked) : t.Linked := by
  intro sl hsl
  obtain ⟨i, hi⟩ := List.mem_iff_getElem?.mp hsl
  rcases h.handle hi with ⟨sl₀, hi₀, hfix, hout⟩ | ⟨-, -, hnew⟩
  · have hold := hl sl₀ (List.mem_of_getElem? hi₀)
    exact ⟨(congrArg (fun p => p.2.1) hfix).trans hold.1, hout.trans hold.2⟩
  · exact hnew

theorem released_of_extends {t : Session} (h : Extends s t) (hr : s.Released) : t.Released := by
  intro i sl hi hgone hclosed hlook
  rcases h.handle hi with ⟨sl₀, hi₀, hfix, -⟩ | ⟨-, hnew, -⟩
  · -- an old handle: its entry is not a new one
    have hid : sl.handle.id = sl₀.handle.id := congrArg Prod.fst hfix
    have hgone₀ : sl₀.gone = true := (congrArg (fun p => p.2.2) hfix).symm.trans hgone
    rw [hid] at hclosed hlook
    rcases h.lookup hlook with hlook₀ | hlen
    · exact hr i sl₀ hi₀ hgone₀ (fun hmem => hclosed (h.events hmem)) hlook₀
    · exact absurd (List.getElem?_eq_some_iff.mp hi₀).1 (not_lt.mpr hlen)
  · -- a new handle has not been dropped
    simp [hnew] at hgone

theorem linked_recvEvents (hl : s.Linked) : s.recvEvents.1.Linked := by
  unfold recvEvents
  split
  · exact hl
  · next ev rest hev =>
    have hl' : { s with eventReceiver := rest }.Linked := hl
    cases ev with
    | frame f => exact linked_of_extends (.of_book (book_sendFrame _ f)) hl'
    | closed id => exact linked_of_extends (extends_removeStream _ id) hl'
    | goAway => exact linked_of_extends (.of_book (book_sendGoAwayWithCode _ _)) hl'

/-- The session hears of one stream: what it has heard of is forgotten. -/
theorem released_recvEvents (hr : s.Released) : s.recvEvents.1.Released := by
  unfold recvEvents
  split
  · exact hr
  · next ev rest hev =>
    -- an event that is no `Closed` is not what a dropped handle waits for
    have hrest (hno : ∀ id, ev ≠ .closed id) : { s with eventReceiver := rest }.Released := by
      intro i sl hi hgone hclosed
      refine hr i sl hi hgone fun hmem => hclosed ?_
      rw [hev] at hmem
      exact (List.mem_cons.mp hmem).resolve_left fun he => hno _ he.symm
    cases ev with
    | frame f =>
      exact released_of_extends (.of_book (book_sendFrame _ f)) (hrest (by simp))
    | goAway =>
      exact released_of_extends (.of_book (book_sendGoAwayWithCode _ _)) (hrest (by simp))
    | closed id =>
      have hext := extends_removeStream { s with eventReceiver := rest } id
      intro i sl hi hgone hclosed hlook
      rcases hext.handle hi with ⟨sl₀, hi₀, hfix, -⟩ | ⟨-, hnew, -⟩
      · have hid : sl.handle.id = sl₀.handle.id := congrArg Prod.fst hfix
        have hgone₀ : sl₀.gone = true := (congrArg (fun p => p.2.2) hfix).symm.trans hgone
        rw [hid] at hclosed hlook
        change (s.streams.erase id).lookup sl₀.handle.id = some i at hlook
        obtain ⟨h, hlook⟩ := lookup_erase_eq_some_iff.mp hlook
        refine hr i sl₀ hi₀ hgone₀ (fun hmem => hclosed ?_) hlook
        rw [hev] at hmem
        exact (List.mem_cons.mp hmem).resolve_left fun he => h (StreamEvent.closed.inj he)
      · simp [hnew] at hgone

/-! #### Calls on a handle -/

/-- A call on the `i`-th handle, if it can be called. -/
theorem applyHandle_cases (s : Session) (i : ℕ) (op : HandleOp) :
    ((∀ sl, s.handles[i]? = some sl → i ∉ s.pendingStreams → sl.gone = true) ∧
      s.applyHandle i op = s) ∨
    ∃ sl, s.handles[i]? = some sl ∧ i ∉ s.pendingStreams ∧ sl.gone = false ∧
      s.applyHandle i op = { s with
        handles := s.handles.set i (sl.apply op).1
        eventReceiver := s.eventReceiver ++ (sl.apply op).2 } := by
  unfold applyHandle
  split_ifs with hpend
  · exact .inl ⟨fun _ _ hno => absurd hpend hno, rfl⟩
  cases hi : s.handles[i]? with
  | none => exact .inl ⟨by simp, rfl⟩
  | some sl =>
    cases hgone : sl.gone with
    | false => exact .inr ⟨sl, rfl, hpend, hgone, rfl⟩
    | true =>
      refine .inl ⟨fun sl' hsl' _ => by cases hsl'; exact hgone, ?_⟩
      obtain ⟨hlt, rfl⟩ := List.getElem?_eq_some_iff.mp hi
      simp only [Slot.apply_of_gone hgone, List.append_nil, List.set_getElem_self]

theorem linked_applyHandle (hl : s.Linked) (i : ℕ) (op : HandleOp) :
    (s.applyHandle i op).Linked := by
  rcases applyHandle_cases s i op with ⟨-, heq⟩ | ⟨sl, hi, -, -, heq⟩
  · rw [heq]
    exact hl
  · rw [heq]
    intro sl' hsl'
    rcases List.mem_or_eq_of_mem_set hsl' with hold | rfl
    · exact hl sl' hold
    · exact Slot.linked_apply (hl sl (List.mem_of_getElem? hi)) op

/-- A handle that is called and not dropped does not come to wait for its release. -/
theorem released_applyHandle (hr : s.Released) (i : ℕ) {op : HandleOp} (hop : op ≠ .drop) :
    (s.applyHandle i op).Released := by
  rcases applyHandle_cases s i op with ⟨-, heq⟩ | ⟨sl, hi, -, hgone, heq⟩
  · rw [heq]
    exact hr
  · rw [heq]
    intro j sl' hj hgone' hclosed
    rw [List.getElem?_set] at hj
    split_ifs at hj with hij hlt
    · cases hj
      have hstays : (sl.apply op).1.gone = sl.gone :=
        congrArg (fun p => p.2.2) (Slot.fixedPart_apply sl hop)
      simp [hstays, hgone] at hgone'
    · exact hr j sl' hj hgone' fun hmem => hclosed (List.mem_append_left _ hmem)

/-- **Dropping a handle** keeps slots released exactly when the handle is not silent. -/
theorem released_drop_iff (hl : s.Linked) (hr : s.Released) (i : ℕ) :
    (s.applyHandle i .drop).Released ↔ s.Announced (.act (.handle i .drop)) := by
  rcases applyHandle_cases s i .drop with ⟨hno, heq⟩ | ⟨sl, hi, hpend, hgone, heq⟩
  · rw [heq]
    refine ⟨fun _ sl hi hpend hgone => ?_, fun _ => hr⟩
    simp [hno sl hi hpend] at hgone
  obtain ⟨hdropped, hmeans⟩ := Slot.apply_drop (hl sl (List.mem_of_getElem? hi)) hgone
  have hid := Slot.id_apply sl .drop
  have hlt := (List.getElem?_eq_some_iff.mp hi).1
  rw [heq]
  constructor
  · intro hr' sl' hi' _ _ hst hlook
    rw [hi] at hi'
    cases hi'
    by_contra hwaits
    -- nothing is said and nothing is waiting, so the entry would have to be gone
    refine hr' i (sl.apply .drop).1 (by simp [hlt]) hdropped ?_ (by rw [hid]; exact hlook)
    rw [hid, List.mem_append, not_or]
    exact ⟨hwaits, fun hsaid => hmeans.mp hsaid hst⟩
  · intro hann j sl' hj hgone' hclosed hlook
    rw [List.getElem?_set] at hj
    split_ifs at hj with hij
    · subst hij
      cases hj
      rw [hid] at hclosed hlook
      rw [List.mem_append, not_or] at hclosed
      by_cases hst : sl.handle.state = .closed
      · exact hclosed.1 (hann sl hi hpend hgone hst hlook)
      · exact hclosed.2 (hmeans.mpr hst)
    · exact hr j sl' hj hgone' (fun hmem => hclosed (List.mem_append_left _ hmem)) hlook

/-! #### Steps and runs -/

theorem linked_input (hl : s.Linked) (l : Input) : (s.input l).Linked := by
  cases l with
  | arrive f => exact hl
  | act a =>
    cases a with
    | poll now tick sink reads =>
      exact pollNext_keeps linked_of_extends (fun _ => linked_recvEvents) now tick reads
        (s := { s with sink }) hl
    | openStream => exact linked_of_extends (extends_openStream s) hl
    | shutdown sink => exact linked_of_extends (.of_book (book_shutdown { s with sink })) hl
    | sendGoAway sink =>
      exact linked_of_extends (.of_book (book_sendGoAwayWithCode { s with sink } .normal)) hl
    | control c => exact hl
    | handle i op => exact linked_applyHandle hl i op

/-- **One step**: slots stay released exactly when no handle is dropped in silence. -/
theorem released_input_iff (hl : s.Linked) (hr : s.Released) (l : Input) :
    (s.input l).Released ↔ s.Announced l := by
  cases l with
  | arrive f => exact ⟨fun _ => trivial, fun _ => hr⟩
  | act a =>
    cases a with
    | poll now tick sink reads =>
      refine ⟨fun _ => trivial, fun _ => ?_⟩
      exact pollNext_keeps released_of_extends (fun _ => released_recvEvents) now tick reads
        (s := { s with sink }) hr
    | openStream => exact ⟨fun _ => trivial, fun _ => released_of_extends (extends_openStream s) hr⟩
    | shutdown sink =>
      exact ⟨fun _ => trivial,
        fun _ => released_of_extends (.of_book (book_shutdown { s with sink })) hr⟩
    | sendGoAway sink =>
      exact ⟨fun _ => trivial, fun _ =>
        released_of_extends (.of_book (book_sendGoAwayWithCode { s with sink } .normal)) hr⟩
    | control c => exact ⟨fun _ => trivial, fun _ => hr⟩
    | handle i op =>
      by_cases hop : op = .drop
      · subst hop
        exact released_drop_iff hl hr i
      · have htrue : s.Announced (.act (.handle i op)) := by
          cases op with
          | drop => exact absurd rfl hop
          | _ => trivial
        exact ⟨fun _ => htrue, fun _ => released_applyHandle hr i hop⟩

/-- **Slots are given back throughout a run exactly when no handle is dropped in the
state `Closed` before `Closed` has been sent**, whatever arrives from the peer. -/
theorem released_iff_announced (config : Config) (ty : SessionType) (ls : List Input) :
    Throughout input Released (new config ty) ls ↔ Guarded input Announced (new config ty) ls := by
  have hlinked : (new config ty).Linked := by
    intro sl hsl
    exact absurd hsl List.not_mem_nil
  have hreleased : (new config ty).Released := by
    intro i sl hi
    simp [new] at hi
  exact throughout_iff_guarded (I := Linked) (fun s l hl => linked_input hl l)
    (fun s l hl hr => released_input_iff hl hr l) hlinked hreleased ls

/-- The client opens a stream, closes it, then reads the peer's FIN and drops the handle;
the session hears of every event. -/
def halfClosedRun : List Input :=
  let poll (reads : List ReadAnswer) : Input := .act (.poll 0 false [.ready, .ready] reads)
  [.act .openStream, poll [], .act (.handle 0 .shutdown), poll [],
    .arrive (.newWindowUpdate (.ofFlag .fin) 1 0), poll [.ready],
    .act (.handle 0 (.read 1)), .act (.handle 0 .drop), poll []]

/-- **A handle that closes first and then reads the peer's FIN keeps its slot**: it is
dropped, no event is left, and its id is registered still. -/
theorem released_halfClosed :
    let s := runFrom input (new .default .client) halfClosedRun
    (∃ sl, s.handles[0]? = some sl ∧ sl.gone = true ∧ sl.handle.id = 1) ∧
      s.eventReceiver = [] ∧ s.streams.lookup 1 = some 0 ∧ ¬ s.Released := by
  have hslot : ((runFrom input (new .default .client) halfClosedRun).handles[0]?.map
      fun sl => (sl.gone, sl.handle.id)) = some (true, 1) := by decide +kernel
  have hevents : (runFrom input (new .default .client) halfClosedRun).eventReceiver = [] := by
    decide +kernel
  have hlook : (runFrom input (new .default .client) halfClosedRun).streams.lookup 1
      = some 0 := by decide +kernel
  dsimp only
  generalize runFrom input (new .default .client) halfClosedRun = s at *
  obtain ⟨sl, hi, hsl⟩ := Option.map_eq_some_iff.mp hslot
  obtain ⟨hgone, hid⟩ := Prod.mk.inj hsl
  refine ⟨⟨sl, hi, hgone, hid⟩, hevents, hlook, fun hr => ?_⟩
  exact hr 0 sl hi hgone (by simp [hevents]) (by rw [hid]; exact hlook)

end Session

end Yamux
end CkbP2P

import Mathlib.Data.List.AList
import CkbP2P.Yamux.Session

/-!
# The small steps of a session

Every function of the session is a sequence of elementary moves: a frame is handed
from one queue to the next, lost, answered or created, a stream is registered or
forgotten, a flag goes up.  What holds of all moves holds of the session, whatever
the order in which its functions make them.
-/

namespace CkbP2P
namespace Yamux

open Lib Relation

/-- A data or window update frame, as opposed to a ping or go-away. -/
def Frame.isStream (f : Frame) : Bool := f.ty == .data || f.ty == .windowUpdate

/-- `f` is the first frame of its stream in `l`, and `l'` is the rest. -/
def FirstOf (f : Frame) (l l' : List Frame) : Prop :=
  ∃ l₁ l₂, l = l₁ ++ f :: l₂ ∧ l' = l₁ ++ l₂ ∧ ∀ g ∈ l₁, g.streamId ≠ f.streamId

/-- The reset with which a session refuses a stream. -/
def IsRefusal (id : StreamId) (r : Frame) : Prop :=
  r = .newWindowUpdate (.ofFlag .rst) id 0 ∨
    r = .newWindowUpdate ((Flags.ofFlag .ack).add .rst) id 0

/-- One elementary move of a session. -/
inductive Move : Session → Session → Prop
  /-- Bookkeeping that concerns no frame. -/
  | other (s : Session) (pings : List (UInt32 × ℕ)) (pingId : UInt32) (keepalive : Bool)
      (sink : List SinkAnswer) (pendingStreams : List ℕ) (controlReceiver : List Command) :
    Move s { s with pings, pingId, keepalive, sink, pendingStreams, controlReceiver }
  /-- The transport takes a frame. -/
  | transmit {s : Session} {f : Frame} {rest : List Frame}
      (hw : s.writePendingFrames = f :: rest) (he : s.eof = false) :
    Move s { s with writePendingFrames := rest, outgoing := s.outgoing ++ [f] }
  /-- A dead session loses a frame. -/
  | lose {s : Session} {f : Frame} {rest : List Frame}
      (hw : s.writePendingFrames = f :: rest) (hd : s.isDead) :
    Move s { s with writePendingFrames := rest }
  /-- A ping is queued. -/
  | ping (s : Session) (flags : Flags) (n : UInt32) :
    Move s { s with writePendingFrames := s.writePendingFrames ++ [.newPing flags n] }
  /-- The session gives up the connection. -/
  | goAway (s : Session) (code : GoAwayCode) :
    Move s { s with writePendingFrames := [.newGoAway code], localGoAway := true }
  /-- The peer is known to have given up. -/
  | remoteGone (s : Session) : Move s { s with remoteGoAway := true, writePendingFrames := [] }
  /-- The transport has ended. -/
  | eof (s : Session) : Move s { s with eof := true }
  /-- The wait for the peer's go-away is over. -/
  | timeout {s : Session} (hl : s.localGoAway = true) : Move s { s with remoteGoAway := true }
  /-- A frame of a handle is queued. -/
  | emit {s : Session} {f : Frame} {rest : List StreamEvent}
      (hev : s.eventReceiver = .frame f :: rest) :
    Move s { s with eventReceiver := rest, writePendingFrames := s.writePendingFrames ++ [f] }
  /-- An event that is no frame is taken. -/
  | event {s : Session} {ev : StreamEvent} {rest : List StreamEvent}
      (hev : s.eventReceiver = ev :: rest) (hf : framesOf [ev] = []) :
    Move s { s with eventReceiver := rest }
  /-- A stream is forgotten. -/
  | unregister (s : Session) (id : StreamId) : Move s (s.removeStream id)
  /-- A stream frame is read from the transport. -/
  | arrive {s : Session} {f : Frame} {rest : List Frame}
      (hin : s.incoming = f :: rest) (hf : f.isStream = true) :
    Move s { s with incoming := rest, readPendingFrames := s.readPendingFrames ++ [f] }
  /-- A ping or go-away is read from the transport. -/
  | absorb {s : Session} {f : Frame} {rest : List Frame}
      (hin : s.incoming = f :: rest) (hf : f.isStream = false) :
    Move s { s with incoming := rest }
  /-- A frame is put into the channel of its stream. -/
  | pass {s : Session} {f : Frame} {l : List Frame} {i : ℕ} {slot : Slot}
      (hl : FirstOf f s.readPendingFrames l) (hi : s.streams.lookup f.streamId = some i)
      (hs : s.handles[i]? = some slot) (hr : slot.handle.frameReceiver.receiverGone = false) :
    Move s { s with readPendingFrames := l, handles := s.handles.modify i fun sl => sl.push f }
  /-- A frame of a stream that is not registered is dropped. -/
  | skip {s : Session} {f : Frame} {l : List Frame}
      (hl : FirstOf f s.readPendingFrames l) (hnew : f.streamId ∉ s.streams)
      (hsyn : f.isSyn = false) :
    Move s { s with readPendingFrames := l }
  /-- A frame of a stream whose handle is gone is dropped, and the stream forgotten. -/
  | cut {s : Session} {f : Frame} {l : List Frame}
      (hl : FirstOf f s.readPendingFrames l) (hold : f.streamId ∈ s.streams) :
    Move s { s.removeStream f.streamId with readPendingFrames := l }
  /-- A stream of the peer is accepted, and finds the SYN frame in its channel. -/
  | accept {s : Session} {f : Frame} {l : List Frame}
      (hl : FirstOf f s.readPendingFrames l) (hsyn : f.isSyn = true)
      (hnew : f.streamId ∉ s.streams) {slot : Slot} {events : List StreamEvent}
      (hc : Slot.create f.streamId .synReceived s.config.maxStreamWindowSize = (slot, events)) :
    Move s { s with
      readPendingFrames := l
      streams := s.streams.insert f.streamId s.handles.length
      handles := s.handles ++ [slot.push f]
      eventReceiver := s.eventReceiver ++ events }
  /-- A stream of the peer is refused. -/
  | refuse {s : Session} {f r : Frame} {l : List Frame}
      (hl : FirstOf f s.readPendingFrames l) (hsyn : f.isSyn = true)
      (hnew : f.streamId ∉ s.streams) (hr : IsRefusal f.streamId r) :
    Move s { s with readPendingFrames := l, writePendingFrames := s.writePendingFrames ++ [r] }
  /-- A SYN for a registered stream is answered by a reset, and processed further. -/
  | refuseBusy {s : Session} {f r : Frame} {l : List Frame}
      (hl : FirstOf f s.readPendingFrames l) (hsyn : f.isSyn = true)
      (hold : f.streamId ∈ s.streams) (hr : IsRefusal f.streamId r) :
    Move s { s with writePendingFrames := s.writePendingFrames ++ [r] }
  /-- A session that has given up drops the frames it has not distributed. -/
  | giveUp {s : Session} {l : List Frame} (hg : s.localGoAway = true)
      (hl : l.Sublist s.readPendingFrames) :
    Move s { s with readPendingFrames := l }
  /-- A session that has given up refuses a stream. -/
  | refuseGone {s : Session} {id : StreamId} {r : Frame} (hg : s.localGoAway = true)
      (hr : IsRefusal id r) :
    Move s { s with writePendingFrames := s.writePendingFrames ++ [r] }
  /-- A stream of our own is created. -/
  | openStream {s : Session} (hnext : s.nextStreamId.toNat + 2 < 2 ^ 32)
      (hnew : s.nextStreamId ∉ s.streams) {slot : Slot} {events : List StreamEvent}
      (hc : Slot.create s.nextStreamId .init s.config.maxStreamWindowSize = (slot, events)) :
    Move s { s with
      nextStreamId := s.nextStreamId + 2
      streams := s.streams.insert s.nextStreamId s.handles.length
      handles := s.handles ++ [slot]
      eventReceiver := s.eventReceiver ++ events }
  /-- An id of our own is used up. -/
  | burn {s : Session} (hnext : s.nextStreamId.toNat + 2 < 2 ^ 32) :
    Move s { s with nextStreamId := s.nextStreamId + 2 }
  /-- The owner of a handle calls it. -/
  | handle {s : Session} {i : ℕ} {slot : Slot} (hs : s.handles[i]? = some slot) (op : HandleOp) :
    Move s { s with
      handles := s.handles.set i (slot.apply op).1
      eventReceiver := s.eventReceiver ++ (slot.apply op).2 }

/-- Sequences of moves. -/
abbrev Moves : Session → Session → Prop := ReflTransGen Move

namespace Session

variable {s : Session}

/-! ### Writing -/

/-- The flags after the session has given up, when `b` holds. -/
def withGoAway (b : Bool) (s : Session) : Session :=
  { s with localGoAway := s.localGoAway || b }

theorem withGoAway_false (s : Session) : withGoAway false s = s := by
  simp [withGoAway]

/-- The loop of `send_all`.  That it may run before the go-away flag goes up changes
nothing. -/
theorem sendAllLoop_moves (b : Bool) (answers : List SinkAnswer) :
    ∀ s : Session, Moves (withGoAway b s) (withGoAway b (sendAllLoop answers s)) := by
  have quiet (answers : List SinkAnswer) (s : Session) :
      Moves (withGoAway b s) (withGoAway b { s with sink := answers }) :=
    .single (.other (withGoAway b s) _ _ _ answers _ _)
  have lost (answers : List SinkAnswer) {s : Session} {f : Frame} {rest : List Frame}
      (hw : s.writePendingFrames = f :: rest) (hd : s.isDead) :
      Moves (withGoAway b s)
        (withGoAway b { s with writePendingFrames := rest, sink := answers }) := by
    have hd' : (withGoAway b s).isDead := by
      simp only [isDead, withGoAway, Bool.or_eq_true, Bool.and_eq_true] at hd ⊢
      tauto
    refine .tail (.single (.lose (s := withGoAway b s) hw hd')) ?_
    exact .other _ s.pings s.pingId s.keepalive answers s.pendingStreams s.controlReceiver
  intro s
  induction answers generalizing s with
  | nil =>
    by_cases hw : s.writePendingFrames = []
    · exact sendAllLoop_of_nil hw [] ▸ quiet [] s
    · obtain ⟨f, rest, hw⟩ := List.exists_cons_of_ne_nil hw
      cases hd : s.isDead with
      | true => exact sendAllLoop_of_dead hw hd [] ▸ lost [] hw hd
      | false => exact sendAllLoop_of_alive hw hd [] ▸ quiet [] s
  | cons a answers ih =>
    by_cases hw : s.writePendingFrames = []
    · exact sendAllLoop_of_nil hw _ ▸ quiet (a :: answers) s
    · obtain ⟨f, rest, hw⟩ := List.exists_cons_of_ne_nil hw
      cases hd : s.isDead with
      | true => exact sendAllLoop_of_dead hw hd _ ▸ lost (a :: answers) hw hd
      | false =>
        have he : s.eof = false := by
          simp only [isDead, Bool.or_eq_false_iff] at hd
          exact hd.2
        rw [sendAllLoop_of_alive hw hd]
        cases a with
        | pending => exact quiet answers s
        | flushed => exact ih s
        | ready =>
          exact .head (.transmit (s := withGoAway b s) hw he)
            (ih { s with writePendingFrames := rest, outgoing := s.outgoing ++ [f] })

theorem sendAll_moves (s : Session) : Moves s s.sendAll := by
  have h := sendAllLoop_moves false s.sink s
  rwa [withGoAway_false, withGoAway_false] at h

theorem sendFrame_moves (frame : Frame)
    (h : Move s { s with writePendingFrames := s.writePendingFrames ++ [frame] }) :
    Moves s (s.sendFrame frame) :=
  .head h (sendAll_moves _)

theorem sendPing_moves (s : Session) (n : Option UInt32) : Moves s (s.sendPing n).1 := by
  cases n with
  | some n => exact sendFrame_moves _ (.ping s _ n)
  | none =>
    refine .head ?_ (sendFrame_moves (s := { s with pingId := s.pingId + 1 }) _ (.ping _ _ _))
    exact .other s s.pings _ s.keepalive s.sink s.pendingStreams s.controlReceiver

/-- The go-away is passed on.  The source raises its flag after this, the move before. -/
theorem goAway_moves (s : Session) (code : GoAwayCode) :
    Moves { s with writePendingFrames := [.newGoAway code], localGoAway := true }
      (s.sendGoAwayWithCode code) := by
  have hsend := sendAllLoop_moves true s.sink { s with writePendingFrames := [.newGoAway code] }
  simp only [withGoAway, Bool.or_true] at hsend
  refine .tail hsend ?_
  exact .other _ _ _ true _ _ _

theorem sendGoAwayWithCode_moves (s : Session) (code : GoAwayCode) :
    Moves s (s.sendGoAwayWithCode code) :=
  .head (.goAway s code) (goAway_moves s code)

theorem shutdown_moves (s : Session) : Moves s s.shutdown := by
  unfold shutdown
  split_ifs
  · exact .refl
  · exact sendGoAwayWithCode_moves s .normal

theorem keepAlive_moves (s : Session) (now : ℕ) : Moves s (s.keepAlive now).1 := by
  unfold keepAlive
  split_ifs
  · exact .refl
  · refine .tail (sendPing_moves s none) ?_
    exact .other _ _ _ _ _ _ _

/-! ### Streams -/

theorem openStream_moves (s : Session) : Moves s s.openStream.1 := by
  unfold openStream createStream insertStream
  split_ifs with hdead hgone hnext hold
  · exact .refl
  · exact .refl
  · exact .single (.burn hnext)
  · exact .single (.openStream hnext hold rfl)
  · exact .refl

/-! ### Distribution -/

/-- What `passOn` does, by the state of the stream and of its channel. -/
theorem passOn_outcome (s : Session) (frame : Frame) :
    (s.streams.lookup frame.streamId = none ∧ s.passOn frame = (s, false)) ∨
    ∃ i, s.streams.lookup frame.streamId = some i ∧
      ((s.handles[i]? = none ∧ s.passOn frame = (s.removeStream frame.streamId, false)) ∨
      ∃ slot, s.handles[i]? = some slot ∧
        ((slot.gone = true ∧ s.passOn frame = (s.removeStream frame.streamId, false)) ∨
        (slot.gone = false ∧ slot.handle.frameReceiver.parked = true ∧
          s.passOn frame = (s.requeue frame, true)) ∨
        (slot.gone = false ∧ slot.handle.frameReceiver.parked = false ∧ s.passOn frame
          = ({ s with handles := s.handles.modify i fun slot => slot.push frame }, false)))) := by
  unfold passOn
  cases hi : s.streams.lookup frame.streamId with
  | none => exact .inl ⟨rfl, rfl⟩
  | some i =>
    refine .inr ⟨i, rfl, ?_⟩
    cases hs : s.handles[i]? with
    | none => exact .inl ⟨rfl, by simp only [hs]⟩
    | some slot =>
      refine .inr ⟨slot, rfl, ?_⟩
      cases hgone : slot.gone with
      | true =>
        have hp : slot.handle.frameReceiver.pollReady = .ready (.error .disconnected) :=
          if_pos hgone
        exact .inl ⟨rfl, by simp only [hs, hp]⟩
      | false =>
        have hready : slot.handle.frameReceiver.pollReady = _ :=
          if_neg (ne_true_of_eq_false hgone)
        cases hpark : slot.handle.frameReceiver.parked with
        | true =>
          rw [hpark, if_pos rfl] at hready
          exact .inr (.inl ⟨rfl, rfl, by simp only [hs, hready]⟩)
        | false =>
          rw [hpark, if_neg (by simp)] at hready
          refine .inr (.inr ⟨rfl, rfl, ?_⟩)
          simp only [hs, hready, Channel.trySend_of_pollReady hready]

/-- What `passOn` can do. -/
theorem passOn_cases (s : Session) (frame : Frame) :
    (frame.streamId ∉ s.streams ∧ s.passOn frame = (s, false)) ∨
    (∃ i slot, s.streams.lookup frame.streamId = some i ∧ s.handles[i]? = some slot ∧
      slot.handle.frameReceiver.receiverGone = false ∧
      s.passOn frame
        = ({ s with handles := s.handles.modify i fun slot => slot.push frame }, false)) ∨
    s.passOn frame = (s.requeue frame, true) ∨
    (frame.streamId ∈ s.streams ∧
      s.passOn frame = (s.removeStream frame.streamId, false)) := by
  rcases passOn_outcome s frame with ⟨hi, heq⟩ | ⟨i, hi, hout⟩
  · exact .inl ⟨AList.lookup_eq_none.mp hi, heq⟩
  · have hold : frame.streamId ∈ s.streams := by
      rw [← AList.lookup_isSome, hi]
      rfl
    rcases hout with ⟨-, heq⟩ | ⟨slot, hs, ⟨-, heq⟩ | ⟨-, -, heq⟩ | ⟨hgone, -, heq⟩⟩
    · exact .inr (.inr (.inr ⟨hold, heq⟩))
    · exact .inr (.inr (.inr ⟨hold, heq⟩))
    · exact .inr (.inr (.inl heq))
    · exact .inr (.inl ⟨i, slot, hi, hs, hgone, heq⟩)

variable {frame : Frame}

/-- The frames put back, followed by those not yet looked at, as one queue. -/
def withRest (s : Session) (buf : List Frame) : Session :=
  { s with readPendingFrames := s.readPendingFrames ++ buf }

/-- The first frame of the rest is the first of its stream, when those put back
belong to other streams. -/
theorem firstOf_append {l : List Frame} (buf : List Frame)
    (hb : ∀ g ∈ l, g.streamId ≠ frame.streamId) :
    FirstOf frame (l ++ frame :: buf) (l ++ buf) := ⟨l, buf, rfl, rfl, hb⟩

/-- A frame is passed on, put back or dropped; a SYN frame only reaches this point
when its stream is registered. -/
theorem passOn_moves (buf : List Frame)
    (hb : ∀ g ∈ s.readPendingFrames, g.streamId ≠ frame.streamId)
    (hsyn : frame.isSyn = true → frame.streamId ∈ s.streams) {s' : Session} {blocked : Bool}
    (h : s.passOn frame = (s', blocked)) :
    Moves (s.withRest (frame :: buf)) (s'.withRest buf) ∧
      s'.readPendingFrames = s.readPendingFrames ++ (if blocked then [frame] else []) := by
  rcases passOn_cases s frame with ⟨hnew, heq⟩ | ⟨i, slot, hi, hs, hr, heq⟩ | heq | ⟨hold, heq⟩ <;>
    (rw [heq] at h; cases h)
  · have hno : frame.isSyn = false := by
      cases hc : frame.isSyn with
      | false => rfl
      | true => exact absurd (hsyn hc) hnew
    exact ⟨.single (.skip (s := s.withRest (frame :: buf)) (firstOf_append buf hb) hnew
      hno), by simp⟩
  · exact ⟨.single (.pass (s := s.withRest (frame :: buf)) (firstOf_append buf hb) hi
      hs hr), by simp⟩
  · refine ⟨?_, rfl⟩
    simp only [withRest, requeue, List.append_assoc, List.singleton_append]
    exact .refl
  · exact ⟨.single (.cut (s := s.withRest (frame :: buf)) (firstOf_append buf hb) hold),
      (List.append_nil _).symm⟩

/-- A fresh channel takes the frame. -/
theorem passOn_fresh {i : ℕ} (slot : Slot) (hl : s.streams.lookup frame.streamId = some i)
    (hs : s.handles[i]? = some slot) (hch : slot.handle.frameReceiver = Channel.new Frame 8) :
    s.passOn frame = ({ s with handles := s.handles.modify i fun sl => sl.push frame }, false) := by
  have hready : slot.handle.frameReceiver.pollReady = .ready (.ok ()) := by
    rw [hch]
    rfl
  simp only [passOn, hl, hs, hready, Channel.trySend_of_pollReady hready]

theorem modify_append_singleton {α : Type*} (l : List α) (a : α) (f : α → α) :
    (l ++ [a]).modify l.length f = l ++ [f a] := by
  induction l with
  | nil => rfl
  | cons b l ih => simp [ih]

/-- One round of the loop, when the stream is not blocked. -/
theorem round_moves (buf : List Frame)
    (hb : ∀ g ∈ s.readPendingFrames, g.streamId ≠ frame.streamId) :
    (∀ s₁, s.acceptSyn frame = (s₁, false) → Moves (s.withRest (frame :: buf)) s₁) ∧
    ∀ s₁ s₂ blocked, s.acceptSyn frame = (s₁, true) → s₁.passOn frame = (s₂, blocked) →
      Moves (s.withRest (frame :: buf)) (s₂.withRest buf) ∧
        s₂.readPendingFrames = s.readPendingFrames ++ (if blocked then [frame] else []) := by
  cases hsyn : frame.isSyn with
  | false =>
    have hacc : s.acceptSyn frame = (s, true) := if_neg (ne_true_of_eq_false hsyn)
    refine ⟨fun s₁ h => by simp [hacc] at h, fun s₁ s₂ blocked h => ?_⟩
    rw [hacc] at h
    cases h
    exact passOn_moves buf hb (by simp [hsyn])
  | true =>
    have hfirst := firstOf_append buf hb
    have hdrop := List.sublist_append_left s.readPendingFrames (frame :: buf)
    have hacc : s.acceptSyn frame = _ := if_pos hsyn
    rw [hacc]
    split_ifs with hgone hroom
    · -- this side has given up: the frame is refused and the rest is dropped
      refine ⟨fun s₁ h => ?_, fun _ _ _ h => by simp at h⟩
      cases h
      exact .head (.giveUp (s := s.withRest (frame :: buf)) hgone hdrop)
        (sendFrame_moves _ (.refuseGone hgone (.inl rfl)))
    · simp only [createStream, insertStream]
      split_ifs with hold
      · -- the id is in use: the connection is given up and the rest is dropped
        refine ⟨fun s₁ h => ?_, fun _ _ _ h => by simp at h⟩
        cases h
        exact .head (.goAway (s.withRest (frame :: buf)) .protocolError)
          (.head (.giveUp rfl hdrop) (goAway_moves s .protocolError))
      · -- the stream is accepted, and its channel takes the frame
        refine ⟨fun s₁ h => by simp at h, fun s₁ s₂ blocked h₁ h₂ => ?_⟩
        cases h₁
        rw [passOn_fresh _ (AList.lookup_insert s.streams) List.getElem?_concat_length
          (Slot.create_frameReceiver _ _)] at h₂
        cases h₂
        simp only [modify_append_singleton]
        refine ⟨.tail (.single (.accept (s := s.withRest (frame :: buf)) hfirst hsyn hold rfl)) ?_,
          by simp⟩
        exact .other _ _ _ _ _ _ _
    · -- no room: the stream is refused
      refine ⟨fun s₁ h => by simp at h, fun s₁ s₂ blocked h₁ h₂ => ?_⟩
      cases h₁
      by_cases hold : frame.streamId ∈ s.streams
      · obtain ⟨hmoves, hrpf⟩ := passOn_moves buf (by exact hb) (fun _ => by exact hold) h₂
        exact ⟨.head (.refuseBusy (s := s.withRest (frame :: buf)) hfirst hsyn hold (.inr rfl))
          hmoves, hrpf⟩
      · have hnone : s.streams.lookup frame.streamId = none := AList.lookup_eq_none.mpr hold
        simp only [passOn, hnone] at h₂
        cases h₂
        exact ⟨.single (.refuse (s := s.withRest (frame :: buf)) hfirst hsyn hold (.inr rfl)),
          by simp⟩

/-- **The distribution loop.**  The frames put back belong to blocked streams, so what
is passed on is always the first waiting frame of its stream. -/
theorem distributeLoop_moves (buf : List Frame) :
    ∀ (blocked : List StreamId) (s : Session), (∀ g ∈ s.readPendingFrames, g.streamId ∈ blocked) →
      Moves (s.withRest buf) (distributeLoop buf blocked s) := by
  induction buf with
  | nil =>
    intro blocked s _
    simp only [withRest, List.append_nil, distributeLoop]
    exact .refl
  | cons frame buf ih =>
    intro blocked s hbl
    rw [distributeLoop]
    split_ifs with hin
    · have heq : s.withRest (frame :: buf) = (s.requeue frame).withRest buf := by
        simp [withRest, requeue]
      rw [heq]
      refine ih blocked _ fun g hg => ?_
      rcases List.mem_append.mp hg with hg | hg
      · exact hbl g hg
      · rw [List.mem_singleton.mp hg]
        exact hin
    · have hb : ∀ g ∈ s.readPendingFrames, g.streamId ≠ frame.streamId :=
        fun g hg he => hin (he ▸ hbl g hg)
      obtain ⟨hret, hcont⟩ := round_moves buf hb
      rcases hacc : s.acceptSyn frame with ⟨s₁, go⟩
      cases go with
      | false => exact hret s₁ hacc
      | true =>
        rcases hpass : s₁.passOn frame with ⟨s₂, full⟩
        obtain ⟨hmoves, hrpf⟩ := hcont s₁ s₂ full hacc hpass
        refine hmoves.trans ?_
        simp only [hpass]
        cases full with
        | true =>
          refine ih (frame.streamId :: blocked) s₂ fun g hg => ?_
          rw [hrpf] at hg
          rcases List.mem_append.mp hg with hg | hg
          · exact List.mem_cons_of_mem _ (hbl g hg)
          · rw [List.mem_singleton.mp hg]
            exact List.mem_cons_self
        | false =>
          refine ih blocked s₂ fun g hg => ?_
          rw [hrpf] at hg
          exact hbl g (by simpa using hg)

theorem distributeToSubstream_moves (s : Session) : Moves s s.distributeToSubstream :=
  distributeLoop_moves s.readPendingFrames [] { s with readPendingFrames := [] } (by simp)

theorem flush_moves (s : Session) : Moves s s.flush := by
  unfold flush
  split_ifs
  · exact .refl
  · exact (sendAll_moves s).trans (distributeToSubstream_moves _)

/-! ### What arrives -/

theorem handlePing_moves (s : Session) (f : Frame) : Moves s (s.handlePing f) := by
  unfold handlePing
  split_ifs
  · exact sendPing_moves s _
  · exact .single (.other s _ s.pingId s.keepalive s.sink s.pendingStreams s.controlReceiver)
  · exact .refl

theorem handleGoAway_moves (s : Session) (f : Frame) : Moves s (s.handleGoAway f) := by
  have close (s : Session) : Moves s
      (let s := { s with remoteGoAway := true, writePendingFrames := [] }
       if s.localGoAway then s else s.sendGoAway) := by
    refine .head (.remoteGone s) ?_
    dsimp only
    split_ifs
    · exact .refl
    · exact sendGoAwayWithCode_moves _ .normal
  unfold handleGoAway
  cases GoAwayCode.ofU32 f.length <;> exact close s

/-- The next frame of the transport is processed. -/
theorem handleFrame_moves {f : Frame} {rest : List Frame} (hin : s.incoming = f :: rest) :
    Moves s ({ s with incoming := rest }.handleFrame f) := by
  unfold handleFrame
  cases hty : f.ty with
  | data | windowUpdate =>
    exact .head (.arrive hin (by simp [Frame.isStream, hty])) (distributeToSubstream_moves _)
  | ping => exact .head (.absorb hin (by simp [Frame.isStream, hty])) (handlePing_moves _ f)
  | goAway => exact .head (.absorb hin (by simp [Frame.isStream, hty])) (handleGoAway_moves _ f)

/-- Every waiting frame is one the codec reads back. -/
def Readable (s : Session) : Prop :=
  ∀ f ∈ s.incoming, FrameCodec.Accepts s.config.maxStreamWindowSize f

/-- Reading from the transport is a sequence of moves and meets no error. -/
theorem recvFrames_moves (hr : s.Readable) (a : ReadAnswer) :
    Moves s (s.recvFrames a).1 ∧ ∀ e, (s.recvFrames a).2 ≠ .ready (some (.error e)) := by
  cases a with
  | pending => exact ⟨.refl, by simp [recvFrames]⟩
  | eof => exact ⟨.single (.eof s), by simp [recvFrames]⟩
  | ready =>
    cases hin : s.incoming with
    | nil =>
      have heq : s.recvFrames .ready = (s, .pending) := by simp [recvFrames, hin]
      rw [heq]
      exact ⟨.refl, by simp⟩
    | cons f rest =>
      have hdec := FrameCodec.decode_encode (hr f (by simp [hin])) []
      rw [List.append_nil] at hdec
      have heq : s.recvFrames .ready
          = ({ s with incoming := rest }.handleFrame f, .ready (some (.ok ()))) := by
        simp only [recvFrames, hin, hdec]
      rw [heq]
      exact ⟨handleFrame_moves hin, by simp⟩

/-! ### Events and commands -/

theorem handleEvent_moves {ev : StreamEvent} {rest : List StreamEvent}
    (hev : s.eventReceiver = ev :: rest) :
    Moves s ({ s with eventReceiver := rest }.handleEvent ev) := by
  cases ev with
  | frame f => exact .head (.emit hev) (sendAll_moves _)
  | closed id => exact .head (.event hev rfl) (.single (.unregister _ id))
  | goAway => exact .head (.event hev rfl) (sendGoAwayWithCode_moves _ _)

theorem recvEvents_moves (s : Session) : Moves s s.recvEvents.1 := by
  unfold recvEvents
  cases hev : s.eventReceiver with
  | nil => exact .refl
  | cons ev rest => exact handleEvent_moves hev

theorem controlPoll_moves (s : Session) : Moves s s.controlPoll.1 := by
  unfold controlPoll
  rcases hc : s.controlReceiver with _ | ⟨_ | _, rest⟩
  · exact .refl
  · exact .head (.other s s.pings s.pingId s.keepalive s.sink s.pendingStreams rest)
      (openStream_moves _)
  · exact .head (.other s s.pings s.pingId s.keepalive s.sink s.pendingStreams rest)
      (shutdown_moves _)

end Session

/-! ### The poll function -/

theorem Move.config_eq {s t : Session} (h : Move s t) : t.config = s.config := by
  cases h <;> rfl

/-- A session only takes from the front of what has arrived. -/
theorem Move.incoming_suffix {s t : Session} (h : Move s t) : t.incoming <:+ s.incoming := by
  cases h with
  | arrive hin | absorb hin => exact hin ▸ List.suffix_cons _ _
  | _ => exact List.suffix_rfl

theorem Moves.readable {s t : Session} (h : Moves s t) (hr : s.Readable) : t.Readable := by
  induction h with
  | refl => exact hr
  | tail _ hm ih =>
    intro f hf
    rw [hm.config_eq]
    exact ih f (hm.incoming_suffix.subset hf)

namespace Session

variable {s : Session}

/-- **The loop of `poll_next`**. -/
theorem pollLoop_moves (n : ℕ) :
    ∀ (reads : List ReadAnswer) (s : Session), s.Readable → Moves s (pollLoop n reads s).1 := by
  induction n with
  | zero => exact fun _ _ _ => .refl
  | succ n ih =>
    intro reads s hr
    rw [pollLoop]
    split_ifs with hdead
    · exact .refl
    refine (flush_moves s).trans ?_
    have hr₁ := (flush_moves s).readable hr
    generalize s.flush = s at hr₁ ⊢
    dsimp only
    split
    · exact .single (.other s s.pings s.pingId s.keepalive s.sink _ s.controlReceiver)
    · refine (controlPoll_moves s).trans ?_
      have hr₂ := (controlPoll_moves s).readable hr₁
      generalize s.controlPoll = p at hr₂ ⊢
      obtain ⟨hmoves, hok⟩ := recvFrames_moves hr₂ (reads.headD .pending)
      refine hmoves.trans ?_
      have hr₃ := hmoves.readable hr₂
      generalize p.1.recvFrames (reads.headD .pending) = q at hok hr₃ ⊢
      obtain ⟨s₃, read⟩ := q
      have rest : Moves s₃ (if p.2 = false ∧ read = .pending ∧ s₃.recvEvents.2 = false then
          (s₃.recvEvents.1, .pending) else pollLoop n reads.tail s₃.recvEvents.1).1 := by
        refine (recvEvents_moves s₃).trans ?_
        split_ifs
        · exact .refl
        · exact ih _ _ ((recvEvents_moves s₃).readable hr₃)
      rcases read with (_ | _ | _) | _
      · exact rest
      · exact absurd rfl (hok _)
      · exact rest
      · exact rest

theorem onTick_moves (s : Session) (now : ℕ) : Moves s (s.onTick now).1 := by
  unfold onTick
  split_ifs with hl
  · exact .single (.timeout hl)
  · exact keepAlive_moves s now

/-- **`poll_next` is a sequence of moves.** -/
theorem pollNext_moves (hr : s.Readable) (now : ℕ) (tick : Bool) (reads : List ReadAnswer) :
    Moves s (s.pollNext now tick reads).1 := by
  have htick : Moves s (if s.keepalive && tick then s.onTick now else (s, .ok ())).1 := by
    split_ifs
    · exact onTick_moves s now
    · exact .refl
  unfold pollNext
  by_cases hdead : s.isDead = true
  · rw [if_pos hdead]
  rw [if_neg hdead]
  refine htick.trans ?_
  have hr₁ := htick.readable hr
  generalize (if s.keepalive && tick then s.onTick now else (s, .ok ())) = p at hr₁ ⊢
  rcases p with ⟨s₁, _ | _⟩
  · exact .refl
  · exact pollLoop_moves 16 reads s₁ hr₁

/-- **Every step of one end is a sequence of moves.** -/
theorem step_moves (hr : s.Readable) (a : SessionAct) : Moves s (s.step a) := by
  have setSink (sink : List SinkAnswer) : Move s { s with sink } :=
    .other s s.pings s.pingId s.keepalive sink s.pendingStreams s.controlReceiver
  cases a with
  | poll now tick sink reads =>
    exact .head (setSink sink) (pollNext_moves (s := { s with sink }) hr now tick reads)
  | openStream => exact openStream_moves s
  | shutdown sink => exact .head (setSink sink) (shutdown_moves _)
  | sendGoAway sink => exact .head (setSink sink) (sendGoAwayWithCode_moves _ _)
  | control c =>
    exact .single (.other s s.pings s.pingId s.keepalive s.sink s.pendingStreams _)
  | handle i op =>
    simp only [step, applyHandle]
    split_ifs
    · exact .refl
    · cases hs : s.handles[i]? with
      | none => exact .refl
      | some slot => exact .single (.handle hs op)

end Session

end Yamux
end CkbP2P

import Mathlib.Order.Lattice
import CkbP2P.Yamux.Checked

/-!
# The small steps of a stream handle

Every call on a handle is a sequence of elementary moves, whatever frames wait in its
channel: a frame is taken, a flag of the peer turns the state, a frame is emitted with
the flag the state owes, the stream is closed.  What holds of all moves holds of every
call.  The session is there throughout, so that what is sent arrives.
-/

namespace CkbP2P
namespace Yamux

open Lib Relation

/-- `get_flags` in state `st` attaches `flags` and leaves the state `st'`. -/
inductive Flagged : StreamState → Flags → StreamState → Prop
  | syn : Flagged .init (.ofFlag .syn) .synSent
  | ack : Flagged .synReceived (.ofFlag .ack) .established
  | none {st : StreamState} (hi : st ≠ .init) (hr : st ≠ .synReceived) : Flagged st .empty st

/-- The state turns without a frame being emitted. -/
inductive Turns : StreamState → StreamState → Prop
  /-- The peer's ACK. -/
  | ack : Turns .synSent .synReceived
  /-- The peer's FIN. -/
  | fin {st : StreamState} (hst : st = .init ∨ st = .synSent ∨ st = .synReceived ∨
      st = .established) : Turns st .remoteClosing
  /-- The peer's FIN after ours. -/
  | finish : Turns .localClosing .closed
  /-- The peer's RST. -/
  | rst (st : StreamState) : Turns st .reset
  /-- `close` of a stream whose end is reached. -/
  | retire {st : StreamState} (hst : st = .reset ∨ st = .closed ∨ st = .localClosing) :
    Turns st .closed

/-- One elementary act of a handle, which leaves its channel alone. -/
inductive HAct : StreamHandle → StreamHandle → Prop
  /-- Windows are counted, bytes are buffered or handed out. -/
  | count (h : StreamHandle) (recvWindow sendWindow : UInt32) (readBuf : Bytes) :
    HAct h { h with recvWindow, sendWindow, readBuf }
  | turn {h : StreamHandle} {st : StreamState} (ht : Turns h.state st) :
    HAct h { h with state := st }
  /-- A window update is emitted. -/
  | update {h : StreamHandle} {flags : Flags} {st : StreamState}
      (hf : Flagged h.state flags st) (delta : UInt32) :
    HAct h { h with
      state := st, outbox := h.outbox ++ [.frame (.newWindowUpdate flags h.id delta)] }
  /-- Data is emitted. -/
  | data {h : StreamHandle} {flags : Flags} {st : StreamState}
      (hf : Flagged h.state flags st)
      (hst : h.state ≠ .reset ∧ h.state ≠ .localClosing ∧ h.state ≠ .closed) (b : Bytes) :
    HAct h { h with
      state := st, outbox := h.outbox ++ [.frame (.newData flags h.id b)] }
  /-- A FIN is emitted. -/
  | fin {h : StreamHandle} {st : StreamState}
      (hst : ¬ h.Stopped ∧ h.state ≠ .localClosing ∧ st = .localClosing ∨
        h.state = .remoteClosing ∧ st = .closed) :
    HAct h { h with
      state := st
      outbox := h.outbox ++ [.frame (.newWindowUpdate (Flags.empty.add .fin) h.id 0)] }

/-- One elementary move of a handle. -/
inductive HMove : StreamHandle → StreamHandle → Prop
  | act {h h' : StreamHandle} (ha : HAct h h') : HMove h h'
  /-- A frame is taken from the channel. -/
  | take {h : StreamHandle} {f : Frame} {rest : List Frame}
      (hq : h.frameReceiver.queue = f :: rest) :
    HMove h { h with frameReceiver := h.frameReceiver.pop }
  /-- The channel reports its end. -/
  | drained {h : StreamHandle} (hgone : h.frameReceiver.senderGone = true) :
    HMove h { h with frameReceiver := { h.frameReceiver with terminated := true } }
  /-- A frame that was taken has broken the protocol. -/
  | violation (h : StreamHandle) :
    HMove h { h with state := .localClosing, outbox := h.outbox ++ [.goAway] }
  /-- The channel has ended while the peer was expected to send more. -/
  | hangUp {h : StreamHandle} (hrun : ¬ h.Stopped) (hend : h.frameReceiver.terminated = true) :
    HMove h { h with state := .remoteClosing }

/-- Sequences of acts. -/
abbrev HActs : StreamHandle → StreamHandle → Prop := ReflTransGen HAct

/-- Sequences of moves. -/
abbrev HMoves : StreamHandle → StreamHandle → Prop := ReflTransGen HMove

theorem HActs.hmoves {h h' : StreamHandle} (ha : HActs h h') : HMoves h h' :=
  ReflTransGen.mono (fun _ _ => HMove.act) _ _ ha

/-! ### What moves leave alone -/

/-- An act leaves the channel, the id and the way to the session alone. -/
theorem HAct.fixed {h h' : StreamHandle} (ha : HAct h h') :
    h'.frameReceiver = h.frameReceiver ∧ h'.id = h.id ∧ h'.eventClosed = h.eventClosed := by
  cases ha <;> exact ⟨rfl, rfl, rfl⟩

theorem HActs.frameReceiver_eq {h h' : StreamHandle} (ha : HActs h h') :
    h'.frameReceiver = h.frameReceiver := by
  induction ha with
  | refl => rfl
  | tail _ ha ih => exact ha.fixed.1.trans ih

/-- A handle that has stopped receiving does not resume by an act. -/
theorem HAct.stopped {h h' : StreamHandle} (ha : HAct h h') (hs : h.Stopped) : h'.Stopped := by
  have flagged {flags : Flags} {st : StreamState} (hf : Flagged h.state flags st) :
      st = h.state := by
    unfold StreamHandle.Stopped at hs
    generalize h.state = st₀ at hf hs
    cases hf with
    | syn => simp at hs
    | ack => simp at hs
    | none => rfl
  cases ha with
  | count => exact hs
  | turn ht =>
    unfold StreamHandle.Stopped at hs ⊢
    dsimp only
    generalize h.state = st₀ at ht hs
    cases ht with
    | ack => simp at hs
    | fin | finish | rst | retire => simp
  | update hf =>
    cases flagged hf
    exact hs
  | data hf =>
    cases flagged hf
    exact hs
  | fin hst =>
    rcases hst with ⟨hrun, -⟩ | ⟨-, rfl⟩
    · exact absurd hs hrun
    · exact .inr (.inl rfl)

theorem HActs.stopped {h h' : StreamHandle} (ha : HActs h h') (hs : h.Stopped) : h'.Stopped := by
  induction ha with
  | refl => exact hs
  | tail _ ha ih => exact ha.stopped ih

theorem HMove.queue_suffix {h h' : StreamHandle} (hm : HMove h h') :
    h'.frameReceiver.queue <:+ h.frameReceiver.queue := by
  cases hm with
  | act ha => exact ha.fixed.1 ▸ List.suffix_rfl
  | take hq => exact List.tail_suffix _
  | drained | violation | hangUp => exact List.suffix_rfl

/-- Frames are taken from the front of the channel. -/
theorem HMoves.queue_suffix {h h' : StreamHandle} (hm : HMoves h h') :
    h'.frameReceiver.queue <:+ h.frameReceiver.queue := by
  induction hm with
  | refl => exact List.suffix_rfl
  | tail _ hm ih => exact hm.queue_suffix.trans ih

/-- What no call changes: the id, the way to the session, and the ends of the channel. -/
def StreamHandle.ends (h : StreamHandle) : StreamId × Bool × Bool × Bool :=
  (h.id, h.eventClosed, h.frameReceiver.receiverGone, h.frameReceiver.senderGone)

theorem HMoves.ends_eq {h h' : StreamHandle} (hm : HMoves h h') : h'.ends = h.ends := by
  induction hm with
  | refl => rfl
  | tail _ hm ih =>
    refine Eq.trans ?_ ih
    cases hm with
    | act ha =>
      obtain ⟨hreceiver, hid, hev⟩ := ha.fixed
      unfold StreamHandle.ends
      rw [hreceiver, hid, hev]
    | take | drained | violation | hangUp => rfl

/-- No move tells the session that the stream is closed. -/
theorem HMoves.closed_mem {h h' : StreamHandle} (hm : HMoves h h') {id : StreamId}
    (hmem : .closed id ∈ h'.outbox) : .closed id ∈ h.outbox := by
  induction hm with
  | refl => exact hmem
  | tail _ hm ih =>
    refine ih ?_
    cases hm with
    | act ha => cases ha <;> simpa using hmem
    | violation => simpa using hmem
    | take | drained | hangUp => exact hmem

/-! ### Calls are sequences of moves -/

namespace StreamHandle

variable {h : StreamHandle}

theorem getFlags_flagged (h : StreamHandle) :
    ∃ st flags, h.getFlags = ({ h with state := st }, flags) ∧ Flagged h.state flags st := by
  unfold getFlags
  cases hs : h.state with
  | init => exact ⟨.synSent, .ofFlag .syn, rfl, .syn⟩
  | synReceived => exact ⟨.established, .ofFlag .ack, rfl, .ack⟩
  | synSent | established | localClosing | remoteClosing | closed | reset =>
    exact ⟨h.state, .empty, rfl, by rw [hs]; exact .none (by simp) (by simp)⟩

/-- Without a flag the state stays. -/
theorem Flagged.state_eq {st st' : StreamState} {flags : Flags} (hf : Flagged st flags st')
    (hv : flags.value = 0) : st' = st := by
  cases hf with
  | syn => simp [Flags.ofFlag, Flag.bit] at hv
  | ack => simp [Flags.ofFlag, Flag.bit] at hv
  | none => rfl

theorem sendWindowUpdate_hacts (halive : h.eventClosed = false) :
    HActs h h.sendWindowUpdate.1 := by
  obtain ⟨st, flags, hflags, hf⟩ := h.getFlags_flagged
  simp only [sendWindowUpdate, hflags]
  split_ifs with hsmall
  · have hst : st = h.state := Flagged.state_eq hf hsmall.2
    subst hst
    exact .refl
  · rw [unboundSendEvent_eq (by exact halive)]
    exact .tail (.single (.update hf _)) (.count _ _ h.sendWindow h.readBuf)

/-- `close` acts, and tells the session when the stream is closed for good. -/
theorem close_hacts (halive : h.eventClosed = false) :
    ∃ h', HActs h h' ∧ (h.close.1 = h' ∨
      h'.state = .closed ∧ h.close.1 = { h' with outbox := h'.outbox ++ [.closed h'.id] }) := by
  -- the flags of a stream in these two states are empty
  have hfin {st : StreamState} (hst : st = .localClosing ∨ st = .closed) :
      ({ h with state := st } : StreamHandle).sendClose = ({ h with
        state := st
        outbox := h.outbox ++ [.frame (.newWindowUpdate (Flags.empty.add .fin) h.id 0)] },
        .ok ()) := by
    rcases hst with rfl | rfl <;> exact unboundSendEvent_eq halive
  unfold close
  cases hs : h.state with
  | init | synSent | synReceived | established =>
    dsimp only
    rw [hfin (.inl rfl)]
    exact ⟨_, .single (.fin (.inl ⟨by simp [Stopped, hs], by simp [hs], rfl⟩)), .inl rfl⟩
  | remoteClosing =>
    dsimp only
    rw [hfin (.inr rfl)]
    dsimp only
    rw [unboundSendEvent_eq (by exact halive)]
    exact ⟨_, .single (.fin (.inr ⟨hs, rfl⟩)), .inr ⟨rfl, rfl⟩⟩
  | reset | closed | localClosing =>
    dsimp only
    rw [unboundSendEvent_eq (by exact halive)]
    exact ⟨_, .single (.turn (.retire (by simp [hs]))), .inr ⟨rfl, rfl⟩⟩

theorem pollShutdown_fst (h : StreamHandle) : h.pollShutdown.1 = h.close.1 := by
  unfold pollShutdown
  generalize h.close = r
  obtain ⟨h', _ | _⟩ := r <;> rfl

theorem pollWrite_hacts (halive : h.eventClosed = false) (buf : Bytes) :
    HActs h (h.pollWrite buf).1 := by
  obtain ⟨st, flags, hflags, hf⟩ := h.getFlags_flagged
  have hsend (b : Bytes) : h.sendData b = ({ h with
      state := st, outbox := h.outbox ++ [.frame (.newData flags h.id b)] }, .ok ()) := by
    simp only [sendData, hflags]
    exact unboundSendEvent_eq halive
  unfold pollWrite
  cases hs : h.state with
  | reset | localClosing | closed => exact .refl
  | init | synSent | synReceived | established | remoteClosing =>
    dsimp only
    split_ifs
    · exact .refl
    · rw [hsend]
      exact .tail (.single (.data hf (by simp [hs]) _)) (.count _ h.recvWindow _ h.readBuf)

/-! #### Receiving -/

theorem processFlags_hacts (h : StreamHandle) (flags : Flags) :
    HActs h (h.processFlags flags).1 := by
  unfold processFlags
  have hack : HActs h (if flags.contains .ack ∧ h.state = .synSent then
      { h with state := .synReceived } else h) := by
    split_ifs with ha
    · exact .single (.turn (ha.2 ▸ .ack))
    · exact .refl
  generalize (if flags.contains .ack ∧ h.state = .synSent then
      ({ h with state := .synReceived } : StreamHandle) else h) = h₁ at hack ⊢
  have hrst (h₂ : StreamHandle) :
      HActs h₂ (if flags.contains .rst then { h₂ with state := .reset } else h₂) := by
    split_ifs
    · exact .single (.turn (.rst _))
    · exact .refl
  dsimp only
  by_cases hfin : flags.contains .fin = true
  · rw [if_pos hfin]
    cases hs : h₁.state with
    | init | synSent | synReceived | established =>
      exact hack.trans (.head (.turn (.fin (by simp [hs])))
        (hrst { h₁ with state := .remoteClosing }))
    | localClosing =>
      exact hack.trans (.head (.turn (hs ▸ .finish)) (hrst { h₁ with state := .closed }))
    | remoteClosing | closed | reset => exact hack
  · rw [if_neg hfin]
    exact hack.trans (hrst h₁)

theorem handleFrame_hacts (h : StreamHandle) (frame : Frame) :
    HActs h (h.handleFrame frame).1 := by
  have hflags := h.processFlags_hacts frame.flags
  unfold handleFrame handleWindowUpdate handleData
  generalize h.processFlags frame.flags = r at hflags ⊢
  obtain ⟨h', _ | _⟩ := r
  · cases frame.ty with
    | data | windowUpdate => exact hflags
    | ping | goAway => exact .refl
  · cases frame.ty with
    | data =>
      dsimp only
      split_ifs
      · exact hflags
      · exact .tail hflags (.count _ _ h'.sendWindow _)
    | windowUpdate =>
      dsimp only
      split_ifs
      · exact .tail hflags (.count _ h'.recvWindow _ h'.readBuf)
      · exact hflags
    | ping | goAway => exact .refl

/-- A frame that is handled leaves the channel alone. -/
theorem frameReceiver_handleFrame (h : StreamHandle) (frame : Frame) :
    (h.handleFrame frame).1.frameReceiver = h.frameReceiver := by
  have hflags := (h.processFlags_keepsRoom frame.flags).receiver
  unfold handleFrame
  cases frame.ty with
  | ping | goAway => rfl
  | windowUpdate => exact (h.handleWindowUpdate_keepsRoom frame).receiver
  | data =>
    dsimp only
    unfold handleData
    generalize h.processFlags frame.flags = r at hflags ⊢
    obtain ⟨h', _ | _⟩ := r
    · exact hflags
    · dsimp only
      split_ifs <;> exact hflags

/-- Where the receive loop ends at its head, at most the end of the channel is noticed. -/
theorem recvCheck_hmoves {p : StreamHandle × Except Error Unit} (hc : h.recvCheck = some p) :
    HMoves h p.1 := by
  unfold recvCheck at hc
  cases hs : h.state <;> simp only [hs] at hc
  case remoteClosing | closed | reset =>
    cases hc
    exact .refl
  all_goals
    split_ifs at hc with _ hend <;> cases hc
    · exact .refl
    · exact .single (.hangUp (by simp [Stopped, hs]) hend)

/-- The receive loop, whatever frames wait. -/
theorem recvFramesLoop_hmoves (frames : List Frame) :
    ∀ h : StreamHandle, h.frameReceiver.queue = frames →
      HMoves h (h.recvFramesLoop frames).1 := by
  induction frames with
  | nil =>
    intro h hq
    unfold recvFramesLoop
    cases hc : h.recvCheck with
    | some p => exact recvCheck_hmoves hc
    | none =>
      have hrun := (recvCheck_none hc).1
      dsimp only
      rw [Channel.pollNext_of_nil hq]
      by_cases hgone : h.frameReceiver.senderGone = true
      · rw [if_pos hgone]
        refine .tail (.single (.drained hgone)) ?_
        exact .hangUp (h := { h with frameReceiver := { h.frameReceiver with terminated := true } })
          hrun rfl
      · rw [if_neg hgone]
  | cons f frames ih =>
    intro h hq
    unfold recvFramesLoop
    cases hc : h.recvCheck with
    | some p => exact recvCheck_hmoves hc
    | none =>
      have htake : HMoves h { h with frameReceiver := h.frameReceiver.pop } := .single (.take hq)
      have hframe := (handleFrame_hacts { h with frameReceiver := h.frameReceiver.pop } f).hmoves
      have hrest := frameReceiver_handleFrame { h with frameReceiver := h.frameReceiver.pop } f
      dsimp only
      generalize handleFrame _ f = r at hframe hrest ⊢
      obtain ⟨h', _ | _⟩ := r
      · exact htake.trans hframe
      · have hq' : h'.frameReceiver.queue = frames := by
          rw [show h'.frameReceiver = _ from hrest, Channel.queue_pop, hq, List.tail_cons]
        exact (htake.trans hframe).trans (ih h' hq')

theorem announceRoom_hacts (halive : h.eventClosed = false) (b : Bytes) :
    HActs h (h.announceRoom b).1 := by
  have hupdate := sendWindowUpdate_hacts halive
  unfold announceRoom
  cases h.state with
  | remoteClosing | closed | reset => exact .refl
  | init | synSent | synReceived | established | localClosing =>
    dsimp only
    generalize h.sendWindowUpdate = r at hupdate ⊢
    obtain ⟨h', _ | _⟩ := r <;> exact hupdate

theorem readBuffered_hacts (halive : h.eventClosed = false) (remaining : ℕ) :
    HActs h (h.readBuffered remaining).1 := by
  unfold readBuffered
  dsimp only
  split_ifs
  · exact .refl
  · exact .head (.count h h.recvWindow h.sendWindow _) (announceRoom_hacts (by exact halive) _)

theorem pollRead_hmoves (halive : h.eventClosed = false) (remaining : ℕ) :
    HMoves h (h.pollRead remaining).1 := by
  have hrecv := recvFramesLoop_hmoves h.frameReceiver.queue h rfl
  unfold pollRead recvFrames
  cases h.checkSelfState with
  | error e => exact .refl
  | ok eof =>
    cases eof with
    | true => exact .refl
    | false =>
      dsimp only
      generalize h.recvFramesLoop h.frameReceiver.queue = r at hrecv ⊢
      obtain ⟨h', res⟩ := r
      have halive' : h'.eventClosed = false :=
        (congrArg (fun e => e.2.1) hrecv.ends_eq).trans halive
      have hbad : HMoves h h'.sendGoAway := by
        refine .tail hrecv ?_
        rw [sendGoAway, unboundSendEvent_eq (by exact halive')]
        exact .violation h'
      -- after any other answer of the frames the state is looked at again
      rcases res with e | _
      on_goal 1 => cases e
      all_goals first | exact hbad | dsimp only
      all_goals
        cases h'.checkSelfState with
        | error e => exact hrecv
        | ok eof =>
          cases eof with
          | true => exact hrecv
          | false => exact hrecv.trans (readBuffered_hacts halive' remaining).hmoves

/-! #### Where nothing is taken -/

/-- A stopped handle hands out what it has, and leaves its channel alone. -/
theorem pollRead_of_stopped (hs : h.Stopped) (remaining : ℕ) :
    ∃ readBuf, (h.pollRead remaining).1 = { h with readBuf } := by
  have hcheck : ∃ e, h.recvCheck = some (h, .error e) ∧
      (e = .subStreamRemoteClosing ∨ e = .sessionShutdown) := by
    unfold recvCheck
    rcases hs with hs | hs | hs <;> rw [hs]
    · exact ⟨_, rfl, .inl rfl⟩
    · exact ⟨_, rfl, .inr rfl⟩
    · exact ⟨_, rfl, .inr rfl⟩
  obtain ⟨e, hcheck, he⟩ := hcheck
  have hrecv : h.recvFrames = (h, .error e) := by
    unfold recvFrames
    cases h.frameReceiver.queue <;> simp only [recvFramesLoop, hcheck]
  have hroom (b b' : Bytes) : ({ h with readBuf := b } : StreamHandle).announceRoom b'
      = ({ h with readBuf := b }, .ready (.ok b')) := by
    unfold announceRoom
    rcases hs with hs | hs | hs <;> simp only [hs]
  have hsame : ∃ readBuf, h = { h with readBuf } := ⟨h.readBuf, rfl⟩
  have hbuffered : ∃ readBuf, (h.readBuffered remaining).1 = { h with readBuf } := by
    unfold readBuffered
    dsimp only
    split_ifs
    · exact hsame
    · rw [hroom]
      exact ⟨_, rfl⟩
  unfold pollRead
  cases hself : h.checkSelfState with
  | error k => exact hsame
  | ok eof =>
    cases eof with
    | true => exact hsame
    | false => rcases he with rfl | rfl <;> simpa only [hrecv, hself] using hbuffered

/-- What a dropped handle says: nothing when it is closed, `Closed` when a FIN or RST has
been exchanged, and a reset before that otherwise. -/
theorem announceDrop_cases (halive : h.eventClosed = false) :
    (h.state = .closed ∧ h.announceDrop = h) ∨
    ((h.state = .localClosing ∨ h.state = .reset) ∧
      h.announceDrop = { h with outbox := h.outbox ++ [.closed h.id] }) ∨
    (h.state ≠ .closed ∧ h.state ≠ .localClosing ∧ h.state ≠ .reset ∧
      ∃ st flags, Flagged h.state flags st ∧ h.announceDrop = { h with
        state := st
        outbox := h.outbox ++
          [.frame (.newWindowUpdate (flags.add .rst) h.id 0), .closed h.id] }) := by
  obtain ⟨st, flags, hflags, hf⟩ := h.getFlags_flagged
  have hsaid (h' : StreamHandle) (halive' : h'.eventClosed = false) (ev : StreamEvent) :
      (h'.unboundSendEvent ev).1 = { h' with outbox := h'.outbox ++ [ev] } := by
    rw [unboundSendEvent_eq halive']
  unfold announceDrop
  by_cases hclosed : h.state = .closed
  · exact .inl ⟨hclosed, if_pos (.inr hclosed)⟩
  rw [if_neg (by simp [halive, hclosed])]
  by_cases hdone : h.state = .localClosing ∨ h.state = .reset
  · refine .inr (.inl ⟨hdone, ?_⟩)
    rcases hdone with hs | hs
    · simp only [hs]
      rw [hsaid h halive, hs]
    · simp only [hs]
      rw [hsaid h halive, hs]
  · refine .inr (.inr ⟨hclosed, fun hs => hdone (.inl hs), fun hs => hdone (.inr hs),
      st, flags, hf, ?_⟩)
    have hreset : h.sendReset = { h with
        state := st
        outbox := h.outbox ++ [.frame (.newWindowUpdate (flags.add .rst) h.id 0)] } := by
      rw [sendReset, hflags]
      exact hsaid { h with state := st } halive _
    cases hs : h.state with
    | localClosing => exact absurd (.inl hs) hdone
    | reset => exact absurd (.inr hs) hdone
    | closed => exact absurd hs hclosed
    | init | synSent | synReceived | established | remoteClosing =>
      show (h.sendReset.unboundSendEvent (.closed h.sendReset.id)).1 = _
      rw [hreset, hsaid _ (by exact halive)]
      simp

end StreamHandle

end Yamux
end CkbP2P

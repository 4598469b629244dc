import CkbP2P.Yamux.HandleMoves

/-!
# The grammar of the frames a stream emits

Flags are attached lazily: whichever frame is emitted next carries the SYN or ACK the
state owes, `close` emits a FIN and a drop an RST.  Over a whole life this makes a
grammar: one SYN at the head of an opener, one ACK, at most one FIN with no data behind
it, an RST only as the last word and never beside a FIN.

The grammar is not the handle's alone.  A handle that has sent its FIN waits in
`LocalClosing`; if its channel ends there, the receive loop takes it back to
`RemoteClosing`, where data may be written and a second FIN be sent.
-/

namespace CkbP2P
namespace Yamux

open Lib Relation

/-- The frame accepts a stream. -/
def Frame.isAck (f : Frame) : Bool := f.flags.contains .ack

/-- The frame resets a stream. -/
def Frame.isRst (f : Frame) : Bool := f.flags.contains .rst

/-- The grammar of the frames of one end, the first of which carries `first`: SYN for the
opener of the stream, ACK for the acceptor. -/
structure Grammar (first : Flag) (l : List Frame) : Prop where
  head : ∃ f rest, l = f :: rest ∧ f.flags.contains first = true ∧ ∀ g ∈ rest, g.isSyn = false
  /-- Only an opener sends SYN. -/
  syn : first ≠ .syn → ∀ f ∈ l, f.isSyn = false
  /-- ACK is sent at most once. -/
  ack : l.countP Frame.isAck ≤ 1
  /-- At most one frame carries FIN. -/
  fin : l.countP Frame.isFin ≤ 1
  /-- No data frame follows a FIN. -/
  data : l.Pairwise fun f g => f.isFin = true → g.ty ≠ .data
  /-- RST is sent only as the last frame. -/
  rst : ∀ f ∈ l.dropLast, f.isRst = false
  /-- FIN and RST are never both sent. -/
  finOrRst : (∀ f ∈ l, f.isFin = false) ∨ ∀ f ∈ l, f.isRst = false

/-- What an end in state `st`, whose handle has not been dropped, has said so far. -/
structure Speech (first : Flag) (st : StreamState) (l : List Frame) : Prop where
  started : st ≠ .init
  head : ∃ f rest, l = f :: rest ∧ f.flags.contains first = true ∧ ∀ g ∈ rest, g.isSyn = false
  syn : first ≠ .syn → ∀ f ∈ l, f.isSyn = false
  ack : l.countP Frame.isAck ≤ 1
  /-- The ACK that is still owed has not been sent. -/
  owed : st = .synSent ∨ st = .synReceived → l.countP Frame.isAck = 0
  fin : l.countP Frame.isFin ≤ 1
  data : l.Pairwise fun f g => f.isFin = true → g.ty ≠ .data
  /-- The states an end can be in once it has sent its FIN. -/
  said : l.countP Frame.isFin ≠ 0 → st = .localClosing ∨ st = .closed ∨ st = .reset
  rst : ∀ f ∈ l, f.isRst = false

namespace Speech

variable {first : Flag} {st st' : StreamState} {l : List Frame}

theorem grammar (hs : Speech first st l) : Grammar first l where
  head := hs.head
  syn := hs.syn
  ack := hs.ack
  fin := hs.fin
  data := hs.data
  rst := fun f hf => hs.rst f (List.dropLast_subset l hf)
  finOrRst := .inr hs.rst

/-- Where a FIN could still be sent, none has been. -/
theorem noFin (hs : Speech first st l) (hst : st ≠ .localClosing ∧ st ≠ .closed ∧ st ≠ .reset) :
    l.countP Frame.isFin = 0 := by
  by_contra hsaid
  rcases hs.said hsaid with h | h | h
  · exact hst.1 h
  · exact hst.2.1 h
  · exact hst.2.2 h

/-- The state turns. -/
theorem turn (hs : Speech first st l) (ht : Turns st st') : Speech first st' l := by
  cases ht with
  | ack =>
    exact { hs with
      started := by simp
      owed := fun _ => hs.owed (.inl rfl)
      said := fun h => absurd (hs.noFin (by simp)) h }
  | fin hst =>
    refine { hs with started := by simp, owed := by simp, said := fun h => ?_ }
    exact absurd (hs.noFin (by rcases hst with rfl | rfl | rfl | rfl <;> simp)) h
  | finish =>
    exact { hs with started := by simp, owed := by simp, said := fun _ => .inr (.inl rfl) }
  | rst => exact { hs with started := by simp, owed := by simp, said := fun _ => .inr (.inr rfl) }
  | retire =>
    exact { hs with started := by simp, owed := by simp, said := fun _ => .inr (.inl rfl) }

/-- The handle gives up after a violation of the protocol. -/
theorem violation (hs : Speech first st l) : Speech first .localClosing l :=
  { hs with started := by simp, owed := by simp, said := fun _ => .inl rfl }

theorem head_append (hs : Speech first st l) {f : Frame} (hf : f.isSyn = false) :
    ∃ g rest, l ++ [f] = g :: rest ∧ g.flags.contains first = true ∧
      ∀ g' ∈ rest, g'.isSyn = false := by
  obtain ⟨g, rest, rfl, hg, hrest⟩ := hs.head
  refine ⟨g, rest ++ [f], rfl, hg, fun g' hg' => ?_⟩
  rcases List.mem_append.mp hg' with h | h
  · exact hrest g' h
  · rw [List.mem_singleton.mp h]
    exact hf

theorem syn_append (hs : Speech first st l) {f : Frame} (hf : f.isSyn = false) :
    first ≠ .syn → ∀ g ∈ l ++ [f], g.isSyn = false := by
  intro hne g hg
  rcases List.mem_append.mp hg with h | h
  · exact hs.syn hne g h
  · rw [List.mem_singleton.mp h]
    exact hf

theorem data_append (hs : Speech first st l) {f : Frame}
    (hf : f.ty = .data → l.countP Frame.isFin = 0) :
    (l ++ [f]).Pairwise fun f g => f.isFin = true → g.ty ≠ .data := by
  refine List.pairwise_append.mpr ⟨hs.data, List.pairwise_singleton _ _, fun g hg g' hg' hfin => ?_⟩
  rw [List.mem_singleton.mp hg']
  intro hty
  exact List.countP_eq_zero.mp (hf hty) g hg hfin

theorem rst_append (hs : Speech first st l) {f : Frame} (hf : f.isRst = false) :
    ∀ g ∈ l ++ [f], g.isRst = false := by
  intro g hg
  rcases List.mem_append.mp hg with h | h
  · exact hs.rst g h
  · rw [List.mem_singleton.mp h]
    exact hf

end Speech

/-- What the flags of the next frame can be: none, or the ACK that is owed. -/
theorem Flagged.cases_of_started {st st' : StreamState} {flags : Flags}
    (hf : Flagged st flags st') (hi : st ≠ .init) :
    (flags = .empty ∧ st' = st) ∨
      (flags = .ofFlag .ack ∧ st = .synReceived ∧ st' = .established) := by
  cases hf with
  | syn => exact absurd rfl hi
  | ack => exact .inr ⟨rfl, rfl, rfl⟩
  | none => exact .inl ⟨rfl, rfl⟩

namespace Speech

variable {first : Flag} {st st' : StreamState} {l : List Frame}

/-- A data frame or window update is emitted, with the flag that is owed. -/
theorem say (hs : Speech first st l) {flags : Flags} (hf : Flagged st flags st') {f : Frame}
    (hflags : f.flags = flags)
    (hdata : f.ty = .data → st ≠ .localClosing ∧ st ≠ .closed ∧ st ≠ .reset) :
    Speech first st' (l ++ [f]) := by
  have hquiet : f.isSyn = false ∧ f.isFin = false ∧ f.isRst = false := by
    unfold Frame.isSyn Frame.isFin Frame.isRst
    rw [hflags]
    rcases hf.cases_of_started hs.started with ⟨rfl, -⟩ | ⟨rfl, -⟩ <;> decide
  have hack : f.isAck = true ↔ flags = .ofFlag .ack := by
    unfold Frame.isAck
    rw [hflags]
    rcases hf.cases_of_started hs.started with ⟨rfl, -⟩ | ⟨rfl, -⟩ <;> decide
  have hfins : (l ++ [f]).countP Frame.isFin = l.countP Frame.isFin := by
    simp [List.countP_append, hquiet.2.1]
  refine
    { started := ?_, head := hs.head_append hquiet.1, syn := hs.syn_append hquiet.1
      ack := ?_, owed := ?_, fin := hfins ▸ hs.fin
      data := hs.data_append fun hty => hs.noFin (hdata hty)
      said := ?_, rst := hs.rst_append hquiet.2.2 }
  all_goals rcases hf.cases_of_started hs.started with ⟨hfl, rfl⟩ | ⟨hfl, rfl, rfl⟩
  · exact hs.started
  · simp
  · have hno : f.isAck = false := by
      rw [← Bool.not_eq_true, hack, hfl]
      decide
    simpa [List.countP_append, hno] using hs.ack
  · rw [List.countP_append, hs.owed (.inr rfl), Nat.zero_add]
    exact List.countP_le_length
  · have hno : f.isAck = false := by
      rw [← Bool.not_eq_true, hack, hfl]
      decide
    simpa [List.countP_append, hno] using hs.owed
  · simp
  · rw [hfins]
    exact hs.said
  · intro h
    rw [hfins] at h
    exact absurd (hs.noFin (by simp)) h

/-- A FIN is emitted. -/
theorem sayFin (hs : Speech first st l)
    (hst : st ≠ .localClosing ∧ st ≠ .closed ∧ st ≠ .reset)
    (hst' : st' = .localClosing ∨ st' = .closed) {f : Frame}
    (hflags : f.flags = Flags.empty.add .fin) (hty : f.ty ≠ .data) :
    Speech first st' (l ++ [f]) := by
  have hquiet : f.isSyn = false ∧ f.isAck = false ∧ f.isRst = false := by
    unfold Frame.isSyn Frame.isAck Frame.isRst
    rw [hflags]
    decide
  refine
    { started := ?_, head := hs.head_append hquiet.1, syn := hs.syn_append hquiet.1
      ack := ?_, owed := ?_, fin := ?_, data := hs.data_append fun h => absurd h hty
      said := fun _ => hst'.imp_right .inl, rst := hs.rst_append hquiet.2.2 }
  · rcases hst' with rfl | rfl <;> simp
  · simpa [List.countP_append, hquiet.2.1] using hs.ack
  · rcases hst' with rfl | rfl <;> simp
  · rw [List.countP_append, hs.noFin hst, Nat.zero_add]
    exact List.countP_le_length

/-- The reset of a dropped handle is its last word. -/
theorem sayRst (hs : Speech first st l)
    (hst : st ≠ .localClosing ∧ st ≠ .closed ∧ st ≠ .reset) {flags : Flags}
    (hf : Flagged st flags st') {f : Frame} (hflags : f.flags = flags.add .rst)
    (hty : f.ty ≠ .data) : Grammar first (l ++ [f]) := by
  have hquiet : f.isSyn = false ∧ f.isFin = false := by
    unfold Frame.isSyn Frame.isFin
    rw [hflags]
    rcases hf.cases_of_started hs.started with ⟨rfl, -⟩ | ⟨rfl, -⟩ <;> decide
  have hfins : (l ++ [f]).countP Frame.isFin = 0 := by
    simp [List.countP_append, hquiet.2, hs.noFin hst]
  refine
    { head := hs.head_append hquiet.1, syn := hs.syn_append hquiet.1, ack := ?_
      fin := by omega, data := hs.data_append fun h => absurd h hty
      rst := by simpa using hs.rst
      finOrRst := .inl fun g hg => by simpa using List.countP_eq_zero.mp hfins g hg }
  rcases hf.cases_of_started hs.started with ⟨rfl, -⟩ | ⟨rfl, rfl, -⟩
  · have hno : f.isAck = false := by
      unfold Frame.isAck
      rw [hflags]
      decide
    simpa [List.countP_append, hno] using hs.ack
  · rw [List.countP_append, hs.owed (.inr rfl), Nat.zero_add]
    exact List.countP_le_length

end Speech

/-! ### Handles -/

namespace StreamHandle

variable {first : Flag} {sent : List Frame} {h h' : StreamHandle}

/-- The session has let go of the channel. -/
def Ended (h : StreamHandle) : Prop :=
  h.frameReceiver.senderGone = true ∨ h.frameReceiver.terminated = true

/-- **One act** keeps to the grammar. -/
theorem speech_hact (ha : HAct h h') (hs : Speech first h.state (sent ++ framesOf h.outbox)) :
    Speech first h'.state (sent ++ framesOf h'.outbox) := by
  have hwu (flags : Flags) (delta : UInt32) :
      (Frame.newWindowUpdate flags h.id delta).ty ≠ .data := by
    simp [Frame.newWindowUpdate, Frame.ty]
  cases ha with
  | count => exact hs
  | turn ht => exact hs.turn ht
  | update hf delta =>
    rw [framesOf_append, ← List.append_assoc]
    exact hs.say hf rfl fun hty => absurd hty (hwu _ _)
  | data hf hst b =>
    rw [framesOf_append, ← List.append_assoc]
    exact hs.say hf rfl fun _ => ⟨hst.2.1, hst.2.2, hst.1⟩
  | fin hst =>
    rw [framesOf_append, ← List.append_assoc]
    rcases hst with ⟨hrun, hloc, rfl⟩ | ⟨hrem, rfl⟩
    · refine hs.sayFin ⟨hloc, ?_, ?_⟩ (.inl rfl) rfl (hwu _ _)
      · exact fun hst => hrun (.inr (.inl hst))
      · exact fun hst => hrun (.inr (.inr hst))
    · exact hs.sayFin (by simp [hrem]) (.inr rfl) rfl (hwu _ _)

theorem speech_hacts (ha : HActs h h') (hs : Speech first h.state (sent ++ framesOf h.outbox)) :
    Speech first h'.state (sent ++ framesOf h'.outbox) := by
  induction ha with
  | refl => exact hs
  | tail _ ha ih => exact speech_hact ha ih

/-- A sequence of moves keeps to the grammar as long as the channel is there. -/
theorem speech_hmoves (hm : HMoves h h') (hend : ¬ h.Ended)
    (hs : Speech first h.state (sent ++ framesOf h.outbox)) :
    ¬ h'.Ended ∧ Speech first h'.state (sent ++ framesOf h'.outbox) := by
  induction hm with
  | refl => exact ⟨hend, hs⟩
  | tail _ hm ih =>
    obtain ⟨hend', hs'⟩ := ih
    cases hm with
    | act ha =>
      refine ⟨?_, speech_hact ha hs'⟩
      unfold Ended
      rw [ha.fixed.1]
      exact hend'
    | take => exact ⟨hend', hs'⟩
    | drained hgone => exact absurd (.inl hgone) hend'
    | violation =>
      refine ⟨hend', ?_⟩
      rw [framesOf_append]
      simpa using hs'.violation
    | hangUp _ hterm => exact absurd (.inr hterm) hend'

end StreamHandle

/-! ### Slots -/

namespace Slot

variable {first : Flag} {sl : Slot}

/-- What happens to a handle and its history. -/
def react (sl : Slot) : Stimulus → Slot
  | .frame f => sl.push f
  | .closeSender => sl.closeSender
  | .sessionGone => { sl with handle := { sl.handle with eventClosed := true } }
  | .call op => (sl.apply op).1

/-- The handle no longer looks at its channel. -/
def Retired (sl : Slot) : Prop := sl.handle.Stopped ∨ sl.gone = true

/-- The session ends the channel only of a handle that no longer looks at it; it is there
itself. -/
def LetGo (sl : Slot) : Stimulus → Prop
  | .closeSender => sl.Retired
  | .sessionGone => False
  | _ => True

/-- What holds of a slot throughout its life. -/
structure Spoken (first : Flag) (sl : Slot) : Prop where
  alive : sl.handle.eventClosed = false
  outbox : sl.handle.outbox = []
  ended : sl.handle.Ended → sl.Retired
  speech : sl.gone = false → Speech first sl.handle.state sl.sent
  grammar : Grammar first sl.sent

namespace Spoken

theorem speech_handle (hs : Spoken first sl) (hgone : sl.gone = false) :
    Speech first sl.handle.state (sl.sent ++ framesOf sl.handle.outbox) := by
  rw [hs.outbox, framesOf_nil, List.append_nil]
  exact hs.speech hgone

/-- The handle has changed, and the session takes over what it has emitted. -/
theorem settle {h' : StreamHandle} (halive : h'.eventClosed = false)
    (hend : h'.Ended → h'.Stopped) (hs : Speech first h'.state (sl.sent ++ framesOf h'.outbox)) :
    Spoken first (sl.settle h').1 :=
  ⟨halive, rfl, fun h => .inl (hend h), fun _ => hs, hs.grammar⟩

/-- `Closed` is no frame. -/
theorem settle_closed (sl : Slot) (h : StreamHandle) (id : StreamId) :
    (sl.settle { h with outbox := h.outbox ++ [.closed id] }).1 = (sl.settle h).1 := by
  simp [Slot.settle]

/-- Acts keep to the grammar, whether the channel is there or not. -/
theorem hacts (hs : Spoken first sl) (hgone : sl.gone = false) {h' : StreamHandle}
    (ha : HActs sl.handle h') : Spoken first (sl.settle h').1 := by
  refine settle ((congrArg (fun e => e.2.1) ha.hmoves.ends_eq).trans hs.alive) (fun hend => ?_)
    (StreamHandle.speech_hacts ha (hs.speech_handle hgone))
  unfold StreamHandle.Ended at hend
  rw [ha.frameReceiver_eq] at hend
  exact ha.stopped ((hs.ended hend).resolve_right (by simp [hgone]))

/-- Reading: while the channel is there by moves, and after that without looking at it. -/
theorem pollRead (hs : Spoken first sl) (hgone : sl.gone = false) (remaining : ℕ) :
    Spoken first (sl.settle (sl.handle.pollRead remaining).1).1 := by
  by_cases hend : sl.handle.Ended
  · obtain ⟨readBuf, heq⟩ := StreamHandle.pollRead_of_stopped
      ((hs.ended hend).resolve_right (by simp [hgone])) remaining
    rw [heq]
    exact hs.hacts hgone (.single (.count _ _ _ readBuf))
  · have hmoves := StreamHandle.pollRead_hmoves hs.alive remaining
    obtain ⟨hend', hspeech⟩ := StreamHandle.speech_hmoves hmoves hend (hs.speech_handle hgone)
    exact settle ((congrArg (fun e => e.2.1) hmoves.ends_eq).trans hs.alive)
      (fun h => absurd h hend') hspeech

/-- The drop: at most a reset is added, and nothing can follow. -/
theorem dropHandle (hs : Spoken first sl) (hgone : sl.gone = false) :
    Spoken first (sl.settle sl.handle.dropHandle).1 := by
  have hspeech := hs.speech hgone
  suffices sl.handle.announceDrop.eventClosed = false ∧
      Grammar first (sl.sent ++ framesOf sl.handle.announceDrop.outbox) from
    ⟨this.1, rfl, fun _ => .inr rfl, fun hno => Bool.noConfusion hno, this.2⟩
  rcases StreamHandle.announceDrop_cases hs.alive with
    ⟨-, heq⟩ | ⟨-, heq⟩ | ⟨hcl, hloc, hrst, st, flags, hf, heq⟩
  · rw [heq]
    exact ⟨hs.alive, (hs.speech_handle hgone).grammar⟩
  · rw [heq, framesOf_append]
    exact ⟨hs.alive, by simpa using (hs.speech_handle hgone).grammar⟩
  · rw [heq, framesOf_append, hs.outbox]
    refine ⟨hs.alive, hspeech.sayRst ⟨hloc, hcl, hrst⟩ hf rfl ?_⟩
    simp [Frame.newWindowUpdate, Frame.ty]

theorem apply (hs : Spoken first sl) (op : HandleOp) : Spoken first (sl.apply op).1 := by
  unfold Slot.apply
  split_ifs with hgone
  · exact hs
  have hgone : sl.gone = false := by simpa [gone] using hgone
  -- the other three history variables are no part of the grammar
  cases op with
  | read remaining => exact { hs.pollRead hgone remaining with }
  | write buf => exact { hs.hacts hgone (StreamHandle.pollWrite_hacts hs.alive buf) with }
  | shutdown =>
    rw [StreamHandle.pollShutdown_fst]
    obtain ⟨h', ha, heq | ⟨-, heq⟩⟩ := StreamHandle.close_hacts hs.alive
    · rw [heq]
      exact hs.hacts hgone ha
    · rw [heq, settle_closed]
      exact hs.hacts hgone ha
  | drop => exact hs.dropHandle hgone

/-- **One step** of a handle whose session lets go of it in time. -/
theorem react (hs : Spoken first sl) {a : Stimulus} (ha : sl.LetGo a) :
    Spoken first (sl.react a) := by
  cases a with
  | frame f => exact ⟨hs.alive, hs.outbox, hs.ended, hs.speech, hs.grammar⟩
  | closeSender => exact ⟨hs.alive, hs.outbox, fun _ => ha, hs.speech, hs.grammar⟩
  | sessionGone => exact False.elim ha
  | call op => exact hs.apply op

/-- A new handle has said its first word. -/
theorem create (id : StreamId) (maxWindowSize : UInt32) {state : StreamState}
    (hrole : state = .init ∧ first = .syn ∨ state = .synReceived ∧ first = .ack) :
    Spoken first (create id state maxWindowSize).1 := by
  have hspeech {st : StreamState}
      (hst : st = .synSent ∧ first = .syn ∨ st = .established ∧ first = .ack) :
      Speech first st [hello first id maxWindowSize] := by
    have hflags : (hello first id maxWindowSize).flags = .ofFlag first := rfl
    refine
      { started := ?_, head := ⟨_, [], rfl, ?_, by simp⟩, syn := ?_
        ack := List.countP_le_length, owed := ?_, fin := List.countP_le_length
        data := List.pairwise_singleton _ _, said := ?_, rst := ?_ }
    · rcases hst with ⟨rfl, -⟩ | ⟨rfl, -⟩ <;> simp
    · rw [hflags]
      cases first <;> decide
    · intro hne f hf
      rw [List.mem_singleton.mp hf, Frame.isSyn, hflags]
      rcases hst with ⟨-, rfl⟩ | ⟨-, rfl⟩
      · exact absurd rfl hne
      · decide
    · intro howed
      rw [List.countP_singleton, Frame.isAck, hflags]
      rcases hst with ⟨rfl, rfl⟩ | ⟨rfl, -⟩
      · decide
      · simp at howed
    · intro hfin
      rw [List.countP_singleton, Frame.isFin, hflags] at hfin
      rcases hst with ⟨-, rfl⟩ | ⟨-, rfl⟩ <;> exact absurd (by decide) hfin
    · intro f hf
      rw [List.mem_singleton.mp hf, Frame.isRst, hflags]
      rcases hst with ⟨-, rfl⟩ | ⟨-, rfl⟩ <;> decide
  have hopen (st : StreamState) :
      ¬ (StreamHandle.new id (Channel.new Frame 8) st maxWindowSize).Ended := by
    simp [StreamHandle.Ended, StreamHandle.new, Channel.new]
  rcases hrole with ⟨rfl, rfl⟩ | ⟨rfl, rfl⟩
  · rw [create_eq id maxWindowSize (.inl ⟨rfl, rfl, rfl⟩)]
    have hs := hspeech (.inl ⟨rfl, rfl⟩)
    exact ⟨rfl, rfl, fun h => absurd h (hopen .synSent), fun _ => hs, hs.grammar⟩
  · rw [create_eq id maxWindowSize (.inr ⟨rfl, rfl, rfl⟩)]
    have hs := hspeech (.inr ⟨rfl, rfl⟩)
    exact ⟨rfl, rfl, fun h => absurd h (hopen .established), fun _ => hs, hs.grammar⟩

end Spoken

/-- **The grammar of a whole life.**  Whatever frames arrive and whatever the owner does, the
frames a handle emits keep to the grammar, if the session ends its channel only when the
handle no longer looks at it. -/
theorem spoken_of_letGo (id : StreamId) (maxWindowSize : UInt32) {state : StreamState}
    (hrole : state = .init ∧ first = .syn ∨ state = .synReceived ∧ first = .ack)
    {as : List Stimulus} (has : Guarded react LetGo (create id state maxWindowSize).1 as) :
    Spoken first (runFrom react (create id state maxWindowSize).1 as) :=
  (throughout_of_guarded (P := Spoken first) (fun _ _ hs ha => hs.react ha)
    (.create id maxWindowSize hrole) has).last

end Slot

end Yamux
end CkbP2P

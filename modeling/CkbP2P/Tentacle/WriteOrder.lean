import CkbP2P.Tentacle.SubstreamMoves

/-!
# The order in which a substream writes

A message comes to a substream through a channel with two priorities, waits in one of two
buffers, and is handed to the codec.  A sink that has to wait sends it back to the front of
its buffer.  A sink that fails may lose it; then nothing may be written after it.

The messages of a priority are followed as one line: what has been handed over, what is in
the buffer, what is in the channel.  A poll moves messages along the line, from the channel
to the buffer and from the buffer to the codec, and a substream that has lost one is dead.
-/

namespace CkbP2P
namespace Tentacle

open Lib

/-- The messages of a priority. -/
def atPriority (p : Priority) (log : List (Priority × Bytes)) : List Bytes :=
  (log.filter fun m => m.1 = p).map Prod.snd

theorem messages_append (events events' : List ProtocolEvent) :
    messages (events ++ events') = messages events ++ messages events' :=
  List.filterMap_append ..

/-! ### Substreams -/

namespace Substream

variable {t t' : Substream} {base : Priority → List Bytes}

/-- The messages of a priority that a substream still has to write. -/
def line (t : Substream) (p : Priority) : List Bytes :=
  t.buf p ++ messages (t.eventReceiver.queue p)

/-- What has been handed over and what is to be written make up the given messages. -/
def Carries (base : Priority → List Bytes) (t : Substream) : Prop :=
  ∀ p, atPriority p t.handed ++ t.line p = base p

/-- What has been handed over is the beginning of the given messages. -/
def Within (base : Priority → List Bytes) (t : Substream) : Prop :=
  ∀ p, atPriority p t.handed <+: base p

theorem Carries.within (h : t.Carries base) : t.Within base :=
  fun p => ⟨_, h p⟩

/-- The messages are left where they are, the channel is not opened again, and nothing comes
back to life. -/
structure Keeps (t t' : Substream) : Prop where
  handed : t'.handed = t.handed
  highWriteBuf : t'.highWriteBuf = t.highWriteBuf
  writeBuf : t'.writeBuf = t.writeBuf
  high : t'.eventReceiver.high = t.eventReceiver.high
  normal : t'.eventReceiver.normal = t.eventReceiver.normal
  isOpen : t'.eventReceiver.isOpen = true → t.eventReceiver.isOpen = true
  dead : t'.dead = false → t.dead = false

theorem Keeps.refl (t : Substream) : Keeps t t :=
  ⟨rfl, rfl, rfl, rfl, rfl, fun h => h, fun h => h⟩

theorem Keeps.trans {t'' : Substream} (h : Keeps t t') (h' : Keeps t' t'') : Keeps t t'' where
  handed := h'.handed.trans h.handed
  highWriteBuf := h'.highWriteBuf.trans h.highWriteBuf
  writeBuf := h'.writeBuf.trans h.writeBuf
  high := h'.high.trans h.high
  normal := h'.normal.trans h.normal
  isOpen := fun hopen => h.isOpen (h'.isOpen hopen)
  dead := fun halive => h.dead (h'.dead halive)

theorem Keeps.line (h : Keeps t t') (p : Priority) : t'.line p = t.line p := by
  cases p with
  | high => simp only [Substream.line, buf, PriorityChannel.queue, h.highWriteBuf, h.high]
  | normal => simp only [Substream.line, buf, PriorityChannel.queue, h.writeBuf, h.normal]

theorem Keeps.carries (h : Keeps t t') (hc : t.Carries base) : t'.Carries base := by
  intro p
  rw [h.handed, h.line p]
  exact hc p

theorem Keeps.within (h : Keeps t t') (hw : t.Within base) : t'.Within base := by
  intro p
  rw [h.handed]
  exact hw p

/-! #### What does not write -/

theorem keeps_loadClosed (t : Substream) : Keeps t t.loadClosed.2 := by
  unfold loadClosed
  split <;> exact ⟨rfl, rfl, rfl, rfl, rfl, fun h => h, fun h => h⟩

theorem keeps_report (t : Substream) (e : IoError) :
    Keeps t { t with eventSender := t.eventSender ++ [.error t.protoId e] } :=
  ⟨rfl, rfl, rfl, rfl, rfl, fun h => h, fun h => h⟩

theorem keeps_output (t : Substream) : Keeps t t.output :=
  ⟨rfl, rfl, rfl, rfl, rfl, fun h => h, fun h => (Bool.or_eq_false_iff.mp h).1⟩

theorem keeps_distributeToService (t : Substream) : Keeps t t.distributeToService := by
  unfold distributeToService
  split
  · exact .refl t
  · exact ⟨rfl, rfl, rfl, rfl, rfl, fun h => h, fun h => (Bool.or_eq_false_iff.mp h).1⟩

theorem keeps_distributeToHandle (t : Substream) : Keeps t t.distributeToHandle := by
  unfold distributeToHandle
  split
  · exact .refl t
  · exact ⟨rfl, rfl, rfl, rfl, rfl, fun h => h, fun h => (Bool.or_eq_false_iff.mp h).1⟩

/-- What is in a channel that is closed stays there. -/
theorem keeps_closeProtoStream (t : Substream) : Keeps t t.closeProtoStream := by
  have hclose : Keeps t { t with eventReceiver := t.eventReceiver.close } :=
    ⟨rfl, rfl, rfl, rfl, rfl, Bool.noConfusion, fun h => h⟩
  have hstart : ∀ t : Substream, Keeps t (if t.keepBuffer then t else
      { t with eventSender := [] }) := by
    intro t
    split <;> exact ⟨rfl, rfl, rfl, rfl, rfl, fun h => h, fun h => h⟩
  have hservice : ∀ t : Substream, Keeps t t.closeService := by
    intro t
    unfold closeService
    split <;> exact ⟨rfl, rfl, rfl, rfl, rfl, fun h => h, fun h => h⟩
  have hhandle : ∀ t : Substream, Keeps t t.closeHandle := by
    intro t
    have hload := keeps_loadClosed t
    unfold closeHandle
    split
    · exact .refl t
    · exact hload.trans ⟨rfl, rfl, rfl, rfl, rfl, fun h => h, fun h => h⟩
  have hsession : ∀ t : Substream, Keeps t t.closeSession := by
    intro t
    have hload := keeps_loadClosed t
    unfold closeSession
    dsimp only
    split
    · exact hload.trans (keeps_output _)
    · exact hload.trans ⟨rfl, rfl, rfl, rfl, rfl, fun h => h, fun h => h⟩
  exact hclose.trans ((hstart _).trans ((hservice _).trans ((hhandle _).trans (hsession _))))

/-! #### Moves -/

/-- Messages move along the line, and none is lost. -/
structure Advances (t t' : Substream) : Prop where
  carries : ∀ {base}, t.Carries base → t'.Carries base
  grows : t.handed <+: t'.handed
  isOpen : t'.eventReceiver.isOpen = true → t.eventReceiver.isOpen = true

theorem Keeps.advances (h : Keeps t t') : Advances t t' where
  carries := h.carries
  grows := h.handed ▸ List.prefix_rfl
  isOpen := h.isOpen

/-- A frame that is handed over is the first of its line. -/
theorem carries_hand {priority : Priority} {frame : Bytes} {frames : List Bytes}
    (hbuf : t.buf priority = frame :: frames) (h : t.Carries base) :
    ((t.setBuf priority frames).hand frame priority).Carries base := by
  intro p
  rw [← h p]
  cases priority <;> cases p <;>
    simp only [buf] at hbuf <;> simp [Substream.line, buf, setBuf, hand, atPriority, hbuf]

/-- A message that is taken from the channel goes to the end of its buffer. -/
theorem carries_pushBack {priority : Priority} {data : Bytes}
    {receiver : PriorityChannel ProtocolEvent}
    (hnext : t.eventReceiver.next = (.item priority (.message data), receiver))
    (h : t.Carries base) :
    ({ t with eventReceiver := receiver }.pushBack priority data).Carries base := by
  obtain ⟨hqueue, hothers, -⟩ := PriorityChannel.queue_next_item hnext
  intro p
  rw [← h p]
  by_cases hp : p = priority
  · subst hp
    have hline : t.line p = t.buf p ++ (data :: messages (receiver.queue p)) := by
      rw [Substream.line, hqueue]
      rfl
    rw [hline]
    cases p <;> simp [Substream.line, pushBack, buf]
  · rw [Substream.line, Substream.line, ← hothers p hp]
    cases p <;> cases priority <;> first | rfl | exact absurd rfl hp

/-- Other events leave the messages where they are. -/
theorem carries_take {priority : Priority} {event : ProtocolEvent}
    {receiver : PriorityChannel ProtocolEvent}
    (hnext : t.eventReceiver.next = (.item priority event, receiver))
    (hevent : messages [event] = [])
    (h : t.Carries base) : Carries base { t with eventReceiver := receiver } := by
  obtain ⟨hqueue, hothers, -⟩ := PriorityChannel.queue_next_item hnext
  intro p
  rw [← h p]
  by_cases hp : p = priority
  · subst hp
    have hline : messages (t.eventReceiver.queue p) = messages (receiver.queue p) := by
      rw [hqueue, ← List.singleton_append, messages_append, hevent]
      rfl
    rw [Substream.line, Substream.line, hline]
    cases p <;> rfl
  · rw [Substream.line, Substream.line, ← hothers p hp]
    cases p <;> rfl

/-- **A move that loses nothing moves messages along the line.** -/
theorem advances_move (hmove : Move t t') : Advances t t' := by
  cases hmove with
  | ask => exact Keeps.advances ⟨rfl, rfl, rfl, rfl, rfl, fun h => h, fun h => h⟩
  | @hand priority frame frames hbuf =>
    refine ⟨carries_hand hbuf, ?_, ?_⟩
    · cases priority <;> exact List.prefix_append _ _
    · cases priority <;> exact fun h => h
  | die => exact Keeps.advances ⟨rfl, rfl, rfl, rfl, rfl, fun h => h, Bool.noConfusion⟩
  | report hdead e => exact (keeps_report t e).advances
  | output => exact (keeps_output t).advances
  | distributeToService => exact (keeps_distributeToService t).advances
  | distributeToHandle => exact (keeps_distributeToHandle t).advances
  | receive data => exact Keeps.advances ⟨rfl, rfl, rfl, rfl, rfl, fun h => h, fun h => h⟩
  | @take priority data receiver hnext =>
    -- from the channel to the buffer
    obtain ⟨-, -, hopen⟩ := PriorityChannel.queue_next_item hnext
    refine ⟨carries_pushBack hnext, ?_, ?_⟩
    · cases priority <;> exact List.prefix_rfl
    · cases priority <;> exact fun h => hopen ▸ h
  | skip hnext hevent =>
    obtain ⟨-, -, hopen⟩ := PriorityChannel.queue_next_item hnext
    exact ⟨carries_take hnext hevent, List.prefix_rfl, fun h => hopen ▸ h⟩

/-- What is lost has not been handed over. -/
theorem handed_loss (hloss : Loss t t') : t'.handed = t.handed := by
  cases hloss with
  | @lose priority frame frames hbuf => cases priority <;> rfl
  | stop hnext => rfl

theorem isOpen_loss (hloss : Loss t t') :
    t'.eventReceiver.isOpen = t.eventReceiver.isOpen := by
  cases hloss with
  | @lose priority frame frames hbuf => cases priority <;> rfl
  | stop hnext => exact (PriorityChannel.queue_next_item hnext).2.2

/-! #### Polls -/

/-- A substream has come from another one by steps that keep the order: what it has handed
over is the beginning of the given messages, and nothing of them is missing unless the
substream is dead. -/
structure InOrder (base : Priority → List Bytes) (t₀ t : Substream) : Prop where
  within : t.Within base
  carries : t.dead = false → t.Carries base
  grows : t₀.handed <+: t.handed
  isOpen : t.eventReceiver.isOpen = true → t₀.eventReceiver.isOpen = true

variable {t₀ : Substream}

theorem InOrder.keeps (h : InOrder base t₀ t) (hkeeps : Keeps t t') : InOrder base t₀ t' where
  within := hkeeps.within h.within
  carries := fun halive => hkeeps.carries (h.carries (hkeeps.dead halive))
  grows := by
    rw [hkeeps.handed]
    exact h.grows
  isOpen := fun hopen => h.isOpen (hkeeps.isOpen hopen)

/-- **Moves keep the order**, and nothing is missing before something is lost. -/
theorem inOrder_run {lost : Bool} (h : InOrder base t₀ t) (halive : t.dead = false)
    (hrun : Run t lost t') : InOrder base t₀ t' ∧ (lost = false → t'.Carries base) := by
  induction hrun with
  | refl => exact ⟨h, fun _ => h.carries halive⟩
  | move _ hmove ih =>
    obtain ⟨hbefore, hall⟩ := ih
    have hstep := advances_move hmove
    have hcarries := hstep.carries (hall rfl)
    refine ⟨⟨hcarries.within, fun _ => hcarries, hbefore.grows.trans hstep.grows, ?_⟩,
      fun _ => hcarries⟩
    exact fun hopen => hbefore.isOpen (hstep.isOpen hopen)
  | @loss t₁ t₂ hbefore hloss ih =>
    -- what is left is not written any more: the substream is dead
    obtain ⟨hbefore, -⟩ := ih
    have hdead := (Run.loss (t := t₁) .refl hloss).dead rfl
    refine ⟨⟨?_, ?_, ?_, ?_⟩, Bool.noConfusion⟩
    · intro p
      rw [handed_loss hloss]
      exact hbefore.within p
    · intro halive
      rw [hdead] at halive
      cases halive
    · rw [handed_loss hloss]
      exact hbefore.grows
    · intro hopen
      exact hbefore.isOpen (isOpen_loss hloss ▸ hopen)
  | report _ e ih => exact ⟨ih.1.keeps (keeps_report _ e), Bool.noConfusion⟩
  | output _ ih => exact ⟨ih.1.keeps (keeps_output _), Bool.noConfusion⟩

/-- **A poll keeps the order.** -/
theorem inOrder_pollNext (h : InOrder base t₀ t) : InOrder base t₀ t.pollNext.1 := by
  cases hdead : t.dead with
  | true =>
    rw [pollNext_of_dead hdead]
    exact h.keeps (keeps_closeProtoStream t)
  | false =>
    obtain ⟨lost, t₁, hrun, hcases⟩ := pollNext_cases t
    have hmoved := (inOrder_run h hdead hrun).1
    have hclosed := hmoved.keeps (keeps_closeProtoStream t₁)
    rcases hcases with ⟨-, -, heq⟩ | ⟨-, -, heq, -⟩ | ⟨-, -, heq⟩ | ⟨-, -, heq, -⟩
    · rwa [heq]
    · rwa [heq]
    · rwa [heq]
    · rwa [heq]

end Substream

end Tentacle
end CkbP2P

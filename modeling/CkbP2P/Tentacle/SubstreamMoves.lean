import CkbP2P.Tentacle.Session

/-!
# The moves of a substream

A poll of a substream is a sequence of small moves: it asks the outside, hands a frame to the
codec, takes an event of the session, tells the session or a handler what is in a buffer.
When it ends, or when reading fails, it closes.  What holds of all moves and of closing holds
of the poll.

A frame that the sink has failed on is lost, and so is what is left in a buffer when the
session asks to close.  The substream is dead then, and does nothing after it but tell the
session why.
-/

namespace CkbP2P
namespace Tentacle

open Lib

namespace Substream

/-! ### Moves -/

/-- The session is not closed, and will not be found closed. -/
def SessionOpen (t : Substream) : Prop :=
  t.context.closed = false ∧ ∀ closed ∈ t.answers.closed, closed = false

/-- One move. -/
inductive Move : Substream → Substream → Prop
  /-- The outside is asked: whether the session is closed, or about the sink. -/
  | ask {t : Substream} {closed : Bool} {answers : Answers}
      (hclosed : t.context.closed = true → closed = true)
      (hrooms : answers.service = t.answers.service)
      (hopen : t.SessionOpen → closed = false ∧ ∀ closed ∈ answers.closed, closed = false) :
    Move t { t with context := { t.context with closed }, answers }
  /-- The codec takes a frame. -/
  | hand {t : Substream} {priority : Priority} {frame : Bytes} {frames : List Bytes}
      (hbuf : t.buf priority = frame :: frames) :
    Move t ((t.setBuf priority frames).hand frame priority)
  | die (t : Substream) : Move t { t with dead := true }
  /-- An error is to be told to the session. -/
  | report {t : Substream} (hdead : t.dead = true) (e : IoError) :
    Move t { t with eventSender := t.eventSender ++ [.error t.protoId e] }
  | output (t : Substream) : Move t t.output
  | distributeToService (t : Substream) : Move t t.distributeToService
  | distributeToHandle (t : Substream) : Move t t.distributeToHandle
  /-- A frame is to be told to the handlers. -/
  | receive (t : Substream) (data : Bytes) :
    Move t { t with
      sessionProtoSender := t.sessionProtoSender.map (· ++ [SessionProtocolEvent.received data])
      serviceProtoSender :=
        t.serviceProtoSender.map (· ++ [ServiceProtocolEvent.received t.context.id data]) }
  /-- A message of the session goes to the end of its buffer. -/
  | take {t : Substream} {priority : Priority} {data : Bytes}
      {receiver : PriorityChannel ProtocolEvent}
      (hnext : t.eventReceiver.next = (.item priority (.message data), receiver)) :
    Move t ({ t with eventReceiver := receiver }.pushBack priority data)
  /-- An event of the session that is not for substreams. -/
  | skip {t : Substream} {priority : Priority} {event : ProtocolEvent}
      {receiver : PriorityChannel ProtocolEvent}
      (hnext : t.eventReceiver.next = (.item priority event, receiver))
      (hevent : messages [event] = []) :
    Move t { t with eventReceiver := receiver }

/-- A move that loses something. -/
inductive Loss : Substream → Substream → Prop
  /-- The sink fails on a frame. -/
  | lose {t : Substream} {priority : Priority} {frame : Bytes} {frames : List Bytes}
      (hbuf : t.buf priority = frame :: frames) :
    Loss t { t.setBuf priority frames with discarded := t.discarded ++ [frame], dead := true }
  /-- The session asks to close. -/
  | stop {t : Substream} {priority : Priority} {id : StreamId} {protoId : ProtocolId}
      {receiver : PriorityChannel ProtocolEvent}
      (hnext : t.eventReceiver.next = (.item priority (.close id protoId), receiver)) :
    Loss t { t with
      eventReceiver := receiver, discarded := t.discarded ++ t.writeBuf, writeBuf :=
        [], dead := true }

/-- A sequence of moves, and whether something was lost.  After a loss the session is told, and
nothing else is done. -/
inductive Run (t : Substream) : Bool → Substream → Prop
  | refl : Run t false t
  | move {t₁ t₂ : Substream} (h : Run t false t₁) (hmove : Move t₁ t₂) : Run t false t₂
  | loss {t₁ t₂ : Substream} (h : Run t false t₁) (hloss : Loss t₁ t₂) : Run t true t₂
  | report {t₁ : Substream} (h : Run t true t₁) (e : IoError) :
    Run t true { t₁ with eventSender := t₁.eventSender ++ [.error t₁.protoId e] }
  | output {t₁ : Substream} (h : Run t true t₁) : Run t true t₁.output

variable {t t' t'' : Substream} {lost : Bool}

namespace Run

theorem single (h : Move t t') : Run t false t' := .move .refl h

theorem trans (h : Run t false t') (h' : Run t' lost t'') : Run t lost t'' := by
  induction h' with
  | refl => exact h
  | move _ hmove ih => exact ih.move hmove
  | loss _ hloss ih => exact ih.loss hloss
  | report _ e ih => exact ih.report e
  | output _ ih => exact ih.output

/-- Telling the session is always possible. -/
theorem reported (h : Run t lost t') (hdead : t'.dead = true) (e : IoError) :
    Run t lost { t' with eventSender := t'.eventSender ++ [.error t'.protoId e] } := by
  cases lost with
  | false => exact h.move (.report hdead e)
  | true => exact h.report e

theorem sent (h : Run t lost t') : Run t lost t'.output := by
  cases lost with
  | false => exact h.move (.output t')
  | true => exact h.output

/-- What has lost something is dead. -/
theorem dead (h : Run t lost t') (hlost : lost = true) : t'.dead = true := by
  induction h with
  | refl => cases hlost
  | move _ hmove => cases hlost
  | loss _ hloss => cases hloss <;> rfl
  | report _ e ih => exact ih hlost
  | output _ ih => exact Bool.or_eq_true_iff.mpr (.inl (ih hlost))

/-- What every move keeps, a run keeps. -/
theorem inv {P : Substream → Prop} (hmove : ∀ {t t'}, P t → Move t t' → P t')
    (hloss : ∀ {t t'}, P t → Loss t t' → P t') (hstart : P t) (h : Run t lost t') : P t' := by
  induction h with
  | refl => exact hstart
  | move _ hlast ih => exact hmove ih hlast
  | loss _ hlast ih => exact hloss ih hlast
  | report hrun e ih => exact hmove ih (.report (hrun.dead rfl) e)
  | output _ ih => exact hmove ih (.output _)

end Run

/-! ### Writing -/

/-- What is tried, with the moves up to its result.  After an error the substream is to die. -/
structure Tried {α : Type} (t : Substream) (r : Substream × Except IoError α) : Prop where
  ok : ∀ a, r.2 = .ok a → Run t false r.1
  error : ∀ e, r.2 = .error e → ∃ lost, Run t lost { r.1 with dead := true }

theorem tried_ok {α : Type} (h : Run t false t') (a : α) : Tried t (t', .ok a) where
  ok := fun _ _ => h
  error := by
    intro e he
    cases he

theorem tried_error {α : Type} (h : Run t lost { t' with dead := true }) (e : IoError) :
    Tried t (t', (.error e : Except IoError α)) where
  ok := by
    intro a ha
    cases ha
  error := fun _ _ => ⟨lost, h⟩

/-- What comes after a try that went well. -/
theorem Tried.after {α : Type} {r : Substream × Except IoError α} (h : Run t false t')
    (h' : Tried t' r) : Tried t r where
  ok := fun a ha => h.trans (h'.ok a ha)
  error := by
    intro e he
    obtain ⟨lost, hrun⟩ := h'.error e he
    exact ⟨lost, h.trans hrun⟩

theorem moves_loadClosed (t : Substream) : Run t false t.loadClosed.2 := by
  unfold loadClosed
  split
  · exact .refl
  · next b bs hanswers =>
    refine .single (.ask (fun hclosed => Bool.or_eq_true_iff.mpr (.inl hclosed)) rfl ?_)
    rintro ⟨hclosed, hall⟩
    rw [hanswers] at hall
    exact ⟨Bool.or_eq_false_iff.mpr ⟨hclosed, hall b List.mem_cons_self⟩,
      fun closed hmem => hall closed (List.mem_cons_of_mem b hmem)⟩

theorem moves_pollComplete (t : Substream) : Run t false t.pollComplete.1 := by
  have hnext : Run t false t.nextFlush.2 := by
    unfold nextFlush
    split
    · exact .refl
    · exact .single (.ask (fun hclosed => hclosed) rfl fun hopen => hopen)
  unfold pollComplete
  generalize t.nextFlush = r at hnext ⊢
  obtain ⟨_ | _ | e, t'⟩ := r <;> exact hnext

/-- Asking the sink uses up an answer. -/
theorem nextReady_eq (t : Substream) :
    ∃ answers : Answers, answers.service = t.answers.service ∧
      answers.closed = t.answers.closed ∧ t.nextReady.2 = { t with answers } := by
  unfold nextReady
  split
  · exact ⟨t.answers, rfl, rfl, rfl⟩
  · next ready _ => exact ⟨{ t.answers with ready }, rfl, rfl, rfl⟩

/-- **A frame that is tried** is handed over, put back in front, or lost. -/
theorem tried_sendInner {priority : Priority} {frame : Bytes} {frames : List Bytes}
    (hbuf : t.buf priority = frame :: frames) :
    Tried t ((t.setBuf priority frames).sendInner frame priority) := by
  obtain ⟨answers, hrooms, hclosed, hready⟩ := nextReady_eq (t.setBuf priority frames)
  -- the outside is asked before the frame leaves its buffer
  have hask : Run t false { t with answers } := by
    refine .single (.ask (fun hclosed => hclosed) ?_ fun hopen => ⟨hopen.1, ?_⟩)
    · rw [hrooms]
      cases priority <;> rfl
    · rw [hclosed]
      cases priority <;> exact hopen.2
  have hfront : { t with answers }.buf priority = frame :: frames := by
    cases priority <;> exact hbuf
  have hset : { t.setBuf priority frames with answers } = { t with answers }.setBuf
      priority frames :=
    by cases priority <;> rfl
  have hback : ({ t with answers }.setBuf priority frames).pushFront priority frame
      = { t with answers } := by
    cases priority <;> simp only [buf] at hbuf <;> simp only [setBuf, pushFront, ← hbuf]
  rw [hset] at hready
  unfold sendInner
  generalize (t.setBuf priority frames).nextReady = r at hready ⊢
  obtain ⟨answer, t₁⟩ := r
  dsimp only at hready
  subst hready
  cases answer with
  | accepted => exact tried_ok (hask.move (.hand hfront)) false
  | failed e =>
    have hlose := hask.loss (.lose hfront)
    refine tried_error (?_ : Run t true _) e
    cases priority <;> exact hlose
  | pending =>
    have hflush := hask.trans (moves_pollComplete { t with answers })
    dsimp only
    rw [hback]
    generalize { t with answers }.pollComplete = r at hflush ⊢
    obtain ⟨t', e | b⟩ := r
    · exact tried_error (hflush.move (.die t')) e
    · exact tried_ok hflush true

theorem tried_sendLoop (priority : Priority) (frames : List Bytes)
    (hbuf : t.buf priority = frames) :
    Tried t (sendLoop priority frames t) := by
  induction frames generalizing t with
  | nil => exact tried_ok .refl false
  | cons frame frames ih =>
    have hset : (t.setBuf priority frames).buf priority = frames := by cases priority <;> rfl
    have hsent := tried_sendInner hbuf
    rcases hi : (t.setBuf priority frames).sendInner frame priority with ⟨t', e | _ | _⟩ <;>
      rw [hi] at hsent <;> simp only [sendLoop, hi]
    · obtain ⟨lost, hrun⟩ := hsent.error e rfl
      exact tried_error hrun e
    · -- the frame was taken, and the next ones are tried
      exact .after (hsent.ok false rfl) (ih ((buf_sendInner hi).trans hset))
    · exact hsent

theorem tried_sendData (t : Substream) : Tried t t.sendData := by
  have hhigh := tried_sendLoop .high t.highWriteBuf (t := t) rfl
  unfold sendData
  generalize sendLoop .high t.highWriteBuf t = r at hhigh ⊢
  obtain ⟨t₁, e | _ | _⟩ := r
  · obtain ⟨lost, hrun⟩ := hhigh.error e rfl
    exact tried_error hrun e
  · refine .after (hhigh.ok false rfl) ?_
    have hnormal := tried_sendLoop .normal t₁.writeBuf (t := t₁) rfl
    dsimp only
    generalize sendLoop .normal t₁.writeBuf t₁ = r at hnormal ⊢
    obtain ⟨t₂, e | _ | _⟩ := r
    · obtain ⟨lost, hrun⟩ := hnormal.error e rfl
      exact tried_error hrun e
    · have hflush := (hnormal.ok false rfl).trans (moves_pollComplete t₂)
      dsimp only at hflush ⊢
      generalize t₂.pollComplete = r at hflush ⊢
      obtain ⟨t₃, e | b⟩ := r
      · exact tried_error (hflush.move (.die t₃)) e
      · exact tried_ok hflush ()
    · exact tried_ok (hnormal.ok true rfl) ()
  · exact tried_ok (hhigh.ok true rfl) ()

/-! ### Telling the handlers -/

theorem moves_distributeToUserLevel (t : Substream) : Run t false t.distributeToUserLevel := by
  have hboth : Run t false t.distributeToService.distributeToHandle :=
    (Run.single (.distributeToService t)).move (.distributeToHandle _)
  unfold distributeToUserLevel
  dsimp only
  split
  · exact hboth.move (.output _)
  · exact hboth

theorem tried_flush (t : Substream) : Tried t t.flush := by
  have hcomplete := moves_pollComplete t
  unfold flush
  generalize t.pollComplete = r at hcomplete ⊢
  obtain ⟨t₁, e | b⟩ := r
  · exact tried_error (hcomplete.move (.die t₁)) e
  · have htell : Run t false (if t₁.serviceProtoSender.getD [] ≠ [] ∨
        t₁.sessionProtoSender.getD [] ≠ [] then t₁.distributeToUserLevel else t₁) := by
      split
      · exact hcomplete.trans (moves_distributeToUserLevel t₁)
      · exact hcomplete
    dsimp only
    generalize (if t₁.serviceProtoSender.getD [] ≠ [] ∨ t₁.sessionProtoSender.getD [] ≠ [] then
      t₁.distributeToUserLevel else t₁) = t₂ at htell ⊢
    split
    · exact .after (htell.move (.output t₂)) (tried_sendData t₂.output)
    · exact tried_ok htell ()

/-! ### Events of the session -/

theorem moves_recvEvent (t : Substream) : ∃ lost, Run t lost t.recvEvent.1 := by
  unfold recvEvent
  split
  · exact ⟨_, .refl⟩
  · split
    · exact ⟨_, .refl⟩
    · rcases hnext : t.eventReceiver.next with ⟨_ | _ | _, receiver⟩
      case _ priority event =>
        cases event with
        | message data =>
          have hsend := Tried.after (.single (.take hnext))
            (tried_sendData ({ t with eventReceiver := receiver }.pushBack priority data))
          simp only [handleProtoEvent]
          generalize ({ t with eventReceiver := receiver }.pushBack priority data).sendData = r
            at hsend ⊢
          obtain ⟨t', e | _⟩ := r
          · -- marking the substream dead and telling the session commute
            obtain ⟨lost, hdead⟩ := hsend.error e rfl
            exact ⟨lost, (hdead.reported rfl e).sent⟩
          · exact ⟨false, hsend.ok () rfl⟩
        | close id protoId => exact ⟨true, Run.refl.loss (.stop hnext)⟩
        | opened name version => exact ⟨false, .single (.skip hnext rfl)⟩
        | selectError name => exact ⟨false, .single (.skip hnext rfl)⟩
        | error protoId e => exact ⟨false, .single (.skip hnext rfl)⟩
        | timeoutCheck => exact ⟨false, .single (.skip hnext rfl)⟩
      case _ =>
        obtain rfl := PriorityChannel.next_of_not_item hnext (fun _ _ => nofun)
        exact ⟨false, .single (.die t)⟩
      case _ =>
        obtain rfl := PriorityChannel.next_of_not_item hnext (fun _ _ => nofun)
        exact ⟨false, .refl⟩

/-! ### Reading -/

/-- The error that `recv_frame` meets. -/
def readFailure (t : Substream) : Option IoError :=
  if t.dead then none
  else if (t.serviceProtoSender.map List.length).getD 0 > t.recvEventSize ∨
      (t.sessionProtoSender.map List.length).getD 0 > t.recvEventSize then none
  else match t.answers.frame with
    | .data data =>
      match t.beforeReceive with
      | none => none
      | some function =>
        match function data with
        | .error e => some e
        | .ok _ => none
    | .ended | .pending => none
    | .failed e => some e

/-- A poll neither finds that the connection is gone when it flushes, nor fails otherwise
when it reads. -/
def orderly (t : Substream) : Bool :=
  let (closed, t) := if t.dead then (true, t) else t.loadClosed
  if closed then true
  else match t.flush with
    | (_, .error e) => !isConnection e.kind
    | (t, .ok ()) => !t.answers.proceed || t.readFailure.all fun e => isConnection e.kind

/-- What `recv_frame` does: it closes with the error it meets, or there is none and it
waits, finds the end, or receives a frame. -/
theorem recvFrame_cases (t : Substream) :
    (∃ e, t.readFailure = some e ∧ t.recvFrame = (t.errorClose e, false)) ∨
      t.readFailure = none ∧ (t.recvFrame.1 = t ∨ t.recvFrame.1 = { t with dead := true } ∨
        ∃ data, t.recvFrame.1 = t.receive data) := by
  unfold readFailure recvFrame
  split
  · exact .inr ⟨rfl, .inl rfl⟩
  · split
    · exact .inr ⟨rfl, .inl rfl⟩
    · cases t.answers.frame with
      | ended => exact .inr ⟨rfl, .inr (.inl rfl)⟩
      | pending => exact .inr ⟨rfl, .inl rfl⟩
      | failed e => exact .inl ⟨e, rfl, rfl⟩
      | data data =>
        cases t.beforeReceive with
        | none => exact .inr ⟨rfl, .inr (.inr ⟨data, rfl⟩)⟩
        | some function =>
          cases hf : function data with
          | error e => simp [hf]
          | ok data' =>
            refine .inr ⟨by simp [hf], .inr (.inr ⟨data', ?_⟩)⟩
            simp [hf]

/-- A substream that is dead takes no event. -/
theorem recvEvent_of_dead (hdead : t.dead = true) : t.recvEvent = (t, false) := if_pos hdead

theorem dead_closeProtoStream (h : t.dead = true) : t.closeProtoStream.dead = true := by
  have hload : ∀ u : Substream, u.loadClosed.2.dead = u.dead := by
    intro u
    unfold loadClosed
    split <;> rfl
  have hstart : ∀ u : Substream, u.dead = true → (if u.keepBuffer then u else
      { u with eventSender := [] }).dead = true := by
    intro u hu
    split <;> exact hu
  have hservice : ∀ u : Substream, u.dead = true → u.closeService.dead = true := by
    intro u hu
    unfold closeService
    split <;> exact hu
  have hhandle : ∀ u : Substream, u.dead = true → u.closeHandle.dead = true := by
    intro u hu
    unfold closeHandle
    split
    · exact hu
    · exact (hload u).trans hu
  have hsession : ∀ u : Substream, u.dead = true → u.closeSession.dead = true := by
    intro u hu
    have hdead := (hload u).trans hu
    unfold closeSession
    dsimp only
    split
    · exact (congrArg (· || _) hdead).trans (Bool.true_or _)
    · exact hdead
  exact hsession _ (hhandle _ (hservice _ (hstart { t with
    eventReceiver := t.eventReceiver.close } h)))

/-- An error that says that the connection is gone does not close; any other does, after it
has been noted for the session. -/
theorem errorClose_cases (e : IoError) (h : Run t lost { t' with dead := true }) :
    (isConnection e.kind = true ∧ t'.errorClose e = { t' with dead := true }) ∨
      isConnection e.kind = false ∧ ∃ t₁, Run t lost t₁ ∧ t₁.dead = true ∧
        t'.errorClose e = t₁.closeProtoStream := by
  unfold errorClose
  cases isConnection e.kind with
  | true => exact .inl ⟨rfl, rfl⟩
  | false => exact .inr ⟨rfl, _, h.reported rfl e, rfl, rfl⟩

/-! ### Polls -/

theorem closed_loadClosed (t : Substream) : t.loadClosed.2.context.closed = t.loadClosed.1 := by
  unfold loadClosed
  split <;> rfl

/-- A poll begins with the question whether the substream is over. -/
theorem moves_begin (t : Substream) :
    Run t false (if t.dead then (true, t) else t.loadClosed).2 ∧
      ((if t.dead then (true, t) else t.loadClosed).1 = true →
        (if t.dead then (true, t) else t.loadClosed).2.dead = true ∨
          (if t.dead then (true, t) else t.loadClosed).2.context.closed = true) := by
  split
  · next hdead => exact ⟨.refl, fun _ => .inl hdead⟩
  · exact ⟨moves_loadClosed t, fun hclosed => .inr ((closed_loadClosed t).trans hclosed)⟩

/-- **What a poll does**: moves, and a closing at the end if the substream is over and the poll
orderly; then the substream is dead or the session closed.  A poll that is not orderly ends without
closing, or closes and does not end; then the substream is dead. -/
theorem pollNext_cases (t : Substream) : ∃ lost t₁, Run t lost t₁ ∧
    (t.orderly = true ∧ t.pollNext.2 ≠ .done ∧ t.pollNext.1 = t₁ ∨
      t.orderly = true ∧ t.pollNext.2 = .done ∧ t.pollNext.1 = t₁.closeProtoStream ∧
        (t₁.dead = true ∨ t₁.context.closed = true) ∨
      t.orderly = false ∧ t.pollNext.2 = .done ∧ t.pollNext.1 = t₁ ∨
      t.orderly = false ∧ t.pollNext.2 = .item ∧ t.pollNext.1 = t₁.closeProtoStream ∧
        t₁.dead = true) := by
  obtain ⟨hbegin, hover⟩ := moves_begin t
  unfold orderly pollNext
  dsimp only
  generalize (if t.dead then (true, t) else t.loadClosed) = r at hbegin hover ⊢
  obtain ⟨closed, t₁⟩ := r
  cases closed with
  | true => exact ⟨false, t₁, hbegin, .inr (.inl ⟨rfl, rfl, rfl, hover rfl⟩)⟩
  | false =>
    -- the poll flushes first, and reads only if that has gone well
    have hflush := Tried.after hbegin (tried_flush t₁)
    rw [if_neg Bool.false_ne_true, if_neg Bool.false_ne_true]
    dsimp only at hflush ⊢
    generalize t₁.flush = r at hflush ⊢
    obtain ⟨t₂, e | _⟩ := r
    · -- flushing has failed
      obtain ⟨lost, hdead⟩ := hflush.error e rfl
      rcases errorClose_cases e hdead with ⟨hkind, heq⟩ | ⟨hkind, t₃, hreport, hover, heq⟩
      · exact ⟨lost, _, hdead, .inr (.inr (.inl ⟨congrArg Bool.not hkind, rfl, heq⟩))⟩
      · exact ⟨lost, t₃, hreport, .inr (.inl ⟨congrArg Bool.not hkind, rfl, heq, .inl hover⟩)⟩
    · have hflushed := hflush.ok () rfl
      have hnot : ∀ b : Bool, (if b then Polled.pending else .item) ≠ .done := by decide
      dsimp only at hflushed ⊢
      cases hproceed : t₂.answers.proceed with
      | false => exact ⟨false, t₂, hflushed, .inl ⟨rfl, Polled.noConfusion, rfl⟩⟩
      | true =>
        rw [Bool.not_true, if_neg Bool.false_ne_true, Bool.false_or]
        rcases recvFrame_cases t₂ with ⟨e, he, heq⟩ | ⟨hnone, hframe⟩
        · -- reading has failed, and no event is taken after that
          have hdie := hflushed.move (.die t₂)
          rcases errorClose_cases e hdie with ⟨hkind, hclose⟩ | ⟨hkind, t₃, hreport, hdead, hclose⟩
          · have hstop : { t₂ with dead := true }.recvEvent = ({ t₂ with dead := true }, false) :=
              recvEvent_of_dead rfl
            rw [heq, hclose, hstop, he]
            exact ⟨false, _, hdie, .inl ⟨hkind, Polled.noConfusion, rfl⟩⟩
          · have hstop := recvEvent_of_dead (dead_closeProtoStream hdead)
            rw [heq, hclose, hstop, he]
            exact ⟨false, t₃, hreport,
              .inr (.inr (.inr ⟨hkind, rfl, rfl, hdead⟩))⟩
        · -- a frame was read or none, and an event is taken
          have hread : Run t₂ false t₂.recvFrame.1 := by
            rcases hframe with hsame | hsame | ⟨data, hsame⟩
            · rw [hsame]
              exact .refl
            · rw [hsame]
              exact .single (.die t₂)
            · rw [hsame]
              exact (Run.single (.receive t₂ data)).trans (moves_distributeToUserLevel _)
          obtain ⟨lost, hevent⟩ := moves_recvEvent t₂.recvFrame.1
          rw [hnone]
          exact ⟨lost, _, (hflushed.trans hread).trans hevent, .inl ⟨rfl, hnot _, rfl⟩⟩

/-- **What moves and closing keep, a poll keeps.** -/
theorem inv_pollNext {P : Substream → Prop} (hmove : ∀ {t t'}, P t → Move t t' → P t')
    (hloss : ∀ {t t'}, P t → Loss t t' → P t') (hclose : ∀ {t}, P t → P t.closeProtoStream)
    (h : P t) : P t.pollNext.1 := by
  obtain ⟨lost, t₁, hrun, hcases⟩ := pollNext_cases t
  have hmoved := hrun.inv hmove hloss h
  rcases hcases with ⟨-, -, heq⟩ | ⟨-, -, heq, -⟩ | ⟨-, -, heq⟩ | ⟨-, -, heq, -⟩
  · rw [heq]
    exact hmoved
  · rw [heq]
    exact hclose hmoved
  · rw [heq]
    exact hmoved
  · rw [heq]
    exact hclose hmoved

/-- A substream that is dead closes with its next poll. -/
theorem pollNext_of_dead (hdead : t.dead = true) : t.pollNext = (t.closeProtoStream, .done) := by
  unfold pollNext
  simp only [hdead, if_true]

end Substream

end Tentacle
end CkbP2P

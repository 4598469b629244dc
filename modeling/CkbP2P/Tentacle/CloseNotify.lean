import CkbP2P.Lib.Run
import CkbP2P.Tentacle.SubstreamMoves

/-!
# The notifications of a substream that closes

When the task of a substream is over, its handlers should have been told once, and so should
the session unless it is closed itself.  All notifications are queued by `closeProtoStream`;
the question is how often it is called.  It is called twice when reading fails with an error
that does not say that the connection is gone: once for the error, once by the next poll.  It
is not called at all when flushing fails because the connection is gone.
-/

namespace CkbP2P
namespace Tentacle

open Lib

/-! ### Counting notifications -/

def disconnectedIn : ServiceProtocolEvent → ℕ
  | .disconnected _ => 1
  | _ => 0

def closedIn : SessionProtocolEvent → ℕ
  | .closed => 1
  | _ => 0

def closeIn : ProtocolEvent → ℕ
  | .close _ _ => 1
  | _ => 0

/-- The handlers a substream has, and the notifications queued so far. -/
structure Tally where
  service : Bool
  session : Bool
  disconnected : ℕ
  closed : ℕ
  close : ℕ

/-- One round of notifications; a session that is closed is not told. -/
def Tally.tell (x : Tally) (sessionClosed : Bool) : Tally :=
  { x with
    disconnected := x.disconnected + x.service.toNat
    closed := x.closed + x.session.toNat
    close := x.close + (!sessionClosed).toNat }

namespace Substream

/-- The handlers have been told once, and so has the session if it is not closed. -/
def Notified (t : Substream) : Prop :=
  (t.serviceProtoSender.isSome → weigh disconnectedIn t.toService = 1) ∧
    (t.sessionProtoSender.isSome → weigh closedIn t.toHandle = 1) ∧
    (t.context.closed = false → weigh closeIn t.toSession = 1)

instance (t : Substream) : Decidable t.Notified :=
  inferInstanceAs (Decidable (_ ∧ _ ∧ _))

/-- The notifications queued so far are those of `x`, and none waits in a buffer. -/
structure Told (x : Tally) (t : Substream) : Prop where
  service : t.serviceProtoSender.isSome = x.service
  session : t.sessionProtoSender.isSome = x.session
  disconnected : weigh disconnectedIn t.toService = x.disconnected
  closed : weigh closedIn t.toHandle = x.closed
  close : weigh closeIn t.toSession = x.close
  serviceBuffer : weigh disconnectedIn (t.serviceProtoSender.getD []) = 0
  sessionBuffer : weigh closedIn (t.sessionProtoSender.getD []) = 0
  eventBuffer : weigh closeIn t.eventSender = 0

variable {x : Tally} {t : Substream}

/-! ### What does not notify -/

theorem told_loadClosed (h : t.Told x) : t.loadClosed.2.Told x := by
  unfold loadClosed
  split
  · exact h
  · exact { h with }

/-- What is sent from a buffer without notifications is none. -/
theorem told_output (h : t.Told x) : t.output.Told x := by
  have hsplit := weigh_trySend closeIn t.eventSender (nextRoom t.answers.event)
  have hbuffer := h.eventBuffer
  have hclose := h.close
  refine { h with close := ?_, eventBuffer := ?_ }
  · simp only [output, weigh_append]
    omega
  · simp only [output]
    omega

theorem told_distributeToService (h : t.Told x) : t.distributeToService.Told x := by
  unfold distributeToService
  split
  · exact h
  · next buffer hbuffer =>
    have hsplit := weigh_trySend disconnectedIn buffer (nextRoom t.answers.service)
    have hzero := h.serviceBuffer
    have hcount := h.disconnected
    have hsome := h.service
    rw [hbuffer] at hzero hsome
    rw [Option.getD_some] at hzero
    refine { h with service := hsome, disconnected := ?_, serviceBuffer := ?_ }
    · rw [weigh_append]
      omega
    · rw [Option.getD_some]
      omega

theorem told_distributeToHandle (h : t.Told x) : t.distributeToHandle.Told x := by
  unfold distributeToHandle
  split
  · exact h
  · next buffer hbuffer =>
    have hsplit := weigh_trySend closedIn buffer (nextRoom t.answers.session)
    have hzero := h.sessionBuffer
    have hcount := h.closed
    have hsome := h.session
    rw [hbuffer] at hzero hsome
    rw [Option.getD_some] at hzero
    refine { h with session := hsome, closed := ?_, sessionBuffer := ?_ }
    · rw [weigh_append]
      omega
    · rw [Option.getD_some]
      omega

/-- **No move notifies.** -/
theorem told_move {t' : Substream} (h : t.Told x) (hmove : Move t t') : t'.Told x := by
  cases hmove with
  | ask => exact { h with }
  | @hand priority frame frames hbuf => cases priority <;> exact { h with }
  | die => exact { h with }
  | report hdead e =>
    -- an error is no notification
    refine { h with eventBuffer := ?_ }
    rw [weigh_append, h.eventBuffer]
    rfl
  | output => exact told_output h
  | distributeToService => exact told_distributeToService h
  | distributeToHandle => exact told_distributeToHandle h
  | receive data =>
    have hservice := h.serviceBuffer
    have hsession := h.sessionBuffer
    refine { h with service := ?_, session := ?_, serviceBuffer := ?_, sessionBuffer := ?_ }
    · rw [Option.isSome_map]
      exact h.service
    · rw [Option.isSome_map]
      exact h.session
    · cases hs : t.serviceProtoSender with
      | none => rfl
      | some events =>
        rw [hs, Option.getD_some] at hservice
        rw [Option.map_some, Option.getD_some, weigh_append, hservice]
        rfl
    · cases hs : t.sessionProtoSender with
      | none => rfl
      | some events =>
        rw [hs, Option.getD_some] at hsession
        rw [Option.map_some, Option.getD_some, weigh_append, hsession]
        rfl
  | @take priority data receiver hnext => cases priority <;> exact { h with }
  | skip => exact { h with }

theorem told_loss {t' : Substream} (h : t.Told x) (hloss : Loss t t') : t'.Told x := by
  cases hloss with
  | @lose priority frame frames hbuf => cases priority <;> exact { h with }
  | stop => exact { h with }

/-! ### What notifies -/

theorem told_closeService (h : t.Told x) :
    t.closeService.Told { x with disconnected := x.disconnected + x.service.toNat } := by
  have hsome := h.service
  have hbuffer := h.serviceBuffer
  have hcount := h.disconnected
  unfold closeService
  cases hs : t.serviceProtoSender with
  | none =>
    rw [hs] at hsome
    refine { h with disconnected := ?_ }
    rw [hcount, ← hsome]
    rfl
  | some events =>
    rw [hs] at hsome hbuffer
    refine { h with service := hsome, disconnected := ?_, serviceBuffer := rfl }
    rw [Option.getD_some] at hbuffer
    simp only [weigh_append, hcount, hbuffer, ← hsome]
    rfl

theorem told_closeHandle (h : t.Told x) :
    t.closeHandle.Told { x with closed := x.closed + x.session.toNat } := by
  have hsome := h.session
  have hbuffer := h.sessionBuffer
  unfold closeHandle
  cases hs : t.sessionProtoSender with
  | none =>
    rw [hs] at hsome
    refine { h with closed := ?_ }
    rw [h.closed, ← hsome]
    rfl
  | some events =>
    have hload := told_loadClosed h
    rw [hs] at hsome hbuffer
    refine { hload with session := hsome, closed := ?_, sessionBuffer := rfl }
    rw [Option.getD_some] at hbuffer
    simp only [weigh_append, weigh_cons, hload.closed, hbuffer, ← hsome]
    -- A second notification that the session is closed is of another kind.
    split <;> rfl

theorem told_closeSession (h : t.Told x) :
    t.closeSession.Told { x with close := x.close + (!t.closeSession.context.closed).toNat } := by
  have hload := told_loadClosed h
  have hflag := closed_loadClosed t
  unfold closeSession
  rcases hl : t.loadClosed with ⟨closed, t'⟩
  rw [hl] at hload hflag
  dsimp only at hflag ⊢
  cases closed with
  | true =>
    have houtput := told_output hload
    refine { houtput with close := ?_ }
    have hclosed : t'.output.context.closed = true := hflag
    rw [if_pos rfl, hclosed]
    exact houtput.close
  | false =>
    refine { hload with close := ?_, eventBuffer := rfl }
    simp only [Bool.false_eq_true, if_false, weigh_append, hload.close, hload.eventBuffer, hflag]
    rfl

/-- **Closing notifies once**; whether the session is told is decided by the flag as it is
read last. -/
theorem told_closeProtoStream (h : t.Told x) :
    t.closeProtoStream.Told (x.tell t.closeProtoStream.context.closed) := by
  have hstart : ∀ t : Substream, t.Told x →
      (if t.keepBuffer then t else { t with eventSender := [] }).Told x := by
    intro t h
    split
    · exact h
    · exact { h with eventBuffer := rfl }
  have hclosed := hstart { t with eventReceiver := t.eventReceiver.close } { h with }
  exact told_closeSession (told_closeHandle (told_closeService hclosed))

/-! ### Polls -/

/-- What an orderly poll has told: all at its end, nothing before. -/
theorem told_pollNext (h : t.Told x) (hok : t.orderly = true) :
    t.pollNext.1.Told
      (if t.pollNext.2 = .done then x.tell t.pollNext.1.context.closed else x) := by
  obtain ⟨lost, t₁, hrun, hcases⟩ := pollNext_cases t
  have hmoved := hrun.inv told_move told_loss h
  rcases hcases with ⟨-, hdone, heq⟩ | ⟨-, hdone, heq, -⟩ | ⟨hbad, -⟩ | ⟨hbad, -⟩
  · rw [if_neg hdone, heq]
    exact hmoved
  · rw [if_pos hdone, heq]
    exact told_closeProtoStream hmoved
  · rw [hok] at hbad
    cases hbad
  · rw [hok] at hbad
    cases hbad

/-- What a poll that is not orderly has told: nothing at its end, or all before. -/
theorem told_pollNext_disorderly (h : t.Told x) (hbad : t.orderly = false) :
    t.pollNext.2 = .done ∧ t.pollNext.1.Told x ∨
      t.pollNext.2 = .item ∧ t.pollNext.1.dead = true ∧
        t.pollNext.1.Told (x.tell t.pollNext.1.context.closed) := by
  obtain ⟨lost, t₁, hrun, hcases⟩ := pollNext_cases t
  have hmoved := hrun.inv told_move told_loss h
  rcases hcases with ⟨hok, -⟩ | ⟨hok, -⟩ | ⟨-, hdone, heq⟩ | ⟨-, hitem, heq, hdead⟩
  · rw [hbad] at hok
    cases hok
  · rw [hbad] at hok
    cases hok
  · rw [heq]
    exact .inl ⟨hdone, hmoved⟩
  · rw [heq]
    exact .inr ⟨hitem, dead_closeProtoStream hdead, told_closeProtoStream hmoved⟩

end Substream

/-! ### The life of a substream -/

/-- A substream and whether its task has finished. -/
structure SubstreamTask where
  substream : Substream
  finished : Bool

namespace SubstreamTask

inductive Label where
  /-- The session sends an event. -/
  | event (priority : Priority) (event : ProtocolEvent)
  /-- The session drops its end of the channel. -/
  | hangUp
  | poll (answers : Answers)

def step (t : SubstreamTask) (l : Label) : SubstreamTask :=
  if t.finished then t
  else match l with
    | .event priority event =>
      if t.substream.eventReceiver.isOpen then
        { t with substream := { t.substream with
            eventReceiver := t.substream.eventReceiver.push priority event } }
      else t
    | .hangUp => { t with substream := Session.hangUp t.substream }
    | .poll answers =>
      let (substream, polled) := t.substream.poll answers
      { substream, finished := polled = .done }

/-- The poll is orderly. -/
def Orderly (t : SubstreamTask) : Label → Prop
  | .poll answers => t.finished = false → { t.substream with answers }.orderly = true
  | _ => True

instance (t : SubstreamTask) (l : Label) : Decidable (t.Orderly l) :=
  match l with
  | .poll _ => inferInstanceAs (Decidable (_ → _))
  | .event _ _ | .hangUp => inferInstanceAs (Decidable True)

/-- A substream that has been built and opened. -/
def start (s : Session) (proto : ProtocolMeta) (version : String) : SubstreamTask :=
  { substream := s.newSubstream proto version, finished := false }

/-- Before anything is told. -/
def untold (proto : ProtocolMeta) : Tally :=
  { service := proto.serviceHandle, session := proto.sessionHandle
    disconnected := 0, closed := 0, close := 0 }

/-- Nothing is told before the end, and all of it at the end. -/
def Settled (x : Tally) (t : SubstreamTask) : Prop :=
  t.substream.Told (if t.finished then x.tell t.substream.context.closed else x)

variable {x : Tally} {t : SubstreamTask}

theorem settled_start (s : Session) (proto : ProtocolMeta) (version : String) :
    (start s proto version).Settled (untold proto) := by
  obtain ⟨id, name, serviceHandle, sessionHandle⟩ := proto
  cases serviceHandle <;> cases sessionHandle <;> exact ⟨rfl, rfl, rfl, rfl, rfl, rfl, rfl, rfl⟩

theorem step_poll (hfinished : t.finished = false) (answers : Answers) :
    t.step (.poll answers) =
      ⟨({ t.substream with answers }.pollNext).1, ({ t.substream with answers }.pollNext).2
        = .done⟩ := by
  unfold step
  rw [hfinished]
  rfl

/-- What is not a poll only reaches the channel. -/
theorem step_of_not_poll {l : Label} (hpoll : t.finished = true ∨ ∀ answers, l ≠ .poll answers) :
    ∃ receiver, t.step l
    = { t with substream := { t.substream with eventReceiver := receiver } } := by
  unfold step
  split
  · exact ⟨t.substream.eventReceiver, rfl⟩
  · rcases hpoll with hfinished | hpoll
    · contradiction
    · cases l with
      | event priority event =>
        dsimp only
        split
        · exact ⟨_, rfl⟩
        · exact ⟨t.substream.eventReceiver, rfl⟩
      | hangUp => exact ⟨_, rfl⟩
      | poll answers => exact absurd rfl (hpoll answers)

/-- A step is a poll of a task that is not over, or only reaches the channel. -/
theorem step_cases (t : SubstreamTask) (l : Label) :
    (∃ receiver,
      t.step l = { t with substream := { t.substream with eventReceiver := receiver } }) ∨
    t.finished = false ∧ ∃ answers, l = .poll answers := by
  by_cases hpoll : t.finished = true ∨ ∀ answers, l ≠ .poll answers
  · exact .inl (step_of_not_poll hpoll)
  · simp only [not_or, Bool.not_eq_true, not_forall, not_not] at hpoll
    exact .inr hpoll

/-- Events of the session tell nobody. -/
theorem told_step {y : Tally} {l : Label} (h : t.substream.Told y)
    (hpoll : t.finished = true ∨ ∀ answers, l ≠ .poll answers) :
    (t.step l).substream.Told y ∧ (t.step l).finished = t.finished ∧
      (t.step l).substream.dead = t.substream.dead ∧
      (t.step l).substream.context = t.substream.context := by
  obtain ⟨receiver, heq⟩ := step_of_not_poll hpoll
  rw [heq]
  exact ⟨{ h with }, rfl, rfl, rfl⟩

theorem settled_step (h : t.Settled x) (l : Label) (hok : t.Orderly l) : (t.step l).Settled x := by
  by_cases hpoll : t.finished = true ∨ ∀ answers, l ≠ .poll answers
  · obtain ⟨htold, hfinished, -, hcontext⟩ := told_step h hpoll
    unfold Settled
    rwa [hfinished, hcontext]
  · simp only [not_or, Bool.not_eq_true, not_forall, not_not] at hpoll
    obtain ⟨hfinished, answers, rfl⟩ := hpoll
    unfold Settled at h
    rw [hfinished] at h
    have htold := Substream.told_pollNext (t := { t.substream with answers }) { h with }
      (hok hfinished)
    rw [step_poll hfinished]
    unfold Settled
    simpa using htold

/-- All notifications once are what `Notified` says. -/
theorem notified_of_settled {proto : ProtocolMeta} (h : t.Settled (untold proto))
    (hfinished : t.finished = true) : t.substream.Notified := by
  unfold Settled at h
  rw [hfinished] at h
  refine ⟨fun hservice => ?_, fun hsession => ?_, fun hclosed => ?_⟩
  · have hsome : (untold proto).service = true := h.service.symm.trans hservice
    exact h.disconnected.trans (congrArg (0 + Bool.toNat ·) hsome)
  · have hsome : (untold proto).session = true := h.session.symm.trans hsession
    exact h.closed.trans (congrArg (0 + Bool.toNat ·) hsome)
  · exact h.close.trans (congrArg (fun closed => 0 + (!closed).toNat) hclosed)

theorem notified_of_orderly (s : Session) (proto : ProtocolMeta) (version : String)
    (labels : List Label) (hok : Guarded step Orderly (start s proto version) labels) :
    Throughout step (fun t => t.finished = true → t.substream.Notified) (start s proto version)
      labels := by
  have hsettled := throughout_of_guarded (P := Settled (untold proto))
    (fun _ l h => settled_step h l) (settled_start s proto version) hok
  exact hsettled.mono fun _ h hfinished => notified_of_settled h hfinished

/-! ### Failures -/

/-- Too much has been told already, or too little at the end. -/
def Spoiled (x : Tally) (t : SubstreamTask) : Prop :=
  t.finished = false ∧ t.substream.dead = true ∧ (∃ closed, t.substream.Told (x.tell closed)) ∨
    t.finished = true ∧ ∃ y : Tally, t.substream.Told y ∧ y.service = x.service ∧
      y.session = x.session ∧ (x.service = true → y.disconnected ≠ x.disconnected + 1) ∧
      (x.session = true → y.closed ≠ x.closed + 1)

/-- What has gone wrong stays wrong. -/
theorem spoiled_step (h : t.Spoiled x) (l : Label) : (t.step l).Spoiled x := by
  by_cases hpoll : t.finished = true ∨ ∀ answers, l ≠ .poll answers
  · rcases h with ⟨hfinished, hdead, closed, htold⟩ | ⟨hfinished, y, htold, hy⟩
    · obtain ⟨htold', hfinished', hdead', -⟩ := told_step htold hpoll
      exact .inl ⟨hfinished'.trans hfinished, hdead'.trans hdead, closed, htold'⟩
    · obtain ⟨htold', hfinished', -, -⟩ := told_step htold hpoll
      exact .inr ⟨hfinished'.trans hfinished, y, htold', hy⟩
  · simp only [not_or, Bool.not_eq_true, not_forall, not_not] at hpoll
    obtain ⟨hfinished, answers, rfl⟩ := hpoll
    rcases h with ⟨-, hdead, closed, htold⟩ | ⟨hfinished', -⟩
    · -- The second round of notifications.
      rw [step_poll hfinished,
        Substream.pollNext_of_dead (t := { t.substream with answers }) hdead]
      have hclose := Substream.told_closeProtoStream (t := { t.substream with answers })
        { htold with }
      refine .inr ⟨rfl, _, hclose, rfl, rfl, ?_, ?_⟩
      · intro hservice
        simp only [Tally.tell, hservice, Bool.toNat_true]
        omega
      · intro hsession
        simp only [Tally.tell, hsession, Bool.toNat_true]
        omega
    · rw [hfinished] at hfinished'
      cases hfinished'

/-- A poll that is not orderly spoils. -/
theorem spoiled_of_disorderly {l : Label} (h : t.Settled x) (hbad : ¬ t.Orderly l) :
    (t.step l).Spoiled x := by
  cases l with
  | event priority event => exact absurd trivial hbad
  | hangUp => exact absurd trivial hbad
  | poll answers =>
    simp only [Orderly, Classical.not_imp, Bool.not_eq_true] at hbad
    obtain ⟨hfinished, hbad⟩ := hbad
    unfold Settled at h
    rw [hfinished] at h
    rw [step_poll hfinished]
    rcases Substream.told_pollNext_disorderly (t := { t.substream with answers }) { h with }
      hbad with ⟨hdone, htold⟩ | ⟨hitem, hdead, htold⟩
    · refine .inr ⟨by rw [hdone]; rfl, x, htold, rfl, rfl, fun _ => ?_, fun _ => ?_⟩ <;> omega
    · exact .inl ⟨by rw [hitem]; rfl, hdead, _, htold⟩

theorem not_notified_of_spoiled {proto : ProtocolMeta} (h : t.Spoiled (untold proto))
    (hfinished : t.finished = true)
    (hhandle : proto.serviceHandle = true ∨ proto.sessionHandle = true) :
    ¬ t.substream.Notified := by
  rintro ⟨hdisconnected, hclosed, -⟩
  rcases h with ⟨hfinished', -⟩ | ⟨-, y, htold, hservice, hsession, hne, hne'⟩
  · rw [hfinished] at hfinished'
    cases hfinished'
  · rcases hhandle with hhandle | hhandle
    · refine hne hhandle (htold.disconnected.symm.trans (hdisconnected ?_))
      exact htold.service.trans (hservice.trans hhandle)
    · refine hne' hhandle (htold.closed.symm.trans (hclosed ?_))
      exact htold.session.trans (hsession.trans hhandle)

/-- With a handler, a substream that is finished and has told everybody once was polled
orderly. -/
theorem orderly_of_notified (s : Session) (proto : ProtocolMeta) (version : String)
    (labels : List Label) (hhandle : proto.serviceHandle = true ∨ proto.sessionHandle = true)
    (hfinished : (runFrom step (start s proto version) labels).finished = true)
    (hnotified : (runFrom step (start s proto version) labels).substream.Notified) :
    Guarded step Orderly (start s proto version) labels := by
  have hstart := settled_start s proto version
  generalize start s proto version = t at hstart hfinished hnotified ⊢
  induction labels generalizing t with
  | nil => trivial
  | cons l labels ih =>
    by_cases hok : t.Orderly l
    · exact ⟨hok, ih _ (settled_step hstart l hok) hfinished hnotified⟩
    · have hspoiled := inv_runFrom (P := Spoiled (untold proto)) (fun _ l h => spoiled_step h l)
        (spoiled_of_disorderly hstart hok) labels
      exact absurd hnotified (not_notified_of_spoiled hspoiled hfinished hhandle)

/-- **Everybody is told once**: a run of a substream all of whose polls are orderly has told
everybody exactly once when it is over.  When somebody is to be told, no other run has. -/
theorem notified_once (s : Session) (proto : ProtocolMeta) (version : String)
    (labels : List Label) :
    (Guarded step Orderly (start s proto version) labels →
      Throughout step (fun t => t.finished = true → t.substream.Notified) (start s proto version)
        labels) ∧
    (proto.serviceHandle = true ∨ proto.sessionHandle = true →
      (runFrom step (start s proto version) labels).finished = true →
      ((runFrom step (start s proto version) labels).substream.Notified ↔
        Guarded step Orderly (start s proto version) labels)) := by
  refine ⟨notified_of_orderly s proto version labels, fun hhandle hfinished => ⟨?_, fun hok => ?_⟩⟩
  · exact orderly_of_notified s proto version labels hhandle hfinished
  · exact (notified_of_orderly s proto version labels hok).last hfinished

/-- A substream of a protocol with handlers at both levels. -/
def pingTask : SubstreamTask :=
  start (Session.new 1 [.ping true] (fun _ => none) 1024 16 16 false) (.ping true) "0.0.1"

/-- A poll that finds its sinks and channels ready and meets `flush` and `frame`. -/
def meet (flush : FlushAnswer) (frame : FrameAnswer) : Label :=
  .poll { closed := [], ready := [], flush := [flush], service := [⟨9, false⟩]
          session := [⟨9, false⟩], event := [⟨9, false⟩], frame, proceed := true }

/-- The remote ends the stream; the substream tells everybody once. -/
theorem notified_once_ended :
    (runFrom step pingTask [meet .done .ended, meet .done .pending]).substream.Notified := by
  have h : Throughout step (fun t => t.finished = true → t.substream.Notified) pingTask
      [meet .done .ended, meet .done .pending] :=
    (notified_once _ _ _ _).1 (by decide +kernel)
  exact h.last (by decide +kernel)

/-- A frame cannot be decoded. -/
def badFrame : SubstreamTask :=
  runFrom step pingTask [meet .done (.failed ⟨.other 0⟩), meet .done .pending]

/-- The pipe is broken when it is flushed. -/
def brokenPipe : SubstreamTask := runFrom step pingTask [meet (.failed ⟨.brokenPipe⟩) .pending]

/-- A frame that cannot be decoded is told twice; a pipe that is broken is not told. -/
theorem notified_twice_or_never :
    (badFrame.finished = true ∧ ¬ badFrame.substream.Notified ∧
      weigh disconnectedIn badFrame.substream.toService = 2 ∧
      weigh closedIn badFrame.substream.toHandle = 2 ∧
      weigh closeIn badFrame.substream.toSession = 2) ∧
    brokenPipe.finished = true ∧ ¬ brokenPipe.substream.Notified ∧
      weigh disconnectedIn brokenPipe.substream.toService = 0 ∧
      weigh closedIn brokenPipe.substream.toHandle = 0 ∧
      weigh closeIn brokenPipe.substream.toSession = 0 := by
  decide +kernel

end SubstreamTask

end Tentacle
end CkbP2P

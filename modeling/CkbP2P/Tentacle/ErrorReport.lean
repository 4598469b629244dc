import CkbP2P.Tentacle.CloseNotify

/-!
# Whether a session learns why a substream has closed

A substream that cannot read a frame notes the error for the session and closes.  Closing is
what sends the note: a task is spawned that sends what waits for the session, and the `Close`.
But unless the substream keeps its buffer, closing begins with clearing it, and the note that was
made a moment ago is gone.

The task of the substream is polled once more, and closes again: a second task sends another
`Close`.  Nothing orders the two, so even with the buffer the session may hear of the closing first.

As long as a substream is alive, nothing waits for the session and nothing has been sent to it.
So what the session gets in the end is known, up to the order in which the tasks send.
-/

namespace CkbP2P
namespace Tentacle

open Lib

namespace Substream

/-- The error that reading meets in a poll. -/
def meets (t : Substream) : Option IoError :=
  let (closed, t) := if t.dead then (true, t) else t.loadClosed
  if closed then none
  else match t.flush with
    | (_, .error _) => none
    | (t, .ok ()) => if t.answers.proceed then t.readFailure else none

/-- Nothing waits for the session, and nothing has been sent to it. -/
def Silent (t : Substream) : Prop := t.eventSender = [] ∧ t.posted = [] ∧ t.reporting = []

variable {t t' t'' : Substream}

/-! ### Closing -/

/-- What has nothing to do with the session. -/
structure Mute (t t' : Substream) : Prop where
  id : t'.id = t.id
  protoId : t'.protoId = t.protoId
  keepBuffer : t'.keepBuffer = t.keepBuffer
  dead : t'.dead = t.dead
  sessionOpen : t.SessionOpen → t'.SessionOpen
  eventSender : t'.eventSender = t.eventSender
  posted : t'.posted = t.posted
  reporting : t'.reporting = t.reporting

theorem Mute.refl (t : Substream) : Mute t t := ⟨rfl, rfl, rfl, rfl, fun h => h, rfl, rfl, rfl⟩

theorem Mute.trans (h : Mute t t') (h' : Mute t' t'') : Mute t t'' where
  id := h'.id.trans h.id
  protoId := h'.protoId.trans h.protoId
  keepBuffer := h'.keepBuffer.trans h.keepBuffer
  dead := h'.dead.trans h.dead
  sessionOpen := fun hopen => h'.sessionOpen (h.sessionOpen hopen)
  eventSender := h'.eventSender.trans h.eventSender
  posted := h'.posted.trans h.posted
  reporting := h'.reporting.trans h.reporting

theorem mute_loadClosed (t : Substream) : Mute t t.loadClosed.2 := by
  unfold loadClosed
  split
  · exact .refl t
  · next b bs hclosed =>
    refine ⟨rfl, rfl, rfl, rfl, fun hopen => ?_, rfl, rfl, rfl⟩
    have hall := hopen.2
    rw [hclosed] at hall
    refine ⟨?_, fun closed hmem => hall closed (List.mem_cons_of_mem b hmem)⟩
    exact Bool.or_eq_false_iff.mpr ⟨hopen.1, hall b List.mem_cons_self⟩

theorem loadClosed_of_open (h : t.SessionOpen) : t.loadClosed.1 = false :=
  (closed_loadClosed t).symm.trans ((mute_loadClosed t).sessionOpen h).1

theorem mute_closeService (t : Substream) : Mute t t.closeService := by
  unfold closeService
  split
  · exact .refl t
  · exact ⟨rfl, rfl, rfl, rfl, fun h => h, rfl, rfl, rfl⟩

theorem mute_closeHandle (t : Substream) : Mute t t.closeHandle := by
  unfold closeHandle
  split
  · exact .refl t
  · exact (mute_loadClosed t).trans ⟨rfl, rfl, rfl, rfl, fun h => h, rfl, rfl, rfl⟩

/-- What closing does for a session that is not closed: it spawns a task for what has waited,
unless it was cleared, and for the `Close`. -/
structure Closes (t t' : Substream) : Prop where
  id : t'.id = t.id
  protoId : t'.protoId = t.protoId
  keepBuffer : t'.keepBuffer = t.keepBuffer
  dead : t'.dead = t.dead
  sessionOpen : t'.SessionOpen
  eventSender : t'.eventSender = []
  posted : t'.posted = t.posted
  reporting : t'.reporting = t.reporting ++
    [(if t.keepBuffer then t.eventSender else []) ++ [.close t.id t.protoId]]

theorem closes_closeProtoStream (h : t.SessionOpen) : Closes t t.closeProtoStream := by
  -- the buffer after it has been cleared, or not
  let t₁ : Substream := { t with
    eventReceiver := t.eventReceiver.close
    eventSender := if t.keepBuffer then t.eventSender else [] }
  have hstart : t.closeProtoStream = t₁.closeService.closeHandle.closeSession := by
    unfold closeProtoStream
    dsimp only
    cases hkeep : t.keepBuffer <;> simp only [t₁, hkeep, Bool.false_eq_true, if_false, if_true]
  have hmute : Mute t₁ t₁.closeService.closeHandle.loadClosed.2 :=
    ((mute_closeService t₁).trans (mute_closeHandle _)).trans (mute_loadClosed _)
  have hopen : t₁.closeService.closeHandle.SessionOpen :=
    ((mute_closeService t₁).trans (mute_closeHandle _)).sessionOpen h
  have hflag := loadClosed_of_open hopen
  rw [hstart]
  unfold closeSession
  generalize t₁.closeService.closeHandle.loadClosed = r at hmute hflag ⊢
  obtain ⟨closed, t₂⟩ := r
  obtain rfl : closed = false := hflag
  refine ⟨hmute.id, hmute.protoId, hmute.keepBuffer, hmute.dead, hmute.sessionOpen h, rfl,
    hmute.posted, ?_⟩
  have hreporting := hmute.reporting
  have hevents := hmute.eventSender
  have hid := hmute.id
  have hproto := hmute.protoId
  dsimp only at hreporting hevents hid hproto
  simp only [Bool.false_eq_true, if_false, hreporting, hevents, hid, hproto, t₁]

/-! ### Polls -/

/-- A substream that is silent as long as it is alive. -/
structure Waits (t₀ t : Substream) : Prop where
  id : t.id = t₀.id
  protoId : t.protoId = t₀.protoId
  keepBuffer : t.keepBuffer = t₀.keepBuffer
  sessionOpen : t.SessionOpen
  silent : t.dead = false → t.Silent

variable {t₀ : Substream}

/-- Nothing is sent from an empty buffer. -/
theorem Waits.output (h : Waits t₀ t) : Waits t₀ t.output := by
  refine { h with silent := fun halive => ?_ }
  obtain ⟨hevents, hposted, hreporting⟩ := h.silent (Bool.or_eq_false_iff.mp halive).1
  have hnone : trySend t.eventSender (nextRoom t.answers.event) = ⟨[], [], [], .ok⟩ := by
    rw [hevents, trySend]
  simp only [Silent, Substream.output, hnone, hposted, hreporting, List.append_nil, and_self]

/-- **No move breaks the silence** of a substream that is alive. -/
theorem Waits.move (h : Waits t₀ t) (hmove : Move t t') : Waits t₀ t' := by
  cases hmove with
  | ask _ _ hopen => exact { h with sessionOpen := hopen h.sessionOpen }
  | @hand priority frame frames hbuf => cases priority <;> exact { h with }
  | die => exact { h with silent := fun hdead => by cases hdead }
  | report hdead e =>
    exact { h with silent := fun halive => absurd (halive.symm.trans hdead) Bool.false_ne_true }
  | output => exact h.output
  | distributeToService =>
    unfold distributeToService
    split
    · exact h
    · exact { h with silent := fun halive => h.silent (Bool.or_eq_false_iff.mp halive).1 }
  | distributeToHandle =>
    unfold distributeToHandle
    split
    · exact h
    · exact { h with silent := fun halive => h.silent (Bool.or_eq_false_iff.mp halive).1 }
  | receive data => exact { h with }
  | @take priority data receiver hnext => cases priority <;> exact { h with }
  | skip => exact { h with }

theorem Waits.loss (h : Waits t₀ t) (hloss : Loss t t') : Waits t₀ t' := by
  cases hloss with
  | @lose priority frame frames hbuf =>
    cases priority <;> exact { h with silent := fun hdead => by cases hdead }
  | stop => exact { h with silent := fun hdead => by cases hdead }

/-- A substream that is dead may close as often as it will. -/
theorem Waits.close (h : Waits t₀ t) (hdead : t.dead = true) : Waits t₀ t.closeProtoStream := by
  have hcloses := closes_closeProtoStream h.sessionOpen
  refine ⟨hcloses.id.trans h.id, hcloses.protoId.trans h.protoId,
    hcloses.keepBuffer.trans h.keepBuffer, hcloses.sessionOpen, fun halive => ?_⟩
  rw [hcloses.dead, hdead] at halive
  cases halive

/-- **A substream that is alive is silent**, poll after poll. -/
theorem Waits.pollNext (h : Waits t₀ t) : Waits t₀ t.pollNext.1 := by
  obtain ⟨lost, t₁, hrun, hcases⟩ := pollNext_cases t
  have hmoved := hrun.inv Waits.move Waits.loss h
  rcases hcases with ⟨-, -, heq⟩ | ⟨-, -, heq, hdead | hclosed⟩ | ⟨-, -, heq⟩ | ⟨-, -, heq, hdead⟩
  · rwa [heq]
  · rw [heq]
    exact hmoved.close hdead
  · rw [hmoved.sessionOpen.1] at hclosed
    cases hclosed
  · rwa [heq]
  · rw [heq]
    exact hmoved.close hdead

/-- A poll that meets an error closes with it. -/
theorem pollNext_of_meets {e : IoError} (h : t.meets = some e) (hopen : t.SessionOpen) :
    ∃ t₁, Run t false t₁ ∧ t₁.dead = false ∧ t.pollNext = (t₁.errorClose e, .item) := by
  by_cases hdead : t.dead = true
  · simp only [meets, hdead, if_true] at h
    cases h
  · have hload := moves_loadClosed t
    have hflag := loadClosed_of_open hopen
    unfold meets at h
    unfold Substream.pollNext
    rw [if_neg hdead] at h ⊢
    generalize t.loadClosed = r at hload hflag h ⊢
    obtain ⟨closed, t₁⟩ := r
    obtain rfl : closed = false := hflag
    have hflush := Tried.after hload (tried_flush t₁)
    dsimp only at h hflush ⊢
    rw [if_neg Bool.false_ne_true] at h ⊢
    generalize t₁.flush = r at hflush h ⊢
    obtain ⟨t₂, e' | _⟩ := r
    · cases h
    · dsimp only at h ⊢
      cases hproceed : t₂.answers.proceed with
      | false =>
        rw [hproceed] at h
        cases h
      | true =>
        rw [hproceed, if_pos rfl] at h
        rw [Bool.not_true, if_neg Bool.false_ne_true]
        rcases recvFrame_cases t₂ with ⟨e', he', heq⟩ | ⟨hnone, -⟩
        · obtain rfl : e = e' := Option.some.inj (h.symm.trans he')
          have halive : t₂.dead = false := by
            unfold readFailure at h
            cases hd : t₂.dead with
            | false => rfl
            | true =>
              rw [hd, if_pos rfl] at h
              cases h
          have hstop : (t₂.errorClose e).dead = true := by
            unfold Substream.errorClose
            dsimp only
            split
            · rfl
            · exact dead_closeProtoStream rfl
          refine ⟨t₂, hflush.ok () rfl, halive, ?_⟩
          rw [heq, recvEvent_of_dead hstop]
          rfl
        · rw [h] at hnone
          cases hnone

end Substream

/-! ### The life of a substream -/

namespace SubstreamTask

/-- A poll does not find the session closed. -/
def Label.Unclosed : Label → Prop
  | .poll answers => ∀ closed ∈ answers.closed, closed = false
  | _ => True

instance (l : Label) : Decidable l.Unclosed :=
  match l with
  | .poll answers => inferInstanceAs (Decidable (∀ closed ∈ answers.closed, closed = false))
  | .event _ _ | .hangUp => inferInstanceAs (Decidable True)

variable {t₀ : Substream} {t : SubstreamTask}

theorem waits_poll (h : Substream.Waits t₀ t.substream) {answers : Answers}
    (hopen : (Label.poll answers).Unclosed) : Substream.Waits t₀ { t.substream with answers } :=
  { h with sessionOpen := ⟨h.sessionOpen.1, hopen⟩ }

theorem waits_step (h : Substream.Waits t₀ t.substream) (l : Label) (hopen : l.Unclosed) :
    Substream.Waits t₀ (t.step l).substream := by
  rcases step_cases t l with ⟨receiver, heq⟩ | ⟨hfinished, answers, rfl⟩
  · rw [heq]
    exact { h with }
  · rw [step_poll hfinished]
    exact (waits_poll h hopen).pollNext

theorem waits_start (s : Session) (proto : ProtocolMeta) (version : String)
    (hclosed : s.context.closed = false) :
    Substream.Waits (s.newSubstream proto version) (start s proto version).substream :=
  ⟨rfl, rfl, rfl, ⟨hclosed, fun _ hmem => absurd hmem List.not_mem_nil⟩, fun _ => ⟨rfl, rfl, rfl⟩⟩

/-- Who is dead stays dead. -/
theorem dead_step (hdead : t.substream.dead = true) (l : Label) :
    (t.step l).substream.dead = true := by
  rcases step_cases t l with ⟨receiver, heq⟩ | ⟨hfinished, answers, rfl⟩
  · rw [heq]
    exact hdead
  · rw [step_poll hfinished,
      Substream.pollNext_of_dead (t := { t.substream with answers }) hdead]
    exact Substream.dead_closeProtoStream hdead

/-- After the error: the substream is dead, and has nothing to say. -/
structure Closing (t₀ t : Substream) : Prop where
  waits : Substream.Waits t₀ t
  dead : t.dead = true
  eventSender : t.eventSender = []
  posted : t.posted = []

/-- What the first task says after an error. -/
def words (t₀ : Substream) (e : IoError) : List ProtocolEvent :=
  if t₀.keepBuffer then [.error t₀.protoId e] else []

/-- The poll in which reading fails spawns the first task. -/
theorem closing_of_meets {answers : Answers} {e : IoError}
    (h : Substream.Waits t₀ t.substream) (hfinished : t.finished = false)
    (hopen : (Label.poll answers).Unclosed)
    (hmeets : { t.substream with answers }.meets = some e)
    (hkind : Substream.isConnection e.kind = false) :
    Closing t₀ (t.step (.poll answers)).substream ∧
      (t.step (.poll answers)).substream.reporting
        = [words t₀ e ++ [.close t₀.id t₀.protoId]] := by
  have hanswers := waits_poll h hopen
  obtain ⟨t₁, hrun, halive, hpoll⟩ := Substream.pollNext_of_meets hmeets hanswers.sessionOpen
  have hwaits := hrun.inv Substream.Waits.move Substream.Waits.loss hanswers
  have hnoted : Substream.Waits t₀ { t₁ with
      dead := true, eventSender := t₁.eventSender ++ [ProtocolEvent.error t₁.protoId e] } :=
    { hwaits with silent := fun hdead => by cases hdead }
  have hcloses := Substream.closes_closeProtoStream hnoted.sessionOpen
  obtain ⟨hevents, hposted, hreporting⟩ := hwaits.silent halive
  have hstep : (t.step (.poll answers)).substream = { t₁ with
      dead := true
      eventSender := t₁.eventSender ++ [ProtocolEvent.error t₁.protoId e] }.closeProtoStream := by
    rw [step_poll hfinished, hpoll]
    unfold Substream.errorClose
    simp only [hkind, Bool.false_eq_true, if_false]
  rw [hstep]
  refine ⟨⟨hnoted.close rfl, hcloses.dead, hcloses.eventSender, hcloses.posted.trans hposted⟩, ?_⟩
  rw [hcloses.reporting]
  simp only [hevents, hreporting, List.nil_append, hwaits.keepBuffer, hwaits.protoId, hwaits.id,
    words]

/-- Afterwards the substream can only close again. -/
theorem closing_step (h : Closing t₀ t.substream) (l : Label) (hopen : l.Unclosed) :
    Closing t₀ (t.step l).substream ∧ ∃ n,
      (t.step l).substream.reporting
        = t.substream.reporting ++ List.replicate n [.close t₀.id t₀.protoId] := by
  have hwaits := waits_step h.waits l hopen
  rcases step_cases t l with ⟨receiver, heq⟩ | ⟨hfinished, answers, rfl⟩
  · rw [heq] at hwaits ⊢
    exact ⟨⟨hwaits, h.dead, h.eventSender, h.posted⟩, 0, (List.append_nil _).symm⟩
  · have hcloses := Substream.closes_closeProtoStream (waits_poll h.waits hopen).sessionOpen
    have hdead : ({ t.substream with answers } : Substream).dead = true := h.dead
    rw [step_poll hfinished, Substream.pollNext_of_dead hdead] at hwaits ⊢
    refine ⟨⟨hwaits, hcloses.dead.trans h.dead, hcloses.eventSender,
      hcloses.posted.trans h.posted⟩, 1, ?_⟩
    rw [hcloses.reporting]
    simp only [h.eventSender, ite_self, List.nil_append, h.waits.id, h.waits.protoId,
      List.replicate_one]

end SubstreamTask

/-! ### The tasks that report -/

/-- A substream, with the tasks it has spawned to report to the session. -/
structure Reporting where
  task : SubstreamTask
  /-- What the spawned tasks have still to send, in the order in which they were spawned. -/
  reports : List (List ProtocolEvent)
  /-- What has reached the session. -/
  heard : List ProtocolEvent

namespace Reporting

inductive Label where
  | task (l : SubstreamTask.Label)
  /-- A spawned task sends its next event. -/
  | deliver (i : ℕ)

def step (x : Reporting) : Label → Reporting
  | .task l =>
    let t := x.task.step l
    { task := t
      reports := x.reports ++ t.substream.reporting.drop x.task.substream.reporting.length
      heard := x.heard ++ t.substream.posted.drop x.task.substream.posted.length }
  | .deliver i =>
    match x.reports[i]? with
    | some (event :: rest) =>
      { x with reports := x.reports.set i rest, heard := x.heard ++ [event] }
    | _ => x

def start (s : Session) (proto : ProtocolMeta) (version : String) : Reporting :=
  { task := .start s proto version, reports := [], heard := [] }

/-- A poll does not find the session closed. -/
def Label.Unclosed : Label → Prop
  | .task l => l.Unclosed
  | .deliver _ => True

instance (l : Label) : Decidable l.Unclosed :=
  match l with
  | .task l => inferInstanceAs (Decidable l.Unclosed)
  | .deliver _ => inferInstanceAs (Decidable True)

/-- No other task sends before the first one. -/
def InTurn (x : Reporting) : Label → Prop
  | .task _ => True
  | .deliver i => i = 0 ∨ x.heard ≠ [] ∨ x.reports.length ≤ i

instance (x : Reporting) (l : Label) : Decidable (x.InTurn l) :=
  match l with
  | .task _ => inferInstanceAs (Decidable True)
  | .deliver _ => inferInstanceAs (Decidable (_ ∨ _ ∨ _))

/-- All that the spawned tasks had to send has been sent. -/
def Delivered (x : Reporting) : Prop := ∀ report ∈ x.reports, report = []

instance (x : Reporting) : Decidable x.Delivered := List.decidableBAll _ x.reports

/-- What a task sends is the next of what it has to send. -/
theorem deliver_cases (x : Reporting) (i : ℕ) :
    x.step (.deliver i) = x ∨ ∃ event rest, x.reports[i]? = some (event :: rest) ∧
      x.step (.deliver i) =
        { x with reports := x.reports.set i rest, heard := x.heard ++ [event] } := by
  rcases hi : x.reports[i]? with _ | ⟨_ | ⟨event, rest⟩⟩
  · exact .inl (by simp only [step, hi])
  · exact .inl (by simp only [step, hi])
  · exact .inr ⟨event, rest, rfl, by simp only [step, hi]⟩

/-- What the session has heard it has heard. -/
theorem heard_runFrom (x : Reporting) (labels : List Label) :
    ∃ more, (runFrom step x labels).heard = x.heard ++ more := by
  refine inv_runFrom (P := fun y : Reporting => ∃ more, y.heard = x.heard ++ more) ?_
    ⟨[], (List.append_nil _).symm⟩ labels
  rintro y l ⟨more, hmore⟩
  cases l with
  | task l => exact ⟨_, (congrArg (· ++ _) hmore).trans (List.append_assoc _ _ _)⟩
  | deliver i =>
    rcases deliver_cases y i with heq | ⟨event, rest, -, heq⟩
    · rw [heq]
      exact ⟨more, hmore⟩
    · rw [heq]
      exact ⟨_, (congrArg (· ++ _) hmore).trans (List.append_assoc _ _ _)⟩

variable {t₀ : Substream} {x : Reporting}

/-- As long as the substream is alive, no task has been spawned. -/
structure Before (t₀ : Substream) (x : Reporting) : Prop where
  waits : Substream.Waits t₀ x.task.substream
  silent : x.task.substream.dead = false → x.reports = [] ∧ x.heard = []

theorem before_step (h : Before t₀ x) (l : Label) (hopen : l.Unclosed) : Before t₀ (x.step l) := by
  cases l with
  | task l =>
    have hwaits := SubstreamTask.waits_step h.waits l hopen
    refine ⟨hwaits, fun halive => ?_⟩
    have hbefore : x.task.substream.dead = false := by
      by_contra hdead
      rw [Bool.not_eq_false] at hdead
      exact Bool.false_ne_true (halive.symm.trans (SubstreamTask.dead_step hdead l))
    obtain ⟨hreports, hheard⟩ := h.silent hbefore
    obtain ⟨-, hposted, hreporting⟩ := hwaits.silent halive
    simp only [step, hreports, hheard, hposted, hreporting, List.drop_nil, List.append_nil,
      and_self]
  | deliver i =>
    rcases deliver_cases x i with heq | ⟨event, rest, hi, heq⟩
    · rw [heq]
      exact h
    · rw [heq]
      refine ⟨h.waits, fun halive => ?_⟩
      rw [(h.silent halive).1] at hi
      cases hi

/-- After the error, with what the session has heard; all else that it will hear are closings. -/
structure Follows (t₀ : Substream) (head : List ProtocolEvent) (x : Reporting) : Prop where
  closing : SubstreamTask.Closing t₀ x.task.substream
  heard : ∃ n, x.heard = head ++ List.replicate n (.close t₀.id t₀.protoId)
  reports : ∀ report ∈ x.reports, ∀ event ∈ report, event = .close t₀.id t₀.protoId

/-- What a step of the substream adds after the error. -/
theorem step_task (h : SubstreamTask.Closing t₀ x.task.substream) (l : SubstreamTask.Label)
    (hopen : l.Unclosed) : SubstreamTask.Closing t₀ (x.step (.task l)).task.substream ∧
      (x.step (.task l)).heard = x.heard ∧ ∃ n, (x.step (.task l)).reports
        = x.reports ++ List.replicate n [.close t₀.id t₀.protoId] := by
  obtain ⟨hclosing, n, hreporting⟩ := SubstreamTask.closing_step h l hopen
  refine ⟨hclosing, ?_, n, ?_⟩
  · simp only [step, hclosing.posted, List.drop_nil, List.append_nil]
  · simp only [step, hreporting, List.drop_left]

theorem follows_step {head : List ProtocolEvent} (h : Follows t₀ head x) (l : Label)
    (hopen : l.Unclosed) : Follows t₀ head (x.step l) := by
  cases l with
  | task l =>
    obtain ⟨hclosing, hheard, n, hreports⟩ := step_task h.closing l hopen
    refine ⟨hclosing, hheard ▸ h.heard, fun report hmem => ?_⟩
    rw [hreports, List.mem_append, List.mem_replicate] at hmem
    rcases hmem with hmem | ⟨-, rfl⟩
    · exact h.reports report hmem
    · exact fun event hevent => List.mem_singleton.mp hevent
  | deliver i =>
    rcases deliver_cases x i with heq | ⟨event, rest, hi, heq⟩
    · rwa [heq]
    · have hall := h.reports _ (List.mem_of_getElem? hi)
      obtain ⟨n, hheard⟩ := h.heard
      rw [heq]
      refine ⟨h.closing, ⟨n + 1, ?_⟩, fun report hmem => ?_⟩
      · rw [hheard, hall event List.mem_cons_self, List.append_assoc, List.replicate_succ']
      · rcases List.mem_or_eq_of_mem_set hmem with hmem | rfl
        · exact h.reports report hmem
        · exact fun event hevent => hall event (List.mem_cons_of_mem _ hevent)

/-- After the error, before anything has been sent. -/
structure Unsent (t₀ : Substream) (e : IoError) (x : Reporting) : Prop where
  closing : SubstreamTask.Closing t₀ x.task.substream
  heard : x.heard = []
  reports : ∃ n, x.reports = (SubstreamTask.words t₀ e ++ [.close t₀.id t₀.protoId]) ::
    List.replicate n [.close t₀.id t₀.protoId]

variable {e : IoError}

/-- The poll in which reading fails. -/
theorem unsent_of_meets {answers : Answers} (h : Before t₀ x) (hfinished : x.task.finished = false)
    (hopen : (SubstreamTask.Label.poll answers).Unclosed)
    (hmeets : { x.task.substream with answers }.meets = some e)
    (hkind : Substream.isConnection e.kind = false) :
    Unsent t₀ e (x.step (.task (.poll answers))) := by
  have halive : x.task.substream.dead = false := by
    by_contra hdead
    simp only [Substream.meets, eq_true_of_ne_false hdead, if_true] at hmeets
    cases hmeets
  obtain ⟨hreports, hheard⟩ := h.silent halive
  obtain ⟨-, -, hnone⟩ := h.waits.silent halive
  obtain ⟨hclosing, hreporting⟩ :=
    SubstreamTask.closing_of_meets h.waits hfinished hopen hmeets hkind
  refine ⟨hclosing, ?_, 0, ?_⟩
  · simp only [step, hheard, hclosing.posted, List.drop_nil, List.append_nil]
  · simp only [step, hreports, hreporting, hnone, List.length_nil, List.drop_zero, List.nil_append,
      List.replicate_zero]

/-- Without the buffer there is no error to send. -/
theorem Unsent.follows (h : Unsent t₀ e x) (hkeep : t₀.keepBuffer = false) :
    Follows t₀ [] x := by
  obtain ⟨n, hreports⟩ := h.reports
  refine ⟨h.closing, ⟨0, h.heard⟩, fun report hmem => ?_⟩
  rw [hreports, SubstreamTask.words, hkeep, List.mem_cons, List.mem_replicate] at hmem
  rcases hmem with rfl | ⟨-, rfl⟩ <;> exact fun event hevent => List.mem_singleton.mp hevent

/-- **With the buffer, the first task decides**: the error comes first just when it is that task
that sends first. -/
theorem Unsent.heard_iff (hkeep : t₀.keepBuffer = true) (labels : List Label)
    (h : Unsent t₀ e x) (hopen : ∀ l ∈ labels, l.Unclosed)
    (hdelivered : (runFrom step x labels).Delivered) :
    (∃ n, (runFrom step x labels).heard
        = .error t₀.protoId e :: List.replicate n (.close t₀.id t₀.protoId)) ↔
      Guarded step InTurn x labels := by
  induction labels generalizing x with
  | nil =>
    -- the first task has not sent anything
    obtain ⟨n, hreports⟩ := h.reports
    have hempty := hdelivered _ (hreports ▸ List.mem_cons_self)
    exact absurd hempty (List.append_ne_nil_of_right_ne_nil _ (List.cons_ne_nil _ _))
  | cons l labels ih =>
    have hrest : ∀ l ∈ labels, l.Unclosed := fun l hl => hopen l (List.mem_cons_of_mem _ hl)
    obtain ⟨n, hreports⟩ := h.reports
    rw [SubstreamTask.words, hkeep, if_pos rfl] at hreports
    cases l with
    | task l =>
      obtain ⟨hclosing, hheard, m, hmore⟩ := step_task h.closing l (hopen _ List.mem_cons_self)
      refine (ih ⟨hclosing, hheard.trans h.heard, n + m, ?_⟩ hrest hdelivered).trans
        (and_iff_right trivial).symm
      rw [hmore, hreports, SubstreamTask.words, hkeep, if_pos rfl, List.cons_append,
        List.replicate_append_replicate]
    | deliver i =>
      have hguard : Guarded step InTurn x (.deliver i :: labels) ↔
          x.InTurn (.deliver i) ∧ Guarded step InTurn (x.step (.deliver i)) labels := Iff.rfl
      rw [hguard]
      rw [runFrom] at hdelivered ⊢
      cases i with
      | zero =>
        -- the error is sent, and nothing but closings can follow
        have hnext : x.step (.deliver 0) = { x with
            reports := [.close t₀.id t₀.protoId] :: List.replicate n [.close t₀.id t₀.protoId]
            heard := [.error t₀.protoId e] } := by
          simp only [step, hreports, h.heard, List.getElem?_cons_zero, List.cons_append,
            List.nil_append, List.set_cons_zero]
        have hfollows : Follows t₀ [.error t₀.protoId e] (x.step (.deliver 0)) := by
          rw [hnext]
          refine ⟨h.closing, ⟨0, rfl⟩, fun report hmem => ?_⟩
          rcases List.mem_cons.mp hmem with rfl | hmem
          · exact fun event hevent => List.mem_singleton.mp hevent
          · rw [(List.mem_replicate.mp hmem).2]
            exact fun event hevent => List.mem_singleton.mp hevent
        have hguarded : Guarded step (fun _ l => l.Unclosed) (x.step (.deliver 0)) labels :=
          guarded_of_forall_mem hrest _
        have hlast := (throughout_of_guarded (P := Follows t₀ [.error t₀.protoId e])
          (fun _ l h hl => follows_step h l hl) hfollows hguarded).last.heard
        refine iff_of_true hlast ⟨.inl rfl, ?_⟩
        refine guarded_of_inv (I := Follows t₀ [.error t₀.protoId e])
          (fun _ l h hl => follows_step h l hl) (fun x l h _ => ?_) hfollows hguarded
        obtain ⟨m, hheard⟩ := h.heard
        cases l with
        | task l => trivial
        | deliver i => exact .inr (.inl (hheard ▸ List.cons_ne_nil _ _))
      | succ i =>
        by_cases hlt : i < n
        · -- another task sends first, and a closing is what is heard first
          have hnext : (x.step (.deliver (i + 1))).heard = [.close t₀.id t₀.protoId] := by
            simp only [step, hreports, h.heard, List.getElem?_cons_succ,
              List.getElem?_replicate_of_lt hlt, List.nil_append]
          obtain ⟨more, hmore⟩ := heard_runFrom (x.step (.deliver (i + 1))) labels
          refine iff_of_false ?_ fun hturn => ?_
          · rintro ⟨m, hheard⟩
            rw [hmore, hnext] at hheard
            cases hheard
          · rcases hturn.1 with hzero | hheard | hle
            · cases hzero
            · exact hheard h.heard
            · rw [hreports, List.length_cons, List.length_replicate] at hle
              omega
        · -- there is no such task
          have hnone : x.reports[i + 1]? = none := by
            rw [hreports, List.getElem?_eq_none_iff, List.length_cons, List.length_replicate]
            omega
          have hsame : x.step (.deliver (i + 1)) = x := by simp only [step, hnone]
          have hturn : x.InTurn (.deliver (i + 1)) :=
            .inr (.inr (List.getElem?_eq_none_iff.mp hnone))
          rw [hsame] at hdelivered ⊢
          exact (ih h hrest hdelivered).trans (and_iff_right hturn).symm

/-- **When the error is told once, before every closing**: the substream keeps its buffer, and the
task that was spawned with the error sends before the others. -/
theorem error_reported_iff (s : Session) (proto : ProtocolMeta) (version : String)
    (before after : List Label) (answers : Answers) (e : IoError)
    (hclosed : s.context.closed = false)
    (hopen : ∀ l ∈ before ++ .task (.poll answers) :: after, l.Unclosed)
    (hfinished : (runFrom step (start s proto version) before).task.finished = false)
    (hmeets : { (runFrom step (start s proto version) before).task.substream with
      answers }.meets = some e)
    (hkind : Substream.isConnection e.kind = false)
    (hdelivered : (runFrom step (start s proto version)
      (before ++ .task (.poll answers) :: after)).Delivered) :
    (∃ n, (runFrom step (start s proto version) (before ++ .task (.poll answers) :: after)).heard
        = .error proto.id e :: List.replicate n (.close s.nextStream proto.id)) ↔
      s.keepBuffer = true ∧ Guarded step InTurn
        ((runFrom step (start s proto version) before).step (.task (.poll answers))) after := by
  have hbefore := (throughout_of_guarded (P := Before (s.newSubstream proto version))
    (s := start s proto version) (fun _ l h hl => before_step h l hl)
    ⟨SubstreamTask.waits_start s proto version hclosed, fun _ => ⟨rfl, rfl⟩⟩
    (guarded_of_forall_mem (fun l hl => hopen l (List.mem_append_left _ hl)) _)).last
  have hafter : ∀ l ∈ after, l.Unclosed := fun l hl =>
    hopen l (List.mem_append_right _ (List.mem_cons_of_mem _ hl))
  rw [runFrom_append, runFrom] at hdelivered ⊢
  generalize runFrom step (start s proto version) before = x
    at hbefore hfinished hmeets hdelivered ⊢
  have hunsent := unsent_of_meets hbefore hfinished
    (hopen _ (List.mem_append_right _ List.mem_cons_self)) hmeets hkind
  cases hkeep : s.keepBuffer with
  | true => exact (hunsent.heard_iff hkeep after hafter hdelivered).trans (and_iff_right rfl).symm
  | false =>
    refine iff_of_false ?_ fun h => Bool.false_ne_true h.1
    rintro ⟨n, hheard⟩
    obtain ⟨m, hcloses⟩ := (throughout_of_guarded (P := Follows (s.newSubstream proto version) [])
      (fun _ l h hl => follows_step h l hl) (hunsent.follows hkeep)
      (guarded_of_forall_mem hafter _)).last.heard
    rw [hheard, List.nil_append] at hcloses
    cases m <;> cases hcloses

/-- A poll that finds its sinks and channels ready and cannot decode the frame it reads. -/
def undecodable : Answers :=
  { closed := [], ready := [], flush := [.done], service := [⟨9, false⟩], session := [⟨9, false⟩]
    event := [⟨9, false⟩], frame := .failed ⟨.other 0⟩, proceed := true }

/-- The frame that cannot be decoded, and the poll after it. -/
def failing (keepBuffer : Bool) (labels : List Label) : Reporting :=
  runFrom step (start (Session.new 1 [.ping true] (fun _ => none) 1024 16 16 keepBuffer)
    (.ping true) "0.0.1")
    (.task (.poll undecodable) :: .task (SubstreamTask.meet .done .pending) :: labels)

/-- A message arrives, then a frame that cannot be decoded; the buffer is kept, and the first task
sends first. -/
theorem error_reported_kept :
    let s := Session.new 1 [.ping true] (fun _ => none) 1024 16 16 true
    ∃ n, (runFrom step (start s (.ping true) "0.0.1")
      ([.task (SubstreamTask.meet .done (.data [1]))] ++ .task (.poll undecodable) ::
        [.task (SubstreamTask.meet .done .pending), .deliver 0, .deliver 1, .deliver 0])).heard
      = .error 1 ⟨.other 0⟩ :: List.replicate n (.close 0 1) := by
  intro s
  exact (error_reported_iff s (.ping true) "0.0.1"
    [.task (SubstreamTask.meet .done (.data [1]))]
    [.task (SubstreamTask.meet .done .pending), .deliver 0, .deliver 1, .deliver 0] undecodable
    ⟨.other 0⟩ rfl (by decide +kernel) (by decide +kernel) (by decide +kernel) rfl
    (by decide +kernel)).mpr ⟨rfl, by decide +kernel⟩

/-- **The error is lost, or comes too late**: reading meets it on a session that is open.  Without
the buffer the session only hears that the substream is closed; with it, the task of the second
closing may be the first to send. -/
theorem error_lost :
    { (start (Session.new 1 [.ping true] (fun _ => none) 1024 16 16 false)
        (.ping true) "0.0.1").task.substream with
      answers := undecodable }.meets = some ⟨.other 0⟩ ∧
    Substream.isConnection (.other 0) = false ∧
    ((failing false [.deliver 0, .deliver 1]).Delivered ∧
      (failing false [.deliver 0, .deliver 1]).heard = [.close 0 1, .close 0 1]) ∧
    (failing true [.deliver 1, .deliver 0, .deliver 0]).Delivered ∧
      (failing true [.deliver 1, .deliver 0, .deliver 0]).heard
        = [.close 0 1, .error 1 ⟨.other 0⟩, .close 0 1] := by
  decide +kernel

end Reporting

end Tentacle
end CkbP2P

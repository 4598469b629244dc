import CkbP2P.P2PNode.Node

/-!
# Which sessions a node shows

A node shows a session when the shared state has it.  It should show the outbound sessions
whose opening it has handled and whose closing it has not.  Only the service handler knows
which sessions those are, and a protocol handler that is told of a connection makes the
session if it is not there.
-/

namespace CkbP2P
namespace P2PNode

open Lib Tentacle Connector

/-- The event is about the session. -/
def eventFor (id : SessionId) : ServiceEvent → Bool
  | .sessionOpen session | .sessionClose session => session.id = id
  | .listenClose _ | .listenStarted _ => false

/-- The session an event of a protocol is about. -/
def sessionOf : ServiceProtocolEvent → SessionId
  | .connected id _ | .received id _ | .disconnected id => id

/-- What the service handler has to handle yet of a session. -/
inductive Progress (session : SessionContext) : Phase → Phase → List ServiceEvent → Prop
  | unopened : Progress session .unopened .unopened []
  | opening : Progress session .unopened .opened [.sessionOpen session]
  | passing : Progress session .unopened .closed [.sessionOpen session, .sessionClose session]
  | opened : Progress session .opened .opened []
  | closing : Progress session .opened .closed [.sessionClose session]
  | closed : Progress session .closed .closed []

namespace Progress

variable {session session' : SessionContext} {handled published : Phase}
  {queue : List ServiceEvent}

theorem publishOpen (h : Progress session handled .unopened queue) :
    Progress session handled .opened (queue ++ [.sessionOpen session]) := by
  cases h
  exact .opening

theorem publishClose (h : Progress session handled .opened queue) :
    Progress session handled .closed (queue ++ [.sessionClose session]) := by
  cases h with
  | opening => exact .passing
  | opened => exact .closing

theorem handleOpen (h : Progress session handled published (.sessionOpen session' :: queue)) :
    session' = session ∧ published ≠ .unopened ∧ Progress session .opened published queue := by
  cases h with
  | opening => exact ⟨rfl, by decide, .opened⟩
  | passing => exact ⟨rfl, by decide, .closing⟩

theorem handleClose (h : Progress session handled published (.sessionClose session' :: queue)) :
    Progress session .closed published queue := by
  cases h
  exact .closed

end Progress

namespace Node

section

variable (contexts : SessionId → SessionContext)

/-- All callbacks of the session have run. -/
def Quiet (n : Node) (id : SessionId) : Prop :=
  n.events.filter (eventFor id) = [] ∧ ∀ protocolId, ∀ event ∈ n.queues protocolId,
    sessionOf event ≠ id

/-- What the three lookups give for a session is `p`. -/
structure Shown (n : Node) (id : SessionId) (p : Prop) : Prop where
  getSession : (∃ by', n.shared.getSession by' = some (contextOf contexts id)) ↔ p
  getSessions : contextOf contexts id ∈ n.shared.getSessions ↔ p
  getSessionIds : id ∈ n.shared.getSessionIds ↔ p

/-- A session all of whose callbacks have run is shown if and only if it is outbound, opened
and not closed. -/
def Visible (n : Node) : Prop :=
  ∀ id, n.Quiet id →
    n.Shown contexts id ((contexts id).ty = .outbound ∧ n.handled id = .opened)

/-- The handler is told of a connection after the opening of the session has been published,
before its closing is handled and, if the session is inbound, when its closing has been
published. -/
def TimelyEvent (n : Node) : Option ServiceProtocolEvent → Prop
  | some (.connected id _) =>
    n.flags.shutdown = true ∨ n.published id ≠ .unopened ∧ n.handled id ≠ .closed ∧
      ((contexts id).ty = .outbound ∨ n.published id = .closed)
  | _ => True

/-- Connections are told in time. -/
def Timely (n : Node) : Label → Prop
  | .protocol protocolId _ => n.TimelyEvent contexts (n.queues protocolId).head?
  | _ => True

instance (n : Node) : ∀ event, Decidable (n.TimelyEvent contexts event)
  | some (.connected _ _) => inferInstanceAs (Decidable (_ ∨ _ ∧ _ ∧ _))
  | some (.received _ _) | some (.disconnected _) | none => inferInstanceAs (Decidable True)

instance (n : Node) : ∀ l, Decidable (n.Timely contexts l)
  | .protocol protocolId _ =>
    inferInstanceAs (Decidable (n.TimelyEvent contexts (n.queues protocolId).head?))
  | .openSession _ | .closeSession _ | .queue _ _ | .setClosed _ | .shutdown | .service =>
    inferInstanceAs (Decidable True)

/-- What holds in every state of a timely run. -/
structure Orderly (n : Node) : Prop where
  consistent : n.shared.Consistent contexts
  progress : ∀ id, Progress (contextOf contexts id) (n.handled id) (n.published id)
    (n.events.filter (eventFor id))
  /-- An outbound session is there when it is open. -/
  present : ∀ id, (contexts id).ty = .outbound → n.handled id = .opened →
    id ∈ n.shared.sessionManager
  /-- A session that is there is not closed, and is outbound or on its way to be closed. -/
  pending : ∀ id ∈ n.shared.sessionManager, n.published id ≠ .unopened ∧
    n.handled id ≠ .closed ∧ ((contexts id).ty = .outbound ∨ n.published id = .closed)

end

variable {sha256 : Sha256} {contexts : SessionId → SessionContext} {n : Node}

/-! ### What is shown -/

/-- The lookups all say whether the session is in the table. -/
theorem shown_iff (h : n.shared.Consistent contexts) {id : SessionId} {p : Prop}
    (hp : id ∈ n.shared.sessionManager ↔ p) : n.Shown contexts id p := by
  have hsessions : contextOf contexts id ∈ n.shared.getSessions ↔ p := by
    rw [SharedState.mem_getSessions, ← hp]
    constructor
    · rintro ⟨id', info, hl, hinfo⟩
      rw [h id' info hl] at hinfo
      have hid : id' = id := congrArg SessionContext.id hinfo
      exact hid ▸ mem_of_lookup_eq_some hl
    · intro hmem
      obtain ⟨info, hl⟩ := SharedState.exists_lookup hmem
      exact ⟨id, info, hl, h id info hl⟩
  refine ⟨⟨?_, ?_⟩, hsessions, ?_⟩
  · rintro ⟨by', hfound⟩
    exact hsessions.mp (SharedState.getSession_mem hfound)
  · intro hpos
    obtain ⟨info, hl⟩ := SharedState.exists_lookup (hp.mpr hpos)
    refine ⟨.sessionId id, ?_⟩
    rw [SharedState.getSession, SharedState.getNetworkInfo, hl, Option.map_some, h id info hl]
  · rw [SharedState.mem_getSessionIds, ← hsessions]
    constructor
    · rintro ⟨session, hmem, hid⟩
      obtain ⟨id', info, hl, rfl⟩ := SharedState.mem_getSessions.mp hmem
      have hcontext := h id' info hl
      have hid' : id' = id := (congrArg SessionContext.id hcontext).symm.trans hid
      rwa [hcontext, hid'] at hmem
    · exact fun hmem => ⟨_, hmem, rfl⟩

/-- **A quiet session of an orderly node is shown as it should be.** -/
theorem visible_of_orderly (h : n.Orderly contexts) : n.Visible contexts := by
  intro id hquiet
  apply shown_iff h.consistent
  have hprogress := h.progress id
  rw [hquiet.1] at hprogress
  constructor
  · intro hmem
    obtain ⟨hpublished, hhandled, hout⟩ := h.pending id hmem
    generalize n.handled id = handled, n.published id = published at *
    cases hprogress <;> simp_all
  · rintro ⟨hout, hopened⟩
    exact h.present id hout hopened

/-! ### The table -/

/-- A protocol that is added makes its session. -/
theorem mem_addProtocol {shared : SharedState} {session : SessionContext}
    {protocolId : ProtocolId} {id : SessionId} :
    id ∈ (shared.addProtocol session protocolId).sessionManager ↔
      id = session.id ∨ id ∈ shared.sessionManager := AList.mem_insert _

/-- A protocol that is removed leaves its session. -/
theorem mem_removeProtocol {shared : SharedState} {id' : SessionId} {protocolId : ProtocolId}
    {id : SessionId} :
    id ∈ (shared.removeProtocol id' protocolId).sessionManager ↔ id ∈ shared.sessionManager := by
  unfold SharedState.removeProtocol
  split
  · rfl
  case _ info hl =>
    refine (AList.mem_insert _).trans ⟨?_, .inr⟩
    rintro (rfl | hmem)
    · exact mem_of_lookup_eq_some hl
    · exact hmem

theorem mem_addSession {shared : SharedState} {session : SessionContext} {id : SessionId} :
    id ∈ (shared.addSession sha256 session).sessionManager ↔
      id = session.id ∨ id ∈ shared.sessionManager := by
  simp only [SharedState.addSession]
  split
  case isTrue hmem =>
    refine ⟨.inr, ?_⟩
    rintro (rfl | hmem')
    · exact hmem
    · exact hmem'
  case isFalse => exact AList.mem_insert _

theorem mem_removeSession {shared : SharedState} {id' id : SessionId} :
    id ∈ (shared.removeSession sha256 id').2.sessionManager ↔
      id ≠ id' ∧ id ∈ shared.sessionManager := by
  unfold SharedState.removeSession
  split
  case _ hnone =>
    refine ⟨fun hmem => ⟨?_, hmem⟩, And.right⟩
    rintro rfl
    exact AList.lookup_eq_none.mp hnone hmem
  case _ => exact AList.mem_erase

/-- Callbacks make the sessions that are connected, and leave the others. -/
theorem callbacks_spec (protocolId : ProtocolId) (callbacks : List Callback)
    {shared : SharedState} (h : shared.Consistent contexts) :
    (callbacks.foldl (callback contexts protocolId) shared).Consistent contexts ∧
      ∀ id, id ∈ (callbacks.foldl (callback contexts protocolId) shared).sessionManager ↔
        id ∈ shared.sessionManager ∨ ∃ version, Callback.connected id version ∈ callbacks := by
  induction callbacks generalizing shared with
  | nil => simpa using h
  | cons c callbacks ih =>
    cases c with
    | connected id' version =>
      obtain ⟨hconsistent, hmem⟩ := ih (SharedState.consistent_addProtocol h id' protocolId)
      refine ⟨hconsistent, fun id => (hmem id).trans ?_⟩
      rw [mem_addProtocol]
      simp only [List.mem_cons, Callback.connected.injEq]
      constructor
      · rintro ((rfl | hid) | ⟨version', hin⟩)
        · exact .inr ⟨version, .inl ⟨rfl, rfl⟩⟩
        · exact .inl hid
        · exact .inr ⟨version', .inr hin⟩
      · rintro (hid | ⟨version', ⟨rfl, -⟩ | hin⟩)
        · exact .inl (.inr hid)
        · exact .inl (.inl rfl)
        · exact .inr ⟨version', hin⟩
    | disconnected id' =>
      obtain ⟨hconsistent, hmem⟩ := ih (SharedState.consistent_removeProtocol h id' protocolId)
      refine ⟨hconsistent, fun id => (hmem id).trans ?_⟩
      rw [mem_removeProtocol]
      simp
    | received id' data =>
      obtain ⟨hconsistent, hmem⟩ := ih h
      refine ⟨hconsistent, fun id => (hmem id).trans ?_⟩
      simp

/-! ### Steps -/

/-- The events of other sessions are not affected. -/
theorem filter_append_of_ne {id : SessionId} {event : ServiceEvent} (events : List ServiceEvent)
    (h : eventFor id event = false) :
    (events ++ [event]).filter (eventFor id) = events.filter (eventFor id) := by
  rw [List.filter_append, List.filter_cons_of_neg (by simp [h]), List.filter_nil, List.append_nil]

theorem filter_append_self {id : SessionId} {event : ServiceEvent} (events : List ServiceEvent)
    (h : eventFor id event = true) :
    (events ++ [event]).filter (eventFor id) = events.filter (eventFor id) ++ [event] := by
  rw [List.filter_append, List.filter_cons_of_pos h, List.filter_nil]

theorem orderly_openSession (h : n.Orderly contexts) (id : SessionId) :
    (n.step sha256 contexts (.openSession id)).Orderly contexts := by
  simp only [step]
  split
  case isFalse => exact h
  case isTrue hpublished =>
    refine ⟨h.consistent, fun id' => ?_, h.present, fun id' hmem => ?_⟩
    · have hprogress := h.progress id'
      dsimp only
      by_cases hid : id' = id
      · subst hid
        rw [Function.update_self, filter_append_self _ (by simp [eventFor, contextOf])]
        rw [hpublished] at hprogress
        exact hprogress.publishOpen
      · rw [Function.update_of_ne hid, filter_append_of_ne]
        · exact hprogress
        · exact decide_eq_false (Ne.symm hid)
    · have hpending := h.pending id' hmem
      have hid : id' ≠ id := by
        rintro rfl
        exact hpending.1 hpublished
      dsimp only
      rwa [Function.update_of_ne hid]

theorem orderly_closeSession (h : n.Orderly contexts) (id : SessionId) :
    (n.step sha256 contexts (.closeSession id)).Orderly contexts := by
  simp only [step]
  split
  case isFalse => exact h
  case isTrue hpublished =>
    refine ⟨h.consistent, fun id' => ?_, h.present, fun id' hmem => ?_⟩
    · have hprogress := h.progress id'
      dsimp only
      by_cases hid : id' = id
      · subst hid
        rw [Function.update_self, filter_append_self _ (by simp [eventFor, contextOf])]
        rw [hpublished] at hprogress
        exact hprogress.publishClose
      · rw [Function.update_of_ne hid, filter_append_of_ne]
        · exact hprogress
        · exact decide_eq_false (Ne.symm hid)
    · have hpending := h.pending id' hmem
      dsimp only
      by_cases hid : id' = id
      · subst hid
        rw [Function.update_self]
        exact ⟨by decide, hpending.2.1, .inr rfl⟩
      · rwa [Function.update_of_ne hid]

/-- One event of a session is handled, and none of another session. -/
theorem progress_handled {event : ServiceEvent} {events : List ServiceEvent} {id : SessionId}
    {phase : Phase} (h : ∀ id', Progress (contextOf contexts id') (n.handled id') (n.published id')
      ((event :: events).filter (eventFor id')))
    (hevent : ∀ id', eventFor id' event = decide (id = id'))
    (hnext : Progress (contextOf contexts id) phase (n.published id)
      (events.filter (eventFor id))) (id' : SessionId) :
    Progress (contextOf contexts id') (Function.update n.handled id phase id') (n.published id')
      (events.filter (eventFor id')) := by
  by_cases hid : id' = id
  · rwa [hid, Function.update_self]
  · have hprogress := h id'
    rw [List.filter_cons_of_neg (by simpa [hevent] using Ne.symm hid)] at hprogress
    rwa [Function.update_of_ne hid]

/-- The opening of a session is handled. -/
theorem orderly_sessionOpen {session : SessionContext} {events : List ServiceEvent}
    (h : n.Orderly contexts) (hevents : n.events = .sessionOpen session :: events) :
    ({ n with events }.handleEvent sha256 (.sessionOpen session)).Orderly contexts := by
  have hall := h.progress
  rw [hevents] at hall
  have hfirst := hall session.id
  rw [List.filter_cons_of_pos (by simp [eventFor])] at hfirst
  obtain ⟨hcontext, hpublished, hnext⟩ := hfirst.handleOpen
  have hprogress := progress_handled hall (fun _ => rfl) hnext
  have hty : session.ty = (contextOf contexts session.id).ty :=
    congrArg SessionContext.ty hcontext
  change session.ty = (contexts session.id).ty at hty
  have hpending : ∀ id' ∈ n.shared.sessionManager, n.published id' ≠ .unopened ∧
      Function.update n.handled session.id .opened id' ≠ .closed ∧
      ((contexts id').ty = .outbound ∨ n.published id' = .closed) := by
    intro id' hmem
    obtain ⟨hpublished, hclosed, hout⟩ := h.pending id' hmem
    refine ⟨hpublished, ?_, hout⟩
    by_cases hid : id' = session.id
    · rw [hid, Function.update_self]
      decide
    · rwa [Function.update_of_ne hid]
  simp only [handleEvent]
  split
  case isTrue hin =>
    -- an inbound session is not put into the table
    refine ⟨h.consistent, hprogress, fun id' hout hopened => ?_, hpending⟩
    dsimp only at hopened ⊢
    by_cases hid : id' = session.id
    · rw [hid, ← hty, hin] at hout
      cases hout
    · rw [Function.update_of_ne hid] at hopened
      exact h.present id' hout hopened
  case isFalse hin =>
    -- an outbound session is
    have hout : (contexts session.id).ty = .outbound := by
      rw [← hty]
      cases hs : session.ty with
      | outbound => rfl
      | inbound => exact absurd hs hin
    refine ⟨?_, hprogress, fun id' hout' hopened => ?_, fun id' hmem => ?_⟩
    · rw [hcontext]
      exact SharedState.consistent_addSession h.consistent _
    · dsimp only at hopened ⊢
      rw [mem_addSession]
      by_cases hid : id' = session.id
      · exact .inl hid
      · rw [Function.update_of_ne hid] at hopened
        exact .inr (h.present id' hout' hopened)
    · rcases mem_addSession.mp hmem with rfl | hmem
      · refine ⟨hpublished, ?_, .inl hout⟩
        dsimp only
        rw [Function.update_self]
        decide
      · exact hpending id' hmem

/-- The closing of a session is handled. -/
theorem orderly_sessionClose {session : SessionContext} {events : List ServiceEvent}
    (h : n.Orderly contexts) (hevents : n.events = .sessionClose session :: events) :
    ({ n with events }.handleEvent sha256 (.sessionClose session)).Orderly contexts := by
  have hall := h.progress
  rw [hevents] at hall
  have hfirst := hall session.id
  rw [List.filter_cons_of_pos (by simp [eventFor])] at hfirst
  simp only [handleEvent]
  refine ⟨SharedState.consistent_removeSession h.consistent _,
    progress_handled hall (fun _ => rfl) hfirst.handleClose, fun id' hout hopened => ?_,
    fun id' hmem => ?_⟩
  · dsimp only at hopened ⊢
    by_cases hid : id' = session.id
    · rw [hid, Function.update_self] at hopened
      cases hopened
    · rw [Function.update_of_ne hid] at hopened
      exact mem_removeSession.mpr ⟨hid, h.present id' hout hopened⟩
  · obtain ⟨hid, hmem⟩ := mem_removeSession.mp hmem
    dsimp only
    rw [Function.update_of_ne hid]
    exact h.pending id' hmem

theorem orderly_service (h : n.Orderly contexts) : (n.runService sha256).Orderly contexts := by
  unfold runService
  cases hevents : n.events with
  | nil => exact h
  | cons event events =>
    cases event with
    | sessionOpen session => exact orderly_sessionOpen h hevents
    | sessionClose session => exact orderly_sessionClose h hevents
    | listenClose address | listenStarted address =>
      have hall := h.progress
      rw [hevents] at hall
      exact ⟨h.consistent, hall, h.present, h.pending⟩

/-- A connection that is told in time makes no session that should not be there. -/
theorem orderly_protocol (h : n.Orderly contexts) (protocolId : ProtocolId) (later : Flags)
    (hok : n.TimelyEvent contexts (n.queues protocolId).head?) :
    (n.runProtocol contexts protocolId later).Orderly contexts := by
  unfold runProtocol
  cases hqueue : n.queues protocolId with
  | nil => exact h
  | cons event queue =>
    rw [hqueue] at hok
    obtain ⟨hconsistent, hmem⟩ := callbacks_spec protocolId
      ((n.streams protocolId).handleEvent n.flags later event).2 h.consistent
    refine ⟨hconsistent, h.progress, fun id hout hopened => ?_, fun id hid => ?_⟩
    · exact (hmem id).mpr (.inl (h.present id hout hopened))
    · rcases (hmem id).mp hid with hid | ⟨version, hin⟩
      · exact h.pending id hid
      · obtain ⟨rfl, hshutdown⟩ := ServiceProtocolStream.connected_of_handleEvent hin
        rcases hok with hdown | htimely
        · rw [hshutdown] at hdown
          cases hdown
        · exact htimely

theorem orderly_step (h : n.Orderly contexts) (l : Label) (hok : n.Timely contexts l) :
    (n.step sha256 contexts l).Orderly contexts := by
  cases l with
  | openSession id => exact orderly_openSession h id
  | closeSession id => exact orderly_closeSession h id
  | queue protocolId event => exact ⟨h.consistent, h.progress, h.present, h.pending⟩
  | setClosed id => exact ⟨h.consistent, h.progress, h.present, h.pending⟩
  | shutdown => exact ⟨h.consistent, h.progress, h.present, h.pending⟩
  | service => exact orderly_service h
  | protocol protocolId later => exact orderly_protocol h protocolId later hok

theorem orderly_new (contexts : SessionId → SessionContext) : new.Orderly contexts where
  consistent := SharedState.consistent_new contexts
  progress := fun _ => .unopened
  present := fun _ _ h => by cases h
  pending := fun _ h => absurd h (AList.notMem_empty _)

/-- The condition is needed: when a handler is told of a connection and no callback of the
session is left to run, the session is shown as it should be only if it was told in time. -/
theorem timely_of_visible (h : n.Orderly contexts) {protocolId : ProtocolId} {later : Flags}
    {id : SessionId} {version : String}
    (hhead : (n.queues protocolId).head? = some (.connected id version))
    (hquiet : (n.runProtocol contexts protocolId later).Quiet id)
    (hvisible : (n.runProtocol contexts protocolId later).Visible contexts) :
    n.TimelyEvent contexts (n.queues protocolId).head? := by
  rw [hhead]
  by_cases hshutdown : n.flags.shutdown = true
  · exact .inl hshutdown
  have hprogress := h.progress id
  obtain ⟨queue, hqueue⟩ := List.head?_eq_some_iff.mp hhead
  have hshown := hvisible id hquiet
  -- The events of the service and the phases are as they were.
  have hnil := hquiet.1
  unfold runProtocol at hnil hshown
  rw [hqueue] at hnil hshown
  obtain ⟨hconsistent, hmem⟩ := callbacks_spec protocolId
    ((n.streams protocolId).handleEvent n.flags later (.connected id version)).2 h.consistent
  have hmade : .connected id version ∈
      ((n.streams protocolId).handleEvent n.flags later (.connected id version)).2 := by
    simp [ServiceProtocolStream.handleEvent, hshutdown, ServiceProtocolStream.dispatch]
  obtain ⟨info, hl⟩ := SharedState.exists_lookup ((hmem id).mpr (.inr ⟨version, hmade⟩))
  have hid : info.1.id = id := congrArg SessionContext.id (hconsistent id info hl)
  obtain ⟨hout, hopened⟩ := hshown.getSessionIds.mp
    (SharedState.mem_getSessionIds.mpr
      ⟨_, SharedState.mem_getSessions.mpr ⟨id, info, hl, rfl⟩, hid⟩)
  rw [show n.events.filter (eventFor id) = [] from hnil,
    show n.handled id = .opened from hopened] at hprogress
  refine .inr ⟨?_, ?_, .inl hout⟩
  · intro hunopened
    rw [hunopened] at hprogress
    cases hprogress
  · rw [show n.handled id = .opened from hopened]
    decide

/-- **When every connection is told in time, a session all of whose callbacks have run is
shown if and only if it is outbound, opened and not closed**, in every state of the run.  At the end
of such a run, a handler has to be told of a connection in time if no callback is left after it. -/
theorem visible_run (sha256 : Sha256) (contexts : SessionId → SessionContext)
    (labels : List Label) (hok : Guarded (step sha256 contexts) (Timely contexts) new labels) :
    Throughout (step sha256 contexts) (Visible contexts) new labels ∧
    let n := runFrom (step sha256 contexts) new labels
    ∀ protocolId later id version,
      (n.queues protocolId).head? = some (.connected id version) →
      (n.runProtocol contexts protocolId later).Quiet id →
      ((n.runProtocol contexts protocolId later).Visible contexts ↔
        n.TimelyEvent contexts (n.queues protocolId).head?) := by
  have horderly := throughout_of_guarded (P := Orderly contexts) (fun _ l h => orderly_step h l)
    (orderly_new contexts) hok
  refine ⟨horderly.mono fun _ => visible_of_orderly, ?_⟩
  intro n protocolId later id version hhead hquiet
  have h : n.Orderly contexts := horderly.last
  exact ⟨timely_of_visible h hhead hquiet, fun htimely =>
    visible_of_orderly (orderly_protocol h protocolId later htimely)⟩

/-- Flags as they are while nothing is closed. -/
def running : Flags := { shutdown := false, closed := fun _ => false }

/-- A session is opened, a protocol connected, and the session closed. -/
def openAndClose : List Label :=
  [.openSession 1, .queue 0 (.connected 1 "1"), .protocol 0 running, .service, .closeSession 1,
    .queue 0 (.disconnected 1), .service, .protocol 0 running]

/-- An outbound session is told in time, though before its opening is handled. -/
theorem visible_run_outbound :
    Guarded (step generatorSha256 SharedState.onePeer) (Timely SharedState.onePeer) new
        openAndClose ∧
      Throughout (step generatorSha256 SharedState.onePeer) (Visible SharedState.onePeer) new
        openAndClose :=
  ⟨by decide +kernel, (visible_run _ _ _ (by decide +kernel)).1⟩

/-- A peer that connects to the node. -/
def inboundPeer (id : SessionId) : SessionContext :=
  { SharedState.onePeer id with ty := .inbound }

/-- The session is opened and handled, and then a protocol is connected. -/
def connect : List Label :=
  [.openSession 1, .service, .queue 0 (.connected 1 "1"), .protocol 0 running]

/-- The session is opened and closed, and then a protocol is connected. -/
def connectLate : List Label :=
  [.openSession 1, .service, .closeSession 1, .service, .queue 0 (.connected 1 "1"),
    .protocol 0 running]

/-- **An inbound session is shown**, since it is not disconnected and its protocols make it;
and an outbound session that is closed is shown again. -/
theorem visible_inbound :
    ¬ Visible inboundPeer (runFrom (step generatorSha256 inboundPeer) new connect) ∧
      ¬ Visible SharedState.onePeer
        (runFrom (step generatorSha256 SharedState.onePeer) new connectLate) := by
  have hempty : ∀ (event : ServiceProtocolEvent) (protocolId : ProtocolId),
      Function.update (Function.update (fun _ => []) 0 [event]) 0 [] protocolId
        = ([] : List ServiceProtocolEvent) := by
    intro event protocolId
    by_cases h : protocolId = 0
    · rw [h, Function.update_self]
    · rw [Function.update_of_ne h, Function.update_of_ne h]
  constructor
  · intro h
    have hquiet : Quiet (runFrom (step generatorSha256 inboundPeer) new connect) 1 :=
      ⟨by decide +kernel, fun protocolId event hmem => by
        have hnil : (runFrom (step generatorSha256 inboundPeer) new connect).queues protocolId
          = [] := hempty (.connected 1 "1") protocolId
        rw [hnil] at hmem
        cases hmem⟩
    exact absurd ((h 1 hquiet).getSessionIds.mp (by decide +kernel)).1 (by decide)
  · intro h
    have hquiet : Quiet (runFrom (step generatorSha256 SharedState.onePeer) new connectLate) 1 :=
      ⟨by decide +kernel, fun protocolId event hmem => by
        have hnil : (runFrom (step generatorSha256 SharedState.onePeer) new connectLate).queues
          protocolId = [] := hempty (.connected 1 "1") protocolId
        rw [hnil] at hmem
        cases hmem⟩
    exact absurd ((h 1 hquiet).getSessionIds.mp (by decide +kernel)).2 (by decide +kernel)

end Node

end P2PNode
end CkbP2P

import CkbP2P.Lib.Run
import CkbP2P.Tentacle.HandlerLink

/-!
# What a handler knows of its sessions

The handler should know which sessions have an open substream of its protocol, and be told
of connections and disconnections in turn.  Nothing makes the spawned task of an old
substream send before a new substream does, so this depends on the schedule.
-/

namespace CkbP2P
namespace Tentacle

open Lib

/-! ### Schedules -/

/-- The event connects a session. -/
def ServiceProtocolEvent.connects : ServiceProtocolEvent → Bool
  | .connected _ _ => true
  | .received _ _ | .disconnected _ => false

namespace ProtocolSystem

/-- A poll of a substream with a handler is orderly, and tells the handler something only when
no task that an older substream of the session has spawned still has something to send. -/
def TimelyPoll (protoId : ProtocolId) (p : Party) (task : Substream) (answers : Answers) : Prop :=
  task.protoId = protoId → task.serviceProtoSender.isSome = true →
    (polled p.session task answers).orderly = true ∧
      (queues protoId task (polled p.session task answers).pollNext.1 ≠ [] ∨
        spawns protoId task (polled p.session task answers).pollNext.1 ≠ [] → p.spawned = [])

instance (protoId : ProtocolId) (p : Party) (task : Substream) (answers : Answers) :
    Decidable (TimelyPoll protoId p task answers) :=
  inferInstanceAs (Decidable (_ → _ → _ ∧ (_ → _)))

/-- The schedule is timely: polls are; a session opens the protocol only when no substream of
it is open; and the handler takes an event only when the sessions that it would take out of
its table have no open substream, and a connection only before a shutdown. -/
def Timely (protoId : ProtocolId) (x : ProtocolSystem) : Label → Prop
  | .session id (.task stream answers) =>
    ∀ task ∈ (x.parties id).session.tasks.lookup stream,
      TimelyPoll protoId (x.parties id) task answers
  | .session id (.session answers) =>
    (((x.parties id).session.pollOpens answers).any fun o => o.1.id = protoId) = true →
      ¬ (x.parties id).session.IsOpen protoId
  | .handle _ =>
    (∀ id ∈ x.stream.sessions, x.flags.closed id = true →
      ¬ (x.parties id).session.IsOpen protoId) ∧
    (x.shutdown = true → (x.queue.head?.any ServiceProtocolEvent.connects) = false)
  | _ => True

instance (protoId : ProtocolId) (x : ProtocolSystem) (l : Label) :
    Decidable (x.Timely protoId l) :=
  match l with
  | .session _ (.task _ _) => inferInstanceAs (Decidable (∀ task ∈ (_ : Option Substream), _))
  | .session _ (.session _) => inferInstanceAs (Decidable (_ → _))
  | .handle _ =>
    have := List.decidableBAll (fun id => x.flags.closed id = true →
      ¬ (x.parties id).session.IsOpen protoId) x.stream.sessions
    inferInstanceAs (Decidable (_ ∧ (_ → _)))
  | .session _ (.message ..) | .session _ .passOn | .session _ (.command ..)
  | .session _ .unregister | .session _ (.arrive _) | .deliver _ _ | .forward _ _ | .shutdown =>
    inferInstanceAs (Decidable True)

variable {protoId : ProtocolId} {x : ProtocolSystem}

/-- What holds along every timely schedule. -/
structure Inv (protoId : ProtocolId) (x : ProtocolSystem) : Prop where
  linked : ∀ id, Linked protoId id (decide (id ∈ x.stream.sessions)) (marks id x.queue)
    (x.parties id)
  told : ∀ id, follow false false (x.told id) = some (decide (id ∈ x.stream.sessions))
  nodup : x.stream.sessions.Nodup

/-- One session has changed, and something about it is queued. -/
theorem Inv.change (h : Inv protoId x) {id : SessionId} {p : Party}
    {more : List ServiceProtocolEvent}
    (hp : Linked protoId id (decide (id ∈ x.stream.sessions)) (marks id x.queue ++ marks id more) p)
    (hforeign : ∀ id', id' ≠ id → marks id' more = []) :
    Inv protoId { x with queue := x.queue ++ more, parties := Function.update x.parties id p } where
  linked := by
    intro id'
    rw [marks_append]
    dsimp only
    by_cases heq : id' = id
    · subst heq
      rw [Function.update_self]
      exact hp
    · rw [Function.update_of_ne heq, hforeign id' heq, List.append_nil]
      exact h.linked id'
  told := h.told
  nodup := h.nodup

theorem Inv.setParty (h : Inv protoId x) {id : SessionId} {p : Party}
    (hp : Linked protoId id (decide (id ∈ x.stream.sessions)) (marks id x.queue) p) :
    Inv protoId { x with parties := Function.update x.parties id p } := by
  have hnone : marks id x.queue ++ marks id [] = marks id x.queue := List.append_nil _
  rw [← hnone] at hp
  have hchange := h.change hp (fun _ _ => rfl)
  rwa [List.append_nil] at hchange

/-- **The property**, from the invariant. -/
theorem Inv.view (h : Inv protoId x) : x.View protoId := by
  intro id
  refine ⟨?_, isChain_of_follow (h.told id)⟩
  rintro ⟨hqueue, hspawned, hbuffers⟩
  have hlinked := h.linked id
  have hmarks : marks id x.queue = [] := by
    refine List.filterMap_eq_nil_iff.mpr (fun event hevent => ?_)
    have hne := hqueue event hevent
    cases event with
    | connected session version => exact if_neg hne
    | received session data => rfl
    | disconnected session => exact if_neg hne
  constructor
  · intro hmem
    by_contra hclosed
    have hnone : ∀ stream, (x.parties id).session.served protoId stream = none := by
      intro stream
      rw [Session.isOpen_iff, not_exists] at hclosed
      exact Option.not_isSome_iff_eq_none.mp (hclosed stream)
    have hidle := hlinked.idle hnone
    rw [hmarks, hspawned, decide_eq_true hmem] at hidle
    cases hidle
  · rintro ⟨stream, hkey, hsome⟩
    obtain ⟨buffer, hbuffer⟩ := Option.isSome_iff_exists.mp hsome
    have hempty := hbuffers stream hkey
    rw [hbuffer, Option.getD_some] at hempty
    have hserving := hlinked.serving stream buffer hbuffer
    rw [hmarks, hspawned, hempty] at hserving
    -- nothing is in between, so what the handler has is what the session has
    exact of_decide_eq_true (Option.some.inj hserving)

theorem connected_polled (s : Session) (task : Substream) (answers : Answers) :
    (polled s task answers).Connected := by
  intro room hroom
  obtain ⟨room', -, rfl⟩ := List.mem_map.mp hroom
  rfl

/-- What is queued, by what a poll has queued altogether. -/
theorem queues_of_direct {task t : Substream} {more : List ServiceProtocolEvent}
    (hproto : task.protoId = protoId) (h : t.direct = task.direct ++ more) :
    queues protoId task t = more := by
  rw [queues, if_pos hproto, h, List.drop_left]

theorem spawns_of_spawned {task t : Substream} {more : List (List ServiceProtocolEvent)}
    (hproto : task.protoId = protoId) (h : t.spawned = task.spawned ++ more) :
    spawns protoId task t = more := by
  rw [spawns, if_pos hproto, h, List.drop_left]

/-- A substream that does not serve the handler. -/
theorem inv_pollOther (h : Inv protoId x) {id : SessionId} {stream : StreamId} {task : Substream}
    (htask : (x.parties id).session.tasks.lookup stream = some task) (answers : Answers)
    (hother : task.protoId ≠ protoId ∨ task.serviceProtoSender = none) :
    Inv protoId (x.pollTask protoId id stream answers) := by
  have hserved : (x.parties id).session.served protoId stream = none := by
    rw [Session.served, htask, Option.bind_some]
    rcases hother with hne | hnone
    · exact if_neg hne
    · rw [hnone, ite_self]
  have hpolled : Session.ServedAt protoId stream _ _ _ := Session.servedAt_pollTask htask answers
  -- nothing that is queued matters, and nothing is spawned
  have htells : spawns protoId task (polled (x.parties id).session task answers).pollNext.1 = [] ∧
      (∀ id', marks id'
        (queues protoId task (polled (x.parties id).session task answers).pollNext.1) = []) ∧
      (task.protoId = protoId →
        (polled (x.parties id).session task answers).pollNext.1.serviceProtoSender = none) := by
    by_cases hproto : task.protoId = protoId
    · have hnone := hother.resolve_left (fun hne => hne hproto)
      have hsteady := Substream.steady_pollNext_of_none
        (t := polled (x.parties id).session task answers) hnone
      obtain ⟨more, hdirect, hmarks⟩ := hsteady.told (connected_polled _ _ _)
      refine ⟨spawns_of_spawned hproto (hsteady.spawned.trans (List.append_nil _).symm), ?_, ?_⟩
      · intro id'
        have hempty := hmarks id'
        rw [serviceProtoSender_polled, hnone] at hempty
        rw [queues_of_direct hproto hdirect]
        exact (List.append_eq_nil_iff.mp hempty).1
      · intro _
        have hsome := hsteady.served
        rw [serviceProtoSender_polled, hnone] at hsome
        exact Option.not_isSome_iff_eq_none.mp (by rw [hsome]; exact Bool.false_ne_true)
    · refine ⟨if_neg hproto, fun id' => ?_, fun heq => absurd heq hproto⟩
      rw [queues, if_neg hproto]
      rfl
  obtain ⟨hspawns, hqueues, hsender⟩ := htells
  have hkept : Session.Kept protoId (x.parties id).session
      ((x.parties id).session.pollTask stream answers.connected) := by
    refine Session.ServedAt.kept stream ?_
    rw [hserved]
    convert hpolled using 1
    split
    · rfl
    · split
      · next hproto => exact (hsender hproto).symm
      · rfl
  simp only [pollTask, htask]
  refine h.change ?_ (fun id' _ => hqueues id')
  rw [hqueues, List.append_nil, hspawns, List.append_nil]
  exact (h.linked id).kept hkept _

theorem inv_pollTask (h : Inv protoId x) (id : SessionId) (stream : StreamId) (answers : Answers)
    (hok : x.Timely protoId (.session id (.task stream answers))) :
    Inv protoId (x.pollTask protoId id stream answers) := by
  cases htask : (x.parties id).session.tasks.lookup stream with
  | none =>
    simp only [pollTask, htask]
    exact h
  | some task =>
    by_cases hother : task.protoId ≠ protoId ∨ task.serviceProtoSender = none
    · exact inv_pollOther h htask answers hother
    · obtain ⟨hproto, hsome⟩ := not_or.mp hother
      rw [not_not] at hproto
      obtain ⟨buffer, hbuffer⟩ := Option.ne_none_iff_exists'.mp hsome
      obtain ⟨horderly, hfirst⟩ := hok task htask hproto (by rw [hbuffer]; rfl)
      have hserved : (x.parties id).session.served protoId stream = some buffer := by
        rw [Session.served, htask, Option.bind_some, if_pos hproto, hbuffer]
      have hpolled : Session.ServedAt protoId stream _ _ _ :=
        Session.servedAt_pollTask htask answers
      have hlinked := h.linked id
      have hconnected := connected_polled (x.parties id).session task answers
      -- what is queued about other sessions is nothing
      have hforeign : ∀ more rest : List ServiceProtocolEvent,
          (∀ id', marks id' more ++ marks id' rest = marks id' buffer) →
          ∀ id', id' ≠ id → marks id' more = [] := by
        intro more rest hmarks id' hne
        have hnone := (hlinked.foreign id' hne).2 stream
        rw [hserved, Option.getD_some, ← hmarks id'] at hnone
        exact (List.append_eq_nil_iff.mp hnone).1
      simp only [pollTask, htask]
      rcases Substream.pollNext_steady_or_parting
        (t := polled (x.parties id).session task answers)
        (by rw [serviceProtoSender_polled, hbuffer]; rfl) horderly
        with ⟨hdone, hsteady⟩ | ⟨hdone, hparting⟩
      · -- the substream stays open, with what it could not send on
        obtain ⟨more, hdirect, hmarks⟩ := hsteady.told hconnected
        obtain ⟨buffer', hbuffer'⟩ := Option.isSome_iff_exists.mp
          (hsteady.served.trans (by rw [serviceProtoSender_polled, hbuffer]; rfl))
        have hspawns := spawns_of_spawned hproto (hsteady.spawned.trans (List.append_nil _).symm)
        rw [queues_of_direct hproto hdirect] at hfirst ⊢
        rw [hspawns] at hfirst ⊢
        rw [if_neg hdone, if_pos hproto, hbuffer'] at hpolled
        rw [hbuffer', serviceProtoSender_polled, hbuffer] at hmarks
        refine h.change ?_ (hforeign more buffer' hmarks)
        rw [List.append_nil]
        exact hlinked.steady hserved hpolled hmarks (fun hne => hfirst (.inl hne)) _
      · -- the substream ends, and a task of its own sends the rest
        obtain ⟨more, rest, hdirect, hspawned, hmarks⟩ := hparting.told hconnected
        have hown : (polled (x.parties id).session task answers).context.id = id := hlinked.own
        rw [hown] at hspawned
        rw [queues_of_direct hproto hdirect] at hfirst ⊢
        rw [spawns_of_spawned hproto hspawned] at hfirst ⊢
        rw [if_pos hdone] at hpolled
        rw [serviceProtoSender_polled, hbuffer] at hmarks
        have hnone := hfirst (.inr (List.cons_ne_nil _ _))
        refine h.change ?_ (hforeign more rest hmarks)
        rw [hnone]
        exact hlinked.parting hserved hpolled hmarks hnone _

theorem inv_handle (h : Inv protoId x) (later : Flags) (hok : x.Timely protoId (.handle later)) :
    Inv protoId (x.step protoId (.handle later)) := by
  obtain ⟨hsweep, hshutdown⟩ := hok
  simp only [step]
  split
  · exact h
  · next event queue hqueue =>
    have hmarks : ∀ id, marks id x.queue = (mark id event).toList ++ marks id queue := by
      intro id
      rw [hqueue]
      exact ServiceProtocolStream.marks_cons id event queue
    cases hrun : (x.flags.shutdown && !ServiceProtocolStream.isDisconnection event) with
    | true =>
      -- after a shutdown the event is dropped, and it is no connection
      obtain ⟨hstopped, hkind⟩ := Bool.and_eq_true_iff.mp hrun
      have hnone : ∀ id, mark id event = none := by
        have hconnects := hshutdown hstopped
        rw [hqueue, List.head?_cons, Option.any_some] at hconnects
        intro id
        cases event with
        | connected session version => cases hconnects
        | received session data => rfl
        | disconnected session => cases hkind
      have hsame : x.stream.handleEvent x.flags later event = (x.stream, []) := if_pos hrun
      rw [hsame]
      refine ⟨fun id => ?_, fun id => ?_, h.nodup⟩
      · have hlinked := h.linked id
        rw [hmarks, hnone] at hlinked
        exact hlinked
      · have htold := h.told id
        dsimp only [told] at htold ⊢
        rw [List.append_nil]
        exact htold
    | false =>
      have hturn := ServiceProtocolStream.handleEvent_turn h.nodup x.flags later hrun
      refine ⟨fun id => ?_, fun id => ?_, ?_⟩
      · dsimp only
        rw [(hturn id).1]
        refine (h.linked id).handle (hmarks id) ?_
        intro hmem hclosed
        exact hsweep id (of_decide_eq_true hmem) hclosed
      · obtain ⟨ms, o, hrow⟩ := (h.linked id).row
        rw [hmarks id, List.append_assoc] at hrow
        have hnext := follow_turns hrow (h.told id)
        dsimp only [told]
        rw [List.filterMap_append, (hturn id).1, (hturn id).2]
        exact hnext
      · exact ServiceProtocolStream.nodup_handleEvent h.nodup x.flags later event

theorem inv_step (h : Inv protoId x) (l : Label) (hok : x.Timely protoId l) :
    Inv protoId (x.step protoId l) := by
  cases l with
  | session id l =>
    have hother : (∀ answers, l ≠ .session answers) → (∀ stream answers, l ≠ .task stream answers) →
        Inv protoId (if outside l then x.setSession id ((x.parties id).session.step l) else x) := by
      intro hsession htask
      split
      · exact h.setParty ((h.linked id).kept (Session.kept_step l hsession htask) _)
      · exact h
    cases l with
    | task stream answers => exact inv_pollTask h id stream answers hok
    | session answers => exact h.setParty ((h.linked id).poll answers hok)
    | message target priority protoId data => exact hother nofun nofun
    | passOn => exact hother nofun nofun
    | command priority c => exact hother nofun nofun
    | unregister => exact hother nofun nofun
    | arrive event => exact hother nofun nofun
  | deliver id i =>
    simp only [step]
    split
    · exact h
    · refine h.setParty ((h.linked id).kept (Session.kept_step _ ?_ ?_) _) <;> nofun
  | forward id i =>
    simp only [step]
    split
    · next event rest hi =>
      obtain ⟨hlinked, hforeign⟩ := (h.linked id).forward hi
      exact h.change hlinked hforeign
    · exact h
  | handle later => exact inv_handle h later hok
  | shutdown => exact ⟨h.linked, h.told, h.nodup⟩

theorem inv_start (protoId : ProtocolId) (protocols : List ProtocolMeta)
    (beforeReceive : ProtocolId → Option (Bytes → Except IoError Bytes))
    (sendBufferSize sendEventSize recvEventSize : ℕ) (keepBuffer : Bool) :
    Inv protoId (start protocols beforeReceive sendBufferSize sendEventSize recvEventSize
      keepBuffer) where
  linked := by
    intro id
    have hnone : ∀ stream, ((start protocols beforeReceive sendBufferSize sendEventSize
        recvEventSize keepBuffer).parties id).session.served protoId stream = none := fun _ => rfl
    refine ⟨rfl, fun _ _ => rfl, ?_, Nat.zero_le _, fun _ _ => ⟨rfl, fun _ => rfl⟩,
      ?_, fun _ => rfl⟩
    · intro stream stream' hsome
      rw [hnone] at hsome
      cases hsome
    · intro stream buffer hbuffer
      rw [hnone] at hbuffer
      cases hbuffer
  told := fun _ => rfl
  nodup := List.nodup_nil

/-- **What the handler knows.**  On a timely schedule, in every state: once the events about a
session are processed, the handler has the session if and only if it has an open substream;
and it is told of connections and disconnections in turn. -/
theorem view_of_timely (protoId : ProtocolId) (protocols : List ProtocolMeta)
    (beforeReceive : ProtocolId → Option (Bytes → Except IoError Bytes))
    (sendBufferSize sendEventSize recvEventSize : ℕ) (keepBuffer : Bool) (labels : List Label)
    (hok : Guarded (step protoId) (Timely protoId) (start protocols beforeReceive sendBufferSize
      sendEventSize recvEventSize keepBuffer) labels) :
    Throughout (step protoId) (View protoId) (start protocols beforeReceive sendBufferSize
      sendEventSize recvEventSize keepBuffer) labels := by
  have hstart := inv_start protoId protocols beforeReceive sendBufferSize sendEventSize
    recvEventSize keepBuffer
  have hinv := throughout_of_guarded (P := Inv protoId) (fun x l h => inv_step h l) hstart hok
  exact hinv.mono fun x h => h.view

/-! ### A protocol that is opened again -/

/-- A system with one protocol, with a handler at service level. -/
def pingSystem : ProtocolSystem := start [.ping false] (fun _ => none) 1024 16 16 false

/-- The session is polled. -/
def pollSession : Label := .session 1 (.session ⟨[], [], [], true, false⟩)

/-- The protocol is negotiated, and the session opens it. -/
def openPing : List Label := [.session 1 (.arrive (.opened "/ping" "0.0.1")), pollSession]

/-- A substream is polled; its sink and its channels are ready, and it reads `frame`. -/
def pollPing (stream : StreamId) (frame : FrameAnswer) : Label :=
  .session 1 (.task stream
    { closed := [], ready := [], flush := [.done], service := [⟨9, false⟩], session := []
      event := [⟨9, false⟩], frame, proceed := true })

/-- The handler takes an event, and nothing else happens. -/
def handlePing : Label := .handle { shutdown := false, closed := fun _ => false }

/-- A substream is opened, the remote ends it, and the session hears that it has closed. -/
def openAndClose : List Label :=
  openPing ++ [pollPing 0 .pending, handlePing, pollPing 0 .ended, pollPing 0 .pending,
    .deliver 1 0, pollSession]

/-- The protocol is opened again before the task of the old substream has sent. -/
def reopened : List Label :=
  openAndClose ++ openPing ++ [pollPing 1 .pending, handlePing, .forward 1 0, handlePing]

/-- The protocol is opened again, and the task of the old substream sends first. -/
def reopenedInTime : List Label :=
  openAndClose ++ openPing ++ [.forward 1 0, pollPing 1 .pending, handlePing, handlePing]

/-- The handler is told of the second connection before the first disconnection, and does not
know the substream that is open. -/
theorem view_reopened :
    (runFrom (step 1) pingSystem reopened).told 1 = [true, true, false] ∧
      (runFrom (step 1) pingSystem reopened).Processed 1 1 ∧
      ((runFrom (step 1) pingSystem reopened).parties 1).session.IsOpen 1 ∧
      1 ∉ (runFrom (step 1) pingSystem reopened).stream.sessions ∧
      ¬ View 1 (runFrom (step 1) pingSystem reopened) := by
  have hrun : (runFrom (step 1) pingSystem reopened).told 1 = [true, true, false] ∧
      (runFrom (step 1) pingSystem reopened).Processed 1 1 ∧
      ((runFrom (step 1) pingSystem reopened).parties 1).session.IsOpen 1 ∧
      1 ∉ (runFrom (step 1) pingSystem reopened).stream.sessions := by
    decide +kernel
  obtain ⟨htold, hprocessed, hopen, hunknown⟩ := hrun
  refine ⟨htold, hprocessed, hopen, hunknown, ?_⟩
  intro hview
  exact hunknown (((hview 1).1 hprocessed).mpr hopen)

/-- In time, the handler knows it. -/
theorem view_reopenedInTime :
    1 ∈ (runFrom (step 1) pingSystem reopenedInTime).stream.sessions := by
  have hview : Throughout (step 1) (View 1) pingSystem reopenedInTime :=
    view_of_timely 1 [.ping false] (fun _ => none) 1024 16 16 false reopenedInTime
      (by decide +kernel)
  refine ((hview.last 1).1 ?_).mpr ?_ <;> decide +kernel

end ProtocolSystem

end Tentacle
end CkbP2P

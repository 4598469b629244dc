import Mathlib.Data.Set.Function
import CkbP2P.Lib.Entries
import CkbP2P.Lib.Run
import CkbP2P.Tentacle.SubstreamMoves

/-!
# One substream for each protocol

A session keeps two maps: from protocols to the ids of their substreams, and from ids to
the buffers before the substreams.  They are changed by events that arrive late: a protocol
has been agreed on, perhaps by both sides at once, or a substream says that it is closed,
perhaps twice, perhaps after its protocol was opened again.  Until the session is cleaned
up, the first map is a bijection onto the keys of the second.

What keeps it so is that ids are not used again, and that a substream which says that it is
closed gives its own id and its own protocol.  What the substreams have said so far is
recorded; of `Close`, only that can arrive, as often and as late as it will.
-/

namespace CkbP2P
namespace Tentacle

open Lib

/-- What a channel takes or leaves was in the buffer. -/
theorem mem_trySend {α : Type} (buffer : List α) (room : Room) (a : α) :
    (a ∈ (trySend buffer room).sent → a ∈ buffer) ∧
    (a ∈ (trySend buffer room).kept → a ∈ buffer) := by
  obtain ⟨slots, disconnected⟩ := room
  induction buffer generalizing slots with
  | nil => exact ⟨id, id⟩
  | cons event buffer ih =>
    cases slots with
    | zero => cases disconnected <;> simp [trySend]
    | succ slots =>
      obtain ⟨hsent, hkept⟩ := ih slots
      refine ⟨fun h => ?_, fun h => List.mem_cons_of_mem _ (hkept h)⟩
      rcases List.mem_cons.mp h with rfl | h
      · exact List.mem_cons_self
      · exact List.mem_cons_of_mem _ (hsent h)

namespace Substream

/-- The substream is number `i` and serves `p`, and that is what it says when it is closed. -/
structure Speaks (i : StreamId) (p : ProtocolId) (t : Substream) : Prop where
  id : t.id = i
  protoId : t.protoId = p
  waiting : ∀ i' p', .close i' p' ∈ t.eventSender → i' = i ∧ p' = p
  said : ∀ i' p', .close i' p' ∈ t.toSession → i' = i ∧ p' = p

variable {i : StreamId} {p : ProtocolId} {t : Substream}

theorem speaks_loadClosed (h : t.Speaks i p) : t.loadClosed.2.Speaks i p := by
  unfold loadClosed
  split
  · exact h
  · exact { h with }

theorem speaks_output (h : t.Speaks i p) : t.output.Speaks i p := by
  have hmem := mem_trySend t.eventSender (nextRoom t.answers.event)
  refine { h with waiting := fun i' p' hin => ?_, said := fun i' p' hin => ?_ }
  · exact h.waiting _ _ ((hmem _).2 hin)
  · rcases List.mem_append.mp hin with hin | hin
    · exact h.said _ _ hin
    · exact h.waiting _ _ ((hmem _).1 hin)

/-- No move says that the substream is closed. -/
theorem speaks_move {t' : Substream} (h : t.Speaks i p) (hmove : Move t t') :
    t'.Speaks i p := by
  cases hmove with
  | ask | die | receive | skip => exact { h with }
  | @hand priority | @take priority => cases priority <;> exact { h with }
  | report hdead e =>
    refine { h with waiting := fun i' p' hin => ?_ }
    rcases List.mem_append.mp hin with hin | hin
    · exact h.waiting _ _ hin
    · cases List.mem_singleton.mp hin
  | output => exact speaks_output h
  | distributeToService =>
    unfold distributeToService
    split
    · exact h
    · exact { h with }
  | distributeToHandle =>
    unfold distributeToHandle
    split
    · exact h
    · exact { h with }

theorem speaks_loss {t' : Substream} (h : t.Speaks i p) (hloss : Loss t t') :
    t'.Speaks i p := by
  cases hloss with
  | @lose priority => cases priority <;> exact { h with }
  | stop => exact { h with }

theorem speaks_closeProtoStream (h : t.Speaks i p) :
    t.closeProtoStream.Speaks i p := by
  have hstart : ∀ u : Substream, u.Speaks i p →
      (if u.keepBuffer then u else { u with eventSender := [] }).Speaks i p := by
    intro u hu
    split
    · exact hu
    · exact { hu with waiting := fun _ _ hin => absurd hin List.not_mem_nil }
  have hservice : ∀ u : Substream, u.Speaks i p → u.closeService.Speaks i p := by
    intro u hu
    unfold closeService
    split
    · exact hu
    · exact { hu with }
  have hhandle : ∀ u : Substream, u.Speaks i p → u.closeHandle.Speaks i p := by
    intro u hu
    unfold closeHandle
    split
    · exact hu
    · exact { speaks_loadClosed hu with }
  have hsession : ∀ u : Substream, u.Speaks i p → u.closeSession.Speaks i p := by
    intro u hu
    have hload := speaks_loadClosed hu
    unfold closeSession
    dsimp only
    split
    · exact speaks_output hload
    · refine { hload with
        waiting := fun _ _ hin => absurd hin List.not_mem_nil, said := fun i' p' hin => ?_ }
      rcases List.mem_append.mp hin with hin | hin
      · rcases List.mem_append.mp hin with hin | hin
        · exact hload.said _ _ hin
        · exact hload.waiting _ _ hin
      · cases List.mem_singleton.mp hin
        exact ⟨hload.id, hload.protoId⟩
  exact hsession _ (hhandle _ (hservice _ (hstart { t with
    eventReceiver := t.eventReceiver.close } { h with })))

/-- **A poll keeps to the id and the protocol of the substream.** -/
theorem speaks_poll (h : t.Speaks i p) (answers : Answers) :
    (t.poll answers).1.Speaks i p :=
  inv_pollNext (P := fun t => t.Speaks i p) speaks_move speaks_loss speaks_closeProtoStream
    (t := { t with answers }) { h with }

end Substream

namespace Session

variable {s t u : Session}

/-! ### What leaves the maps alone -/

/-- The maps have lost entries at most, and the substreams say what they said. -/
structure Shrinks (s t : Session) : Prop where
  substreams : ∀ id ∈ t.substreams, id ∈ s.substreams
  routes : ∀ protoId id, t.protoStreams.lookup protoId = some id →
    s.protoStreams.lookup protoId = some id
  nextStream : t.nextStream = s.nextStream
  tasks : ∀ id task, t.tasks.lookup id = some task → ∃ task', s.tasks.lookup id = some task' ∧
    ∀ protoId, task'.Speaks id protoId → task.Speaks id protoId
  protoEvents : ∀ event ∈ t.protoEvents, event ∈ s.protoEvents

/-- The maps are as before, unless the session is cleaned up. -/
structure KeepsMaps (s t : Session) : Prop extends Shrinks s t where
  still : t.protoEventsOpen = true → s.protoEventsOpen = true ∧
    (∀ id ∈ s.substreams, id ∈ t.substreams) ∧ t.protoStreams = s.protoStreams

theorem Shrinks.trans (h : Shrinks s t) (h' : Shrinks t u) : Shrinks s u where
  substreams id hid := h.substreams id (h'.substreams id hid)
  routes protoId id hid := h.routes protoId id (h'.routes protoId id hid)
  nextStream := h'.nextStream.trans h.nextStream
  tasks id task htask := by
    obtain ⟨task', htask', hspeaks'⟩ := h'.tasks id task htask
    obtain ⟨task'', htask'', hspeaks⟩ := h.tasks id task' htask'
    exact ⟨task'', htask'', fun protoId hs => hspeaks' protoId (hspeaks protoId hs)⟩
  protoEvents event he := h.protoEvents event (h'.protoEvents event he)

theorem Shrinks.refl (s : Session) : Shrinks s s where
  substreams _ hid := hid
  routes _ _ hid := hid
  nextStream := rfl
  tasks _ task htask := ⟨task, htask, fun _ hs => hs⟩
  protoEvents _ he := he

namespace KeepsMaps

theorem trans (h : KeepsMaps s t) (h' : KeepsMaps t u) : KeepsMaps s u where
  toShrinks := h.toShrinks.trans h'.toShrinks
  still hopen := by
    obtain ⟨hopen', hsub', hroutes'⟩ := h'.still hopen
    obtain ⟨hopen, hsub, hroutes⟩ := h.still hopen'
    exact ⟨hopen, fun id hid => hsub' id (hsub id hid), hroutes'.trans hroutes⟩

/-- Nothing of the maps has changed. -/
theorem of_eq (hsub : t.substreams = s.substreams) (hroutes : t.protoStreams = s.protoStreams)
    (hnext : t.nextStream = s.nextStream) (htasks : t.tasks = s.tasks)
    (hevents : ∀ event ∈ t.protoEvents, event ∈ s.protoEvents)
    (hopen : t.protoEventsOpen = s.protoEventsOpen) : KeepsMaps s t where
  substreams := by
    rw [hsub]
    exact fun _ hid => hid
  routes := by
    rw [hroutes]
    exact fun _ _ hid => hid
  nextStream := hnext
  tasks := by
    rw [htasks]
    exact fun _ task htask => ⟨task, htask, fun _ hs => hs⟩
  protoEvents := hevents
  still h := by
    rw [hsub, hroutes]
    exact ⟨hopen ▸ h, fun _ hid => hid, rfl⟩

theorem refl (s : Session) : KeepsMaps s s := of_eq rfl rfl rfl rfl (fun _ he => he) rfl

/-- The buffer of a substream that there is has changed, and what waits for its task. -/
theorem of_insert {id : StreamId} {buffer : PriorityBuffer ProtocolEvent} (hid : id ∈ s.substreams)
    (hsub : t.substreams = s.substreams.insert id buffer)
    (hroutes : t.protoStreams = s.protoStreams) (hnext : t.nextStream = s.nextStream)
    (htasks : ∀ id task, t.tasks.lookup id = some task → ∃ task', s.tasks.lookup id = some task' ∧
      ∀ protoId, task'.Speaks id protoId → task.Speaks id protoId)
    (hevents : t.protoEvents = s.protoEvents) (hopen : t.protoEventsOpen = s.protoEventsOpen) :
    KeepsMaps s t where
  substreams := by
    rw [hsub]
    intro id' hid'
    rcases (AList.mem_insert _).mp hid' with rfl | hid'
    · exact hid
    · exact hid'
  routes := by
    rw [hroutes]
    exact fun _ _ hid => hid
  nextStream := hnext
  tasks := htasks
  protoEvents := by
    rw [hevents]
    exact fun _ he => he
  still h := by
    rw [hsub, hroutes]
    exact ⟨hopen ▸ h, fun id' hid' => (AList.mem_insert _).mpr (.inr hid'), rfl⟩

end KeepsMaps

/-- The queue of a task is not what it says. -/
theorem speaks_insert {m : AList fun _ : StreamId => Substream} {id : StreamId}
    {task task' : Substream} (htask : m.lookup id = some task)
    (hspeaks : ∀ protoId, task.Speaks id protoId → task'.Speaks id protoId) :
    ∀ id' x, (m.insert id task').lookup id' = some x → ∃ x', m.lookup id' = some x' ∧
      ∀ protoId, x'.Speaks id' protoId → x.Speaks id' protoId := by
  intro id' x hx
  rcases lookup_insert_eq_some_iff.mp hx with ⟨rfl, rfl⟩ | ⟨-, hx⟩
  · exact ⟨task, htask, hspeaks⟩
  · exact ⟨x, hx, fun _ hs => hs⟩

theorem keepsMaps_output (s : Session) : KeepsMaps s s.output :=
  .of_eq rfl rfl rfl rfl (fun _ he => he) rfl

theorem keepsMaps_eventOutput (s : Session) (event : SessionEvent) :
    KeepsMaps s (s.eventOutput event) :=
  .of_eq rfl rfl rfl rfl (fun _ he => he) rfl

theorem keepsMaps_trySendTo (s : Session) (id : StreamId) : KeepsMaps s (s.trySendTo id).2 := by
  unfold trySendTo
  split
  · exact .refl s
  · next buffer hbuffer =>
    have hid := mem_of_lookup_eq_some hbuffer
    dsimp only
    split
    · exact .of_insert hid rfl rfl rfl (fun _ task htask => ⟨task, htask, fun _ hs => hs⟩) rfl rfl
    · next task htask =>
      exact .of_insert hid rfl rfl rfl (speaks_insert htask fun _ hs => { hs with }) rfl rfl

theorem keepsMaps_pushTo (s : Session) (id : StreamId) (priority : Priority)
    (event : ProtocolEvent) :
    KeepsMaps s (s.pushTo id priority event) := by
  unfold pushTo
  split
  · exact .refl s
  · next buffer hbuffer =>
    refine KeepsMaps.trans ?_ (keepsMaps_trySendTo _ id)
    exact .of_insert (mem_of_lookup_eq_some hbuffer) rfl rfl rfl
      (fun _ task htask => ⟨task, htask, fun _ hs => hs⟩) rfl rfl

theorem keepsMaps_clearBuffer (s : Session) (id : StreamId) : KeepsMaps s (s.clearBuffer id) := by
  unfold clearBuffer
  split
  · exact .refl s
  · next buffer hbuffer =>
    exact .of_insert (mem_of_lookup_eq_some hbuffer) rfl rfl rfl
      (fun _ task htask => ⟨task, htask, fun _ hs => hs⟩) rfl rfl

theorem keepsMaps_distributeLoop (ids : List StreamId) (s : Session) :
    KeepsMaps s (distributeLoop ids s) := by
  induction ids generalizing s with
  | nil => exact .refl s
  | cons id ids ih =>
    have hsend := keepsMaps_trySendTo s id
    unfold distributeLoop
    split
    · exact ih s
    · generalize s.trySendTo id = r at hsend ⊢
      obtain ⟨result, s'⟩ := r
      cases result with
      | pending =>
        dsimp only
        split
        · -- the session is killed as blocked
          have hkill : KeepsMaps s' { s' with state := .abnormal } :=
            .of_eq rfl rfl rfl rfl (fun _ he => he) rfl
          exact hsend.trans (hkill.trans
            ((keepsMaps_clearBuffer _ id).trans (keepsMaps_eventOutput _ _)))
        · exact hsend
      | ok => exact hsend.trans (ih s')
      | disconnect => exact hsend.trans (ih s')

theorem keepsMaps_flush (s : Session) : KeepsMaps s s.flush := by
  have hloop := keepsMaps_distributeLoop s.walk s
  unfold flush
  dsimp only
  split
  · exact hloop
  · exact hloop.trans (keepsMaps_output _)

/-- A substream that is dropped. -/
theorem shrinks_dropSubstream (s : Session) (id : StreamId) : Shrinks s (s.dropSubstream id) := by
  have hclear := (keepsMaps_clearBuffer s id).toShrinks
  refine hclear.trans ?_
  unfold dropSubstream
  refine ⟨fun id' hid' => (AList.mem_erase.mp hid').2, fun _ _ hid => hid, rfl, ?_, fun _ he => he⟩
  dsimp only
  split
  · exact fun _ task htask => ⟨task, htask, fun _ hs => hs⟩
  · next task htask => exact speaks_insert htask fun _ hs => { hs with }

theorem protoStreams_dropSubstream (s : Session) (id : StreamId) :
    (s.dropSubstream id).protoStreams = s.protoStreams ∧
      (s.dropSubstream id).protoEventsOpen = s.protoEventsOpen := by
  unfold dropSubstream clearBuffer
  cases s.substreams.lookup id <;> exact ⟨rfl, rfl⟩

theorem mem_dropSubstream (s : Session) (id id' : StreamId) :
    id' ∈ (s.dropSubstream id).substreams ↔ id' ≠ id ∧ id' ∈ s.substreams := by
  show id' ∈ (s.clearBuffer id).substreams.erase id ↔ _
  rw [AList.mem_erase]
  unfold clearBuffer
  cases s.substreams.lookup id with
  | none => rfl
  | some buffer =>
    dsimp only
    rw [AList.mem_insert]
    exact and_congr_right fun hne => or_iff_right hne

theorem keepsMaps_clean (s : Session) : KeepsMaps s s.clean := by
  have hdrop : ∀ (ids : List StreamId) (s : Session), Shrinks s (ids.foldl dropSubstream s) := by
    intro ids
    induction ids with
    | nil =>
      intro s
      exact .refl s
    | cons id ids ih =>
      intro s
      exact (shrinks_dropSubstream s id).trans (ih _)
  exact { hdrop s.substreams.keys s with still := fun h => by cases h }

theorem keepsMaps_closeSession (s : Session) : KeepsMaps s s.closeSession := by
  refine KeepsMaps.trans ?_ (keepsMaps_clean _)
  exact .of_eq rfl rfl rfl rfl (fun _ he => he) rfl

theorem keepsMaps_closeAllProto (s : Session) : KeepsMaps s s.closeAllProto := by
  have hclose : ∀ (ids : List StreamId) (s : Session),
      KeepsMaps s (ids.foldl (fun s id => s.pushTo id .high (.close id 0)) s) := by
    intro ids
    induction ids with
    | nil =>
      intro s
      exact .refl s
    | cons id ids ih =>
      intro s
      exact (keepsMaps_pushTo s id .high (.close id 0)).trans (ih _)
  unfold closeAllProto
  split
  · exact keepsMaps_closeSession s
  · exact (hclose s.walk s).trans (.of_eq rfl rfl rfl rfl (fun _ he => he) rfl)

theorem keepsMaps_handleCommand (s : Session) (c : Command) : KeepsMaps s (s.handleCommand c) := by
  have hsame : ∀ t : Session, t.substreams = s.substreams → t.protoStreams = s.protoStreams →
      t.nextStream = s.nextStream → t.tasks = s.tasks → t.protoEvents = s.protoEvents →
      t.protoEventsOpen = s.protoEventsOpen → KeepsMaps s t :=
    fun t h₁ h₂ h₃ h₄ h₅ h₆ => .of_eq h₁ h₂ h₃ h₄ (h₅ ▸ fun _ he => he) h₆
  cases c with
  | sessionClose =>
    simp only [handleCommand]
    split
    · exact keepsMaps_closeSession s
    · exact (hsame { s with state := .localClose } rfl rfl rfl rfl rfl rfl).trans
        (keepsMaps_closeAllProto _)
  | protocolOpen protoId =>
    simp only [handleCommand]
    split
    · exact .refl s
    · split
      · exact hsame _ rfl rfl rfl rfl rfl rfl
      · exact .refl s
  | protocolClose protoId =>
    simp only [handleCommand]
    split
    · exact keepsMaps_pushTo s _ .high _
    · exact .refl s
  | streamStart => exact .refl s
  | changeState state error =>
    simp only [handleCommand]
    split
    · cases error with
      | none => exact hsame _ rfl rfl rfl rfl rfl rfl
      | some e =>
        dsimp only
        split
        · exact hsame _ rfl rfl rfl rfl rfl rfl
        · exact hsame _ rfl rfl rfl rfl rfl rfl
    · exact .refl s

theorem keepsMaps_recvService (s : Session) : KeepsMaps s s.recvService.1 := by
  unfold recvService
  rcases hnext : s.serviceReceiver.next with ⟨r, receiver⟩
  have htake : KeepsMaps s { s with serviceReceiver := receiver } :=
    .of_eq rfl rfl rfl rfl (fun _ he => he) rfl
  cases r with
  | item priority input =>
    dsimp only
    split
    · refine htake.trans ?_
      cases input with
      | command c => exact keepsMaps_handleCommand _ c
      | protocolMessage protoId data =>
        simp only [handleSessionEvent, handleProtocolMessage]
        split
        · exact .of_eq rfl rfl rfl rfl (fun _ he => he) rfl
        · split
          · exact keepsMaps_pushTo _ _ _ _
          · exact .of_eq rfl rfl rfl rfl (fun _ he => he) rfl
    · cases input <;> exact .of_eq rfl rfl rfl rfl (fun _ he => he) rfl
  | ended =>
    refine KeepsMaps.trans ?_ (keepsMaps_clean _)
    exact .of_eq rfl rfl rfl rfl (fun _ he => he) rfl
  | pending => exact htake

theorem keepsMaps_conclude (s : Session) (isPending : Bool) :
    KeepsMaps s (s.conclude isPending).1 := by
  -- the routes are only emptied before the session is cleaned up
  have hclose : KeepsMaps s { s with protoStreams := ∅ }.closeSession := by
    have h := keepsMaps_closeSession { s with protoStreams := ∅ }
    refine { h with routes := fun protoId id hid => ?_, still := fun hopen => ?_ }
    · cases h.routes protoId id hid
    · cases hopen
  unfold conclude
  split
  · exact hclose
  · exact hclose
  · split
    · exact keepsMaps_closeSession s
    · exact keepsMaps_closeAllProto s
  · exact .refl s

theorem keepsMaps_drop (s : Session) : KeepsMaps s s.drop :=
  (keepsMaps_clean s).trans (.of_eq rfl rfl rfl rfl (fun _ he => he) rfl)

/-! ### The invariant -/

/-- The two maps fit together.  `words` is what the substreams have said so far: whoever
says that it is closed was opened for the protocol it names. -/
structure Paired (words : List ProtocolEvent) (s : Session) : Prop where
  substreams_lt : ∀ id ∈ s.substreams, id < s.nextStream
  routes_lt : ∀ protoId id, s.protoStreams.lookup protoId = some id → id < s.nextStream
  injective : ∀ protoId protoId' id, s.protoStreams.lookup protoId = some id →
    s.protoStreams.lookup protoId' = some id → protoId = protoId'
  tasks : ∀ id task, s.tasks.lookup id = some task → id < s.nextStream ∧
    ∃ protoId, task.Speaks id protoId ∧
      ∀ protoId', s.protoStreams.lookup protoId' = some id → protoId' = protoId
  said : ∀ id protoId, .close id protoId ∈ words → id < s.nextStream ∧
    ∀ protoId', s.protoStreams.lookup protoId' = some id → protoId' = protoId
  heard : ∀ id protoId, .close id protoId ∈ s.protoEvents → .close id protoId ∈ words
  onto : s.protoEventsOpen = true →
    (∀ protoId id, s.protoStreams.lookup protoId = some id → id ∈ s.substreams) ∧
      ∀ id ∈ s.substreams, ∃ protoId, s.protoStreams.lookup protoId = some id

namespace Paired

variable {words : List ProtocolEvent}

theorem keeps (h : Paired words s) (hkeeps : KeepsMaps s t) : Paired words t where
  substreams_lt id hid := hkeeps.nextStream ▸ h.substreams_lt id (hkeeps.substreams id hid)
  routes_lt protoId id hid := hkeeps.nextStream ▸ h.routes_lt protoId id (hkeeps.routes _ _ hid)
  injective protoId protoId' id hid hid' :=
    h.injective protoId protoId' id (hkeeps.routes _ _ hid) (hkeeps.routes _ _ hid')
  tasks id task htask := by
    obtain ⟨task', htask', hspeaks⟩ := hkeeps.tasks id task htask
    obtain ⟨hlt, protoId, hs, hroute⟩ := h.tasks id task' htask'
    exact ⟨hkeeps.nextStream ▸ hlt, protoId, hspeaks protoId hs,
      fun protoId' hid => hroute protoId' (hkeeps.routes _ _ hid)⟩
  said id protoId hsaid := by
    obtain ⟨hlt, hroute⟩ := h.said id protoId hsaid
    exact ⟨hkeeps.nextStream ▸ hlt, fun protoId' hid => hroute protoId' (hkeeps.routes _ _ hid)⟩
  heard id protoId hheard := h.heard id protoId (hkeeps.protoEvents _ hheard)
  onto hopen := by
    obtain ⟨hopen, hsub, hroutes⟩ := hkeeps.still hopen
    obtain ⟨hinto, honto⟩ := h.onto hopen
    rw [hroutes]
    exact ⟨fun protoId id hid => hsub id (hinto protoId id hid),
      fun id hid => honto id (hkeeps.substreams id hid)⟩

/-- **A protocol is opened** under an id that has not been in use. -/
theorem openProtocol (h : Paired words s) (name version : String) :
    Paired words (s.openProtocol name version) := by
  unfold Session.openProtocol
  split
  · exact h.keeps (.of_eq rfl rfl rfl rfl (fun _ he => he) rfl)
  · next proto _ =>
    split_ifs with hmem
    · exact h
    -- the routes of other protocols, and that of the new one
    have hroutes : ∀ protoId id, (s.protoStreams.insert proto.id s.nextStream).lookup protoId
        = some id → protoId = proto.id ∧ id = s.nextStream ∨
          protoId ≠ proto.id ∧ s.protoStreams.lookup protoId = some id :=
      fun _ _ => lookup_insert_eq_some_iff.mp
    refine ⟨fun id hid => ?_, fun protoId id hid => ?_, fun protoId protoId' id hid hid' => ?_,
      fun id task htask => ?_, fun id protoId hsaid => ?_, h.heard, fun hopen => ⟨?_, ?_⟩⟩
    · rcases (AList.mem_insert _).mp hid with rfl | hid
      · exact Nat.lt_succ_self _
      · exact Nat.lt_succ_of_lt (h.substreams_lt id hid)
    · rcases hroutes protoId id hid with ⟨-, rfl⟩ | ⟨-, hid⟩
      · exact Nat.lt_succ_self _
      · exact Nat.lt_succ_of_lt (h.routes_lt protoId id hid)
    · -- the new id is above every id that a route has
      rcases hroutes protoId id hid with ⟨rfl, rfl⟩ | ⟨-, hid⟩ <;>
        rcases hroutes protoId' _ hid' with ⟨rfl, hnew⟩ | ⟨-, hid'⟩
      · rfl
      · exact absurd (h.routes_lt _ _ hid') (lt_irrefl _)
      · exact absurd (hnew ▸ h.routes_lt _ _ hid) (lt_irrefl _)
      · exact h.injective protoId protoId' id hid hid'
    · rcases lookup_insert_eq_some_iff.mp htask with ⟨rfl, rfl⟩ | ⟨hn, htask⟩
      · refine ⟨Nat.lt_succ_self _, proto.id, ⟨rfl, rfl, ?_, ?_⟩, fun protoId' hid => ?_⟩
        · exact fun _ _ hin => absurd hin List.not_mem_nil
        · exact fun _ _ hin => absurd hin List.not_mem_nil
        · rcases hroutes protoId' _ hid with ⟨rfl, -⟩ | ⟨-, hid⟩
          · rfl
          · exact absurd (h.routes_lt _ _ hid) (lt_irrefl _)
      · obtain ⟨hlt, protoId, hs, hroute⟩ := h.tasks id task htask
        refine ⟨Nat.lt_succ_of_lt hlt, protoId, hs, fun protoId' hid => ?_⟩
        rcases hroutes protoId' id hid with ⟨-, hid⟩ | ⟨-, hid⟩
        · exact absurd hid hn
        · exact hroute protoId' hid
    · obtain ⟨hlt, hroute⟩ := h.said id protoId hsaid
      refine ⟨Nat.lt_succ_of_lt hlt, fun protoId' hid => ?_⟩
      rcases hroutes protoId' id hid with ⟨-, rfl⟩ | ⟨-, hid⟩
      · exact absurd hlt (lt_irrefl _)
      · exact hroute protoId' hid
    · intro protoId id hid
      rcases hroutes protoId id hid with ⟨-, rfl⟩ | ⟨-, hid⟩
      · exact (AList.mem_insert _).mpr (.inl rfl)
      · exact (AList.mem_insert _).mpr (.inr ((h.onto hopen).1 protoId id hid))
    · intro id hid
      rcases (AList.mem_insert _).mp hid with rfl | hid
      · exact ⟨proto.id, AList.lookup_insert _⟩
      · obtain ⟨protoId, hroute⟩ := (h.onto hopen).2 id hid
        refine ⟨protoId, ?_⟩
        have hne : protoId ≠ proto.id := by
          rintro rfl
          exact hmem (mem_of_lookup_eq_some hroute)
        rw [AList.lookup_insert_ne hne]
        exact hroute

/-- **A substream says that it is closed.**  If it is open, its protocol is the one that is
forgotten with it. -/
theorem close (h : Paired words s) {id : StreamId} {protoId : ProtocolId}
    (hsaid : .close id protoId ∈ words) :
    Paired words (s.handleStreamEvent (.close id protoId)) := by
  simp only [handleStreamEvent]
  split_ifs with hmem
  · have hdrop := shrinks_dropSubstream s id
    have hsub := s.mem_dropSubstream id
    obtain ⟨hstreams, hstill⟩ := s.protoStreams_dropSubstream id
    generalize s.dropSubstream id = t at hdrop hsub hstreams hstill ⊢
    rw [hstreams]
    have hroutes : ∀ protoId' id', (s.protoStreams.erase protoId).lookup protoId' = some id' →
        protoId' ≠ protoId ∧ s.protoStreams.lookup protoId' = some id' :=
      fun _ _ => lookup_erase_eq_some_iff.mp
    obtain ⟨-, hname⟩ := h.said id protoId hsaid
    refine ⟨fun id' hid' => ?_, fun protoId' id' hid => ?_, fun p p' id' hid hid' => ?_,
      fun id' task htask => ?_, fun id' p hsaid' => ?_, fun id' p hin => ?_, fun hopen => ⟨?_, ?_⟩⟩
    · exact hdrop.nextStream ▸ h.substreams_lt id' (hdrop.substreams id' hid')
    · exact hdrop.nextStream ▸ h.routes_lt protoId' id' (hroutes protoId' id' hid).2
    · exact h.injective p p' id' (hroutes p id' hid).2 (hroutes p' id' hid').2
    · obtain ⟨task', htask', hspeaks⟩ := hdrop.tasks id' task htask
      obtain ⟨hlt, p, hs, hroute⟩ := h.tasks id' task' htask'
      exact ⟨hdrop.nextStream ▸ hlt, p, hspeaks p hs,
        fun p' hid => hroute p' (hroutes p' id' hid).2⟩
    · obtain ⟨hlt, hroute⟩ := h.said id' p hsaid'
      exact ⟨hdrop.nextStream ▸ hlt, fun p' hid => hroute p' (hroutes p' id' hid).2⟩
    · exact h.heard id' p (hdrop.protoEvents _ hin)
    · intro p id' hid
      obtain ⟨hne, hid⟩ := hroutes p id' hid
      refine (hsub id').mpr ⟨?_, (h.onto (hstill ▸ hopen)).1 p id' hid⟩
      rintro rfl
      exact hne (hname p hid)
    · -- a substream that is left has a route, and it is not the one that is forgotten
      intro id' hid'
      obtain ⟨hne, hid'⟩ := (hsub id').mp hid'
      obtain ⟨p, hp⟩ := (h.onto (hstill ▸ hopen)).2 id' hid'
      obtain ⟨p₀, hp₀⟩ := (h.onto (hstill ▸ hopen)).2 id hmem
      refine ⟨p, ?_⟩
      have hne' : p ≠ protoId := by
        rintro rfl
        rw [← hname p₀ hp₀, hp₀] at hp
        exact hne (Option.some.inj hp).symm
      exact (AList.lookup_erase_ne hne').trans hp
  · exact h

theorem handleStreamEvent (h : Paired words s) {event : ProtocolEvent}
    (hsaid : ∀ id protoId, event = .close id protoId → event ∈ words) :
    Paired words (s.handleStreamEvent event) := by
  cases event with
  | opened name version => exact h.openProtocol name version
  | close id protoId => exact h.close (hsaid id protoId rfl)
  | message data => exact h
  | selectError name => exact h.keeps (keepsMaps_eventOutput s _)
  | error protoId e => exact h.keeps (keepsMaps_eventOutput s _)
  | timeoutCheck =>
    simp only [Session.handleStreamEvent]
    split
    · exact h.keeps (.of_eq rfl rfl rfl rfl (fun _ he => he) rfl)
    · exact h

theorem recvSubstreams (h : Paired words s) : Paired words s.recvSubstreams.1 := by
  unfold Session.recvSubstreams
  split
  · next event events hevents =>
    have htake : Paired words { s with protoEvents := events } := by
      refine h.keeps (.of_eq rfl rfl rfl rfl (fun e he => ?_) rfl)
      rw [hevents]
      exact List.mem_cons_of_mem _ he
    dsimp only
    split
    · exact htake
    · refine htake.handleStreamEvent ?_
      rintro id protoId rfl
      exact h.heard id protoId (hevents ▸ List.mem_cons_self)
  · split
    · exact h
    · exact h.keeps (.of_eq rfl rfl rfl rfl (fun _ he => he) rfl)

theorem poll (h : Paired words s) (answers : SessionAnswers) : Paired words (s.poll answers) := by
  have hnext : ∀ s : Session, Paired words s → Paired words s.pollNext.1 := by
    intro s h
    have hflush := h.keeps (keepsMaps_flush s)
    unfold pollNext
    split
    · exact h
    · dsimp only
      split
      · exact hflush
      · exact ((hflush.recvSubstreams).keeps (keepsMaps_recvService _)).keeps
          (keepsMaps_conclude _ _)
  have hstart : Paired words { s with answers } := { h with }
  unfold Session.poll
  split
  · exact h
  · have hdone := hnext _ hstart
    generalize { s with answers }.pollNext = r at hdone ⊢
    obtain ⟨s', polled⟩ := r
    cases polled with
    | done => exact hdone.keeps (keepsMaps_drop s')
    | pending => exact hdone
    | item => exact hdone

theorem handleMessage (h : Paired words s) (target : TargetSession) (priority : Priority)
    (protoId : ProtocolId) (data : Bytes) :
    Paired words (s.handleMessage target priority protoId data) := by
  unfold Session.handleMessage
  split
  · generalize target.copies s.context.id = n
    induction n with
    | zero => exact h
    | succ n ih =>
      rw [Function.iterate_succ_apply']
      exact { ih with }
  · exact h

theorem passOn (h : Paired words s) : Paired words s.passOn := by
  unfold Session.passOn
  split
  · exact h
  · dsimp only
    split <;> exact { h with }

end Paired

/-! ### What the substreams have said -/

/-- All a task has said to the session by the end of a poll. -/
def taskSays (s : Session) (id : StreamId) (answers : Answers) : List ProtocolEvent :=
  match s.tasks.lookup id with
  | none => []
  | some task => ({ task with context := s.context, discarded := [] }.poll answers).1.toSession

/-- A session, and what its substreams have said so far. -/
structure Overheard where
  session : Session
  words : List ProtocolEvent

namespace Overheard

/-- One step of the system. -/
def step (x : Overheard) (l : Label) : Overheard where
  session := x.session.step l
  words := match l with
    | .task id answers => x.words ++ x.session.taskSays id answers
    | _ => x.words

/-- A `Close` that arrives has been said by a substream. -/
def Genuine (x : Overheard) : Label → Prop
  | .arrive (.close id protoId) => .close id protoId ∈ x.words
  | _ => True

instance (x : Overheard) : ∀ l, Decidable (x.Genuine l)
  | .arrive (.close id protoId) => inferInstanceAs (Decidable (.close id protoId ∈ x.words))
  | .arrive (.opened _ _) | .arrive (.message _) | .arrive (.selectError _)
  | .arrive (.error _ _) | .arrive .timeoutCheck => inferInstanceAs (Decidable True)
  | .message .. | .passOn | .command .. | .unregister | .session _ | .task .. =>
    inferInstanceAs (Decidable True)

end Overheard

/-- A task is polled: what it says names itself. -/
theorem Paired.pollTask {words : List ProtocolEvent} (h : Paired words s) (id : StreamId)
    (answers : Answers) :
    Paired (words ++ s.taskSays id answers) (s.pollTask id answers) := by
  unfold taskSays Session.pollTask
  cases htask : s.tasks.lookup id with
  | none =>
    rw [List.append_nil]
    exact h
  | some task =>
    obtain ⟨hlt, protoId, hspeaks, hroute⟩ := h.tasks id task htask
    have hpolled : ({ task with context := s.context, discarded := [] }.poll answers).1.Speaks id
        protoId := Substream.speaks_poll (t := { task with context := s.context, discarded := [] })
          { hspeaks with } answers
    dsimp only
    generalize { task with context := s.context, discarded := [] }.poll answers = r at hpolled ⊢
    obtain ⟨task', polled⟩ := r
    dsimp only at hpolled ⊢
    have hsaid : ∀ id' p, ProtocolEvent.close id' p ∈ words ++ task'.toSession →
        id' < s.nextStream ∧ ∀ p', s.protoStreams.lookup p' = some id' → p' = p := by
      intro id' p hin
      rcases List.mem_append.mp hin with hin | hin
      · exact h.said id' p hin
      · obtain ⟨rfl, rfl⟩ := hpolled.said id' p hin
        exact ⟨hlt, hroute⟩
    have hheard : ∀ id' p, ProtocolEvent.close id' p ∈ s.protoEvents →
        ProtocolEvent.close id' p ∈ words ++ task'.toSession :=
      fun id' p hin => List.mem_append_left _ (h.heard id' p hin)
    have hinsert : Paired (words ++ task'.toSession) { s with
        context := task'.context
        discarded := s.discarded ++ task'.discarded
        tasks := s.tasks.insert id { task' with discarded := [] } } := by
      refine { h with tasks := fun id' x hx => ?_, said := hsaid, heard := hheard }
      rcases lookup_insert_eq_some_iff.mp hx with ⟨rfl, rfl⟩ | ⟨-, hx⟩
      · exact ⟨hlt, protoId, { hpolled with }, hroute⟩
      · exact h.tasks id' x hx
    cases polled with
    | done =>
      refine { h with tasks := fun id' x hx => ?_, said := hsaid, heard := hheard }
      exact h.tasks id' x (lookup_erase_eq_some_iff.mp hx).2
    | pending => exact hinsert
    | item => exact hinsert

/-- **Every step keeps the maps paired**, when only genuine `Close`s arrive. -/
theorem Paired.step {x : Overheard} (h : Paired x.words x.session) {l : Label}
    (hl : x.Genuine l) : Paired (x.step l).words (x.step l).session := by
  cases l with
  | message target priority protoId data => exact h.handleMessage target priority protoId data
  | passOn => exact h.passOn
  | command priority c =>
    show Paired x.words (if x.session.serviceReceiver.isOpen then _ else _)
    split <;> exact { h with }
  | unregister => exact { h with }
  | session answers => exact h.poll answers
  | task id answers => exact h.pollTask id answers
  | arrive event =>
    show Paired x.words (if x.session.protoEventsOpen then _ else _)
    split
    · refine { h with heard := fun id protoId hin => ?_ }
      rcases List.mem_append.mp hin with hin | hin
      · exact h.heard id protoId hin
      · cases List.mem_singleton.mp hin
        exact hl
    · exact h

theorem paired_new (id : SessionId) (protocols : List ProtocolMeta)
    (beforeReceive : ProtocolId → Option (Bytes → Except IoError Bytes))
    (sendBufferSize sendEventSize recvEventSize : ℕ) (keepBuffer : Bool) :
    Paired [] (new id protocols beforeReceive sendBufferSize sendEventSize recvEventSize
      keepBuffer) where
  substreams_lt _ hid := absurd hid (AList.notMem_empty _)
  routes_lt _ _ hid := by cases hid
  injective _ _ _ hid := by cases hid
  tasks _ _ htask := by cases htask
  said _ _ hin := absurd hin List.not_mem_nil
  heard _ _ hin := absurd hin List.not_mem_nil
  onto _ := ⟨fun _ _ hid => (by cases hid), fun _ hid => absurd hid (AList.notMem_empty _)⟩

/-- **One substream for each protocol.**  As long as a session has not been cleaned up, its
routes are a bijection between the protocols that are open and its substreams, whatever is
agreed on, by whom and how often, and however often and late the substreams' `Close`s
arrive.  A `Close` of a substream that is not open changes neither map. -/
theorem one_substream_per_protocol (id : SessionId) (protocols : List ProtocolMeta)
    (beforeReceive : ProtocolId → Option (Bytes → Except IoError Bytes))
    (sendBufferSize sendEventSize recvEventSize : ℕ) (keepBuffer : Bool) (ls : List Label)
    (hgenuine : Guarded Overheard.step Overheard.Genuine ⟨new id protocols beforeReceive
      sendBufferSize sendEventSize recvEventSize keepBuffer, []⟩ ls) :
    let s := (runFrom Overheard.step ⟨new id protocols beforeReceive sendBufferSize sendEventSize
      recvEventSize keepBuffer, []⟩ ls).session
    (s.protoEventsOpen = true → Set.BijOn (fun protoId => s.protoStreams.lookup protoId)
        {protoId | protoId ∈ s.protoStreams} (some '' {id | id ∈ s.substreams})) ∧
      ∀ id protoId, id ∉ s.substreams →
        (s.handleStreamEvent (.close id protoId)).protoStreams = s.protoStreams ∧
          (s.handleStreamEvent (.close id protoId)).substreams = s.substreams := by
  intro s
  have h : Paired _ s := (throughout_of_guarded (P := fun x => Paired x.words x.session)
    (fun _ _ h hl => h.step hl) (paired_new id protocols beforeReceive sendBufferSize sendEventSize
      recvEventSize keepBuffer) hgenuine).last
  refine ⟨fun hopen => ?_, fun id protoId hid => ?_⟩
  · obtain ⟨hinto, honto⟩ := h.onto hopen
    refine ⟨fun protoId hmem => ?_, fun p hp p' hp' heq => ?_, ?_⟩
    · obtain ⟨id, hid⟩ := Option.isSome_iff_exists.mp (AList.lookup_isSome.mpr hmem)
      exact ⟨id, hinto protoId id hid, hid.symm⟩
    · obtain ⟨id, hid⟩ := Option.isSome_iff_exists.mp (AList.lookup_isSome.mpr hp)
      exact h.injective p p' id hid (heq.symm.trans hid)
    · rintro - ⟨id, hid, rfl⟩
      obtain ⟨protoId, hroute⟩ := honto id hid
      exact ⟨protoId, mem_of_lookup_eq_some hroute, hroute⟩
  · simp only [handleStreamEvent, if_neg hid, and_self]

/-- A protocol is opened and closed, with its `Close` arriving three times, the last time
when the protocol has been opened again. -/
def reopenedRun : List Label :=
  let session : Label := .session ⟨[], [], [], true, false⟩
  let task : Label := .task 0 ⟨[], [], [.done], [], [], [], .ended, true⟩
  let opened : Label := .arrive (.opened "/ping" "0.1.0")
  let close : Label := .arrive (.close 0 1)
  [opened, session, task, task, close, close, session, session, opened, session, close, session]

theorem one_substream_per_protocol_reopened :
    let s := (runFrom Overheard.step ⟨new 1 [.ping false] (fun _ => none) 1024 16 16 false, []⟩
      reopenedRun).session
    s.protoEventsOpen = true ∧ s.protoStreams.lookup 1 = some 1 ∧
      Set.BijOn (fun protoId => s.protoStreams.lookup protoId)
        {protoId | protoId ∈ s.protoStreams} (some '' {id | id ∈ s.substreams}) := by
  have hopen : (runFrom Overheard.step ⟨new 1 [.ping false] (fun _ => none) 1024 16 16 false, []⟩
      reopenedRun).session.protoEventsOpen = true := by decide +kernel
  refine ⟨hopen, by decide +kernel, ?_⟩
  exact (one_substream_per_protocol 1 [.ping false] (fun _ => none) 1024 16 16 false reopenedRun
    (by decide +kernel)).1 hopen

end Session

end Tentacle
end CkbP2P

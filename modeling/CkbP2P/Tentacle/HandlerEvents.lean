import CkbP2P.Tentacle.SubstreamMoves

/-!
# What a substream tells a handler

A substream tells the handler of its protocol that it is connected, what it receives, and
that it is disconnected.  The first two kinds of events pass through a buffer; when the
substream closes, what is left in the buffer goes to a task of its own, and the disconnection
last.  Here a poll is looked at for the connections and disconnections it lets go of: those
in the buffer before are queued, left to a task, or still in the buffer, in this order.
-/

namespace CkbP2P
namespace Tentacle

open Lib

/-- Whether an event connects or disconnects a session. -/
def mark (id : SessionId) : ServiceProtocolEvent → Option Bool
  | .connected session _ => if session = id then some true else none
  | .disconnected session => if session = id then some false else none
  | .received _ _ => none

/-- The connections and disconnections of a session. -/
def marks (id : SessionId) (events : List ServiceProtocolEvent) : List Bool :=
  events.filterMap (mark id)

theorem marks_append (id : SessionId) (events events' : List ServiceProtocolEvent) :
    marks id (events ++ events') = marks id events ++ marks id events' :=
  List.filterMap_append ..

namespace Substream

variable {t t' t'' : Substream}

/-- The handler is there, as far as the answers are concerned. -/
def Connected (t : Substream) : Prop :=
  ∀ room ∈ t.answers.service, room.disconnected = false

/-- What concerns the handler is left alone. -/
structure Same (t t' : Substream) : Prop where
  protoId : t'.protoId = t.protoId
  id : t'.context.id = t.context.id
  closed : t.context.closed = true → t'.context.closed = true
  sender : t'.serviceProtoSender = t.serviceProtoSender
  direct : t'.direct = t.direct
  spawned : t'.spawned = t.spawned
  rooms : t'.answers.service = t.answers.service

theorem Same.refl (t : Substream) : Same t t := ⟨rfl, rfl, fun h => h, rfl, rfl, rfl, rfl⟩

theorem Same.trans (h : Same t t') (h' : Same t' t'') : Same t t'' where
  protoId := h'.protoId.trans h.protoId
  id := h'.id.trans h.id
  closed := fun hclosed => h'.closed (h.closed hclosed)
  sender := h'.sender.trans h.sender
  direct := h'.direct.trans h.direct
  spawned := h'.spawned.trans h.spawned
  rooms := h'.rooms.trans h.rooms

/-- What concerns a handler, on the way from one state of a substream to another. -/
structure Frame (t t' : Substream) : Prop where
  protoId : t'.protoId = t.protoId
  id : t'.context.id = t.context.id
  closed : t.context.closed = true → t'.context.closed = true
  served : t'.serviceProtoSender.isSome = t.serviceProtoSender.isSome
  rooms : ∀ room ∈ t'.answers.service, room ∈ t.answers.service

/-- The substream has not closed: what was in the buffer is queued, or still there. -/
structure Steady (t t' : Substream) : Prop extends Frame t t' where
  spawned : t'.spawned = t.spawned
  told : t.Connected → ∃ more, t'.direct = t.direct ++ more ∧
    ∀ id, marks id more ++ marks id (t'.serviceProtoSender.getD [])
      = marks id (t.serviceProtoSender.getD [])

/-- The substream has closed: what was in the buffer is queued, or left to a task, with a
disconnection at the end. -/
structure Parting (t t' : Substream) : Prop extends Frame t t' where
  told : t.Connected → ∃ more rest, t'.direct = t.direct ++ more ∧
    t'.spawned = t.spawned ++ [rest ++ [.disconnected t.context.id]] ∧
    ∀ id, marks id more ++ marks id rest = marks id (t.serviceProtoSender.getD [])

theorem Frame.connected (h : Frame t t') (hc : t.Connected) : t'.Connected :=
  fun room hroom => hc room (h.rooms room hroom)

theorem Frame.trans (h : Frame t t') (h' : Frame t' t'') : Frame t t'' where
  protoId := h'.protoId.trans h.protoId
  id := h'.id.trans h.id
  closed := fun hclosed => h'.closed (h.closed hclosed)
  served := h'.served.trans h.served
  rooms := fun room hroom => h.rooms room (h'.rooms room hroom)

theorem Same.frame (h : Same t t') : Frame t t' where
  protoId := h.protoId
  id := h.id
  closed := h.closed
  served := by rw [h.sender]
  rooms := by
    rw [h.rooms]
    exact fun _ hroom => hroom

theorem Same.steady (h : Same t t') : Steady t t' where
  toFrame := h.frame
  spawned := h.spawned
  told := by
    intro _
    refine ⟨[], by rw [h.direct, List.append_nil], fun id => ?_⟩
    rw [h.sender]
    rfl

theorem Steady.trans (h : Steady t t') (h' : Steady t' t'') : Steady t t'' where
  toFrame := h.toFrame.trans h'.toFrame
  spawned := h'.spawned.trans h.spawned
  told := by
    intro hc
    obtain ⟨more, hdirect, hmarks⟩ := h.told hc
    obtain ⟨more', hdirect', hmarks'⟩ := h'.told (h.connected hc)
    refine ⟨more ++ more', by rw [hdirect', hdirect, List.append_assoc], fun id => ?_⟩
    rw [marks_append, List.append_assoc, hmarks', hmarks]

theorem Steady.parting (h : Steady t t') (h' : Parting t' t'') : Parting t t'' where
  toFrame := h.toFrame.trans h'.toFrame
  told := by
    intro hc
    obtain ⟨more, hdirect, hmarks⟩ := h.told hc
    obtain ⟨more', rest, hdirect', hspawned, hmarks'⟩ := h'.told (h.connected hc)
    refine ⟨more ++ more', rest, ?_, ?_, fun id => ?_⟩
    · rw [hdirect', hdirect, List.append_assoc]
    · rw [hspawned, h.spawned, h.id]
    · rw [marks_append, List.append_assoc, hmarks', hmarks]

theorem Parting.same (h : Parting t t') (h' : Same t' t'') : Parting t t'' where
  toFrame := h.toFrame.trans h'.frame
  told := by
    intro hc
    obtain ⟨more, rest, hdirect, hspawned, hmarks⟩ := h.told hc
    exact ⟨more, rest, h'.direct.trans hdirect, h'.spawned.trans hspawned, hmarks⟩

/-! ### What does not concern the handler -/

theorem same_loadClosed (t : Substream) : Same t t.loadClosed.2 := by
  unfold loadClosed
  split
  · exact .refl t
  · refine ⟨rfl, rfl, fun hclosed => ?_, rfl, rfl, rfl, rfl⟩
    exact Bool.or_eq_true_iff.mpr (.inl hclosed)

theorem same_output (t : Substream) : Same t t.output :=
  ⟨rfl, rfl, fun h => h, rfl, rfl, rfl, rfl⟩

theorem same_distributeToHandle (t : Substream) : Same t t.distributeToHandle := by
  unfold distributeToHandle
  split <;> exact ⟨rfl, rfl, fun h => h, rfl, rfl, rfl, rfl⟩

theorem same_closeHandle (t : Substream) : Same t t.closeHandle := by
  have hload := same_loadClosed t
  unfold closeHandle
  split
  · exact .refl t
  · exact hload.trans ⟨rfl, rfl, fun h => h, rfl, rfl, rfl, rfl⟩

theorem same_closeSession (t : Substream) : Same t t.closeSession := by
  have hload := same_loadClosed t
  unfold closeSession
  dsimp only
  split
  · exact hload.trans (same_output _)
  · exact hload.trans ⟨rfl, rfl, fun h => h, rfl, rfl, rfl, rfl⟩

/-! ### What tells the handler -/

/-- What is sent comes before what is kept. -/
theorem steady_distributeToService (t : Substream) : Steady t t.distributeToService := by
  unfold distributeToService
  split
  · exact (Same.refl t).steady
  · next buffer hbuffer =>
    refine ⟨⟨rfl, rfl, fun h => h, by rw [hbuffer]; rfl, fun _ => List.mem_of_mem_tail⟩, rfl, ?_⟩
    intro hc
    refine ⟨(trySend buffer (nextRoom t.answers.service)).sent, rfl, fun id => ?_⟩
    have hroom : (nextRoom t.answers.service).disconnected = false := by
      unfold Connected at hc
      cases hrooms : t.answers.service with
      | nil => rfl
      | cons room rooms =>
        rw [hrooms] at hc
        exact hc room List.mem_cons_self
    rw [hbuffer, Option.getD_some, Option.getD_some, ← marks_append]
    generalize nextRoom t.answers.service = room at hroom
    obtain ⟨slots, disconnected⟩ := room
    cases hroom
    rw [(trySend_connected buffer slots).1]

/-- A frame that is received is no mark. -/
theorem steady_receive (t : Substream) (data : Bytes) : Steady t { t with
    sessionProtoSender := t.sessionProtoSender.map (· ++ [SessionProtocolEvent.received data])
    serviceProtoSender :=
      t.serviceProtoSender.map (· ++ [ServiceProtocolEvent.received t.context.id data]) } := by
  refine ⟨⟨rfl, rfl, fun h => h, Option.isSome_map .., fun _ h => h⟩, rfl, fun _ => ⟨[], ?_, ?_⟩⟩
  · exact (List.append_nil _).symm
  · intro id
    cases hsender : t.serviceProtoSender with
    | none => rfl
    | some buffer =>
      simp only [Option.map_some, Option.getD_some, marks_append]
      exact List.append_nil _

theorem steady_move (hmove : Move t t') : Steady t t' := by
  cases hmove with
  | ask hclosed hrooms _ => exact Same.steady ⟨rfl, rfl, hclosed, rfl, rfl, rfl, hrooms⟩
  | @hand priority frame frames hbuf =>
    cases priority <;> exact Same.steady ⟨rfl, rfl, fun h => h, rfl, rfl, rfl, rfl⟩
  | die => exact Same.steady ⟨rfl, rfl, fun h => h, rfl, rfl, rfl, rfl⟩
  | report hdead e => exact Same.steady ⟨rfl, rfl, fun h => h, rfl, rfl, rfl, rfl⟩
  | output => exact (same_output t).steady
  | distributeToService => exact steady_distributeToService t
  | distributeToHandle => exact (same_distributeToHandle t).steady
  | receive data => exact steady_receive t data
  | @take priority data receiver hnext =>
    cases priority <;> exact Same.steady ⟨rfl, rfl, fun h => h, rfl, rfl, rfl, rfl⟩
  | skip => exact Same.steady ⟨rfl, rfl, fun h => h, rfl, rfl, rfl, rfl⟩

theorem steady_loss (hloss : Loss t t') : Steady t t' := by
  cases hloss with
  | @lose priority frame frames hbuf =>
    cases priority <;> exact Same.steady ⟨rfl, rfl, fun h => h, rfl, rfl, rfl, rfl⟩
  | stop => exact Same.steady ⟨rfl, rfl, fun h => h, rfl, rfl, rfl, rfl⟩

/-- **Moves close nothing**: what a run of them has told was in the buffer. -/
theorem steady_run {lost : Bool} (hrun : Run t lost t') : Steady t t' := by
  refine hrun.inv (P := Steady t) ?_ ?_ (Same.refl t).steady
  · intro t₁ t₂ h hmove
    exact h.trans (steady_move hmove)
  · intro t₁ t₂ h hloss
    exact h.trans (steady_loss hloss)

/-! ### Closing -/

theorem same_closeStart (t : Substream) :
    Same t (if { t with eventReceiver := t.eventReceiver.close }.keepBuffer then
      { t with eventReceiver := t.eventReceiver.close }
    else { t with eventReceiver := t.eventReceiver.close, eventSender := [] }) := by
  split <;> exact ⟨rfl, rfl, fun h => h, rfl, rfl, rfl, rfl⟩

theorem same_closeProtoStream (h : t.serviceProtoSender = none) : Same t t.closeProtoStream := by
  have hservice : ∀ t : Substream, t.serviceProtoSender = none → t.closeService = t := by
    intro t hnone
    rw [closeService, hnone]
  have hstart := same_closeStart t
  unfold closeProtoStream
  dsimp only at hstart ⊢
  rw [hservice _ (hstart.sender.trans h)]
  exact hstart.trans ((same_closeHandle _).trans (same_closeSession _))

theorem parting_closeProtoStream (h : t.serviceProtoSender.isSome = true) :
    Parting t t.closeProtoStream := by
  have hservice : ∀ t : Substream, t.serviceProtoSender.isSome = true →
      Parting t t.closeService := by
    intro t hsome
    obtain ⟨events, hevents⟩ := Option.isSome_iff_exists.mp hsome
    unfold closeService
    rw [hevents]
    refine ⟨⟨rfl, rfl, fun h => h, by rw [hevents]; rfl, fun _ h => h⟩, fun _ => ?_⟩
    refine ⟨[], events, (List.append_nil _).symm, rfl, fun id => ?_⟩
    rw [hevents]
    rfl
  have hstart := same_closeStart t
  have hclosed := hservice _ (by rw [hstart.sender]; exact h)
  exact ((hstart.steady.parting hclosed).same (same_closeHandle _)).same (same_closeSession _)

theorem frame_closeProtoStream (t : Substream) : Frame t t.closeProtoStream := by
  cases hsender : t.serviceProtoSender with
  | none => exact (same_closeProtoStream hsender).frame
  | some buffer => exact (parting_closeProtoStream (by rw [hsender]; rfl)).toFrame

/-! ### Polls -/

/-- What holds of every poll. -/
theorem frame_pollNext (t : Substream) : Frame t t.pollNext.1 := by
  refine inv_pollNext (P := Frame t) ?_ ?_ ?_ (Same.refl t).frame
  · intro t₁ t₂ h hmove
    exact h.trans (steady_move hmove).toFrame
  · intro t₁ t₂ h hloss
    exact h.trans (steady_loss hloss).toFrame
  · intro t₁ h
    exact h.trans (frame_closeProtoStream t₁)

/-- **Without a handler**, a poll tells nothing. -/
theorem steady_pollNext_of_none (h : t.serviceProtoSender = none) : Steady t t.pollNext.1 := by
  obtain ⟨lost, t₁, hrun, hcases⟩ := pollNext_cases t
  have hmoved := steady_run hrun
  have hnone : t₁.serviceProtoSender = none := by
    rw [← Option.isNone_iff_eq_none, ← Option.not_isSome, hmoved.served, h]
    rfl
  have hclosed := hmoved.trans (same_closeProtoStream hnone).steady
  rcases hcases with ⟨-, -, heq⟩ | ⟨-, -, heq, -⟩ | ⟨-, -, heq⟩ | ⟨-, -, heq, -⟩
  · rwa [heq]
  · rwa [heq]
  · rwa [heq]
  · rwa [heq]

/-- **An orderly poll** closes with its end, or does not close. -/
theorem pollNext_steady_or_parting (h : t.serviceProtoSender.isSome = true)
    (hok : t.orderly = true) :
    (t.pollNext.2 ≠ .done ∧ Steady t t.pollNext.1) ∨
      (t.pollNext.2 = .done ∧ Parting t t.pollNext.1) := by
  obtain ⟨lost, t₁, hrun, hcases⟩ := pollNext_cases t
  have hmoved := steady_run hrun
  rcases hcases with ⟨-, hdone, heq⟩ | ⟨-, hdone, heq, -⟩ | ⟨hbad, -⟩ | ⟨hbad, -⟩
  · rw [heq]
    exact .inl ⟨hdone, hmoved⟩
  · rw [heq]
    exact .inr ⟨hdone, hmoved.parting (parting_closeProtoStream (hmoved.served.trans h))⟩
  · rw [hok] at hbad
    cases hbad
  · rw [hok] at hbad
    cases hbad

end Substream

end Tentacle
end CkbP2P

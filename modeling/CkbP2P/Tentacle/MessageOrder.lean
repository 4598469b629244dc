import CkbP2P.Lib.Entries
import CkbP2P.Lib.Run
import CkbP2P.Tentacle.SessionMoves
import CkbP2P.Tentacle.WriteOrder

/-!
# The order of outbound messages

A message passes from the service to the session, from there to the buffer before a
substream, to the channel of its task, and through the task to the codec.  At each stage it
can be held up or put back.  What counts is the order among the messages of one priority.

A message can also be lost: when the channel has been closed, when the session is killed,
when a sink fails.  Then nothing that was routed to the substream later may reach the codec.

To speak of what has been sent, routed and handed over, a session is kept together with a
history.  The polls of the tasks are atomic: a channel whose receiver is open is not found
disconnected in the middle of a poll.
-/

namespace CkbP2P
namespace Tentacle

open Lib

/-! ### Histories -/

/-- What has happened to the messages of a session. -/
structure History where
  /-- What the service has been given to send. -/
  sent : List (Priority × ProtocolId × Bytes)
  /-- The substreams that were opened, with their protocols. -/
  opened : List (StreamId × ProtocolId)
  /-- What the session has put into the buffers of substreams. -/
  routed : List Session.Routed
  /-- What the substreams have handed to their codecs. -/
  handed : List (StreamId × Priority × Bytes)

namespace History

/-- What has been sent to a protocol with a priority. -/
def sentFor (h : History) (protoId : ProtocolId) (p : Priority) : List Bytes :=
  (h.sent.filter fun m => m.1 = p ∧ m.2.1 = protoId).map fun m => m.2.2

/-- What has been routed for a protocol with a priority. -/
def routedFor (h : History) (protoId : ProtocolId) (p : Priority) : List Bytes :=
  (h.routed.filter fun m => m.protoId = protoId ∧ m.priority = p).map Session.Routed.data

/-- What has been routed to a substream with a priority. -/
def routedTo (h : History) (id : StreamId) (p : Priority) : List Bytes :=
  (h.routed.filter fun m => m.id = id ∧ m.priority = p).map Session.Routed.data

/-- What a substream has handed over. -/
def handedBy (h : History) (id : StreamId) : List (Priority × Bytes) :=
  (h.handed.filter fun m => m.1 = id).map Prod.snd

/-- What a substream has handed over with a priority. -/
def handedAt (h : History) (id : StreamId) (p : Priority) : List Bytes :=
  atPriority p (h.handedBy id)

def opening (h : History) (id : StreamId) (o : Option (ProtocolMeta × String)) : History :=
  { h with opened := h.opened ++ (o.map fun o => (id, o.1.id)).toList }

def routing (h : History) (r : Option Session.Routed) : History :=
  { h with routed := h.routed ++ r.toList }

def handing (h : History) (id : StreamId) (frames : List (Priority × Bytes)) : History :=
  { h with handed := h.handed ++ frames.map fun frame => (id, frame) }

theorem routedTo_routing (h : History) (m : Session.Routed) (id : StreamId) (p : Priority) :
    (h.routing (some m)).routedTo id p
      = h.routedTo id p ++ if m.id = id ∧ m.priority = p then [m.data] else [] := by
  simp only [routedTo, routing, Option.toList_some, List.filter_append, List.map_append]
  split <;> simp [*]

theorem routedFor_routing (h : History) (m : Session.Routed) (protoId : ProtocolId)
    (p : Priority) :
    (h.routing (some m)).routedFor protoId p
      = h.routedFor protoId p ++ if m.protoId = protoId ∧ m.priority = p then [m.data] else [] := by
  simp only [routedFor, routing, Option.toList_some, List.filter_append, List.map_append]
  split <;> simp [*]

theorem handedBy_handing (h : History) (id id' : StreamId) (frames : List (Priority × Bytes)) :
    (h.handing id frames).handedBy id' = h.handedBy id' ++ if id = id' then frames else [] := by
  simp only [handedBy, handing, List.filter_append, List.map_append, List.filter_map]
  by_cases heq : id = id'
  · simp [heq, Function.comp_def]
  · simp [heq, Function.comp_def]

theorem opening_none (h : History) (id : StreamId) : h.opening id none = h := by
  rw [opening, Option.map_none, Option.toList_none, List.append_nil]

theorem routing_none (h : History) : h.routing none = h := by
  rw [routing, Option.toList_none, List.append_nil]

end History

/-! ### The line of a substream -/

namespace Session

/-- The messages of a priority in the buffer before a substream. -/
def bufferAt (s : Session) (id : StreamId) (p : Priority) : List Bytes :=
  ((s.substreams.lookup id).map fun buffer => messages (buffer.queue p)).getD []

/-- A message for a protocol. -/
def messageFor (protoId : ProtocolId) : SessionInput → Option Bytes
  | .protocolMessage protoId' data => if protoId' = protoId then some data else none
  | .command _ => none

/-- The messages for a protocol that have not come to the session yet. -/
def waitingFor (s : Session) (protoId : ProtocolId) (p : Priority) : List Bytes :=
  (s.serviceReceiver.queue p).filterMap (messageFor protoId) ++
    (s.sending.filter fun m => m.1 = p ∧ m.2.1 = protoId).map fun m => m.2.2

variable {h : History} {s s' : Session} {id : StreamId} {t t' : Substream}

/-- The messages routed to a running substream: some are on their way through the task, the
buffer of the session has the rest.  While the session is normal and the channel open nothing
of the rest is missing; after that, nothing but its end. -/
structure Flows (h : History) (s : Session) (id : StreamId) (t : Substream) : Prop where
  handed : t.handed = h.handedBy id
  ordered : ∃ base, Substream.InOrder base t t ∧ ∀ p,
    base p <+: h.routedTo id p ∧
    (t.eventReceiver.isOpen = true → base p ++ s.bufferAt id p <+: h.routedTo id p ∧
      (s.state = .normal → base p ++ s.bufferAt id p = h.routedTo id p))

/-- What is kept along every run. -/
structure Inv (h : History) (s : Session) : Prop where
  rooms : ∀ room ∈ s.answers.stream, room.disconnected = false
  running : ∀ id t, s.tasks.lookup id = some t → Flows h s id t
  ended : ∀ id p, s.tasks.lookup id = none → h.handedAt id p <+: h.routedTo id p
  fresh : ∀ id, s.nextStream ≤ id →
    s.tasks.lookup id = none ∧ h.handedBy id = [] ∧ ∀ p, h.routedTo id p = []
  routes : ∀ protoId id, s.protoStreams.lookup protoId = some id → (id, protoId) ∈ h.opened
  opened : ∀ o ∈ h.opened, o.1 < s.nextStream
  distinct : (h.opened.map Prod.fst).Nodup
  routed : ∀ m ∈ h.routed, (m.id, m.protoId) ∈ h.opened
  sent : ∀ protoId p,
    (h.routedFor protoId p ++ s.waitingFor protoId p).Sublist (h.sentFor protoId p)

/-- What a substream has handed over is in what was routed to it. -/
theorem Flows.isPrefix (hf : Flows h s id t) (p : Priority) :
    h.handedAt id p <+: h.routedTo id p := by
  obtain ⟨base, horder, hbase⟩ := hf.ordered
  have hwithin := horder.within p
  rw [hf.handed] at hwithin
  exact hwithin.trans (hbase p).1

theorem Inv.isPrefix (hinv : Inv h s) (id : StreamId) (p : Priority) :
    h.handedAt id p <+: h.routedTo id p := by
  cases htask : s.tasks.lookup id with
  | none => exact hinv.ended id p htask
  | some t => exact (hinv.running id t htask).isPrefix p

/-- The line is looked at through the buffer and the state only. -/
theorem Flows.congr (hf : Flows h s id t)
    (hbuffer : s'.substreams.lookup id = s.substreams.lookup id)
    (hstate : s'.state = .normal → s.state = .normal) : Flows h s' id t := by
  obtain ⟨base, horder, hbase⟩ := hf.ordered
  refine ⟨hf.handed, base, horder, ?_⟩
  intro p
  refine ⟨(hbase p).1, fun hopen => ?_⟩
  obtain ⟨hpart, hall⟩ := (hbase p).2 hopen
  have hsame : s'.bufferAt id p = s.bufferAt id p := by rw [bufferAt, bufferAt, hbuffer]
  rw [hsame]
  exact ⟨hpart, fun hnormal => hall (hstate hnormal)⟩

/-- A channel that is closed takes nothing more. -/
theorem Flows.of_closed (hf : Flows h s id t) (hclosed : t.eventReceiver.isOpen = false) :
    Flows h s' id t := by
  obtain ⟨base, horder, hbase⟩ := hf.ordered
  refine ⟨hf.handed, base, horder, fun p => ⟨(hbase p).1, fun hopen => ?_⟩⟩
  rw [hclosed] at hopen
  cases hopen

/-! ### Moves -/

/-- Nothing is changed but one substream, its buffer and its task. -/
structure ChangedAt (id : StreamId) (s s' : Session) : Prop where
  tasks : ∀ id', id' ≠ id → s'.tasks.lookup id' = s.tasks.lookup id'
  substreams : ∀ id', id' ≠ id → s'.substreams.lookup id' = s.substreams.lookup id'
  ended : s'.tasks.lookup id = none ↔ s.tasks.lookup id = none
  state : s'.state = s.state
  nextStream : s'.nextStream = s.nextStream
  protoStreams : s'.protoStreams = s.protoStreams
  serviceReceiver : s'.serviceReceiver = s.serviceReceiver
  sending : s'.sending = s.sending
  rooms : ∀ room ∈ s'.answers.stream, room ∈ s.answers.stream

/-- Only the line of the substream is to be looked at. -/
theorem Inv.changedAt (hinv : Inv h s) (id : StreamId) (hc : ChangedAt id s s')
    (hflows : ∀ t, s'.tasks.lookup id = some t → Flows h s' id t) : Inv h s' where
  rooms := fun room hroom => hinv.rooms room (hc.rooms room hroom)
  running := by
    intro id' t ht
    by_cases heq : id' = id
    · subst heq
      exact hflows t ht
    · rw [hc.tasks id' heq] at ht
      exact (hinv.running id' t ht).congr (hc.substreams id' heq) (fun hn => by rwa [← hc.state])
  ended := by
    intro id' p hnone
    by_cases heq : id' = id
    · subst heq
      exact hinv.ended id' p (hc.ended.mp hnone)
    · rw [hc.tasks id' heq] at hnone
      exact hinv.ended id' p hnone
  fresh := by
    intro id' hle
    rw [hc.nextStream] at hle
    obtain ⟨hnone, hnothing⟩ := hinv.fresh id' hle
    refine ⟨?_, hnothing⟩
    by_cases heq : id' = id
    · subst heq
      exact hc.ended.mpr hnone
    · rwa [hc.tasks id' heq]
  routes := by
    rw [hc.protoStreams]
    exact hinv.routes
  opened := by
    rw [hc.nextStream]
    exact hinv.opened
  distinct := hinv.distinct
  routed := hinv.routed
  sent := by
    intro protoId p
    rw [waitingFor, hc.serviceReceiver, hc.sending]
    exact hinv.sent protoId p

theorem Inv.undisturbed (hinv : Inv h s) (hu : Undisturbed s s') : Inv h s' where
  rooms := by
    rw [hu.rooms]
    exact hinv.rooms
  running := by
    intro id t ht
    rw [hu.tasks] at ht
    refine (hinv.running id t ht).congr (by rw [hu.substreams]) ?_
    intro hnormal
    by_contra hne
    exact hu.state hne hnormal
  ended := by
    rw [hu.tasks]
    exact hinv.ended
  fresh := by
    rw [hu.nextStream, hu.tasks]
    exact hinv.fresh
  routes := fun protoId id hlookup => hinv.routes protoId id (hu.routes protoId id hlookup)
  opened := by
    rw [hu.nextStream]
    exact hinv.opened
  distinct := hinv.distinct
  routed := hinv.routed
  sent := by
    intro protoId p
    -- what is taken from the queue and not routed is missing from then on
    have hqueue := ((hu.inputs p).filterMap (messageFor protoId)).append_right
      ((s.sending.filter fun m => m.1 = p ∧ m.2.1 = protoId).map fun m => m.2.2)
    rw [waitingFor, hu.sending]
    exact (hqueue.append_left _).trans (hinv.sent protoId p)

/-- **A try to send** moves messages along the line. -/
theorem Flows.trySend {buffer : PriorityBuffer ProtocolEvent} {room : Room}
    (hf : Flows h s id t) (hbuffer : s.substreams.lookup id = some buffer)
    (hopen : t.eventReceiver.isOpen = true) (hroom : room.disconnected = false)
    (hkept : s'.substreams.lookup id = some (buffer.trySend room).kept)
    (hstate : s'.state = s.state) :
    Flows h s' id (deliver t (buffer.trySend room).high (buffer.trySend room).normal) := by
  obtain ⟨base, horder, hbase⟩ := hf.ordered
  -- what is sent joins the messages that are on their way
  let sent := fun p => messages ((buffer.trySend room).queue p)
  have hline : ∀ p, (deliver t (buffer.trySend room).high (buffer.trySend room).normal).line p
      = t.line p ++ sent p := by
    intro p
    cases p <;> simp only [deliver, Substream.line, Substream.buf, PriorityChannel.queue, sent,
      PriorityBuffer.Tried.queue, messages_append, List.append_assoc]
  have hsplit : ∀ p, sent p ++ s'.bufferAt id p = s.bufferAt id p := by
    intro p
    simp only [bufferAt, hbuffer, hkept, Option.map_some, Option.getD_some, sent]
    rw [← messages_append, buffer.queue_trySend hroom]
  refine ⟨hf.handed, fun p => base p ++ sent p, ⟨?_, ?_, List.prefix_refl _, fun h => h⟩, ?_⟩
  · intro p
    exact (horder.within p).trans (List.prefix_append _ _)
  · intro halive p
    rw [hline, ← List.append_assoc]
    exact congrArg (· ++ sent p) (horder.carries halive p)
  · intro p
    obtain ⟨hpart, hall⟩ := (hbase p).2 hopen
    rw [← hsplit p, ← List.append_assoc] at hpart hall
    refine ⟨(List.prefix_append _ _).trans hpart, fun _ => ⟨hpart, ?_⟩⟩
    rw [hstate]
    exact hall

theorem inv_trySendTo (hinv : Inv h s) (id : StreamId) : Inv h (s.trySendTo id).2 := by
  unfold trySendTo
  split
  · exact hinv
  · next buffer hbuffer =>
    have hrooms : ∀ room ∈ s.answers.stream.tail, room ∈ s.answers.stream :=
      fun _ => List.mem_of_mem_tail
    dsimp only
    split
    · -- the task has ended
      next hnone =>
      refine hinv.changedAt id ⟨fun _ _ => rfl, fun id' hne => AList.lookup_insert_ne hne,
        .rfl, rfl, rfl, rfl, rfl, rfl, hrooms⟩ ?_
      intro t ht
      rw [hnone] at ht
      cases ht
    · next task htask =>
      have hflows := hinv.running id task htask
      refine hinv.changedAt id ⟨fun id' hne => AList.lookup_insert_ne hne,
        fun id' hne => AList.lookup_insert_ne hne, ?_, rfl, rfl, rfl, rfl, rfl, hrooms⟩ ?_
      · rw [AList.lookup_insert, htask]
        simp only [reduceCtorEq]
      · intro t ht
        rw [AList.lookup_insert] at ht
        cases ht
        cases hopen : task.eventReceiver.isOpen with
        | true =>
          rw [if_pos rfl]
          refine hflows.trySend hbuffer hopen ?_ (AList.lookup_insert _) rfl
          cases hstream : s.answers.stream with
          | nil => rfl
          | cons room rooms =>
            refine hinv.rooms room ?_
            rw [hstream]
            exact List.mem_cons_self
        | false =>
          -- nothing is sent, and what is dropped is not missed
          obtain ⟨hhigh, hnormal⟩ := buffer.trySend_gone
          have hsame : deliver task [] [] = task := by
            rw [deliver, List.append_nil, List.append_nil]
          rw [if_neg Bool.false_ne_true, hhigh, hnormal, hsame]
          exact hflows.of_closed hopen

/-- A buffer that loses its messages when the session is no longer normal. -/
theorem Flows.emptied (hf : Flows h s id t) (hstate : s'.state ≠ .normal)
    (hempty : ∀ p, s'.bufferAt id p = []) : Flows h s' id t := by
  obtain ⟨base, horder, hbase⟩ := hf.ordered
  refine ⟨hf.handed, base, horder, fun p => ⟨(hbase p).1, fun _ => ?_⟩⟩
  rw [hempty, List.append_nil]
  exact ⟨(hbase p).1, fun hnormal => absurd hnormal hstate⟩

theorem inv_clearBuffer (hinv : Inv h s) (id : StreamId) (hstate : s.state ≠ .normal) :
    Inv h (s.clearBuffer id) := by
  unfold clearBuffer
  split
  · exact hinv
  · refine hinv.changedAt id ⟨fun _ _ => rfl, fun id' hne => AList.lookup_insert_ne hne,
      .rfl, rfl, rfl, rfl, rfl, rfl, fun _ hroom => hroom⟩ ?_
    intro t ht
    refine (hinv.running id t ht).emptied hstate ?_
    intro p
    rw [bufferAt, AList.lookup_insert]
    cases p <;> rfl

/-- A command in a buffer is no message. -/
theorem inv_command (hinv : Inv h s) {buffer : PriorityBuffer ProtocolEvent}
    (protoId : ProtocolId) (hbuffer : s.substreams.lookup id = some buffer) :
    Inv h { s with
      substreams := s.substreams.insert id (buffer.push .high (.close id protoId)) } := by
  refine hinv.changedAt id ⟨fun _ _ => rfl, fun id' hne => AList.lookup_insert_ne hne,
    .rfl, rfl, rfl, rfl, rfl, rfl, fun _ hroom => hroom⟩ ?_
  intro t ht
  have hsame : ∀ p, bufferAt { s with
      substreams := s.substreams.insert id (buffer.push .high (.close id protoId)) } id p
      = s.bufferAt id p := by
    intro p
    simp only [bufferAt, AList.lookup_insert, hbuffer, Option.map_some, Option.getD_some]
    cases p with
    | high =>
      simp only [PriorityBuffer.push, PriorityBuffer.queue, messages_append]
      exact List.append_nil _
    | normal => rfl
  obtain ⟨hhanded, base, horder, hbase⟩ := hinv.running id t ht
  refine ⟨hhanded, base, horder, ?_⟩
  intro p
  rw [hsame]
  exact hbase p

/-- A task whose channel is closed by the session. -/
theorem Flows.hangUp (hf : Flows h s id t) : Flows h s' id (hangUp t) := by
  obtain ⟨base, horder, hbase⟩ := hf.ordered
  have hkeeps : Substream.Keeps t (Session.hangUp t) :=
    ⟨rfl, rfl, rfl, rfl, rfl, Bool.noConfusion, fun h => h⟩
  have hnow := horder.keeps hkeeps
  refine ⟨hf.handed, base, ⟨hnow.within, hnow.carries, List.prefix_refl _, fun h => h⟩, ?_⟩
  exact fun p => ⟨(hbase p).1, Bool.noConfusion⟩

theorem inv_dropSubstream (hinv : Inv h s) (id : StreamId) : Inv h (s.dropSubstream id) := by
  have hclear : ∀ id', id' ≠ id →
      (s.clearBuffer id).substreams.lookup id' = s.substreams.lookup id' := by
    intro id' hne
    unfold clearBuffer
    split
    · rfl
    · exact AList.lookup_insert_ne hne
  have hrest : (s.clearBuffer id).tasks = s.tasks ∧ (s.clearBuffer id).state = s.state ∧
      (s.clearBuffer id).nextStream = s.nextStream ∧
      (s.clearBuffer id).protoStreams = s.protoStreams ∧
      (s.clearBuffer id).serviceReceiver = s.serviceReceiver ∧
      (s.clearBuffer id).sending = s.sending ∧ (s.clearBuffer id).answers = s.answers := by
    unfold clearBuffer
    split <;> exact ⟨rfl, rfl, rfl, rfl, rfl, rfl, rfl⟩
  obtain ⟨htasks, hstate, hnext, hroutes, hreceiver, hsending, hanswers⟩ := hrest
  unfold dropSubstream
  dsimp only
  rw [htasks]
  have hsubstreams : ∀ id', id' ≠ id →
      ((s.clearBuffer id).substreams.erase id).lookup id' = s.substreams.lookup id' :=
    fun id' hne => (AList.lookup_erase_ne hne).trans (hclear id' hne)
  have hrooms : ∀ room ∈ (s.clearBuffer id).answers.stream, room ∈ s.answers.stream := by
    rw [hanswers]
    exact fun _ hroom => hroom
  cases htask : s.tasks.lookup id with
  | none =>
    refine hinv.changedAt id ⟨fun _ _ => rfl, hsubstreams, .rfl, hstate, hnext, hroutes,
      hreceiver, hsending, hrooms⟩ ?_
    intro t ht
    rw [htask] at ht
    cases ht
  | some task =>
    refine hinv.changedAt id ⟨fun id' hne => AList.lookup_insert_ne hne, hsubstreams, ?_, hstate,
      hnext, hroutes, hreceiver, hsending, hrooms⟩ ?_
    · rw [AList.lookup_insert, htask]
      simp only [reduceCtorEq]
    · intro t ht
      rw [AList.lookup_insert] at ht
      cases ht
      exact (hinv.running id task htask).hangUp

theorem inv_move (hinv : Inv h s) (hmove : Move s s') : Inv h s' := by
  cases hmove with
  | other same => exact hinv.undisturbed same
  | send id => exact inv_trySendTo hinv id
  | command protoId hbuffer => exact inv_command hinv protoId hbuffer
  | clear id hstate => exact inv_clearBuffer hinv id hstate
  | drop id => exact inv_dropSubstream hinv id

theorem inv_moves (hinv : Inv h s) (hmoves : Moves s s') : Inv h s' := by
  induction hmoves with
  | refl => exact hinv
  | tail _ hmove ih => exact inv_move ih hmove

/-! ### Opening and routing -/

/-- A substream that is opened has a new id, so nothing was routed to it. -/
theorem inv_opening (hinv : Inv h s) {o : Option (ProtocolMeta × String)}
    (hopening : Opening o s s') : Inv (h.opening s.nextStream o) s' := by
  cases hopening with
  | none =>
    rw [History.opening_none]
    exact hinv
  | some _ proto version =>
    obtain ⟨-, hhanded, hrouted⟩ := hinv.fresh s.nextStream (Nat.le_refl _)
    refine ⟨hinv.rooms, ?_, ?_, ?_, ?_, ?_, ?_, ?_, hinv.sent⟩
    · intro id t ht
      rcases lookup_insert_eq_some_iff.mp ht with ⟨rfl, rfl⟩ | ⟨heq, hold⟩
      · refine ⟨hhanded.symm, fun _ => [], ⟨fun _ => List.prefix_refl _, fun _ p => ?_,
          List.prefix_refl _, fun h => h⟩, ?_⟩
        · cases p <;> rfl
        · intro p
          have hnothing : (h.opening s.nextStream (some (proto, version))).routedTo s.nextStream p
              = [] := hrouted p
          have hbuffer : (s.opened proto version).bufferAt s.nextStream p = [] := by
            rw [bufferAt, opened, AList.lookup_insert]
            cases p <;> rfl
          rw [hnothing, hbuffer]
          exact ⟨List.prefix_refl _, fun _ => ⟨List.prefix_refl _, fun _ => rfl⟩⟩
      · have hflows : Flows h (s.opened proto version) id t :=
          (hinv.running id t hold).congr (AList.lookup_insert_ne heq) (fun hnormal => hnormal)
        exact { hflows with }
    · intro id p hnone
      by_cases heq : id = s.nextStream
      · subst heq
        change (s.tasks.insert s.nextStream _).lookup s.nextStream = none at hnone
        rw [AList.lookup_insert] at hnone
        cases hnone
      · exact hinv.ended id p ((AList.lookup_insert_ne heq).symm.trans hnone)
    · intro id hle
      obtain ⟨hnone, hnothing⟩ := hinv.fresh id (Nat.le_of_succ_le hle)
      exact ⟨(AList.lookup_insert_ne (Nat.ne_of_gt hle)).trans hnone, hnothing⟩
    · intro protoId id hlookup
      refine List.mem_append.mpr ?_
      rcases lookup_insert_eq_some_iff.mp hlookup with ⟨rfl, rfl⟩ | ⟨-, hlookup⟩
      · exact .inr List.mem_cons_self
      · exact .inl (hinv.routes protoId id hlookup)
    · intro o ho
      rcases List.mem_append.mp ho with hold | hnew
      · exact Nat.lt_succ_of_lt (hinv.opened o hold)
      · cases List.mem_singleton.mp hnew
        exact Nat.lt_succ_self _
    · -- the new id is greater than all before it
      rw [History.opening, List.map_append]
      refine List.Nodup.append hinv.distinct (List.nodup_singleton _) ?_
      intro id hold hnew
      obtain ⟨o, ho, rfl⟩ := List.mem_map.mp hold
      have hlt := hinv.opened o ho
      rw [List.mem_singleton.mp hnew] at hlt
      exact absurd hlt (Nat.lt_irrefl _)
    · intro m hm
      exact List.mem_append_left _ (hinv.routed m hm)

/-- A message that is taken from the queue was the first of its protocol and priority. -/
theorem waitingFor_take {m : Routed} {receiver : PriorityChannel SessionInput}
    (hinput : s.serviceReceiver.next
      = (.item m.priority (.protocolMessage m.protoId m.data), receiver))
    (protoId : ProtocolId) (p : Priority)
    (substreams : AList fun _ : StreamId => PriorityBuffer ProtocolEvent) :
    s.waitingFor protoId p = (if m.protoId = protoId ∧ m.priority = p then [m.data] else []) ++
      waitingFor { s with serviceReceiver := receiver, substreams } protoId p := by
  obtain ⟨hqueue, hothers, -⟩ := PriorityChannel.queue_next_item hinput
  simp only [waitingFor]
  by_cases hp : m.priority = p
  · subst hp
    rw [hqueue, ← List.append_assoc]
    by_cases hproto : m.protoId = protoId <;> simp [messageFor, hproto]
  · rw [hothers p (Ne.symm hp), if_neg (fun hboth => hp hboth.2), List.nil_append]

/-- **A message that is routed** joins the end of the line of its substream. -/
theorem inv_routing (hinv : Inv h s) {r : Option Routed} (hrouting : Routing r s s') :
    Inv (h.routing r) s' := by
  cases hrouting with
  | none =>
    rw [History.routing_none]
    exact hinv
  | @some _ m receiver buffer hinput hnormal hstream hbuffer =>
    have hopened := hinv.routes m.protoId m.id hstream
    have hgrows : ∀ id p, h.routedTo id p <+: (h.routing (some m)).routedTo id p := by
      intro id p
      rw [History.routedTo_routing]
      exact List.prefix_append _ _
    refine ⟨hinv.rooms, ?_, ?_, ?_, hinv.routes, hinv.opened, hinv.distinct, ?_, ?_⟩
    · intro id t ht
      have hf := hinv.running id t ht
      obtain ⟨base, horder, hbase⟩ := hf.ordered
      refine ⟨hf.handed, base, horder, fun p => ⟨(hbase p).1.trans (hgrows id p), fun hopen => ?_⟩⟩
      have hall := ((hbase p).2 hopen).2 hnormal
      -- the buffer and the messages routed grow by the same message, if they grow
      have hbufferAt : bufferAt { s with
          serviceReceiver := receiver
          substreams := s.substreams.insert m.id (buffer.push m.priority (.message m.data)) } id p
          = s.bufferAt id p ++ if m.id = id ∧ m.priority = p then [m.data] else [] := by
        by_cases heq : id = m.id
        · subst heq
          simp only [bufferAt, AList.lookup_insert, hbuffer, Option.map_some, Option.getD_some]
          cases m.priority <;> cases p <;>
            simp [PriorityBuffer.push, PriorityBuffer.queue, messages]
        · rw [bufferAt, AList.lookup_insert_ne heq, if_neg (fun hboth => heq hboth.1.symm),
            List.append_nil]
          rfl
      rw [hbufferAt, History.routedTo_routing, ← List.append_assoc, hall]
      exact ⟨List.prefix_refl _, fun _ => rfl⟩
    · intro id p hnone
      exact (hinv.ended id p hnone).trans (hgrows id p)
    · intro id hle
      obtain ⟨hnone, hhanded, hrouted⟩ := hinv.fresh id hle
      refine ⟨hnone, hhanded, fun p => ?_⟩
      have hne : m.id ≠ id := Nat.ne_of_lt (Nat.lt_of_lt_of_le (hinv.opened _ hopened) hle)
      rw [History.routedTo_routing, hrouted p, if_neg (fun hboth => hne hboth.1), List.append_nil]
    · intro m' hm'
      rcases List.mem_append.mp hm' with hold | hnew
      · exact hinv.routed m' hold
      · cases List.mem_singleton.mp hnew
        exact hopened
    · intro protoId p
      rw [History.routedFor_routing, List.append_assoc, ← waitingFor_take hinput]
      exact hinv.sent protoId p

/-! ### Tasks -/

/-- What a poll of a task hands over. -/
def pollHands (s : Session) (id : StreamId) (answers : Answers) : List (Priority × Bytes) :=
  match s.tasks.lookup id with
  | none => []
  | some task =>
    ({ task with context := s.context, discarded := [] }.poll answers).1.handed.drop
      task.handed.length

/-- A task is replaced by what a poll has made of it, or is gone. -/
theorem Inv.handing (hinv : Inv h s) {task : Substream} (htask : s.tasks.lookup id = some task)
    (hpolled : ∀ base, Substream.InOrder base task task → Substream.InOrder base task t)
    {tasks : AList fun _ : StreamId => Substream}
    (hothers : ∀ id', id' ≠ id → tasks.lookup id' = s.tasks.lookup id')
    (hkeeps : ∀ t', tasks.lookup id = some t' → Substream.Keeps t t') (context : Context)
    (discarded : List Bytes) :
    Inv (h.handing id (t.handed.drop task.handed.length)) { s with context, discarded, tasks } := by
  have hf := hinv.running id task htask
  obtain ⟨base, horder, hbase⟩ := hf.ordered
  have hnow := hpolled base horder
  -- the history of the substream and that of the session agree
  have hhanded : (h.handing id (t.handed.drop task.handed.length)).handedBy id = t.handed := by
    obtain ⟨more, hmore⟩ := hnow.grows
    rw [History.handedBy_handing, if_pos rfl, ← hf.handed, ← hmore, List.drop_left]
  have hsame : ∀ id', id' ≠ id →
      (h.handing id (t.handed.drop task.handed.length)).handedBy id' = h.handedBy id' := by
    intro id' hne
    rw [History.handedBy_handing, if_neg (Ne.symm hne), List.append_nil]
  refine ⟨hinv.rooms, ?_, ?_, ?_, hinv.routes, hinv.opened, hinv.distinct, hinv.routed, hinv.sent⟩
  · intro id' t' ht'
    by_cases heq : id' = id
    · subst heq
      have hkept := hkeeps t' ht'
      have horder' := hnow.keeps hkept
      refine ⟨hkept.handed.trans hhanded.symm, base,
        ⟨horder'.within, horder'.carries, List.prefix_refl _, fun h => h⟩, ?_⟩
      exact fun p => ⟨(hbase p).1, fun hopen => (hbase p).2 (horder'.isOpen hopen)⟩
    · have hold := hinv.running id' t' ((hothers id' heq).symm.trans ht')
      exact ⟨hold.handed.trans (hsame id' heq).symm, hold.ordered⟩
  · intro id' p hnone
    by_cases heq : id' = id
    · subst heq
      rw [History.handedAt, hhanded]
      exact (hnow.within p).trans (hbase p).1
    · rw [History.handedAt, hsame id' heq]
      exact hinv.ended id' p ((hothers id' heq).symm.trans hnone)
  · intro id' hle
    obtain ⟨hnone, hnothing⟩ := hinv.fresh id' hle
    have hne : id' ≠ id := by
      intro heq
      rw [heq, htask] at hnone
      cases hnone
    rw [hsame id' hne]
    exact ⟨(hothers id' hne).trans hnone, hnothing⟩

/-- **A poll of a task** moves messages along its line. -/
theorem inv_pollTask (hinv : Inv h s) (id : StreamId) (answers : Answers) :
    Inv (h.handing id (s.pollHands id answers)) (s.pollTask id answers) := by
  unfold pollHands pollTask
  cases htask : s.tasks.lookup id with
  | none =>
    have hsame : h.handing id [] = h := by rw [History.handing, List.map_nil, List.append_nil]
    rw [hsame]
    exact hinv
  | some task =>
    have hpolled : ∀ base, Substream.InOrder base task task → Substream.InOrder base task
        ({ task with context := s.context, discarded := [] }.poll answers).1 := by
      intro base horder
      refine Substream.inOrder_pollNext (horder.keeps ?_)
      exact ⟨rfl, rfl, rfl, rfl, rfl, fun h => h, fun h => h⟩
    dsimp only
    generalize { task with context := s.context, discarded := [] }.poll answers = r at hpolled ⊢
    obtain ⟨t, polled⟩ := r
    -- a task that goes on is the one that was polled, but for what it notes
    have hrunning : Inv (h.handing id (t.handed.drop task.handed.length)) { s with
        context := t.context, discarded := s.discarded ++ t.discarded
        tasks := s.tasks.insert id { t with discarded := [] } } := by
      refine hinv.handing htask hpolled (fun id' hne => AList.lookup_insert_ne hne) ?_ _ _
      intro t' ht'
      rw [AList.lookup_insert] at ht'
      cases ht'
      exact ⟨rfl, rfl, rfl, rfl, rfl, fun h => h, fun h => h⟩
    cases polled with
    | done =>
      refine hinv.handing htask hpolled (fun id' hne => AList.lookup_erase_ne hne) ?_ _ _
      intro t' ht'
      rw [AList.lookup_erase] at ht'
      cases ht'
    | pending => exact hrunning
    | item => exact hrunning

/-! ### Runs -/

theorem charge_iterate (s : Session) (priority : Priority) (protoId : ProtocolId) (data : Bytes)
    (n : ℕ) :
    ∃ context, (fun s => s.charge priority protoId data)^[n] s =
      { s with context, sending := s.sending ++ List.replicate n (priority, protoId, data) } := by
  induction n generalizing s with
  | zero =>
    refine ⟨s.context, ?_⟩
    rw [List.replicate_zero, List.append_nil]
    rfl
  | succ n ih =>
    obtain ⟨context, hcontext⟩ := ih (s.charge priority protoId data)
    refine ⟨context, ?_⟩
    rw [Function.iterate_succ_apply, hcontext, List.replicate_succ]
    simp only [charge, List.append_assoc, List.singleton_append]

/-- The rooms of a poll, as they are for channels whose receivers are there. -/
def Label.connected : Label → Label
  | .session answers => .session { answers with
      stream := answers.stream.map fun room => { room with disconnected := false } }
  | l => l

end Session

/-! ### Sessions with a history -/

/-- A session with its history. -/
structure Traced where
  session : Session
  history : History

namespace Traced

open Session

/-- What a label adds to the history. -/
def record (s : Session) (h : History) : Label → History
  | .message target priority protoId data =>
    let copies := List.replicate (target.copies s.context.id) (priority, protoId, data)
    if s.registered then { h with sent := h.sent ++ copies } else h
  | .session answers =>
    (h.opening s.nextStream (s.pollOpens answers)).routing (s.pollRoutes answers)
  | .task id answers => h.handing id (s.pollHands id answers)
  | _ => h

def step (x : Traced) (l : Label) : Traced where
  session := x.session.step l.connected
  history := record x.session x.history l.connected

/-- A session that is started has no history. -/
def start (s : Session) : Traced where
  session := s
  history := { sent := [], opened := [], routed := [], handed := [] }

/-- What the service is given to send waits to be routed. -/
theorem inv_handleMessage {h : History} {s : Session} (hinv : Inv h s) (target : TargetSession)
    (priority : Priority) (protoId : ProtocolId) (data : Bytes) :
    Inv (record s h (.message target priority protoId data))
      (s.handleMessage target priority protoId data) := by
  unfold record handleMessage
  dsimp only
  split
  · obtain ⟨context, hcharged⟩ :=
      charge_iterate s priority protoId data (target.copies s.context.id)
    rw [hcharged]
    refine { hinv with sent := ?_, running := ?_ }
    · intro id t ht
      exact { hinv.running id t ht with }
    · intro protoId' p
      have hsent := (hinv.sent protoId' p).append_right
        (((List.replicate (target.copies s.context.id) (priority, protoId, data)).filter
          fun m => m.1 = p ∧ m.2.1 = protoId').map fun m => m.2.2)
      simp only [waitingFor, History.sentFor, List.filter_append, List.map_append,
        List.append_assoc] at hsent ⊢
      exact hsent
  · exact hinv

/-- Less may be waiting than before. -/
theorem inv_of_waitingFor {h : History} {s : Session} (hinv : Inv h s)
    {receiver : PriorityChannel SessionInput} {sending : List (Priority × ProtocolId × Bytes)}
    {discarded : List Bytes}
    (hwaiting : ∀ protoId p,
      (waitingFor { s with serviceReceiver := receiver, sending, discarded } protoId p).Sublist
        (s.waitingFor protoId p)) :
    Inv h { s with serviceReceiver := receiver, sending, discarded } :=
  { hinv with
    running := fun id t ht => { hinv.running id t ht with }
    sent := fun protoId p =>
      ((hwaiting protoId p).append_left _).trans (hinv.sent protoId p) }

/-- A message that the channel takes is the last of its priority there, and was the first
that waited for the channel. -/
theorem inv_passOn {h : History} {s : Session} (hinv : Inv h s) : Inv h s.passOn := by
  unfold passOn
  split
  · exact hinv
  · next priority protoId data sending hsending =>
    dsimp only
    split
    · refine inv_of_waitingFor hinv (fun protoId' p => ?_)
      rw [waitingFor, waitingFor, PriorityChannel.queue_push, hsending, List.filterMap_append,
        List.append_assoc]
      by_cases hp : priority = p
      · by_cases hproto : protoId = protoId' <;> simp [hp, hproto, messageFor]
      · simp [hp]
    · -- the receiver is gone, and the message with it
      refine inv_of_waitingFor hinv (fun protoId' p => ?_)
      rw [waitingFor, waitingFor, hsending]
      exact (((List.sublist_cons_self _ _).filter _).map _).append_left _

theorem inv_pushCommand {h : History} {s : Session} (hinv : Inv h s) (priority : Priority)
    (c : Command) :
    Inv h { s with serviceReceiver := s.serviceReceiver.push priority (.command c) } := by
  refine inv_of_waitingFor hinv (fun protoId p => ?_)
  rw [waitingFor, waitingFor, PriorityChannel.queue_push, List.filterMap_append]
  split <;> simp [messageFor]

/-- **A poll of the session**, along its parts. -/
theorem inv_poll {h : History} {s : Session} (hinv : Inv h s) (answers : SessionAnswers)
    (hrooms : ∀ room ∈ answers.stream, room.disconnected = false) :
    Inv (record s h (.session answers)) (s.poll answers) := by
  cases hended : s.ended with
  | true =>
    have hnothing : record s h (.session answers) = h := by
      simp only [record, pollOpens, pollRoutes, hended, Bool.not_true, Bool.false_and,
        Bool.false_eq_true, if_false, History.opening_none, History.routing_none]
    rw [hnothing, poll, if_pos hended]
    exact hinv
  | false =>
    obtain ⟨a, b, c, d, hfirst, hopening, hbetween, hrouting, hlast⟩ :=
      (poll_moves s answers hended).parts
    have hstart : Inv h { s with answers } :=
      { hinv with rooms := hrooms, running := fun id t ht => { hinv.running id t ht with } }
    have hbefore := inv_moves hstart hfirst
    have hopened := inv_opening hbefore hopening
    have hrouted := inv_routing (inv_moves hopened hbetween) hrouting
    rw [nextStream_moves hfirst] at hrouted
    exact inv_moves hrouted hlast

/-- The invariant of a session with its history. -/
def Ordered (x : Traced) : Prop := Inv x.history x.session

theorem ordered_step {x : Traced} (l : Label) (hinv : x.Ordered) : (x.step l).Ordered := by
  cases l with
  | message target priority protoId data =>
    exact inv_handleMessage hinv target priority protoId data
  | passOn => exact inv_passOn hinv
  | command priority c =>
    simp only [step, Label.connected, record, Session.step]
    split
    · exact inv_pushCommand hinv priority c
    · exact hinv
  | unregister => exact { hinv with running := fun id t ht => { hinv.running id t ht with } }
  | arrive event =>
    simp only [step, Label.connected, record, Session.step]
    split
    · exact { hinv with running := fun id t ht => { hinv.running id t ht with } }
    · exact hinv
  | session answers =>
    refine inv_poll hinv _ ?_
    intro room hroom
    obtain ⟨room', -, rfl⟩ := List.mem_map.mp hroom
    rfl
  | task id answers => exact inv_pollTask hinv id answers

/-- A session that is started has nothing to keep in order. -/
theorem ordered_start (id : SessionId) (protocols : List ProtocolMeta)
    (beforeReceive : ProtocolId → Option (Bytes → Except IoError Bytes))
    (sendBufferSize sendEventSize recvEventSize : ℕ) (keepBuffer : Bool) :
    (start (Session.new id protocols beforeReceive sendBufferSize sendEventSize recvEventSize
      keepBuffer)).Ordered where
  rooms := nofun
  running := by
    intro stream t ht
    have hnone : (none : Option Substream) = some t := ht
    cases hnone
  ended := fun _ _ _ => List.prefix_refl _
  fresh := fun _ _ => ⟨rfl, rfl, fun _ => rfl⟩
  routes := by
    intro protoId stream hlookup
    have hnone : (none : Option StreamId) = some stream := hlookup
    cases hnone
  opened := nofun
  distinct := List.nodup_nil
  routed := nofun
  sent := by
    intro protoId p
    cases p <;> exact List.Sublist.refl _

/-- The messages routed to a substream are messages for its protocol. -/
theorem routedTo_sublist {h : History} {s : Session} (hinv : Inv h s) {id : StreamId}
    {protoId : ProtocolId} (hopened : (id, protoId) ∈ h.opened) (p : Priority) :
    (h.routedTo id p).Sublist (h.routedFor protoId p) := by
  refine List.Sublist.map _ ?_
  -- a substream was opened for one protocol only
  have hproto : ∀ m ∈ h.routed, m.id = id → m.protoId = protoId := by
    intro m hm heq
    have hsame : (m.id, m.protoId) = (id, protoId) :=
      List.inj_on_of_nodup_map hinv.distinct (hinv.routed m hm) hopened heq
    exact (Prod.mk.inj hsame).2
  have hfilter : (h.routed.filter fun m => m.id = id ∧ m.priority = p)
      = (h.routed.filter fun m => m.protoId = protoId ∧ m.priority = p).filter
          fun m => m.id = id := by
    rw [List.filter_filter]
    refine List.filter_congr ?_
    intro m hm
    by_cases heq : m.id = id
    · simp [heq, hproto m hm heq]
    · simp [heq]
  rw [hfilter]
  exact List.filter_sublist

/-- **The order of outbound messages.**  Along every run, for every substream that was
opened: what its codec was handed with a priority is a prefix of what was routed to it with
that priority, and that is in the order in which it was sent to the protocol.  No message is
routed twice, and none to a substream of another protocol. -/
theorem handed_isPrefix_routed (id : SessionId) (protocols : List ProtocolMeta)
    (beforeReceive : ProtocolId → Option (Bytes → Except IoError Bytes))
    (sendBufferSize sendEventSize recvEventSize : ℕ) (keepBuffer : Bool) (labels : List Label) :
    Throughout step (fun x =>
        (∀ stream protoId, (stream, protoId) ∈ x.history.opened → ∀ p,
          x.history.handedAt stream p <+: x.history.routedTo stream p ∧
          (x.history.routedTo stream p).Sublist (x.history.sentFor protoId p)) ∧
        (∀ protoId p, (x.history.routedFor protoId p).Sublist (x.history.sentFor protoId p)) ∧
        (∀ m ∈ x.history.routed, (m.id, m.protoId) ∈ x.history.opened) ∧
        (∀ m ∈ x.history.handed, ∃ protoId, (m.1, protoId) ∈ x.history.opened) ∧
        (x.history.opened.map Prod.fst).Nodup)
      (start (Session.new id protocols beforeReceive sendBufferSize sendEventSize recvEventSize
        keepBuffer)) labels := by
  have hstart := ordered_start id protocols beforeReceive sendBufferSize sendEventSize
    recvEventSize keepBuffer
  refine (throughout_of_inv (fun x l => ordered_step l) hstart labels).mono ?_
  intro x hinv
  have hsent : ∀ protoId p,
      (x.history.routedFor protoId p).Sublist (x.history.sentFor protoId p) :=
    fun protoId p => (List.sublist_append_left _ _).trans (hinv.sent protoId p)
  refine ⟨?_, hsent, hinv.routed, ?_, hinv.distinct⟩
  · intro stream protoId hopened p
    exact ⟨hinv.isPrefix stream p, (routedTo_sublist hinv hopened p).trans (hsent protoId p)⟩
  · rintro ⟨stream, p, frame⟩ hm
    -- what is handed over was routed, so its substream was opened
    have hhanded : frame ∈ x.history.handedAt stream p := by
      refine List.mem_map.mpr ⟨(p, frame), List.mem_filter.mpr ⟨?_, decide_eq_true rfl⟩, rfl⟩
      exact List.mem_map.mpr ⟨_, List.mem_filter.mpr ⟨hm, decide_eq_true rfl⟩, rfl⟩
    have hrouted := (hinv.isPrefix stream p).subset hhanded
    obtain ⟨m, hm, -⟩ := List.mem_map.mp hrouted
    obtain ⟨hmem, heq⟩ := List.mem_filter.mp hm
    have hid : m.id = stream := (of_decide_eq_true heq).1
    exact ⟨m.protoId, hid ▸ hinv.routed m hmem⟩

end Traced

end Tentacle
end CkbP2P

import Mathlib.Data.List.Dedup
import CkbP2P.Lib.Entries
import CkbP2P.Tentacle.Session

/-!
# Passing messages on to the substreams

A session keeps a buffer before the channel of each substream.  When it is polled, it walks
through the buffers in the order of a hash map and sends from each what its channel takes.  At
the first channel that is full before its buffer is empty it stops, so whether a buffer further
on is looked at depends on other substreams and on the order of the map.

The channels are given by the room they have.  A walk is a part that is served and a part that
is not looked at; between them stands the channel that was full.
-/

namespace CkbP2P
namespace Tentacle

open Lib

/-! ### One buffer -/

/-- A channel that is connected is used until the buffer is empty, or full. -/
theorem trySend_exhausts {α : Type} (buffer : List α) (slots : ℕ) :
    ((trySend buffer ⟨slots, false⟩).result = .ok ∧ (trySend buffer ⟨slots, false⟩).kept = [] ∧
        (trySend buffer ⟨slots, false⟩).sent.length ≤ slots) ∨
      (trySend buffer ⟨slots, false⟩).result = .pending ∧
        (trySend buffer ⟨slots, false⟩).sent.length = slots := by
  induction buffer generalizing slots with
  | nil => exact .inl ⟨rfl, rfl, Nat.zero_le _⟩
  | cons event buffer ih =>
    cases slots with
    | zero => exact .inr ⟨rfl, rfl⟩
    | succ slots =>
      rcases ih slots with ⟨hok, hkept, hle⟩ | ⟨hpending, hlength⟩
      · exact .inl ⟨hok, hkept, Nat.succ_le_succ hle⟩
      · exact .inr ⟨hpending, congrArg (· + 1) hlength⟩

/-- The same for two priorities. -/
theorem PriorityBuffer.trySend_exhausts {α : Type} (b : PriorityBuffer α) {room : Room}
    (h : room.disconnected = false) :
    (b.trySend room).kept.isEmpty = true ∨
      ((b.trySend room).high ++ (b.trySend room).normal).length = room.slots := by
  obtain ⟨slots, disconnected⟩ := room
  cases h
  unfold trySend
  dsimp only
  rcases Tentacle.trySend_exhausts b.highBuffer slots with ⟨hok, hkept, hle⟩ | ⟨hpending, hlength⟩
  · -- what is left of the room is for the other priority
    rcases Tentacle.trySend_exhausts b.normalBuffer
      (slots - (Tentacle.trySend b.highBuffer ⟨slots, false⟩).sent.length) with
      ⟨hok', hkept', -⟩ | ⟨hpending', hlength'⟩
    · simp only [hok, hok', hkept, hkept']
      exact .inl rfl
    · simp only [hok, hpending', List.length_append, hlength']
      exact .inr (Nat.add_sub_cancel' hle)
  · simp only [hpending, List.append_nil]
    exact .inr hlength

namespace Session

/-! ### A walk -/

/-- Something is in the buffer of a substream. -/
def waiting (s : Session) (id : StreamId) : Bool :=
  !((s.substreams.lookup id).map PriorityBuffer.isEmpty).getD true

/-- A session before channels with some room: each channel that is asked answers for itself. -/
def offered (s : Session) (rooms : StreamId → Room) (ids : List StreamId) : Session :=
  { s with answers := { s.answers with stream := (ids.filter s.waiting).map rooms } }

/-- The room there is for the task of a substream; there is none if it has ended. -/
def roomFor (s : Session) (rooms : StreamId → Room) (id : StreamId) : Room :=
  match s.tasks.lookup id with
  | none => ⟨0, true⟩
  | some task => if task.eventReceiver.isOpen then rooms id else ⟨0, true⟩

variable (rooms : StreamId → Room)

/-- A substream has been served: its task has got what its channel takes.  What is left has
stayed in the buffer, or was cleared because too much is waiting. -/
def Forwarded (s s' : Session) (id : StreamId) : Prop :=
  ∀ buffer, s.substreams.lookup id = some buffer →
    (s'.substreams.lookup id = some (buffer.trySend (s.roomFor rooms id)).kept ∨
      (buffer.trySend (s.roomFor rooms id)).result = .pending ∧
        s'.substreams.lookup id = some .empty) ∧
    ∀ task, s.tasks.lookup id = some task →
      s'.tasks.lookup id = some (deliver task (buffer.trySend (s.roomFor rooms id)).high
        (buffer.trySend (s.roomFor rooms id)).normal)

/-- Nobody has looked at a substream. -/
structure Untouched (s s' : Session) (id : StreamId) : Prop where
  buffer : s'.substreams.lookup id = s.substreams.lookup id
  task : s'.tasks.lookup id = s.tasks.lookup id

/-- The channel of a substream is full before its buffer is empty. -/
def Blocked (s : Session) (id : StreamId) : Prop :=
  ∃ buffer, s.substreams.lookup id = some buffer ∧
    (buffer.trySend (s.roomFor rooms id)).result = .pending

/-- No channel of a substream that comes before this one in the walk is full. -/
def Unhindered (s : Session) (id : StreamId) : Prop :=
  ∀ other ∈ s.walk.take (s.walk.idxOf id), ¬ s.Blocked rooms other

variable {rooms} {s s' s'' : Session} {id : StreamId}

theorem Untouched.trans (h : Untouched s s' id) (h' : Untouched s' s'' id) : Untouched s s'' id :=
  ⟨h'.buffer.trans h.buffer, h'.task.trans h.task⟩

theorem roomFor_of_untouched (h : Untouched s s' id) :
    s'.roomFor rooms id = s.roomFor rooms id := by
  rw [roomFor, roomFor, h.task]

theorem waiting_of_untouched (h : Untouched s s' id) : s'.waiting id = s.waiting id := by
  rw [waiting, waiting, h.buffer]

theorem Forwarded.of_untouched (h : Untouched s s' id) (hf : Forwarded rooms s' s'' id) :
    Forwarded rooms s s'' id := by
  intro buffer hbuffer
  have hserved := hf buffer (h.buffer.trans hbuffer)
  rw [roomFor_of_untouched h, h.task] at hserved
  exact hserved

theorem Forwarded.untouched (hf : Forwarded rooms s s' id) (h : Untouched s' s'' id) :
    Forwarded rooms s s'' id := by
  intro buffer hbuffer
  obtain ⟨hkept, htask⟩ := hf buffer hbuffer
  rw [h.buffer, h.task]
  exact ⟨hkept, htask⟩

theorem blocked_of_untouched (h : Untouched s s' id) :
    Blocked rooms s' id ↔ Blocked rooms s id := by
  rw [Blocked, Blocked, h.buffer, roomFor_of_untouched h]

theorem eq_empty_of_not_waiting {buffer : PriorityBuffer ProtocolEvent}
    (hwaiting : s.waiting id = false) (hbuffer : s.substreams.lookup id = some buffer) :
    buffer = .empty := by
  rw [waiting, hbuffer, Bool.not_eq_false', Option.map_some, Option.getD_some,
    PriorityBuffer.isEmpty, Bool.and_eq_true] at hwaiting
  obtain ⟨high, normal⟩ := buffer
  exact congrArg₂ PriorityBuffer.mk (List.isEmpty_iff.mp hwaiting.1)
    (List.isEmpty_iff.mp hwaiting.2)

/-- An empty buffer is not held up by its channel. -/
theorem not_blocked_of_not_waiting (hwaiting : s.waiting id = false) : ¬ Blocked rooms s id := by
  rintro ⟨buffer, hbuffer, hpending⟩
  obtain rfl := eq_empty_of_not_waiting hwaiting hbuffer
  simp only [PriorityBuffer.empty, PriorityBuffer.trySend, trySend] at hpending
  cases hpending

/-- An empty buffer has been served. -/
theorem forwarded_of_not_waiting (hwaiting : s.waiting id = false) (h : Untouched s s' id) :
    Forwarded rooms s s' id := by
  intro buffer hbuffer
  obtain rfl := eq_empty_of_not_waiting hwaiting hbuffer
  refine ⟨.inl (h.buffer.trans hbuffer), fun task htask => ?_⟩
  rw [h.task, htask]
  simp only [PriorityBuffer.empty, PriorityBuffer.trySend, trySend, deliver, List.append_nil]

/-- One try of a walk: the substream is served, and no other is touched. -/
theorem trySendTo_spec (rest : List Room) (hanswers : s.answers.stream = rooms id :: rest)
    (hid : s.waiting id = true) :
    (s.trySendTo id).2.answers.stream = rest ∧
      Forwarded rooms s (s.trySendTo id).2 id ∧
      (∀ id', id' ≠ id → Untouched s (s.trySendTo id).2 id') ∧
      ((s.trySendTo id).1 = .pending ↔ Blocked rooms s id) := by
  cases hbuffer : s.substreams.lookup id with
  | none =>
    rw [waiting, hbuffer] at hid
    cases hid
  | some buffer =>
    have hblocked : Blocked rooms s id ↔
        (buffer.trySend (s.roomFor rooms id)).result = .pending := by
      rw [Blocked, hbuffer]
      simp only [Option.some.injEq, exists_eq_left']
    rw [hblocked]
    cases htask : s.tasks.lookup id with
    | none =>
      have hroom : s.roomFor rooms id = ⟨0, true⟩ := by rw [roomFor, htask]
      simp only [trySendTo, hbuffer, htask, hanswers]
      refine ⟨rfl, fun b hb => ?_, fun id' hne => ⟨?_, rfl⟩, by rw [hroom]⟩
      · obtain rfl : buffer = b := Option.some.inj (hbuffer.symm.trans hb)
        rw [hroom]
        refine ⟨.inl (AList.lookup_insert _), fun task ht => ?_⟩
        rw [htask] at ht
        cases ht
      · exact AList.lookup_insert_ne hne
    | some task =>
      have hroom : s.roomFor rooms id =
          if task.eventReceiver.isOpen then rooms id else ⟨0, true⟩ := by rw [roomFor, htask]
      simp only [trySendTo, hbuffer, htask, hanswers, List.headD_cons, List.tail_cons]
      rw [← hroom]
      refine ⟨trivial, fun b hb => ?_, fun id' hne => ⟨?_, ?_⟩, Iff.rfl⟩
      · obtain rfl : buffer = b := Option.some.inj (hbuffer.symm.trans hb)
        refine ⟨.inl (AList.lookup_insert _), fun task' ht => ?_⟩
        obtain rfl : task = task' := Option.some.inj (htask.symm.trans ht)
        exact AList.lookup_insert _
      · exact AList.lookup_insert_ne hne
      · exact AList.lookup_insert_ne hne

/-- The buffer before the channel that is full may be cleared. -/
theorem clearBuffer_spec {t : Session} (hf : Forwarded rooms s t id)
    (hblocked : Blocked rooms s id) :
    Forwarded rooms s ((clearBuffer { t with state := .abnormal } id).eventOutput
        (.changeState t.context.id)) id ∧
      ∀ id', id' ≠ id → Untouched t ((clearBuffer { t with state := .abnormal } id).eventOutput
        (.changeState t.context.id)) id' := by
  have houtput : ∀ u : Session, ∀ id',
      Untouched u (u.eventOutput (.changeState t.context.id)) id' :=
    fun _ _ => ⟨rfl, rfl⟩
  have hclear : Forwarded rooms s (clearBuffer { t with state := .abnormal } id) id ∧
      ∀ id', id' ≠ id → Untouched t (clearBuffer { t with state := .abnormal } id) id' := by
    unfold clearBuffer
    cases hbuffer : t.substreams.lookup id with
    | none => exact ⟨hf.untouched ⟨rfl, rfl⟩, fun _ _ => ⟨rfl, rfl⟩⟩
    | some left =>
      refine ⟨fun buffer hb => ⟨.inr ⟨?_, AList.lookup_insert _⟩, (hf buffer hb).2⟩,
        fun id' hne => ⟨AList.lookup_insert_ne hne, rfl⟩⟩
      obtain ⟨b, hlookup, hpending⟩ := hblocked
      obtain rfl : buffer = b := Option.some.inj (hb.symm.trans hlookup)
      exact hpending
  exact ⟨hclear.1.untouched (houtput _ id), fun id' hne => (hclear.2 id' hne).trans (houtput _ id')⟩

/-- The two parts of a walk: what is served, and what is not looked at because the channel of one
that is served is full.  Nothing is served after that one. -/
def Walked (rooms : StreamId → Room) (s s' : Session) (ids : List StreamId) : Prop :=
  ∃ served skipped, ids = served ++ skipped ∧
    (∀ id ∈ served, Forwarded rooms s s' id) ∧
    (∀ id, id ∉ served → Untouched s s' id) ∧
    served.Pairwise (fun id _ => ¬ Blocked rooms s id) ∧
    (skipped ≠ [] → ∃ id ∈ served, Blocked rooms s id)

/-- One substream is served, and then the walk goes on. -/
theorem Walked.cons {ids : List StreamId} (hnew : id ∉ ids) (hforwarded : Forwarded rooms s s' id)
    (hother : ∀ id', id' ≠ id → Untouched s s' id') (hfree : ¬ Blocked rooms s id)
    (h : Walked rooms s' s'' ids) : Walked rooms s s'' (id :: ids) := by
  obtain ⟨served, skipped, hids, hserved, huntouched, hpairwise, hblocked⟩ := h
  have hin : ∀ id' ∈ served, id' ∈ ids := by
    intro id' hmem
    rw [hids]
    exact List.mem_append_left skipped hmem
  -- the rest of the walk sees the same buffers and tasks as before
  have hsame : ∀ id' ∈ served, Untouched s s' id' := by
    intro id' hmem
    exact hother id' fun heq => hnew (heq ▸ hin id' hmem)
  refine ⟨id :: served, skipped, congrArg (id :: ·) hids, ?_, ?_,
    List.pairwise_cons.mpr ⟨fun _ _ => hfree, hpairwise.imp_of_mem fun hmem _ hnot => ?_⟩, ?_⟩
  · intro id' hmem
    rcases List.mem_cons.mp hmem with rfl | hmem
    · exact hforwarded.untouched (huntouched _ fun hmem => hnew (hin _ hmem))
    · exact (hserved id' hmem).of_untouched (hsame id' hmem)
  · intro id' hmem
    obtain ⟨hne, hnot⟩ := not_or.mp (mt List.mem_cons.mpr hmem)
    exact (hother id' hne).trans (huntouched id' hnot)
  · rwa [← blocked_of_untouched (hsame _ hmem)]
  · intro hne
    obtain ⟨id', hmem, hb⟩ := hblocked hne
    exact ⟨id', List.mem_cons_of_mem _ hmem, (blocked_of_untouched (hsame id' hmem)).mp hb⟩

/-- One substream is served, and the walk ends because its channel is full. -/
theorem Walked.stop {ids : List StreamId} (hforwarded : Forwarded rooms s s' id)
    (hother : ∀ id', id' ≠ id → Untouched s s' id') (hblocked : Blocked rooms s id) :
    Walked rooms s s' (id :: ids) := by
  refine ⟨[id], ids, rfl, ?_, ?_, List.pairwise_singleton _ _,
    fun _ => ⟨id, List.mem_singleton_self id, hblocked⟩⟩
  · intro id' hmem
    rw [List.mem_singleton.mp hmem]
    exact hforwarded
  · intro id' hmem
    exact hother id' fun heq => hmem (List.mem_singleton.mpr heq)

/-- **A walk is of two parts.** -/
theorem distributeLoop_spec (ids : List StreamId) (s : Session) (hnodup : ids.Nodup)
    (hanswers : s.answers.stream = (ids.filter s.waiting).map rooms) :
    Walked rooms s (distributeLoop ids s) ids := by
  induction ids generalizing s with
  | nil =>
    exact ⟨[], [], rfl, fun _ hmem => absurd hmem List.not_mem_nil, fun _ _ => ⟨rfl, rfl⟩,
      .nil, fun hne => absurd rfl hne⟩
  | cons id ids ih =>
    obtain ⟨hnew, hrest⟩ := List.nodup_cons.mp hnodup
    cases hwaiting : s.waiting id with
    | false =>
      have hskip : ((s.substreams.lookup id).map PriorityBuffer.isEmpty).getD true = true := by
        rwa [waiting, Bool.not_eq_false'] at hwaiting
      rw [List.filter_cons_of_neg (by rw [hwaiting]; exact Bool.false_ne_true)] at hanswers
      rw [distributeLoop, if_pos hskip]
      exact .cons hnew (forwarded_of_not_waiting hwaiting ⟨rfl, rfl⟩) (fun _ _ => ⟨rfl, rfl⟩)
        (not_blocked_of_not_waiting hwaiting) (ih s hrest hanswers)
    | true =>
      have htry : ((s.substreams.lookup id).map PriorityBuffer.isEmpty).getD true = false := by
        rwa [waiting, Bool.not_eq_true'] at hwaiting
      rw [List.filter_cons_of_pos hwaiting, List.map_cons] at hanswers
      obtain ⟨hleft, hforwarded, hother, hpending⟩ := trySendTo_spec _ hanswers hwaiting
      rw [distributeLoop, if_neg (htry ▸ Bool.false_ne_true)]
      generalize s.trySendTo id = r at hleft hforwarded hother hpending ⊢
      obtain ⟨result, t⟩ := r
      dsimp only at hleft hforwarded hother hpending
      have hfilter : ids.filter t.waiting = ids.filter s.waiting := by
        refine List.filter_congr ?_
        intro id' hmem
        exact waiting_of_untouched (hother id' fun heq => hnew (heq ▸ hmem))
      have hgo : result ≠ .pending → Walked rooms s (distributeLoop ids t) (id :: ids) :=
        fun hne => .cons hnew hforwarded hother (mt hpending.mpr hne)
          (ih t hrest (by rw [hleft, hfilter]))
      cases result with
      | ok => exact hgo SendResult.noConfusion
      | disconnect => exact hgo SendResult.noConfusion
      | pending =>
        have hblocked := hpending.mp rfl
        have hclear := clearBuffer_spec hforwarded hblocked
        dsimp only
        split
        · exact .stop hclear.1 (fun id' hne => (hother id' hne).trans (hclear.2 id' hne)) hblocked
        · exact .stop hforwarded hother hblocked

/-! ### Every substream -/

theorem nodup_walk (s : Session) : s.walk.Nodup := by
  refine List.Nodup.append (List.nodup_dedup _) (s.substreams.nodupKeys.filter _) ?_
  intro id hleft hright
  have horder := List.mem_of_mem_filter (List.mem_dedup.mp hleft)
  have hnot := (List.mem_filter.mp hright).2
  exact absurd horder (of_decide_eq_true hnot)

theorem mem_walk (s : Session) (id : StreamId) : id ∈ s.walk ↔ id ∈ s.substreams := by
  rw [walk, List.mem_append, List.mem_dedup, List.mem_filter, List.mem_filter, decide_eq_true_eq,
    decide_eq_true_eq, AList.mem_keys]
  constructor
  · rintro (⟨-, hmem⟩ | ⟨hmem, -⟩)
    · exact hmem
    · exact hmem
  · intro hmem
    by_cases horder : id ∈ s.answers.order
    · exact .inl ⟨horder, hmem⟩
    · exact .inr ⟨hmem, horder⟩

/-- Who is served stands before the channel that is full. -/
theorem Walked.served_iff {ids pre post : List StreamId} (h : Walked rooms s s' ids)
    (hnodup : ids.Nodup) (hids : ids = pre ++ id :: post) :
    (∀ other ∈ pre, ¬ Blocked rooms s other) ∧ Forwarded rooms s s' id ∨
      (∃ other ∈ pre, Blocked rooms s other) ∧ Untouched s s' id := by
  obtain ⟨served, skipped, hsplit, hserved, huntouched, hpairwise, hblocked⟩ := h
  rw [hsplit] at hids hnodup
  rcases List.append_eq_append_iff.mp hids with ⟨more, hpre, hskipped⟩ | ⟨more, hall, hpost⟩
  · -- it is skipped, and the channel that is full comes before
    have hmem : id ∈ skipped := hskipped ▸ List.mem_append_right _ List.mem_cons_self
    obtain ⟨other, hother, hfull⟩ := hblocked (List.ne_nil_of_mem hmem)
    have hnot : id ∉ served := fun hin => (List.nodup_append.mp hnodup).2.2 id hin id hmem rfl
    exact .inr ⟨⟨other, hpre ▸ List.mem_append_left _ hother, hfull⟩, huntouched id hnot⟩
  · cases more with
    | nil =>
      -- all before it are served, and it is the first that is skipped
      rw [List.append_nil] at hall
      have hmem : id ∈ skipped := (List.nil_append _ ▸ hpost) ▸ List.mem_cons_self
      obtain ⟨other, hother, hfull⟩ := hblocked (List.ne_nil_of_mem hmem)
      have hnot : id ∉ served := fun hin => (List.nodup_append.mp hnodup).2.2 id hin id hmem rfl
      exact .inr ⟨⟨other, hall ▸ hother, hfull⟩, huntouched id hnot⟩
    | cons first more =>
      obtain ⟨rfl, -⟩ := List.cons.inj hpost
      refine .inl ⟨fun other hother => ?_,
        hserved id (hall ▸ List.mem_append_right _ List.mem_cons_self)⟩
      rw [hall] at hpairwise
      exact (List.pairwise_append.mp hpairwise).2.2 other hother id List.mem_cons_self

/-- A channel with room takes something from a buffer that is not empty. -/
theorem deliver_trySend_ne {buffer : PriorityBuffer ProtocolEvent} {room : Room} (task : Substream)
    (hconnected : room.disconnected = false) (hslots : 0 < room.slots)
    (hfull : buffer.isEmpty = false) :
    deliver task (buffer.trySend room).high (buffer.trySend room).normal ≠ task := by
  intro heq
  have hhigh : (buffer.trySend room).high = [] :=
    List.append_right_eq_self.mp (congrArg (·.eventReceiver.high) heq)
  have hnormal : (buffer.trySend room).normal = [] :=
    List.append_right_eq_self.mp (congrArg (·.eventReceiver.normal) heq)
  rcases buffer.trySend_exhausts hconnected with hempty | hlength
  · have hqueue := buffer.queue_trySend hconnected
    have hkept : (buffer.trySend room).kept = buffer := by
      have hsame := fun p => hqueue p
      have h₁ := hsame .high
      have h₂ := hsame .normal
      simp only [PriorityBuffer.Tried.queue, hhigh, hnormal, List.nil_append,
        PriorityBuffer.queue] at h₁ h₂
      exact congrArg₂ PriorityBuffer.mk h₁ h₂
    rw [hkept, hfull] at hempty
    cases hempty
  · rw [hhigh, hnormal] at hlength
    exact absurd hlength.symm (Nat.ne_of_gt hslots)

/-- A session with a message for each of two substreams, and the order of its map. -/
def twoMessages (order : List StreamId) : Session :=
  let s := new 1 [⟨1, "/ping", true, false⟩, ⟨2, "/sync", true, false⟩] (fun _ => none) 1024 16 16
    false
  let s := (s.openProtocol "/ping" "0.0.1").openProtocol "/sync" "0.0.1"
  let s := (s.handleProtocolMessage 1 [1] .normal).handleProtocolMessage 2 [2] .normal
  { s with answers := { s.answers with order } }

/-- The first substream has no room, the others have. -/
def firstFull : StreamId → Room
  | 0 => ⟨0, false⟩
  | _ => ⟨9, false⟩

/-- What is queued for the task of a substream. -/
def inQueue (s : Session) (id : StreamId) : Option (List ProtocolEvent) :=
  (s.tasks.lookup id).map fun task => task.eventReceiver.normal

end Session

end Tentacle
end CkbP2P

import CkbP2P.Tentacle.Buffer

/-!
# The moves of a channel with two queues

Seen from outside, a channel with two priorities is two queues and a flag.  A message is put at
the end of its queue, the first message is taken, all messages are dropped, the flag is cleared,
or nothing happens.  The order of messages, and what happens after the channel is closed, are
facts about these moves, whatever the channel is made of.
-/

namespace CkbP2P
namespace Tentacle

namespace PriorityChannel

variable {α : Type}

/-- All that is queued, with the priorities, in the order it is received. -/
def inOrder (v : PriorityChannel α) : List (Priority × α) :=
  v.high.map (Prod.mk .high) ++ v.normal.map (Prod.mk .normal)

/-- What can be seen of a call. -/
inductive Label (α : Type) where
  | sent (priority : Priority) (msg : α)
  | received (r : Received α)
  | drained (messages : List (Priority × α))
  | silent

/-- **The moves.** -/
inductive Move : PriorityChannel α → Label α → PriorityChannel α → Prop where
  | sent {v : PriorityChannel α} (hopen : v.isOpen = true) (priority : Priority) (msg : α) :
      Move v (.sent priority msg) (v.push priority msg)
  | received (v : PriorityChannel α) : Move v (.received v.next.1) v.next.2
  | drained (v : PriorityChannel α) : Move v (.drained v.inOrder) ⟨[], [], false⟩
  | close (v : PriorityChannel α) : Move v .silent v.close
  | stay (v : PriorityChannel α) : Move v .silent v

/-- The messages of a priority. -/
def only (p : Priority) (messages : List (Priority × α)) : List α :=
  (messages.filter fun m => m.1 = p).map Prod.snd

@[simp] theorem only_nil (p : Priority) : only p ([] : List (Priority × α)) = [] := rfl

@[simp] theorem only_append (p : Priority) (as bs : List (Priority × α)) :
    only p (as ++ bs) = only p as ++ only p bs := by
  simp [only]

theorem only_singleton (p priority : Priority) (msg : α) :
    only p [(priority, msg)] = if priority = p then [msg] else [] := by
  unfold only
  by_cases hp : priority = p <;> simp [hp]

theorem only_map_mk (p priority : Priority) (l : List α) :
    only p (l.map (Prod.mk priority)) = if priority = p then l else [] := by
  induction l with
  | nil => simp
  | cons a l ih =>
    rw [List.map_cons, ← List.singleton_append, only_append, only_singleton, ih]
    split_ifs <;> rfl

theorem only_inOrder (p : Priority) (v : PriorityChannel α) : only p v.inOrder = v.queue p := by
  rw [inOrder, only_append, only_map_mk, only_map_mk]
  cases p <;> simp [queue]

/-- What has happened on a channel. -/
structure History (α : Type) where
  accepted : List (Priority × α)
  received : List (Priority × α)
  discarded : List (Priority × α)
  /-- The end has been reported. -/
  ended : Bool

/-- The history after a call. -/
def History.record (h : History α) : Label α → History α
  | .sent priority msg => { h with accepted := h.accepted ++ [(priority, msg)] }
  | .received (.item priority msg) => { h with received := h.received ++ [(priority, msg)] }
  | .received .ended => { h with ended := true }
  | .received .pending => h
  | .drained messages => { h with discarded := h.discarded ++ messages }
  | .silent => h

/-- **The queues hold what has been accepted and not been received**, in order. -/
structure Tells (h : History α) (v : PriorityChannel α) : Prop where
  fifo : ∀ p, only p h.accepted = only p h.received ++ only p h.discarded ++ v.queue p
  gone : h.discarded = [] ∨ v.isOpen = false ∧ v.high = [] ∧ v.normal = []

variable {v v' : PriorityChannel α} {h : History α} {l : Label α}

theorem eq_done (hhigh : v.high = []) (hnormal : v.normal = []) (hclosed : v.isOpen = false) :
    v = ⟨[], [], false⟩ := by
  obtain ⟨high, normal, isOpen⟩ := v
  subst hhigh hnormal hclosed
  rfl

/-- What `next` finds in empty queues. -/
theorem next_of_empty (hhigh : v.high = []) (hnormal : v.normal = []) :
    v.next = (if v.isOpen then .pending else .ended, v) := by
  unfold next
  rw [hhigh, hnormal]

theorem Tells.next (ht : Tells h v) : Tells (h.record (.received v.next.1)) v.next.2 := by
  cases hnext : v.next with
  | mk r v' =>
    cases r with
    | item priority msg =>
      obtain ⟨hqueue, hother, -⟩ := queue_next_item hnext
      have hdiscarded : h.discarded = [] := by
        rcases ht.gone with hnone | ⟨-, hhigh, hnormal⟩
        · exact hnone
        · rw [next_of_empty hhigh hnormal] at hnext
          cases hopen : v.isOpen <;> simp [hopen] at hnext
      refine ⟨?_, .inl hdiscarded⟩
      intro p
      have hfifo := ht.fifo p
      rw [hdiscarded] at hfifo
      dsimp only [History.record]
      rw [only_append, only_singleton, hfifo, hdiscarded]
      split_ifs with hp
      · subst hp
        simp [hqueue]
      · simp [hother p (Ne.symm hp)]
    | ended =>
      obtain rfl := next_of_not_item hnext nofun
      exact ⟨ht.fifo, ht.gone⟩
    | pending =>
      obtain rfl := next_of_not_item hnext nofun
      exact ht

/-- One move. -/
theorem Tells.move (ht : Tells h v) (hm : Move v l v') : Tells (h.record l) v' := by
  cases hm with
  | sent hopen priority msg =>
    refine ⟨?_, ?_⟩
    · intro p
      dsimp only [History.record]
      rw [only_append, only_singleton, ht.fifo p, queue_push, List.append_assoc]
    · rcases ht.gone with hnone | ⟨hclosed, -⟩
      · exact .inl hnone
      · rw [hopen] at hclosed
        cases hclosed
  | received => exact ht.next
  | drained =>
    refine ⟨?_, .inr ⟨rfl, rfl, rfl⟩⟩
    intro p
    dsimp only [History.record]
    rw [only_append, only_inOrder, ht.fifo p]
    cases p <;> simp [queue]
  | close =>
    refine ⟨?_, ht.gone.imp_right fun hgone => ⟨rfl, hgone.2⟩⟩
    intro p
    have hfifo := ht.fifo p
    cases p <;> exact hfifo
  | stay => exact ht

/-- What is received is what `next` takes. -/
theorem Move.next_eq {r : Received α} (hm : Move v (.received r) v') : v.next = (r, v') := by
  cases hm
  rfl

/-- **After a channel is closed, nothing is accepted**, and it stays closed. -/
theorem Move.closed (hm : Move v l v') (hclosed : v.isOpen = false) :
    v'.isOpen = false ∧ ∀ priority msg, l ≠ .sent priority msg := by
  cases hm with
  | sent hopen priority msg =>
    rw [hopen] at hclosed
    cases hclosed
  | received =>
    refine ⟨?_, nofun⟩
    unfold next
    split <;> exact hclosed
  | drained => exact ⟨rfl, nofun⟩
  | close => exact ⟨rfl, nofun⟩
  | stay => exact ⟨hclosed, nofun⟩

/-- **A normal message is only received when no message of high priority is queued.** -/
theorem high_eq_nil_of_next {msg : α} (h : v.next.1 = .item .normal msg) : v.high = [] := by
  unfold next at h
  split at h
  · cases h
  · next hhigh hnormal => exact hhigh
  · next hhigh hnormal => exact hhigh

/-- **The end is reported exactly when the channel is closed and both queues are empty.** -/
theorem next_eq_ended_iff :
    v.next.1 = .ended ↔ v.isOpen = false ∧ v.high = [] ∧ v.normal = [] := by
  unfold next
  split
  · next hhigh => simp [hhigh]
  · next hhigh hnormal => simp [hnormal]
  · next hhigh hnormal => cases v.isOpen <;> simp [hhigh, hnormal]

theorem isOpen_of_next_eq_pending (h : v.next.1 = .pending) : v.isOpen = true := by
  unfold next at h
  split at h
  · cases h
  · cases h
  · cases hopen : v.isOpen with
    | true => rfl
    | false => simp [hopen] at h

/-- The first message is received first. -/
theorem inOrder_of_next {priority : Priority} {msg : α} (h : v.next = (.item priority msg, v')) :
    v.inOrder = (priority, msg) :: v'.inOrder := by
  unfold next at h
  split at h
  · next hhigh =>
    cases h
    simp [inOrder, hhigh]
  · next hhigh hnormal =>
    cases h
    simp [inOrder, hhigh, hnormal]
  · split_ifs at h <;> cases h

/-- A queue that is not empty gives a message. -/
theorem exists_next_item (h : v.inOrder ≠ []) :
    ∃ priority msg v', v.next = (.item priority msg, v') := by
  obtain ⟨high, normal, isOpen⟩ := v
  cases high with
  | cons a high => exact ⟨.high, a, _, rfl⟩
  | nil =>
    cases normal with
    | cons a normal => exact ⟨.normal, a, _, rfl⟩
    | nil => exact absurd rfl h

end PriorityChannel

end Tentacle
end CkbP2P

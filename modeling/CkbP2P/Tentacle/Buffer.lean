import CkbP2P.Tentacle.Types

/-!
# Channels and the buffers before them

Tasks talk through bounded channels.  A task that must not wait keeps what it cannot send
in a buffer and tries again on its next poll.  How many messages a channel takes at a time
and whether the receiver is gone is up to the outside, and given with each try as a `Room`.
-/

namespace CkbP2P
namespace Tentacle

variable {α : Type}

inductive Priority where
  | high
  | normal
  deriving DecidableEq, Repr

/-- The total weight of a list of messages. -/
def weigh (w : α → ℕ) (messages : List α) : ℕ := (messages.map w).sum

@[simp] theorem weigh_nil (w : α → ℕ) : weigh w [] = 0 := rfl

@[simp] theorem weigh_cons (w : α → ℕ) (a : α) (as : List α) :
    weigh w (a :: as) = w a + weigh w as := List.sum_cons

@[simp] theorem weigh_append (w : α → ℕ) (as bs : List α) :
    weigh w (as ++ bs) = weigh w as + weigh w bs := by
  rw [weigh, List.map_append, List.sum_append]
  rfl

/-! ### Channels -/

/-- The queue of a channel with two priorities. -/
structure PriorityChannel (α : Type) where
  high : List α
  normal : List α
  isOpen : Bool
  deriving DecidableEq, Repr

namespace PriorityChannel

def empty : PriorityChannel α := { high := [], normal := [], isOpen := true }

def push (c : PriorityChannel α) : Priority → α → PriorityChannel α
  | .high, a => { c with high := c.high ++ [a] }
  | .normal, a => { c with normal := c.normal ++ [a] }

def close (c : PriorityChannel α) : PriorityChannel α := { c with isOpen := false }

/-- What `poll_next` of a receiver gives. -/
inductive Received (α : Type) where
  | item (priority : Priority) (a : α)
  | ended
  | pending

/-- `next_message`: high priority first. -/
def next (c : PriorityChannel α) : Received α × PriorityChannel α :=
  match c.high, c.normal with
  | a :: as, _ => (.item .high a, { c with high := as })
  | [], a :: as => (.item .normal a, { c with normal := as })
  | [], [] => (if c.isOpen then .pending else .ended, c)

/-- All that is queued. -/
def toList (c : PriorityChannel α) : List α := c.high ++ c.normal

/-- The queue of a priority. -/
def queue (c : PriorityChannel α) : Priority → List α
  | .high => c.high
  | .normal => c.normal

theorem queue_push (c : PriorityChannel α) (priority : Priority) (a : α) (p : Priority) :
    (c.push priority a).queue p = c.queue p ++ if priority = p then [a] else [] := by
  cases priority <;> cases p <;> simp [push, queue]

/-- What is taken from a channel is the first of its priority; the other queue stays. -/
theorem queue_next_item {c c' : PriorityChannel α} {priority : Priority}
    {a : α} (h : c.next = (.item priority a, c')) :
    c.queue priority = a :: c'.queue priority ∧
      (∀ p, p ≠ priority → c'.queue p = c.queue p) ∧ c'.isOpen = c.isOpen := by
  obtain ⟨high, normal, isOpen⟩ := c
  cases high with
  | cons b high =>
    cases h
    refine ⟨rfl, ?_, rfl⟩
    intro p hp
    cases p with
    | high => exact absurd rfl hp
    | normal => rfl
  | nil =>
    cases normal with
    | cons b normal =>
      cases h
      refine ⟨rfl, ?_, rfl⟩
      intro p hp
      cases p with
      | high => rfl
      | normal => exact absurd rfl hp
    | nil => cases isOpen <;> cases h

theorem next_of_not_item {c c' : PriorityChannel α}
    {r : Received α} (h : c.next = (r, c'))
    (hitem : ∀ priority a, r ≠ .item priority a) : c' = c := by
  unfold next at h
  split at h
  · cases h
    exact absurd rfl (hitem _ _)
  · cases h
    exact absurd rfl (hitem _ _)
  · cases h
    rfl

end PriorityChannel

/-! ### Buffers -/

/-- What a channel answers to a row of sends: it takes `slots` messages, and for the next
one it is full, or its receiver is gone. -/
structure Room where
  slots : ℕ
  disconnected : Bool
  deriving DecidableEq, Repr

inductive SendResult where
  | ok
  | pending
  | disconnect
  deriving DecidableEq, Repr

/-- The result of a try to send.  What is dropped with a receiver that is gone is noted. -/
structure Tried (α : Type) where
  sent : List α
  kept : List α
  dropped : List α
  result : SendResult

/-- `Buffer::try_send`. -/
def trySend : List α → Room → Tried α
  | [], _ => ⟨[], [], [], .ok⟩
  | event :: buffer, ⟨0, disconnected⟩ =>
    if disconnected then ⟨[], [], event :: buffer, .disconnect⟩
    else ⟨[], event :: buffer, [], .pending⟩
  | event :: buffer, ⟨slots + 1, disconnected⟩ =>
    let r := trySend buffer ⟨slots, disconnected⟩
    { r with sent := event :: r.sent }

/-- What is tried is sent, kept, or dropped. -/
theorem weigh_trySend (w : α → ℕ) (buffer : List α) (room : Room) :
    weigh w (trySend buffer room).sent + weigh w (trySend buffer room).kept +
      weigh w (trySend buffer room).dropped = weigh w buffer := by
  obtain ⟨slots, disconnected⟩ := room
  induction buffer generalizing slots with
  | nil => rfl
  | cons event buffer ih =>
    cases slots with
    | zero => cases disconnected <;> simp [trySend]
    | succ slots =>
      have h := ih slots
      simp only [trySend, weigh_cons]
      omega

/-- A channel that is connected drops nothing. -/
theorem trySend_connected (buffer : List α) (slots : ℕ) :
    (trySend buffer ⟨slots, false⟩).sent ++ (trySend buffer ⟨slots, false⟩).kept = buffer ∧
      (trySend buffer ⟨slots, false⟩).result ≠ .disconnect := by
  induction buffer generalizing slots with
  | nil => exact ⟨rfl, SendResult.noConfusion⟩
  | cons event buffer ih =>
    cases slots with
    | zero => exact ⟨rfl, SendResult.noConfusion⟩
    | succ slots => exact ⟨congrArg (List.cons event) (ih slots).1, (ih slots).2⟩

/-- The messages kept before a channel with two priorities. -/
structure PriorityBuffer (α : Type) where
  highBuffer : List α
  normalBuffer : List α
  deriving DecidableEq, Repr

namespace PriorityBuffer

def empty : PriorityBuffer α := { highBuffer := [], normalBuffer := [] }

def isEmpty (b : PriorityBuffer α) : Bool := b.highBuffer.isEmpty && b.normalBuffer.isEmpty

/-- `push_high` and `push_normal`. -/
def push (b : PriorityBuffer α) : Priority → α → PriorityBuffer α
  | .high, a => { b with highBuffer := b.highBuffer ++ [a] }
  | .normal, a => { b with normalBuffer := b.normalBuffer ++ [a] }

def toList (b : PriorityBuffer α) : List α := b.highBuffer ++ b.normalBuffer

/-- The buffer of a priority. -/
def queue (b : PriorityBuffer α) : Priority → List α
  | .high => b.highBuffer
  | .normal => b.normalBuffer

/-- The result of `try_send`: what is sent with high and with normal priority, the buffer
that is left, and what is dropped. -/
structure Tried (α : Type) where
  high : List α
  normal : List α
  kept : PriorityBuffer α
  dropped : List α
  result : SendResult

/-- `try_send`. -/
def trySend (b : PriorityBuffer α) (room : Room) : Tried α :=
  let high := Tentacle.trySend b.highBuffer room
  match high.result with
  | .pending => ⟨high.sent, [], { b with highBuffer := high.kept }, high.dropped, .pending⟩
  | .disconnect => ⟨high.sent, [], .empty, high.kept ++ high.dropped ++ b.normalBuffer, .disconnect⟩
  | .ok =>
    let normal :=
      Tentacle.trySend b.normalBuffer ⟨room.slots - high.sent.length, room.disconnected⟩
    match normal.result with
    | .disconnect =>
      ⟨high.sent, normal.sent, .empty, high.kept ++ high.dropped ++ normal.kept ++ normal.dropped,
        .disconnect⟩
    | result =>
      ⟨high.sent, normal.sent, ⟨high.kept, normal.kept⟩, high.dropped ++ normal.dropped, result⟩

/-- What is tried is sent, kept, or dropped. -/
theorem weigh_trySend (w : α → ℕ) (b : PriorityBuffer α) (room : Room) :
    weigh w (b.trySend room).high + weigh w (b.trySend room).normal +
      weigh w (b.trySend room).kept.toList + weigh w (b.trySend room).dropped
      = weigh w b.toList := by
  have hhigh := Tentacle.weigh_trySend w b.highBuffer room
  have hnormal := Tentacle.weigh_trySend w b.normalBuffer
    ⟨room.slots - (Tentacle.trySend b.highBuffer room).sent.length, room.disconnected⟩
  -- Each case is a rearrangement of the two splits.
  unfold trySend
  dsimp only
  split
  · simp only [toList, weigh_append, weigh_nil]
    omega
  · simp only [toList, empty, weigh_append, weigh_nil]
    omega
  · split
    · simp only [toList, empty, weigh_append, weigh_nil]
      omega
    · simp only [toList, weigh_append]
      omega

/-- What is sent with a priority. -/
def Tried.queue (r : Tried α) : Priority → List α
  | .high => r.high
  | .normal => r.normal

/-- A channel that is connected takes the beginning of each buffer. -/
theorem queue_trySend (b : PriorityBuffer α) {room : Room} (h : room.disconnected = false)
    (p : Priority) :
    (b.trySend room).queue p ++ (b.trySend room).kept.queue p = b.queue p := by
  obtain ⟨slots, disconnected⟩ := room
  cases h
  have hhigh := trySend_connected b.highBuffer slots
  unfold trySend
  dsimp only
  split
  · cases p with
    | high => exact hhigh.1
    | normal => rfl
  · next hgone => exact absurd hgone hhigh.2
  · have hnormal := trySend_connected b.normalBuffer
      (slots - (Tentacle.trySend b.highBuffer ⟨slots, false⟩).sent.length)
    split
    · next hgone => exact absurd hgone hnormal.2
    · cases p with
      | high => exact hhigh.1
      | normal => exact hnormal.1

/-- A receiver that is gone takes nothing. -/
theorem trySend_gone (b : PriorityBuffer α) :
    (b.trySend ⟨0, true⟩).high = [] ∧ (b.trySend ⟨0, true⟩).normal = [] := by
  have h : ∀ l : List α, (Tentacle.trySend l ⟨0, true⟩).sent = [] := by
    intro l
    cases l <;> rfl
  unfold trySend
  dsimp only
  split
  · exact ⟨h _, rfl⟩
  · exact ⟨h _, rfl⟩
  · rw [h, List.length_nil]
    split
    · exact ⟨rfl, h _⟩
    · exact ⟨rfl, h _⟩

end PriorityBuffer

end Tentacle
end CkbP2P

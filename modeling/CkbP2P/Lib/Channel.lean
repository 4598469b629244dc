import Mathlib.Data.List.Basic

/-!
# A bounded single-producer channel

The channel asynchronous tasks hand messages through: a FIFO queue whose sender
parks itself once the queue is longer than its buffer, and is unparked by the
next receive.  The message that fills the buffer is still accepted, so a sender
that polls for readiness first never has a message bounced.

* `Channel.pollReady`, `Channel.trySend` — the sender's side.
* `Channel.pollNext` — the receiver's side; `terminated` records that it has
  reported the end.
* `Channel.closeSender`, `Channel.dropReceiver` — the ends going away.
-/

namespace CkbP2P
namespace Lib

/-- The answer of a poll function. -/
inductive Poll (α : Type*) where
  | ready (a : α)
  | pending
  deriving DecidableEq, Repr

/-- A bounded channel. -/
structure Channel (α : Type*) where
  /-- Queue length from which on the sender parks. -/
  buffer : ℕ
  queue : List α
  /-- The sender waits for a receive. -/
  parked : Bool
  /-- The sender has been dropped. -/
  senderGone : Bool
  /-- The receiver has been dropped. -/
  receiverGone : Bool
  /-- The receiver has reported the end of the channel. -/
  terminated : Bool
  deriving DecidableEq, Repr

/-- Why a message was not accepted. -/
inductive SendError where
  | full
  | disconnected
  deriving DecidableEq, Repr

namespace Channel

variable {α : Type*}

/-- A fresh channel. -/
def new (α : Type*) (buffer : ℕ) : Channel α :=
  { buffer, queue := [], parked := false, senderGone := false, receiverGone := false,
    terminated := false }

/-- Whether the sender may send: an error when the receiver is gone. -/
def pollReady (c : Channel α) : Poll (Except SendError Unit) :=
  if c.receiverGone then .ready (.error .disconnected)
  else if c.parked then .pending
  else .ready (.ok ())

/-- Accept `a`, and park when the queue is then longer than the buffer. -/
def push (c : Channel α) (a : α) : Channel α :=
  { c with queue := c.queue ++ [a], parked := decide (c.buffer < c.queue.length + 1) }

/-- Send without waiting. -/
def trySend (c : Channel α) (a : α) : Except SendError (Channel α) :=
  if c.parked then .error .full
  else if c.receiverGone then .error .disconnected
  else .ok (c.push a)

/-- Take the first message, which unparks the sender. -/
def pop (c : Channel α) : Channel α := { c with queue := c.queue.tail, parked := false }

/-- The receiver's poll. -/
def pollNext (c : Channel α) : Channel α × Poll (Option α) :=
  match c.queue with
  | a :: _ => (c.pop, .ready (some a))
  | [] => if c.senderGone then ({ c with terminated := true }, .ready none) else (c, .pending)

/-- The sender is dropped. -/
def closeSender (c : Channel α) : Channel α := { c with senderGone := true }

/-- The receiver is dropped, and the queue with it. -/
def dropReceiver (c : Channel α) : Channel α := { c with queue := [], receiverGone := true }

@[simp] theorem queue_push (c : Channel α) (a : α) : (c.push a).queue = c.queue ++ [a] := rfl

@[simp] theorem queue_pop (c : Channel α) : c.pop.queue = c.queue.tail := rfl

@[simp] theorem queue_closeSender (c : Channel α) : c.closeSender.queue = c.queue := rfl

@[simp] theorem queue_dropReceiver (c : Channel α) : c.dropReceiver.queue = [] := rfl

@[simp] theorem queue_new (n : ℕ) : (new α n).queue = [] := rfl

/-- An empty channel reports its end once the sender is gone. -/
theorem pollNext_of_nil {c : Channel α} (hq : c.queue = []) :
    c.pollNext =
      if c.senderGone then ({ c with terminated := true }, .ready none) else (c, .pending) := by
  unfold pollNext
  split
  · next a as heq => rw [hq] at heq; cases heq
  · rfl

/-- Receiving leaves the two ends where they are. -/
theorem receiverGone_pollNext (c : Channel α) : c.pollNext.1.receiverGone = c.receiverGone := by
  unfold pollNext
  split
  · rfl
  · split_ifs <;> rfl

/-- **A ready sender is not bounced.** -/
theorem trySend_of_pollReady {c : Channel α} (h : c.pollReady = .ready (.ok ())) (a : α) :
    c.trySend a = .ok (c.push a) := by
  unfold pollReady at h
  unfold trySend
  split_ifs at h with hr hp
  · cases h
  · rw [if_neg hp, if_neg hr]

end Channel

end Lib
end CkbP2P

import Mathlib.Data.List.AList
import Mathlib.Data.List.Nodup
import Mathlib.Data.List.Perm.Basic
import CkbP2P.Lib.Entries
import CkbP2P.Lib.Run

/-!
# The timers of protocol handlers

A handler, at service level or at session level, can be notified at intervals.  Each interval is
registered under a token.  A timer is a task of its own: it sleeps for the interval and then puts
its token into a queue.  When the handler's task finds the token there, it notifies the handler
and starts the next timer, if the token is still registered.

A timer cannot be stopped.  A token that is registered twice has two timers from then on, each
with its successors; a token that is removed is notified once more.  Neither happens as long as
tokens are only registered and removed while they have no timer.
-/

namespace CkbP2P
namespace Tentacle

open Lib

abbrev Token := UInt64

/-- The part of a handler's task that is about timers.  Intervals are in nanoseconds. -/
structure NotifyTimers where
  notify : AList fun _ : Token => ℕ
  /-- The timers that are asleep. -/
  timers : List (Token × ℕ)
  /-- The tokens in the queue of `notify_receiver`. -/
  expired : List Token

/-- The events of a handler that are about timers. -/
inductive NotifyEvent where
  | notify (token : Token)
  | setNotify (interval : ℕ) (token : Token)
  | removeNotify (token : Token)

def NotifyEvent.token : NotifyEvent → Token
  | .notify token | .setNotify _ token | .removeNotify token => token

/-- The flags that are read before an event is handled. -/
structure Seen where
  shutdown : Bool
  /-- The session of a handler at session level is closed. -/
  closed : Bool

/-- Neither flag is set. -/
def Seen.none : Seen := { shutdown := false, closed := false }

namespace NotifyTimers

def new : NotifyTimers := { notify := ∅, timers := [], expired := [] }

/-- `set_notify`. -/
def setNotify (s : NotifyTimers) (token : Token) : NotifyTimers :=
  match s.notify.lookup token with
  | some interval => { s with timers := s.timers ++ [(token, interval)] }
  | none => s

/-- The match of `handle_event`, with the tokens the handler is notified of. -/
def dispatch (s : NotifyTimers) : NotifyEvent → NotifyTimers × List Token
  | .notify token => (s.setNotify token, [token])
  | .setNotify interval token =>
    let notify := if token ∈ s.notify then s.notify else s.notify.insert token interval
    ({ s with notify }.setNotify token, [])
  | .removeNotify token => ({ s with notify := s.notify.erase token }, [])

/-- `ServiceProtocolStream::handle_event`. -/
def serviceHandleEvent (s : NotifyTimers) (seen : Seen) (event : NotifyEvent) :
    NotifyTimers × List Token :=
  if seen.shutdown then (s, []) else s.dispatch event

/-- `SessionProtocolStream::handle_event`: when the session is closed, every event is taken for
the disconnection. -/
def sessionHandleEvent (s : NotifyTimers) (seen : Seen) (event : NotifyEvent) :
    NotifyTimers × List Token :=
  if seen.shutdown then (s, [])
  else if seen.closed then (s, [])
  else s.dispatch event

/-- The tokens that have a timer, asleep or in the queue. -/
def pending (s : NotifyTimers) : List Token := s.timers.map Prod.fst ++ s.expired

end NotifyTimers

inductive Level where
  | service
  | session
  deriving DecidableEq

def Level.handleEvent : Level → NotifyTimers → Seen → NotifyEvent → NotifyTimers × List Token
  | .service => NotifyTimers.serviceHandleEvent
  | .session => NotifyTimers.sessionHandleEvent

namespace NotifyTimers

/-- What can happen. -/
inductive Label where
  | setNotify (seen : Seen) (interval : ℕ) (token : Token)
  | removeNotify (seen : Seen) (token : Token)
  /-- The interval of a timer is over. -/
  | expire (n : ℕ)
  /-- The task takes a token from the queue. -/
  | notified (seen : Seen)

/-- The interval of a timer is over. -/
def expire (s : NotifyTimers) (n : ℕ) : NotifyTimers :=
  match s.timers[n]? with
  | some (token, _) => { s with timers := s.timers.eraseIdx n, expired := s.expired ++ [token] }
  | none => s

def step (level : Level) (s : NotifyTimers) : Label → NotifyTimers × List Token
  | .setNotify seen interval token => level.handleEvent s seen (.setNotify interval token)
  | .removeNotify seen token => level.handleEvent s seen (.removeNotify token)
  | .expire n => (s.expire n, [])
  | .notified seen =>
    match s.expired with
    | token :: expired => level.handleEvent { s with expired } seen (.notify token)
    | [] => (s, [])

/-- Only tokens without a timer are registered or removed. -/
def Fresh (s : NotifyTimers) : Label → Prop
  | .setNotify _ _ token => token ∉ s.pending
  | .removeNotify _ token => token ∉ s.pending
  | .expire _ | .notified _ => True

instance (s : NotifyTimers) (l : Label) : Decidable (s.Fresh l) :=
  match l with
  | .setNotify _ _ token => inferInstanceAs (Decidable (token ∉ s.pending))
  | .removeNotify _ token => inferInstanceAs (Decidable (token ∉ s.pending))
  | .expire _ | .notified _ => inferInstanceAs (Decidable True)

/-- An event is ignored or it is dispatched, at both levels. -/
theorem handleEvent_cases (level : Level) (s : NotifyTimers) (seen : Seen) (event : NotifyEvent) :
    level.handleEvent s seen event = (s, []) ∨
      level.handleEvent s seen event = s.dispatch event := by
  cases level with
  | service =>
    simp only [Level.handleEvent, serviceHandleEvent]
    split
    · exact .inl rfl
    · exact .inr rfl
  | session =>
    simp only [Level.handleEvent, sessionHandleEvent]
    split
    · exact .inl rfl
    · split
      · exact .inl rfl
      · exact .inr rfl

/-! ### The invariant -/

/-- Each token has one timer at most, and is registered if it has one. -/
structure Inv (s : NotifyTimers) : Prop where
  nodup : s.pending.Nodup
  registered : ∀ token ∈ s.pending, token ∈ s.notify

variable {s : NotifyTimers} {token : Token}

/-- A timer for a token that has none. -/
theorem inv_setNotify (h : s.Inv) (hfresh : token ∉ s.pending) : (s.setNotify token).Inv := by
  unfold setNotify
  cases hlookup : s.notify.lookup token with
  | none => exact h
  | some interval =>
    -- the new timer stands between the old ones and the queue
    have hperm : (pending { s with timers := s.timers ++ [(token, interval)] }).Perm
        (token :: s.pending) := by
      simp only [pending, List.map_append, List.map_cons, List.map_nil, List.append_assoc,
        List.singleton_append]
      exact List.perm_middle
    refine ⟨hperm.nodup_iff.mpr (List.nodup_cons.mpr ⟨hfresh, h.nodup⟩), fun t ht => ?_⟩
    rcases List.mem_cons.mp (hperm.mem_iff.mp ht) with rfl | ht
    · exact mem_of_lookup_eq_some hlookup
    · exact h.registered t ht

theorem inv_register (h : s.Inv) (interval : ℕ) :
    Inv { s with
      notify := if token ∈ s.notify then s.notify else s.notify.insert token interval } := by
  refine ⟨h.nodup, fun t ht => ?_⟩
  dsimp only
  split
  · exact h.registered t ht
  · exact (AList.mem_insert _).mpr (.inr (h.registered t ht))

/-- **One event**, for a token that has no timer. -/
theorem inv_dispatch (h : s.Inv) {event : NotifyEvent} (hfresh : event.token ∉ s.pending) :
    (s.dispatch event).1.Inv := by
  cases event with
  | notify token => exact inv_setNotify h hfresh
  | setNotify interval token => exact inv_setNotify (inv_register h interval) hfresh
  | removeNotify token =>
    refine ⟨h.nodup, fun t ht => AList.mem_erase.mpr ⟨?_, h.registered t ht⟩⟩
    rintro rfl
    exact hfresh ht

theorem inv_handleEvent (level : Level) (h : s.Inv) (seen : Seen) {event : NotifyEvent}
    (hfresh : event.token ∉ s.pending) : (level.handleEvent s seen event).1.Inv := by
  rcases handleEvent_cases level s seen event with hignored | htaken
  · rw [hignored]
    exact h
  · rw [htaken]
    exact inv_dispatch h hfresh

/-- A timer that expires goes to the queue. -/
theorem inv_expire (h : s.Inv) (n : ℕ) : (s.expire n).Inv := by
  unfold expire
  cases hget : s.timers[n]? with
  | none => exact h
  | some timer =>
    obtain ⟨token, interval⟩ := timer
    obtain ⟨hn, hval⟩ := List.getElem?_eq_some_iff.mp hget
    have hperm : (pending { s with
        timers := s.timers.eraseIdx n, expired := s.expired ++ [token] }).Perm s.pending := by
      have hout := (List.getElem_cons_eraseIdx_perm hn).map Prod.fst
      rw [hval, List.map_cons] at hout
      calc (s.timers.eraseIdx n).map Prod.fst ++ (s.expired ++ [token])
          _ = (s.timers.eraseIdx n).map Prod.fst ++ s.expired ++ [token] :=
            (List.append_assoc _ _ _).symm
          _ |>.Perm (token :: ((s.timers.eraseIdx n).map Prod.fst ++ s.expired)) :=
            List.perm_append_singleton _ _
          _ |>.Perm s.pending := hout.append_right s.expired
    exact ⟨hperm.nodup_iff.mpr h.nodup, fun t ht => h.registered t (hperm.mem_iff.mp ht)⟩

/-- A token that is taken from the queue has no timer any more. -/
theorem inv_taken {expired : List Token} (h : s.Inv) (heq : s.expired = token :: expired) :
    Inv { s with expired } ∧ token ∉ pending { s with expired } := by
  have hperm : s.pending.Perm (token :: pending { s with expired }) := by
    simp only [pending, heq]
    exact List.perm_middle
  obtain ⟨hfresh, hnodup⟩ := List.nodup_cons.mp (hperm.nodup_iff.mp h.nodup)
  refine ⟨⟨hnodup, ?_⟩, hfresh⟩
  intro t ht
  exact h.registered t (hperm.mem_iff.mpr (List.mem_cons_of_mem token ht))

theorem inv_step (level : Level) {l : Label} (h : s.Inv) (hfresh : s.Fresh l) :
    (s.step level l).1.Inv := by
  cases l with
  | setNotify seen interval token => exact inv_handleEvent level h seen hfresh
  | removeNotify seen token => exact inv_handleEvent level h seen hfresh
  | expire n => exact inv_expire h n
  | notified seen =>
    simp only [step]
    split
    case _ token expired heq =>
      obtain ⟨hrest, hgone⟩ := inv_taken h heq
      exact inv_handleEvent level hrest seen hgone
    case _ => exact h

/-- A token is notified when it is taken from the queue. -/
theorem mem_expired_of_step {level : Level} {l : Label} (h : token ∈ (s.step level l).2) :
    token ∈ s.expired := by
  -- of the events only `notify` calls the handler, with its own token
  have hevent : ∀ (s' : NotifyTimers) (seen : Seen) (event : NotifyEvent),
      token ∈ (level.handleEvent s' seen event).2 → event = .notify token := by
    intro s' seen event hmem
    rcases handleEvent_cases level s' seen event with hignored | htaken
    · rw [hignored] at hmem
      exact absurd hmem List.not_mem_nil
    · rw [htaken] at hmem
      cases event with
      | notify t => rw [List.mem_singleton.mp hmem]
      | setNotify interval t => exact absurd hmem List.not_mem_nil
      | removeNotify t => exact absurd hmem List.not_mem_nil
  cases l with
  | setNotify seen interval t => cases hevent _ _ _ h
  | removeNotify seen t => cases hevent _ _ _ h
  | expire n => exact absurd h List.not_mem_nil
  | notified seen =>
    simp only [step] at h
    split at h
    case _ t expired heq =>
      cases hevent _ _ _ h
      rw [heq]
      exact List.mem_cons_self
    case _ => exact absurd h List.not_mem_nil

/-! ### Runs -/

/-- A handler with its notifications so far: the token, and whether it was registered. -/
structure Watched where
  timers : NotifyTimers
  calls : List (Token × Bool)

namespace Watched

def new : Watched := { timers := NotifyTimers.new, calls := [] }

def step (level : Level) (x : Watched) (l : Label) : Watched :=
  let (timers, notified) := x.timers.step level l
  { timers
    calls := x.calls ++ notified.map fun token => (token, decide (token ∈ x.timers.notify)) }

/-- The invariant, and every notification was for a token that was registered. -/
structure Inv (x : Watched) : Prop where
  timers : x.timers.Inv
  calls : ∀ call ∈ x.calls, call.2 = true

theorem inv_new : new.Inv :=
  ⟨⟨List.nodup_nil, fun _ h => absurd h List.not_mem_nil⟩, fun _ h => absurd h List.not_mem_nil⟩

theorem inv_step (level : Level) (x : Watched) (l : Label) (h : x.Inv) (hfresh : x.timers.Fresh l) :
    (x.step level l).Inv := by
  refine ⟨NotifyTimers.inv_step level h.timers hfresh, fun call hcall => ?_⟩
  rcases List.mem_append.mp hcall with hold | hnew
  · exact h.calls call hold
  · obtain ⟨token, htoken, rfl⟩ := List.mem_map.mp hnew
    -- The token stood in the queue, and what stands there is registered.
    have hqueue := mem_expired_of_step htoken
    exact decide_eq_true (h.timers.registered token (List.mem_append_right _ hqueue))

end Watched

/-- **One timer for each token, and only registered tokens are notified**, at every moment and at
both levels, if only tokens without a timer are registered or removed. -/
theorem notified_registered (level : Level) (labels : List Label)
    (h : Guarded (Watched.step level) (fun x l => x.timers.Fresh l) Watched.new labels) :
    Throughout (Watched.step level)
      (fun x => (∀ token, x.timers.pending.count token ≤ 1) ∧ ∀ call ∈ x.calls, call.2 = true)
      Watched.new labels := by
  have hinv := throughout_of_guarded (Watched.inv_step level) Watched.inv_new h
  refine hinv.mono ?_
  intro x hx
  exact ⟨List.nodup_iff_count_le_one.mp hx.timers.nodup, hx.calls⟩

theorem notified_registered_twice :
    Throughout (Watched.step .session)
      (fun x => (∀ token, x.timers.pending.count token ≤ 1) ∧ ∀ call ∈ x.calls, call.2 = true)
      Watched.new
      [.setNotify .none 10 5, .setNotify .none 20 7, .expire 0, .notified .none, .expire 1] :=
  notified_registered .session _ (by decide +kernel)

/-- A token that is registered twice, with different intervals. -/
def setTwice : List Label := [.setNotify .none 10 5, .setNotify .none 20 5]

/-- A token that is removed before its timer expires. -/
def setAndRemoved : List Label :=
  [.setNotify .none 10 5, .removeNotify .none 5, .expire 0, .notified .none]

/-- **Two timers, and a notification for a removed token**, at both levels. -/
theorem notified_twice_or_removed :
    (runFrom (Watched.step .service) Watched.new setTwice).timers.timers = [(5, 10), (5, 10)] ∧
      (runFrom (Watched.step .session) Watched.new setTwice).timers.timers = [(5, 10), (5, 10)] ∧
      (runFrom (Watched.step .service) Watched.new setAndRemoved).calls = [(5, false)] ∧
      (runFrom (Watched.step .session) Watched.new setAndRemoved).calls = [(5, false)] := by
  decide +kernel

end NotifyTimers

end Tentacle
end CkbP2P

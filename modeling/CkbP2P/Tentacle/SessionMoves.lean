import Mathlib.Logic.Relation
import CkbP2P.Tentacle.Session

/-!
# The moves of a session

A poll of a session is a sequence of small moves: it tries to send from the buffer of a
substream, puts a command into one, clears or drops one, or does something that does not
concern the substreams.  Between these moves it opens at most one substream, and routes at
most one message to a substream.  What holds of all moves, of an opening and of a routing
holds of the poll.
-/

namespace CkbP2P
namespace Tentacle

open Lib Relation

namespace Session

/-! ### Moves -/

/-- What is done does not concern the substreams: nothing is routed to them that was not
before, and the queue of the service is taken from at most. -/
structure Undisturbed (s s' : Session) : Prop where
  tasks : s'.tasks = s.tasks
  substreams : s'.substreams = s.substreams
  nextStream : s'.nextStream = s.nextStream
  id : s'.context.id = s.context.id
  closed : s.context.closed = true → s'.context.closed = true
  state : s.state ≠ .normal → s'.state ≠ .normal
  rooms : s'.answers.stream = s.answers.stream
  routes : ∀ protoId id, s'.protoStreams.lookup protoId = some id →
    s.protoStreams.lookup protoId = some id
  inputs : ∀ p, (s'.serviceReceiver.queue p).Sublist (s.serviceReceiver.queue p)
  sending : s'.sending = s.sending

/-- One move. -/
inductive Move : Session → Session → Prop
  | other {s s' : Session} (same : Undisturbed s s') : Move s s'
  /-- What is in the buffer of a substream is sent, as far as it can be. -/
  | send (s : Session) (id : StreamId) : Move s (s.trySendTo id).2
  /-- A substream is told to close. -/
  | command {s : Session} {id : StreamId} {buffer : PriorityBuffer ProtocolEvent}
      (protoId : ProtocolId) (hbuffer : s.substreams.lookup id = some buffer) :
    Move s { s with substreams := s.substreams.insert id (buffer.push .high (.close id protoId)) }
  /-- A session that is closing drops what is in a buffer. -/
  | clear (s : Session) (id : StreamId) (hstate : s.state ≠ .normal) : Move s (s.clearBuffer id)
  /-- A substream is dropped. -/
  | drop (s : Session) (id : StreamId) : Move s (s.dropSubstream id)

/-- A sequence of moves. -/
abbrev Moves : Session → Session → Prop := ReflTransGen Move

theorem Undisturbed.moves {s s' : Session} (h : Undisturbed s s') : Moves s s' :=
  ReflTransGen.single (.other h)

/-- Nothing that matters is changed. -/
theorem undisturbed_of_eq {s s' : Session} (htasks : s'.tasks = s.tasks)
    (hsubstreams : s'.substreams = s.substreams) (hnext : s'.nextStream = s.nextStream)
    (hcontext : s'.context = s.context) (hstate : s.state ≠ .normal → s'.state ≠ .normal)
    (hrooms : s'.answers.stream = s.answers.stream) (hroutes : s'.protoStreams = s.protoStreams)
    (hinputs : s'.serviceReceiver = s.serviceReceiver) (hsending : s'.sending = s.sending) :
    Undisturbed s s' where
  tasks := htasks
  substreams := hsubstreams
  nextStream := hnext
  id := by rw [hcontext]
  closed := by
    rw [hcontext]
    exact id
  state := hstate
  rooms := hrooms
  routes := by
    rw [hroutes]
    exact fun _ _ h => h
  inputs := by
    intro p
    rw [hinputs]
  sending := hsending

/-- Only an opening takes a new id. -/
theorem nextStream_moves {s s' : Session} (hmoves : Moves s s') : s'.nextStream = s.nextStream := by
  have hclear : ∀ (s : Session) (id : StreamId), (s.clearBuffer id).nextStream = s.nextStream := by
    intro s id
    unfold clearBuffer
    split <;> rfl
  induction hmoves with
  | refl => rfl
  | tail _ hmove ih =>
    refine Eq.trans ?_ ih
    cases hmove with
    | other same => exact same.nextStream
    | send id =>
      unfold trySendTo
      split
      · rfl
      · dsimp only
        split <;> rfl
    | command protoId hbuffer => rfl
    | clear id hstate => exact hclear _ id
    | drop id => exact hclear _ id

/-! ### The functions of a session -/

theorem undisturbed_output (s : Session) : Undisturbed s s.output := by
  refine undisturbed_of_eq rfl rfl rfl rfl ?_ rfl rfl rfl rfl
  intro hstate
  unfold output
  dsimp only
  split
  · exact SessionState.noConfusion
  · exact hstate

theorem undisturbed_eventOutput (s : Session) (event : SessionEvent) :
    Undisturbed s (s.eventOutput event) :=
  { undisturbed_output { s with serviceSender := s.serviceSender ++ [event] } with }

theorem moves_distributeLoop (ids : List StreamId) (s : Session) :
    Moves s (distributeLoop ids s) := by
  induction ids generalizing s with
  | nil => exact .refl
  | cons id ids ih =>
    have hsend : Moves s (s.trySendTo id).2 := ReflTransGen.single (.send s id)
    unfold distributeLoop
    split
    · exact ih s
    · generalize s.trySendTo id = r at hsend ⊢
      obtain ⟨result, s'⟩ := r
      cases result with
      | pending =>
        dsimp only
        split
        · -- the session is killed as blocked: its state goes first, then the buffer
          have hkill : Undisturbed s' { s' with state := .abnormal } :=
            undisturbed_of_eq rfl rfl rfl rfl (fun _ => SessionState.noConfusion) rfl rfl rfl rfl
          refine ((hsend.tail (.other hkill)).tail (.clear _ id SessionState.noConfusion)).trans ?_
          exact (undisturbed_eventOutput _ _).moves
        · exact hsend
      | ok => exact hsend.trans (ih s')
      | disconnect => exact hsend.trans (ih s')

theorem moves_flush (s : Session) : Moves s s.flush := by
  have hloop := moves_distributeLoop s.walk s
  unfold flush
  dsimp only
  split
  · exact hloop
  · exact hloop.trans (undisturbed_output _).moves

theorem moves_pushTo_close (s : Session) (id : StreamId) (protoId : ProtocolId) :
    Moves s (s.pushTo id .high (.close id protoId)) := by
  unfold pushTo
  split
  · exact .refl
  · next buffer hbuffer =>
    exact (ReflTransGen.single (.command protoId hbuffer)).tail (.send _ id)

theorem moves_clean (s : Session) : Moves s s.clean := by
  have hdrop : ∀ (ids : List StreamId) (s : Session), Moves s (ids.foldl dropSubstream s) := by
    intro ids
    induction ids with
    | nil =>
      intro s
      exact .refl
    | cons id ids ih =>
      intro s
      exact (ReflTransGen.single (.drop s id)).trans (ih _)
  refine (hdrop s.substreams.keys s).tail (.other ?_)
  refine { undisturbed_of_eq rfl rfl rfl rfl (fun hstate => hstate) rfl rfl rfl rfl
    with inputs := ?_ }
  intro p
  cases p <;> exact List.Sublist.refl _

theorem moves_closeSession (s : Session) : Moves s s.closeSession := by
  refine (Undisturbed.moves ?_).trans (moves_clean _)
  exact { undisturbed_of_eq rfl rfl rfl rfl (fun hstate => hstate) rfl rfl rfl rfl with closed :=
    fun _ => rfl }

theorem moves_closeAllProto (s : Session) : Moves s s.closeAllProto := by
  have hclose : ∀ (ids : List StreamId) (s : Session),
      Moves s (ids.foldl (fun s id => s.pushTo id .high (.close id 0)) s) := by
    intro ids
    induction ids with
    | nil =>
      intro s
      exact .refl
    | cons id ids ih =>
      intro s
      exact (moves_pushTo_close s id 0).trans (ih _)
  unfold closeAllProto
  split
  · exact moves_closeSession s
  · refine (hclose s.walk s).tail (.other ?_)
    exact { undisturbed_of_eq rfl rfl rfl rfl (fun hstate => hstate) rfl rfl rfl rfl with closed :=
      fun _ => rfl }

/-! ### Opening and routing -/

/-- What the next event of the substreams opens. -/
def opens (s : Session) : Option (ProtocolMeta × String) :=
  match s.protoEvents with
  | .opened name version :: _ =>
    if s.state = .localClose then none
    else (s.protocols.find? fun proto => proto.name == name).bind fun proto =>
      if proto.id ∈ s.protoStreams then none else some (proto, version)
  | _ => none

/-- A message and the substream it is routed to. -/
structure Routed where
  id : StreamId
  protoId : ProtocolId
  priority : Priority
  data : Bytes
  deriving DecidableEq

/-- What the next input of the service routes. -/
def routes (s : Session) : Option Routed :=
  match s.serviceReceiver.next with
  | (.item priority (.protocolMessage protoId data), _) =>
    if s.state = .normal then
      (s.protoStreams.lookup protoId).bind fun id =>
        if id ∈ s.substreams then some { id, protoId, priority, data } else none
    else none
  | _ => none

/-- A substream is opened. -/
def opened (s : Session) (proto : ProtocolMeta) (version : String) : Session :=
  { s with
    substreams := s.substreams.insert s.nextStream .empty
    protoStreams := s.protoStreams.insert proto.id s.nextStream
    tasks := s.tasks.insert s.nextStream (s.newSubstream proto version)
    nextStream := s.nextStream + 1 }

/-- What was to be opened is opened. -/
inductive Opening : Option (ProtocolMeta × String) → Session → Session → Prop
  | none (s : Session) : Opening none s s
  | some (s : Session) (proto : ProtocolMeta) (version : String) :
    Opening (some (proto, version)) s (s.opened proto version)

/-- What was to be routed is in the buffer of its substream. -/
inductive Routing : Option Routed → Session → Session → Prop
  | none (s : Session) : Routing none s s
  | some {s : Session} {m : Routed} {receiver : PriorityChannel SessionInput}
      {buffer : PriorityBuffer ProtocolEvent}
      (input : s.serviceReceiver.next
        = (.item m.priority (.protocolMessage m.protoId m.data), receiver))
      (normal : s.state = .normal) (stream : s.protoStreams.lookup m.protoId = some m.id)
      (hbuffer : s.substreams.lookup m.id = some buffer) :
    Routing (some m) s { s with
      serviceReceiver := receiver
      substreams := s.substreams.insert m.id (buffer.push m.priority (.message m.data)) }

theorem moves_handleStreamEvent {s : Session} {event : ProtocolEvent}
    (h : ∀ name version proto, event = .opened name version →
      s.protocols.find? (fun proto => proto.name == name) = some proto →
      proto.id ∈ s.protoStreams) :
    Moves s (s.handleStreamEvent event) := by
  cases event with
  | opened name version =>
    change Moves s (s.openProtocol name version)
    unfold openProtocol
    split
    · -- an unknown name: the session is to be closed
      have hkill : Undisturbed s { s with state := .abnormal } :=
        undisturbed_of_eq rfl rfl rfl rfl (fun _ => SessionState.noConfusion) rfl rfl rfl rfl
      exact hkill.moves.trans (undisturbed_eventOutput _ _).moves
    · next proto hfind =>
      rw [if_pos (h name version proto rfl hfind)]
  | close id protoId =>
    simp only [handleStreamEvent]
    split
    · refine (ReflTransGen.single (.drop s id)).tail (.other ?_)
      refine { undisturbed_of_eq rfl rfl rfl rfl (fun hstate => hstate) rfl rfl rfl rfl
        with routes := ?_ }
      intro protoId' id' hlookup
      by_cases heq : protoId' = protoId
      · subst heq
        rw [AList.lookup_erase] at hlookup
        cases hlookup
      · rwa [AList.lookup_erase_ne heq] at hlookup
    · exact .refl
  | message data => exact .refl
  | selectError name => exact (undisturbed_eventOutput _ _).moves
  | error protoId e => exact (undisturbed_eventOutput _ _).moves
  | timeoutCheck =>
    simp only [handleStreamEvent]
    split
    · have hevent := undisturbed_eventOutput s (.sessionTimeout s.context.id)
      refine hevent.moves.tail (.other ?_)
      exact undisturbed_of_eq rfl rfl rfl rfl (fun _ => SessionState.noConfusion) rfl rfl rfl rfl
    · exact .refl

/-- **An event of the substreams**: it opens what it should, and otherwise moves. -/
theorem recvSubstreams_moves (s : Session) :
    ∃ s', Moves s s' ∧ Opening s.opens s' s.recvSubstreams.1 := by
  unfold opens recvSubstreams
  split
  · next name version events hevents =>
    -- the event is taken from the queue before it is handled
    have htake : Undisturbed s { s with protoEvents := events } :=
      undisturbed_of_eq rfl rfl rfl rfl (fun hstate => hstate) rfl rfl rfl rfl
    rw [hevents]
    dsimp only
    split
    · exact ⟨_, htake.moves, .none _⟩
    · -- a protocol is opened if it is known and not open yet
      cases hfind : s.protocols.find? (fun proto => proto.name == name) with
      | none =>
        refine ⟨_, htake.moves.trans (moves_handleStreamEvent ?_), .none _⟩
        intro name' version' proto heq hsome
        cases heq
        rw [hfind] at hsome
        cases hsome
      | some proto =>
        rw [Option.bind_some]
        split
        · next hmem =>
          refine ⟨_, htake.moves.trans (moves_handleStreamEvent ?_), .none _⟩
          intro name' version' proto' heq hsome
          cases heq
          rw [hfind] at hsome
          cases hsome
          exact hmem
        · next hmem =>
          have hopened : { s with protoEvents := events }.handleStreamEvent (.opened name version)
              = { s with protoEvents := events }.opened proto version := by
            simp only [handleStreamEvent, openProtocol, hfind, if_neg hmem]
            rfl
          rw [hopened]
          exact ⟨_, htake.moves, .some _ proto version⟩
  · next hother =>
    -- the event is another one, or there is none
    split
    · next event events hevents =>
      have htake : Undisturbed s { s with protoEvents := events } :=
        undisturbed_of_eq rfl rfl rfl rfl (fun hstate => hstate) rfl rfl rfl rfl
      dsimp only
      split
      · exact ⟨_, htake.moves, .none _⟩
      · refine ⟨_, htake.moves.trans (moves_handleStreamEvent ?_), .none _⟩
        intro name version proto heq _
        subst heq
        exact absurd hevents (hother name version events)
    · split
      · exact ⟨_, .refl, .none _⟩
      · refine ⟨_, Undisturbed.moves ?_, .none _⟩
        exact undisturbed_of_eq rfl rfl rfl rfl (fun _ => SessionState.noConfusion) rfl rfl rfl rfl

theorem moves_handleCommand (s : Session) (c : Command) : Moves s (s.handleCommand c) := by
  cases c with
  | sessionClose =>
    simp only [handleCommand]
    split
    · exact moves_closeSession s
    · refine (Undisturbed.moves ?_).trans (moves_closeAllProto _)
      exact undisturbed_of_eq rfl rfl rfl rfl (fun _ => SessionState.noConfusion) rfl rfl rfl rfl
  | protocolOpen protoId =>
    simp only [handleCommand]
    split
    · exact .refl
    · split
      · refine Undisturbed.moves ?_
        exact undisturbed_of_eq rfl rfl rfl rfl (fun hstate => hstate) rfl rfl rfl rfl
      · exact .refl
  | protocolClose protoId =>
    simp only [handleCommand]
    split
    · exact moves_pushTo_close s _ protoId
    · exact .refl
  | streamStart => exact .refl
  | changeState state error =>
    simp only [handleCommand]
    split
    · next hnormal =>
      -- only a session that is normal changes its state here
      have hstate : Undisturbed s { s with state } :=
        undisturbed_of_eq rfl rfl rfl rfl (fun hne => absurd hnormal hne) rfl rfl rfl rfl
      cases error with
      | none => exact hstate.moves
      | some e =>
        dsimp only
        split
        · exact hstate.moves.trans (undisturbed_eventOutput _ _).moves
        · refine (Undisturbed.moves ?_).trans (undisturbed_eventOutput _ _).moves
          exact undisturbed_of_eq rfl rfl rfl rfl (fun hne => absurd hnormal hne) rfl rfl rfl rfl
    · exact .refl

/-- An input that is taken from the queue of the service. -/
theorem undisturbed_take {s : Session} {priority : Priority} {input : SessionInput}
    {receiver : PriorityChannel SessionInput}
    (h : s.serviceReceiver.next = (.item priority input, receiver)) :
    Undisturbed s { s with serviceReceiver := receiver } := by
  obtain ⟨hsame, hothers, -⟩ := PriorityChannel.queue_next_item h
  refine { undisturbed_of_eq rfl rfl rfl rfl (fun hstate => hstate) rfl rfl rfl rfl
    with inputs := ?_ }
  intro p
  by_cases hp : p = priority
  · subst hp
    rw [hsame]
    exact List.sublist_cons_self _ _
  · rw [hothers p hp]

/-- **An input of the service**: it routes what it should, and otherwise moves. -/
theorem recvService_moves (s : Session) :
    ∃ s', Routing s.routes s s' ∧ Moves s' s.recvService.1 := by
  unfold routes recvService
  rcases hnext : s.serviceReceiver.next with ⟨r, receiver⟩
  cases r with
  | item priority input =>
    have htake := undisturbed_take hnext
    cases input with
    | command c =>
      refine ⟨s, .none s, ?_⟩
      dsimp only
      split
      · exact htake.moves.trans (moves_handleCommand _ c)
      · exact htake.moves
    | protocolMessage protoId data =>
      have hdiscard : Undisturbed s
          ({ s with serviceReceiver := receiver }.discard data) := { htake with }
      dsimp only
      split
      · next hnormal =>
        simp only [handleSessionEvent, handleProtocolMessage]
        cases hstream : s.protoStreams.lookup protoId with
        | none => exact ⟨s, .none s, hdiscard.moves⟩
        | some id =>
          rw [Option.bind_some]
          dsimp only
          by_cases hmem : id ∈ s.substreams
          · -- the message goes to the buffer of its substream, and on as far as it can
            obtain ⟨buffer, hbuffer⟩ := Option.isSome_iff_exists.mp (AList.lookup_isSome.mpr hmem)
            rw [if_pos hmem, if_pos hmem]
            refine ⟨_, .some hnext hnormal hstream hbuffer, ?_⟩
            simp only [pushTo, hbuffer]
            exact ReflTransGen.single (.send _ id)
          · rw [if_neg hmem, if_neg hmem]
            exact ⟨s, .none s, hdiscard.moves⟩
      · exact ⟨s, .none s, hdiscard.moves⟩
  | ended =>
    refine ⟨s, .none s, (Undisturbed.moves ?_).trans (moves_clean _)⟩
    obtain rfl := PriorityChannel.next_of_not_item hnext (fun _ _ => nofun)
    exact undisturbed_of_eq rfl rfl rfl rfl (fun _ => SessionState.noConfusion) rfl rfl rfl rfl
  | pending =>
    obtain rfl := PriorityChannel.next_of_not_item hnext (fun _ _ => nofun)
    exact ⟨s, .none s, .refl⟩

/-! ### Polls -/

theorem moves_conclude (s : Session) (isPending : Bool) : Moves s (s.conclude isPending).1 := by
  have hclose : Moves s { s with protoStreams := ∅ }.closeSession := by
    refine (Undisturbed.moves ?_).trans (moves_closeSession _)
    refine { undisturbed_of_eq rfl rfl rfl rfl (fun hstate => hstate) rfl rfl rfl rfl with
      routes := ?_ }
    intro protoId id hlookup
    cases hlookup
  unfold conclude
  split
  · exact hclose
  · exact hclose
  · split
    · exact moves_closeSession s
    · exact moves_closeAllProto s
  · exact .refl

/-- Whether a poll gets to the events and inputs. -/
def proceeds (s : Session) : Bool := decide (s.state ≠ .localClose) && s.flush.answers.proceed

/-- What a poll opens. -/
def pollOpens (s : Session) (answers : SessionAnswers) : Option (ProtocolMeta × String) :=
  if !s.ended && { s with answers }.proceeds then { s with answers }.flush.opens else none

/-- What a poll routes. -/
def pollRoutes (s : Session) (answers : SessionAnswers) : Option Routed :=
  if !s.ended && { s with answers }.proceeds then { s with answers }.flush.recvSubstreams.1.routes
  else none

/-- **The parts of a poll**: moves, an opening, moves, a routing, moves. -/
structure Parts (opens : Option (ProtocolMeta × String)) (routes : Option Routed)
    (s s' : Session) : Prop where
  parts : ∃ a b c d, Moves s a ∧ Opening opens a b ∧ Moves b c ∧ Routing routes c d ∧ Moves d s'

theorem Moves.parts {s s' : Session} (h : Moves s s') : Parts none none s s' :=
  ⟨s', s', s', s', h, .none _, .refl, .none _, .refl⟩

theorem Parts.then {s s' s'' : Session} {o : Option (ProtocolMeta × String)} {r : Option Routed}
    (h : Parts o r s s') (hmoves : Moves s' s'') : Parts o r s s'' := by
  obtain ⟨a, b, c, d, h₁, h₂, h₃, h₄, h₅⟩ := h.parts
  exact ⟨a, b, c, d, h₁, h₂, h₃, h₄, h₅.trans hmoves⟩

theorem parts_pollNext (s : Session) :
    Parts (if s.proceeds then s.flush.opens else none)
      (if s.proceeds then s.flush.recvSubstreams.1.routes else none) s s.pollNext.1 := by
  unfold pollNext proceeds
  by_cases hlocal : s.state = .localClose
  · rw [if_pos hlocal]
    simp only [hlocal, ne_eq, not_true_eq_false, decide_false, Bool.false_and, Bool.false_eq_true,
      if_false]
    exact Moves.parts .refl
  · rw [if_neg hlocal]
    simp only [hlocal, ne_eq, not_false_eq_true, decide_true, Bool.true_and]
    cases hproceed : s.flush.answers.proceed with
    | false =>
      simp only [Bool.not_false, if_true, Bool.false_eq_true, if_false]
      exact (moves_flush s).parts
    | true =>
      simp only [Bool.not_true, Bool.false_eq_true, if_false, if_true]
      obtain ⟨a, hfirst, hopening⟩ := recvSubstreams_moves s.flush
      obtain ⟨d, hrouting, hlast⟩ := recvService_moves s.flush.recvSubstreams.1
      exact ⟨a, _, _, d, (moves_flush s).trans hfirst, hopening, .refl, hrouting,
        hlast.trans (moves_conclude _ _)⟩

theorem moves_drop (s : Session) : Moves s s.drop := by
  refine (moves_clean s).tail (.other ?_)
  refine { undisturbed_of_eq rfl rfl rfl rfl (fun hstate => hstate) rfl rfl rfl rfl
    with inputs := ?_ }
  intro p
  cases p <;> exact List.nil_sublist _

/-- **A poll is a sequence of moves**, with what it opens and what it routes in between. -/
theorem poll_moves (s : Session) (answers : SessionAnswers) (h : s.ended = false) :
    Parts (s.pollOpens answers) (s.pollRoutes answers) { s with answers } (s.poll answers) := by
  have hparts := parts_pollNext { s with answers }
  have hrun : ∀ b : Bool, (!s.ended && b) = b := by
    intro b
    rw [h]
    rfl
  rw [poll, if_neg (by rw [h]; exact Bool.false_ne_true), pollOpens, pollRoutes, hrun]
  generalize { s with answers }.pollNext = r at hparts ⊢
  obtain ⟨s', polled⟩ := r
  cases polled with
  | done => exact hparts.then (moves_drop s')
  | pending => exact hparts
  | item => exact hparts

end Session

end Tentacle
end CkbP2P

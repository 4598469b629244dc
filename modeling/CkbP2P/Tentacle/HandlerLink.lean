import CkbP2P.Lib.Alternation
import CkbP2P.Tentacle.HandlerSystem

/-!
# Between a session and a handler

The connections and disconnections of a session form a row: from what the handler has in its
table, through its queue, the task that a substream has spawned, and the buffer of the
substream that is open.  As long as each of them finds what it needs when its turn comes, the
row ends in what the session has.  When a session is closed the handler may take it out of
its table by itself, and a disconnection may find it gone.
-/

namespace CkbP2P
namespace Tentacle

open Lib

/-! ### The link between a session and the handler -/

/-- The connections and disconnections of a session, from what the handler has (`c`) through
its queue (`q`), the spawned task and the buffer of the substream that is open: each finds
what it needs, and they end in what the session has. -/
structure Linked (protoId : ProtocolId) (id : SessionId) (c : Bool) (q : List Bool) (p : Party) :
    Prop where
  own : p.session.context.id = id
  fresh : p.session.Fresh
  unique : ∀ stream stream', (p.session.served protoId stream).isSome = true →
    (p.session.served protoId stream').isSome = true → stream = stream'
  one : p.spawned.length ≤ 1
  foreign : ∀ id', id' ≠ id → marks id' p.spawned.flatten = [] ∧
    ∀ stream, marks id' ((p.session.served protoId stream).getD []) = []
  serving : ∀ stream buffer, p.session.served protoId stream = some buffer →
    follow p.session.context.closed c (q ++ marks id p.spawned.flatten ++ marks id buffer)
      = some true
  idle : (∀ stream, p.session.served protoId stream = none) →
    follow p.session.context.closed c (q ++ marks id p.spawned.flatten) = some false

namespace Linked

variable {protoId : ProtocolId} {id : SessionId} {c : Bool} {q : List Bool} {p : Party}
  {s' : Session}

theorem kept (h : Linked protoId id c q p) (hk : Session.Kept protoId p.session s')
    (events : List ProtocolEvent) :
    Linked protoId id c q { p with session := s', events } where
  own := hk.id.trans h.own
  fresh := hk.fresh h.fresh
  unique := by
    intro stream stream'
    rw [hk.served, hk.served]
    exact h.unique stream stream'
  one := h.one
  foreign := by
    intro id' hne
    refine ⟨(h.foreign id' hne).1, fun stream => ?_⟩
    rw [hk.served]
    exact (h.foreign id' hne).2 stream
  serving := by
    intro stream buffer hserved
    rw [hk.served] at hserved
    exact follow_lax hk.closed (h.serving stream buffer hserved)
  idle := by
    intro hnone
    refine follow_lax hk.closed (h.idle fun stream => ?_)
    rw [← hk.served]
    exact hnone stream

/-- **A substream is opened** when no other one is open. -/
theorem opening (h : Linked protoId id c q p) {o : Option (ProtocolMeta × String)}
    (hopening : Session.Opening o p.session s')
    (hclosed : (o.any fun o => o.1.id = protoId) = true → ¬ p.session.IsOpen protoId) :
    Linked protoId id c q { p with session := s' } := by
  cases hopening with
  | none => exact h
  | some _ proto version =>
    have hserved := Session.served_opened protoId p.session proto version
    have hfresh := Session.fresh_opened h.fresh proto version
    by_cases hours : proto.id = protoId ∧ proto.serviceHandle = true
    · have hnone : ∀ stream, p.session.served protoId stream = none := by
        intro stream
        have hnot := hclosed (decide_eq_true hours.1)
        rw [Session.isOpen_iff, not_exists] at hnot
        exact Option.not_isSome_iff_eq_none.mp (hnot stream)
      -- the new substream is the only one, and its connection comes last
      have honly : ∀ stream, (p.session.opened proto version).served protoId stream
          = if stream = p.session.nextStream then
              some [.connected p.session.context.id version] else none := by
        intro stream
        rw [hserved, if_pos hours, hnone]
      refine ⟨h.own, hfresh, ?_, h.one, ?_, ?_, ?_⟩
      · intro stream stream' hsome hsome'
        rw [honly] at hsome hsome'
        split at hsome
        · next heq =>
          split at hsome'
          · next heq' => rw [heq, heq']
          · cases hsome'
        · cases hsome
      · intro id' hne
        refine ⟨(h.foreign id' hne).1, fun stream => ?_⟩
        rw [honly]
        split
        · rw [h.own]
          simp [marks, mark, Ne.symm hne]
        · rfl
      · intro stream buffer hbuffer
        rw [honly] at hbuffer
        split at hbuffer
        · cases hbuffer
          have hmark : marks id [.connected p.session.context.id version] = [true] := by
            rw [h.own]
            simp [marks, mark]
          rw [hmark]
          exact follow_snoc (h.idle hnone) rfl
        · cases hbuffer
      · intro hall
        have hnew := hall p.session.nextStream
        rw [honly, if_pos rfl] at hnew
        cases hnew
    · -- a substream that does not concern the handler
      have hnew : p.session.served protoId p.session.nextStream = none := by
        rw [Session.served, h.fresh _ (Nat.le_refl _), Option.bind_none]
      have hkept : Session.Kept protoId p.session (p.session.opened proto version) := by
        refine ⟨fun stream => ?_, fun _ => hfresh, rfl, fun hc => hc⟩
        rw [hserved, if_neg hours]
        split
        · next heq => rw [heq, hnew]
        · rfl
      exact h.kept hkept p.events

/-- **A poll of the session.** -/
theorem poll (h : Linked protoId id c q p) (answers : SessionAnswers)
    (hopens : ((p.session.pollOpens answers).any fun o => o.1.id = protoId) = true →
      ¬ p.session.IsOpen protoId) :
    Linked protoId id c q { p with session := p.session.poll answers } := by
  cases hended : p.session.ended with
  | true =>
    rw [Session.poll, if_pos hended]
    exact h
  | false =>
    obtain ⟨before, opened, between, routed, hfirst, hopening, hbetween, hrouting, hlast⟩ :=
      (Session.poll_moves p.session answers hended).parts
    have hanswers : Session.Kept protoId p.session { p.session with answers } :=
      Session.kept_of_tasks rfl rfl rfl (fun h => h)
    have hbefore := hanswers.trans (Session.Moves.kept hfirst)
    -- what is open before the poll is open when the protocol is opened
    have hopened := (h.kept hbefore p.events).opening hopening (fun hany hopen => by
      obtain ⟨stream, hsome⟩ := Session.isOpen_iff.mp hopen
      refine hopens hany (Session.isOpen_iff.mpr ⟨stream, ?_⟩)
      rw [← hbefore.served]
      exact hsome)
    have hafter : Session.Kept protoId opened (p.session.poll answers) :=
      (Session.Moves.kept hbetween).trans
        ((Session.Routing.kept hrouting).trans (Session.Moves.kept hlast))
    exact hopened.kept hafter p.events

/-- **A poll that does not close** queues what comes first in the buffer.  No spawned task
may be left that should have sent before. -/
theorem steady (h : Linked protoId id c q p) {stream : StreamId}
    {buffer buffer' more : List ServiceProtocolEvent}
    (hbuffer : p.session.served protoId stream = some buffer)
    (hpolled : Session.ServedAt protoId stream (some buffer') p.session s')
    (hmarks : ∀ id, marks id more ++ marks id buffer' = marks id buffer)
    (hfirst : more ≠ [] → p.spawned = []) (events : List ProtocolEvent) :
    Linked protoId id c (q ++ marks id more) { p with session := s', events } := by
  have hsome : ∀ stream', (s'.served protoId stream').isSome
      = (p.session.served protoId stream').isSome := by
    intro stream'
    rw [hpolled.served]
    split
    · next heq =>
      rw [heq, hbuffer]
      rfl
    · rfl
  have hnew : s'.served protoId stream = some buffer' := by rw [hpolled.served, if_pos rfl]
  refine ⟨hpolled.id.trans h.own, hpolled.fresh h.fresh, ?_, h.one, ?_, ?_, ?_⟩
  · intro stream₁ stream₂
    rw [hsome, hsome]
    exact h.unique stream₁ stream₂
  · intro id' hne
    refine ⟨(h.foreign id' hne).1, fun stream' => ?_⟩
    have hold := (h.foreign id' hne).2
    rw [hpolled.served]
    split
    · -- what was sent on and what is kept are parts of an old buffer
      have hparts := hmarks id'
      have hempty := hold stream
      rw [hbuffer, Option.getD_some] at hempty
      rw [hempty] at hparts
      exact (List.append_eq_nil_iff.mp hparts).2
    · exact hold stream'
  · intro stream' buffer₁ hbuffer₁
    -- it is the substream that was polled, since there is no other
    have heq : stream' = stream := by
      refine h.unique stream' stream ?_ ?_
      · rw [← hsome, hbuffer₁]
        rfl
      · rw [hbuffer]
        rfl
    rw [heq, hnew] at hbuffer₁
    cases hbuffer₁
    have hserving := follow_lax hpolled.closed (h.serving stream buffer hbuffer)
    -- events that are sent on follow those in the queue, with no task between them
    by_cases hmore : more = []
    · have hrest := hmarks id
      rw [hmore] at hrest ⊢
      rw [← hrest] at hserving
      simpa [marks] using hserving
    · rw [hfirst hmore] at hserving ⊢
      rw [← hmarks id] at hserving
      simpa [marks] using hserving
  · intro hnone
    rw [hnone stream] at hnew
    cases hnew

/-- **A poll that closes** leaves the rest of the buffer to a task, with the disconnection. -/
theorem parting (h : Linked protoId id c q p) {stream : StreamId}
    {buffer more rest : List ServiceProtocolEvent}
    (hbuffer : p.session.served protoId stream = some buffer)
    (hpolled : Session.ServedAt protoId stream none p.session s')
    (hmarks : ∀ id, marks id more ++ marks id rest = marks id buffer)
    (hfirst : p.spawned = []) (events : List ProtocolEvent) :
    Linked protoId id c (q ++ marks id more)
      { session := s', spawned := [rest ++ [.disconnected id]], events } := by
  have hnone : ∀ stream', s'.served protoId stream' = none := by
    intro stream'
    rw [hpolled.served]
    split
    · rfl
    · next hne =>
      by_contra hsome
      refine hne (h.unique stream' stream ?_ ?_)
      · exact Option.isSome_iff_ne_none.mpr hsome
      · rw [hbuffer]
        rfl
  refine ⟨hpolled.id.trans h.own, hpolled.fresh h.fresh, ?_, Nat.le_refl _, ?_, ?_, ?_⟩
  · intro stream₁ stream₂ hsome
    rw [hnone] at hsome
    cases hsome
  · intro id' hne
    refine ⟨?_, fun stream' => by rw [hnone]; rfl⟩
    have hempty := (h.foreign id' hne).2 stream
    rw [hbuffer, Option.getD_some, ← hmarks id'] at hempty
    have hrest := (List.append_eq_nil_iff.mp hempty).2
    rw [List.flatten_singleton, marks_append, hrest]
    simp [marks, mark, Ne.symm hne]
  · intro stream' buffer' hbuffer'
    rw [hnone] at hbuffer'
    cases hbuffer'
  · intro _
    have hserving := follow_lax hpolled.closed (h.serving stream buffer hbuffer)
    rw [hfirst, ← hmarks id] at hserving
    have hlast : marks id (rest ++ [.disconnected id]) = marks id rest ++ [false] := by
      rw [marks_append]
      simp [marks, mark]
    rw [List.flatten_singleton, hlast]
    have hsnoc := follow_snoc hserving (m := false) rfl
    simpa [marks] using hsnoc

/-- **A spawned task sends**: what it has is the first after what is queued. -/
theorem forward (h : Linked protoId id c q p) {i : ℕ} {event : ServiceProtocolEvent}
    {rest : List ServiceProtocolEvent} (hi : p.spawned[i]? = some (event :: rest)) :
    Linked protoId id c (q ++ marks id [event]) { p with
        spawned := if rest = [] then p.spawned.eraseIdx i else p.spawned.set i rest } ∧
      ∀ id', id' ≠ id → marks id' [event] = [] := by
  -- there is one task only
  have hone : p.spawned = [event :: rest] ∧ i = 0 := by
    have hlength := h.one
    have hlt := (List.getElem?_eq_some_iff.mp hi).1
    have hzero : i = 0 := by omega
    subst hzero
    cases hspawned : p.spawned with
    | nil =>
      rw [hspawned] at hi
      cases hi
    | cons first others =>
      rw [hspawned] at hi hlength
      cases hi
      cases others with
      | nil => exact ⟨rfl, rfl⟩
      | cons other others =>
        simp only [List.length_cons] at hlength
        omega
  obtain ⟨hspawned, rfl⟩ := hone
  have hsplit : ∀ id', marks id' p.spawned.flatten = marks id' [event] ++ marks id' rest := by
    intro id'
    rw [hspawned, List.flatten_singleton, ← marks_append, List.singleton_append]
  have hrest : (if rest = [] then p.spawned.eraseIdx 0 else p.spawned.set 0 rest).flatten = rest ∧
      (if rest = [] then p.spawned.eraseIdx 0 else p.spawned.set 0 rest).length ≤ 1 := by
    rw [hspawned]
    split
    · next hnil =>
      rw [hnil]
      exact ⟨rfl, Nat.zero_le _⟩
    · exact ⟨List.append_nil _, Nat.le_refl _⟩
  have hforeign : ∀ id', id' ≠ id → marks id' [event] = [] ∧ marks id' rest = [] := by
    intro id' hne
    have hnone := (h.foreign id' hne).1
    rw [hsplit] at hnone
    exact List.append_eq_nil_iff.mp hnone
  refine ⟨⟨h.own, h.fresh, h.unique, hrest.2, ?_, ?_, ?_⟩, fun id' hne => (hforeign id' hne).1⟩
  · intro id' hne
    rw [hrest.1]
    exact ⟨(hforeign id' hne).2, (h.foreign id' hne).2⟩
  · intro stream buffer hbuffer
    have hserving := h.serving stream buffer hbuffer
    rw [hsplit, ← List.append_assoc] at hserving
    rw [hrest.1]
    exact hserving
  · intro hnone
    have hidle := h.idle hnone
    rw [hsplit, ← List.append_assoc] at hidle
    rw [hrest.1]
    exact hidle

/-- **The handler takes an event.**  A session that is closed may be taken out of its table,
so it must not have an open substream. -/
theorem handle (h : Linked protoId id c q p) {m : Option Bool} {ms : List Bool}
    (hq : q = m.toList ++ ms)
    (hsweep : c = true → p.session.context.closed = true → ¬ p.session.IsOpen protoId) :
    Linked protoId id (turn p.session.context.closed c m).1 ms p := by
  subst hq
  refine { h with serving := ?_, idle := ?_ }
  · intro stream buffer hbuffer
    have hserving := h.serving stream buffer hbuffer
    rw [List.append_assoc, List.append_assoc] at hserving
    rw [List.append_assoc]
    refine follow_turn hserving ?_
    intro hc hclosed
    refine absurd (Session.isOpen_iff.mpr ⟨stream, ?_⟩) (hsweep hc hclosed)
    rw [hbuffer]
    rfl
  · intro hnone
    have hidle := h.idle hnone
    rw [List.append_assoc] at hidle
    exact follow_turn hidle (fun _ _ => rfl)

/-- The row goes on somehow. -/
theorem row (h : Linked protoId id c q p) :
    ∃ ms o, follow p.session.context.closed c (q ++ ms) = some o := by
  by_cases hnone : ∀ stream, p.session.served protoId stream = none
  · exact ⟨_, _, h.idle hnone⟩
  · obtain ⟨stream, hsome⟩ := not_forall.mp hnone
    obtain ⟨buffer, hbuffer⟩ := Option.ne_none_iff_exists'.mp hsome
    have hserving := h.serving stream buffer hbuffer
    rw [List.append_assoc] at hserving
    exact ⟨_, _, hserving⟩

end Linked

/-! ### The task of the handler -/

namespace ServiceProtocolStream

variable {s : ServiceProtocolStream}

/-- Which switch an event is, to a session. -/
theorem marks_cons (id : SessionId) (event : ServiceProtocolEvent)
    (events : List ServiceProtocolEvent) :
    marks id (event :: events) = (mark id event).toList ++ marks id events := by
  rw [marks, List.filterMap_cons]
  cases mark id event <;> rfl

theorem filterMap_mark_disconnected {sessions : List SessionId} (h : sessions.Nodup)
    (id : SessionId) :
    (sessions.map Callback.disconnected).filterMap (Callback.mark id)
      = if id ∈ sessions then [false] else [] := by
  induction sessions with
  | nil => rfl
  | cons first sessions ih =>
    obtain ⟨hfirst, hrest⟩ := List.nodup_cons.mp h
    have hih := ih hrest
    by_cases heq : first = id
    · subst heq
      rw [if_neg hfirst] at hih
      simp [Callback.mark, hih]
    · simp [Callback.mark, heq, Ne.symm heq, hih]

theorem mem_sweep (closed : SessionId → Bool) (id : SessionId) :
    decide (id ∈ (s.sweep closed).1.sessions) = (decide (id ∈ s.sessions) && !closed id) := by
  simp [sweep]

/-- The sessions that are swept out are told of once. -/
theorem told_sweep (hnodup : s.sessions.Nodup) (closed : SessionId → Bool) (id : SessionId) :
    (s.sweep closed).2.filterMap (Callback.mark id)
      = if decide (id ∈ s.sessions) && closed id then [false] else [] := by
  rw [sweep, filterMap_mark_disconnected (hnodup.filter _)]
  simp only [List.mem_filter, Bool.and_eq_true, decide_eq_true_eq]

theorem dispatch_turn (flags : Flags) (event : ServiceProtocolEvent) (id : SessionId) :
    decide (id ∈ (s.dispatch flags event).1.sessions)
        = (turn false (decide (id ∈ s.sessions)) (mark id event)).1 ∧
      (s.dispatch flags event).2.filterMap (Callback.mark id)
        = (turn false (decide (id ∈ s.sessions)) (mark id event)).2 := by
  cases event with
  | connected session version =>
    by_cases heq : session = id
    · simp [dispatch, mark, Callback.mark, turn, heq]
    · simp [dispatch, mark, Callback.mark, turn, heq, Ne.symm heq]
  | received session data =>
    simp only [dispatch, mark, turn]
    split <;> simp [Callback.mark]
  | disconnected session =>
    simp only [dispatch]
    by_cases heq : session = id
    · subst heq
      by_cases hmem : session ∈ s.sessions <;> simp [mark, Callback.mark, turn, hmem]
    · -- another session
      by_cases hmem : session ∈ s.sessions <;>
        simp [mark, Callback.mark, turn, hmem, heq, Ne.symm heq]

/-- **What the handler has and is told**, session by session. -/
theorem handleEvent_turn (hnodup : s.sessions.Nodup) (flags later : Flags)
    {event : ServiceProtocolEvent} (hrun : (flags.shutdown && !isDisconnection event) = false)
    (id : SessionId) :
    decide (id ∈ (s.handleEvent flags later event).1.sessions)
        = (turn (flags.closed id) (decide (id ∈ s.sessions)) (mark id event)).1 ∧
      (s.handleEvent flags later event).2.filterMap (Callback.mark id)
        = (turn (flags.closed id) (decide (id ∈ s.sessions)) (mark id event)).2 := by
  have hdispatch := dispatch_turn (s := (s.sweep flags.closed).1) later event id
  rw [mem_sweep] at hdispatch
  unfold handleEvent
  rw [hrun, if_neg Bool.false_ne_true]
  dsimp only
  rw [List.filterMap_append, told_sweep hnodup, hdispatch.1, hdispatch.2]
  generalize decide (id ∈ s.sessions) = b
  -- sweeping first and then obeying is one turn
  cases flags.closed id <;> cases b <;> cases mark id event with
  | none => exact ⟨rfl, rfl⟩
  | some m => cases m <;> exact ⟨rfl, rfl⟩

theorem nodup_handleEvent (hnodup : s.sessions.Nodup) (flags later : Flags)
    (event : ServiceProtocolEvent) : (s.handleEvent flags later event).1.sessions.Nodup := by
  have hsweep : (s.sweep flags.closed).1.sessions.Nodup := hnodup.filter _
  unfold handleEvent
  split
  · exact hnodup
  · generalize s.sweep flags.closed = r at hsweep
    obtain ⟨s₁, callbacks⟩ := r
    cases event with
    | connected session version => exact hsweep.insert
    | received session data =>
      simp only [dispatch]
      split <;> exact hsweep
    | disconnected session =>
      simp only [dispatch]
      split
      · exact hsweep.filter _
      · exact hsweep

end ServiceProtocolStream

end Tentacle
end CkbP2P

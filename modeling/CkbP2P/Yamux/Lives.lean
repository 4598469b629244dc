import CkbP2P.Yamux.Grammar
import CkbP2P.Yamux.Micro
import CkbP2P.Yamux.View

/-!
# The streams of a session keep to the grammar

A session ends the channel of a stream when it hears `Closed` of its id, or finds the
handle dropped.  As long as no two handles share an id, `Closed` comes from the handle
itself, which no longer looks at its channel then; so every handle of the session keeps to
the grammar, whatever the peer sends.

When the peer opens an id again, a late `Closed` of the old handle ends the channel of the
new one.  The new handle may have sent its FIN: its next read takes it for closed by the
peer, and it writes and closes once more.
-/

namespace CkbP2P
namespace Yamux

open Lib

namespace Slot

variable {first : Flag} {sl : Slot}

/-- The handle has come out of `create_stream` in the role `first` stands for, and its session
has let go of it in time. -/
def Lived (first : Flag) (sl : Slot) : Prop :=
  ∃ id maxWindowSize state as,
    (state = .init ∧ first = .syn ∨ state = .synReceived ∧ first = .ack) ∧
    Guarded react LetGo (create id state maxWindowSize).1 as ∧
    sl = runFrom react (create id state maxWindowSize).1 as

theorem Lived.spoken (hl : sl.Lived first) : sl.Spoken first := by
  obtain ⟨id, n, state, as, hrole, has, rfl⟩ := hl
  exact spoken_of_letGo id n hrole has

theorem Lived.react (hl : sl.Lived first) {a : Stimulus} (ha : sl.LetGo a) :
    (sl.react a).Lived first := by
  obtain ⟨id, n, state, as, hrole, has, rfl⟩ := hl
  refine ⟨id, n, state, as ++ [a], hrole, has.snoc ha, ?_⟩
  rw [runFrom_append]
  rfl

theorem lived_create (id : StreamId) (maxWindowSize : UInt32) {state : StreamState}
    (hst : state = .init ∨ state = .synReceived) :
    ∃ first, (create id state maxWindowSize).1.Lived first := by
  rcases hst with rfl | rfl
  · exact ⟨.syn, id, maxWindowSize, .init, [], .inl ⟨rfl, rfl⟩, trivial, rfl⟩
  · exact ⟨.ack, id, maxWindowSize, .synReceived, [], .inr ⟨rfl, rfl⟩, trivial, rfl⟩

/-- A handle that no longer looks at its channel never does again. -/
theorem retired_apply (hs : sl.Spoken first) (hr : sl.Retired) (op : HandleOp) :
    (sl.apply op).1.Retired := by
  unfold apply
  split_ifs with hgone
  · exact hr
  have hstop : sl.handle.Stopped := hr.resolve_right hgone
  cases op with
  | read remaining =>
    obtain ⟨readBuf, heq⟩ := StreamHandle.pollRead_of_stopped hstop remaining
    refine .inl ?_
    show (sl.handle.pollRead remaining).1.Stopped
    rw [heq]
    exact hstop
  | write buf => exact .inl ((StreamHandle.pollWrite_hacts hs.alive buf).stopped hstop)
  | shutdown =>
    refine .inl ?_
    show sl.handle.pollShutdown.1.Stopped
    rw [StreamHandle.pollShutdown_fst]
    obtain ⟨h', ha, heq | ⟨-, heq⟩⟩ := StreamHandle.close_hacts hs.alive <;>
    · rw [heq]
      exact ha.stopped hstop
  | drop => exact .inr rfl

/-- A handle that says `Closed` speaks of itself, and no longer looks at its channel. -/
theorem closed_mem_apply (hs : sl.Spoken first) {op : HandleOp} {id : StreamId}
    (hmem : .closed id ∈ (sl.apply op).2) :
    id = sl.handle.id ∧ (sl.apply op).1.Retired := by
  have hnone : ¬ .closed id ∈ sl.handle.outbox := by
    rw [hs.outbox]
    exact List.not_mem_nil
  unfold apply at hmem ⊢
  split_ifs at hmem ⊢ with hgone
  · exact absurd hmem List.not_mem_nil
  cases op with
  | read remaining =>
    exact absurd ((StreamHandle.pollRead_hmoves hs.alive remaining).closed_mem hmem) hnone
  | write buf =>
    exact absurd ((StreamHandle.pollWrite_hacts hs.alive buf).hmoves.closed_mem hmem) hnone
  | shutdown =>
    change .closed id ∈ sl.handle.pollShutdown.1.outbox at hmem
    show id = sl.handle.id ∧ (sl.settle sl.handle.pollShutdown.1).1.Retired
    rw [StreamHandle.pollShutdown_fst] at hmem ⊢
    obtain ⟨h', ha, heq | ⟨hst, heq⟩⟩ := StreamHandle.close_hacts hs.alive
    · rw [heq] at hmem
      exact absurd (ha.hmoves.closed_mem hmem) hnone
    · rw [heq] at hmem ⊢
      refine ⟨?_, .inl (.inr (.inl hst))⟩
      rcases List.mem_append.mp hmem with hmem | hmem
      · exact absurd (ha.hmoves.closed_mem hmem) hnone
      · cases List.mem_singleton.mp hmem
        exact congrArg Prod.fst ha.hmoves.ends_eq
  | drop =>
    refine ⟨?_, .inr rfl⟩
    change .closed id ∈ sl.handle.announceDrop.outbox at hmem
    rcases StreamHandle.announceDrop_cases hs.alive with
      ⟨-, heq⟩ | ⟨-, heq⟩ | ⟨-, -, -, st, flags, -, heq⟩
    · rw [heq] at hmem
      exact absurd hmem hnone
    · rw [heq] at hmem
      rcases List.mem_append.mp hmem with hmem | hmem
      · exact absurd hmem hnone
      · cases List.mem_singleton.mp hmem
        rfl
    · rw [heq] at hmem
      rcases List.mem_append.mp hmem with hmem | hmem
      · exact absurd hmem hnone
      · simpa using hmem

theorem id_react (sl : Slot) (a : Stimulus) : (sl.react a).handle.id = sl.handle.id := by
  cases a with
  | frame | closeSender | sessionGone => rfl
  | call op => exact sl.id_apply op

theorem retired_react (hs : sl.Spoken first) (hr : sl.Retired) (a : Stimulus) :
    (sl.react a).Retired := by
  cases a with
  | frame | closeSender | sessionGone => exact hr
  | call op => exact retired_apply hs hr op

end Slot

/-! ### Sessions -/

namespace Session

variable {s t : Session}

/-- Every handle has lived as its role demands, the registered streams are those of the
handles, and `Closed` is said by handles that no longer look at their channel. -/
structure Lawful (s : Session) : Prop where
  lived : ∀ sl ∈ s.handles, ∃ first, sl.Lived first
  registered : s.Registered
  closing : ∀ {id}, .closed id ∈ s.eventReceiver →
    ∃ sl ∈ s.handles, sl.handle.id = id ∧ sl.Retired

namespace Lawful

theorem of_book (hl : s.Lawful) (hb : t.book = s.book) : t.Lawful := by
  obtain ⟨hh, he⟩ := Prod.mk.inj (Prod.mk.inj hb).2
  refine ⟨by rw [hh]; exact hl.lived, hl.registered.of_book hb, ?_⟩
  rw [he, hh]
  exact hl.closing

/-- Something happens to the `i`-th handle. -/
theorem react (hl : s.Lawful) {i : ℕ} {sl : Slot} (hi : s.handles[i]? = some sl)
    {a : Stimulus} (ha : sl.LetGo a) (hh : t.handles = s.handles.set i (sl.react a))
    (hlook : ∀ id j, t.streams.lookup id = some j → s.streams.lookup id = some j)
    (hev : ∀ {id}, .closed id ∈ t.eventReceiver →
      .closed id ∈ s.eventReceiver ∨ id = sl.handle.id ∧ (sl.react a).Retired) : t.Lawful := by
  have hlt := (List.getElem?_eq_some_iff.mp hi).1
  obtain ⟨first, hlived⟩ := hl.lived sl (List.mem_of_getElem? hi)
  have hself : sl.react a ∈ t.handles := by
    rw [hh]
    exact List.mem_set hlt _
  -- the other handles are where they were
  have hkept (sl' : Slot) (hsl' : sl' ∈ s.handles) (hne : sl' ≠ sl) : sl' ∈ t.handles := by
    obtain ⟨j, hj⟩ := List.mem_iff_getElem?.mp hsl'
    refine List.mem_of_getElem? (i := j) ?_
    rw [hh, List.getElem?_set_ne]
    · exact hj
    · rintro rfl
      rw [hi] at hj
      exact hne (Option.some.inj hj).symm
  refine ⟨fun sl' hsl' => ?_, hl.registered.set hi (sl.id_react a) hh hlook, fun {id} hmem => ?_⟩
  · rw [hh] at hsl'
    rcases List.mem_or_eq_of_mem_set hsl' with hold | rfl
    · exact hl.lived sl' hold
    · exact ⟨first, hlived.react ha⟩
  · rcases hev hmem with hold | ⟨rfl, hret⟩
    · obtain ⟨sl', hsl', hid, hret⟩ := hl.closing hold
      by_cases heq : sl' = sl
      · subst heq
        exact ⟨_, hself, (sl'.id_react a).trans hid, Slot.retired_react hlived.spoken hret a⟩
      · exact ⟨sl', hkept sl' hsl' heq, hid, hret⟩
    · exact ⟨_, hself, sl.id_react a, hret⟩

/-- A stream is registered with a handle of its own. -/
theorem insertStream (hl : s.Lawful) (id : StreamId) {state : StreamState}
    (hst : state = .init ∨ state = .synReceived) : (s.insertStream id state).1.Lawful := by
  have hreg := hl.registered.insertStream id hst
  have hsaid : ∀ id', .closed id' ∉ (Slot.create id state s.config.maxStreamWindowSize).2 := by
    rcases hst with rfl | rfl
    · rw [Slot.create_eq _ _ (.inl ⟨rfl, rfl, rfl⟩)]
      simp
    · rw [Slot.create_eq _ _ (.inr ⟨rfl, rfl, rfl⟩)]
      simp
  unfold Session.insertStream at hreg ⊢
  split_ifs at hreg ⊢
  · exact hl
  refine ⟨fun sl hsl => ?_, hreg, fun {id'} hmem => ?_⟩
  · rcases List.mem_append.mp hsl with hold | hnew
    · exact hl.lived sl hold
    · rw [List.mem_singleton.mp hnew]
      exact Slot.lived_create id _ hst
  · rcases List.mem_append.mp hmem with hold | hnew
    · obtain ⟨sl, hsl, hslid, hret⟩ := hl.closing hold
      exact ⟨sl, List.mem_append_left _ hsl, hslid, hret⟩
    · exact absurd hnew (hsaid id')

/-- A stream is forgotten whose handle no longer looks at its channel. -/
theorem removeStream (hl : s.Lawful) {id : StreamId}
    (hret : ∀ i sl, s.streams.lookup id = some i → s.handles[i]? = some sl → sl.Retired) :
    (s.removeStream id).Lawful := by
  cases hlook : s.streams.lookup id with
  | none =>
    have hh := Good.handles_removeStream_of_none hlook
    refine ⟨by rw [hh]; exact hl.lived, hl.registered.removeStream id, fun hmem => ?_⟩
    rw [hh]
    exact hl.closing hmem
  | some i =>
    obtain ⟨sl, hi, -⟩ := hl.registered id i hlook
    refine hl.react (a := .closeSender) hi (hret i sl hlook hi)
      (Good.handles_removeStream hlook hi) (fun id' j hj => ?_) fun hmem => .inl hmem
    rw [Good.lookup_removeStream] at hj
    split_ifs at hj
    exact hj

end Lawful

/-- The handles of one id, in a session that uses no id twice. -/
theorem retired_of_nodup (hids : (idsOf s.handles).Nodup) {i : ℕ} {sl sl' : Slot}
    (hi : s.handles[i]? = some sl) (hsl' : sl' ∈ s.handles) (hid : sl'.handle.id = sl.handle.id)
    (hret : sl'.Retired) : sl.Retired := by
  obtain ⟨j, hj⟩ := List.mem_iff_getElem?.mp hsl'
  have h := slotOf_of_getElem? hids hi
  have h' := slotOf_of_getElem? hids hj
  rw [hid, h] at h'
  cases h'
  exact hret

/-- The session is lawful unless it uses an id twice. -/
def LawfulUnlessReused (s : Session) : Prop := (idsOf s.handles).Nodup → s.Lawful

theorem LawfulUnlessReused.of_book (hl : s.LawfulUnlessReused) (hb : t.book = s.book) :
    t.LawfulUnlessReused := by
  intro hids
  have hh : t.handles = s.handles := congrArg (fun b => b.2.1) hb
  rw [hh] at hids
  exact (hl hids).of_book hb

/-- A frame is passed on: a stream is only forgotten here when its handle is dropped. -/
theorem LawfulUnlessReused.passOn (hl : s.LawfulUnlessReused) (f : Frame) :
    (s.passOn f).1.LawfulUnlessReused := by
  intro hids
  rcases passOn_outcome s f with ⟨-, heq⟩ | ⟨i, hlook, ⟨hi, heq⟩ |
    ⟨sl, hi, ⟨hgone, heq⟩ | ⟨-, -, heq⟩ | ⟨-, -, heq⟩⟩⟩ <;> rw [heq] at hids ⊢
  · exact hl hids
  · rw [idsOf_removeStream] at hids
    obtain ⟨sl, hsl, -⟩ := (hl hids).registered _ _ hlook
    rw [hi] at hsl
    cases hsl
  · rw [idsOf_removeStream] at hids
    refine (hl hids).removeStream fun j sl' hj hsl' => ?_
    rw [hlook] at hj
    cases hj
    rw [hi] at hsl'
    cases hsl'
    exact .inr hgone
  · exact (hl hids).of_book rfl
  · have hset := modify_eq_set hi fun sl => sl.push f
    rw [hset, idsOf_set hi (sl.id_push f)] at hids
    exact (hl hids).react (a := .frame f) hi trivial hset (fun _ _ hj => hj) fun hmem => .inl hmem

/-- An event is heard: `Closed` comes from the handle whose stream is forgotten. -/
theorem LawfulUnlessReused.recvEvents (hl : s.LawfulUnlessReused) :
    s.recvEvents.1.LawfulUnlessReused := by
  unfold Session.recvEvents
  cases hev : s.eventReceiver with
  | nil => exact hl
  | cons ev rest =>
    have hrest : { s with eventReceiver := rest }.LawfulUnlessReused := fun hids =>
      ⟨(hl hids).lived, (hl hids).registered,
        fun hmem => (hl hids).closing (by rw [hev]; exact .tail _ hmem)⟩
    cases ev with
    | frame f => exact hrest.of_book (book_sendFrame _ f)
    | goAway => exact hrest.of_book (book_sendGoAwayWithCode _ _)
    | closed id =>
      intro hids
      change (idsOf ({ s with eventReceiver := rest }.removeStream id).handles).Nodup at hids
      rw [idsOf_removeStream] at hids
      refine (hrest hids).removeStream fun i sl hlook hi => ?_
      obtain ⟨x, hx, hxid⟩ := (hl hids).registered id i hlook
      rw [show s.handles[i]? = some sl from hi] at hx
      cases hx
      obtain ⟨sl', hsl', hid, hret⟩ := (hl hids).closing (by rw [hev]; exact .head _)
      exact retired_of_nodup hids hi hsl' (hid.trans hxid.symm) hret

theorem LawfulUnlessReused.applyHandle (hl : s.LawfulUnlessReused) (i : ℕ) (op : HandleOp) :
    (s.applyHandle i op).LawfulUnlessReused := by
  intro hids
  rcases applyHandle_cases s i op with ⟨-, heq⟩ | ⟨sl, hi, -, -, heq⟩ <;> rw [heq] at hids ⊢
  · exact hl hids
  · rw [idsOf_set hi (sl.id_apply op)] at hids
    refine (hl hids).react (a := .call op) hi trivial rfl (fun _ _ hj => hj) fun hmem => ?_
    obtain ⟨first, hlived⟩ := (hl hids).lived sl (List.mem_of_getElem? hi)
    rcases List.mem_append.mp hmem with hold | hnew
    · exact .inl hold
    · exact .inr (Slot.closed_mem_apply hlived.spoken hnew)

/-- **The invariant** of sessions that use no id twice. -/
theorem lawful_bookInv : BookInv LawfulUnlessReused where
  book := LawfulUnlessReused.of_book
  insertStream := by
    intro s id state hst hl hids
    refine (hl ?_).insertStream id hst
    unfold Session.insertStream at hids
    split_ifs at hids
    · exact hids
    · unfold idsOf at hids
      rw [List.map_append] at hids
      exact hids.of_append_left
  passOn f hl := hl.passOn f
  recvEvents hl := hl.recvEvents
  applyHandle i op hl := hl.applyHandle i op

theorem lawful_run (config : Config) (ty : SessionType) (ls : List Input)
    (hids : (idsOf (runFrom input (new config ty) ls).handles).Nodup) :
    (runFrom input (new config ty) ls).Lawful := by
  have hnew : (new config ty).LawfulUnlessReused := fun _ =>
    ⟨fun sl hsl => absurd hsl List.not_mem_nil, fun _ _ h => by simp [new] at h,
      fun h => absurd h List.not_mem_nil⟩
  exact run_keeps (fun _ m h => lawful_bookInv.micro m h) hnew ls hids

/-- **The grammar of the frames a session's streams emit.**  Whatever arrives from the peer
and whatever is done with the handles, every handle of a session that uses no stream id
twice has been created as an opener or as an acceptor, and its frames keep to the grammar
of that role. -/
theorem grammar_of_nodup (config : Config) (ty : SessionType) (ls : List Input)
    (hids : (idsOf (runFrom input (new config ty) ls).handles).Nodup) :
    ∀ sl ∈ (runFrom input (new config ty) ls).handles,
      ∃ first, sl.Lived first ∧ Grammar first sl.sent := by
  intro sl hsl
  obtain ⟨first, hlived⟩ := (lawful_run config ty ls hids).lived sl hsl
  exact ⟨first, hlived, hlived.spoken.grammar⟩

/-- A client's stream, closed, read to the peer's FIN and dropped. -/
theorem grammar_of_nodup_halfClosed :
    (idsOf (runFrom input (new .default .client) halfClosedRun).handles).Nodup ∧
      ∀ sl ∈ (runFrom input (new .default .client) halfClosedRun).handles,
        ∃ first, sl.Lived first ∧ Grammar first sl.sent :=
  ⟨by decide +kernel, grammar_of_nodup .default .client halfClosedRun (by decide +kernel)⟩

/-- The peer opens stream 1 and the server closes it for good; the peer opens stream 1 again,
and the server closes the old handle once more, then the new one.  The new handle is read,
written and closed. -/
def reopenedRun : List Input :=
  let poll (reads : List ReadAnswer) : Input := .act (.poll 0 false [.ready, .ready] reads)
  let syn : Input := .arrive (.newWindowUpdate (.ofFlag .syn) 1 0)
  [syn, poll [.ready], poll [], .act (.handle 0 .shutdown), .act (.handle 0 .shutdown), poll [],
    syn, poll [.ready], poll [], .act (.handle 0 .shutdown), .act (.handle 1 .shutdown), poll [],
    .act (.handle 1 (.read 1)), .act (.handle 1 (.write [7])), .act (.handle 1 .shutdown)]

/-- **A handle whose id was in use before sends two FINs**, with data behind the first: the
late `Closed` of the old handle has ended its channel. -/
theorem grammar_reopened :
    let s := runFrom input (new .default .server) reopenedRun
    s.isDead = false ∧ ∃ sl, s.handles[1]? = some sl ∧ sl.sent.countP Frame.isFin = 2 ∧
      (∀ first, ¬ Grammar first sl.sent) := by
  have hdead : (runFrom input (new .default .server) reopenedRun).isDead = false := by
    decide +kernel
  have hfins : ((runFrom input (new .default .server) reopenedRun).handles[1]?.map
      fun sl => sl.sent.countP Frame.isFin) = some 2 := by decide +kernel
  dsimp only
  generalize runFrom input (new .default .server) reopenedRun = s at *
  obtain ⟨sl, hi, hsl⟩ := Option.map_eq_some_iff.mp hfins
  refine ⟨hdead, sl, hi, hsl, fun first hg => ?_⟩
  have hone := hg.fin
  omega

end Session

end Yamux
end CkbP2P

import Mathlib.Algebra.Order.Ring.Nat
import CkbP2P.Yamux.Micro
import CkbP2P.Yamux.Network

/-!
# The ids of streams

A session hands out the ids of its own side in ascending order, whatever arrives.  Between
two sessions an id is asked for once, by the side that has handed it out, so a SYN never
finds its id in use.  When the ids are used up, `open_stream` fails and leaves the session
as it is, from then on.

The ids are recorded where they come into being, inside the calls of `poll_next` that hear
a command to open a stream as well as in direct calls; runs are therefore runs of inner
calls, as in `Session.Micro`.
-/

namespace CkbP2P
namespace Yamux

open Lib Relation

namespace Session

variable {s t : Session}

/-! ### What leaves the next id alone -/

/-- The side, and the next id it hands out. -/
def allotment (s : Session) : SessionType × StreamId := (s.ty, s.nextStreamId)

theorem allotment_of_desk (hd : t.desk = s.desk) : t.allotment = s.allotment :=
  congrArg (fun d => (d.2.2.2, d.2.2.1)) hd

theorem allotment_insertStream (s : Session) (id : StreamId) (state : StreamState) :
    (s.insertStream id state).1.allotment = s.allotment := by
  unfold insertStream
  split_ifs <;> rfl

theorem allotment_acceptSyn (s : Session) (f : Frame) :
    (s.acceptSyn f).1.allotment = s.allotment := by
  unfold acceptSyn
  split_ifs
  · exact allotment_of_desk (desk_sendFrame s _)
  · have hins := s.allotment_insertStream f.streamId .synReceived
    simp only [createStream]
    generalize s.insertStream f.streamId .synReceived = r at hins ⊢
    obtain ⟨s₁, _ | _⟩ := r
    · exact (allotment_of_desk (desk_sendGoAwayWithCode _ _)).trans hins
    · exact hins
  · rfl
  · rfl

theorem allotment_passOn (s : Session) (f : Frame) : (s.passOn f).1.allotment = s.allotment := by
  rcases passOn_outcome s f with ⟨-, heq⟩ | ⟨i, -, ⟨-, heq⟩ |
    ⟨sl, -, ⟨-, heq⟩ | ⟨-, -, heq⟩ | ⟨-, -, heq⟩⟩⟩ <;>
  exact congrArg (fun r => r.1.allotment) heq

theorem allotment_distributeLoop (buf : List Frame) :
    ∀ (blocked : List StreamId) (s : Session),
      (distributeLoop buf blocked s).allotment = s.allotment := by
  induction buf with
  | nil =>
    intro blocked s
    rfl
  | cons f buf ih =>
    intro blocked s
    rw [distributeLoop]
    split_ifs
    · exact ih blocked _
    · have hacc := s.allotment_acceptSyn f
      generalize s.acceptSyn f = r at hacc ⊢
      obtain ⟨s₁, _ | _⟩ := r
      · exact hacc
      · have hpass := s₁.allotment_passOn f
        dsimp only
        generalize s₁.passOn f = r at hpass ⊢
        obtain ⟨s₂, _ | _⟩ := r <;> exact (ih _ s₂).trans (hpass.trans hacc)

theorem allotment_flush (s : Session) : s.flush.allotment = s.allotment := by
  unfold flush
  split_ifs
  · rfl
  · have hdist := allotment_distributeLoop s.sendAll.readPendingFrames []
      { s.sendAll with readPendingFrames := [] }
    exact hdist.trans (allotment_of_desk (t := s.sendAll) (desk_sendAllLoop s.sink s))

theorem allotment_recvFrames (s : Session) (a : ReadAnswer) :
    (s.recvFrames a).1.allotment = s.allotment := by
  cases a with
  | pending | eof => rfl
  | ready =>
    unfold recvFrames
    dsimp only
    split
    · rfl
    · next rest _ =>
      split
      · next g _ =>
        unfold handleFrame
        cases g.ty with
        | data | windowUpdate => exact allotment_distributeLoop _ _ _
        | ping => exact allotment_of_desk (desk_handlePing { s with incoming := rest } g)
        | goAway => exact allotment_of_desk (desk_handleGoAway { s with incoming := rest } g)
      · rfl
      · rfl

theorem allotment_recvEvents (s : Session) : s.recvEvents.1.allotment = s.allotment := by
  unfold recvEvents
  cases s.eventReceiver with
  | nil => rfl
  | cons ev rest =>
    cases ev with
    | frame f =>
      exact allotment_of_desk (s := { s with eventReceiver := rest }) (desk_sendFrame _ f)
    | closed id => rfl
    | goAway =>
      exact allotment_of_desk (s := { s with eventReceiver := rest }) (desk_sendGoAwayWithCode _ _)

theorem allotment_applyHandle (s : Session) (i : ℕ) (op : HandleOp) :
    (s.applyHandle i op).allotment = s.allotment := by
  rcases applyHandle_cases s i op with ⟨-, heq⟩ | ⟨sl, -, -, -, heq⟩ <;>
  exact (congrArg allotment heq).trans rfl

/-! ### Handing out ids -/

/-- No further id can be handed out: the one after the next is no `u32`. -/
def Exhausted (s : Session) : Prop := 2 ^ 32 ≤ s.nextStreamId.toNat + 2

/-- The id of the stream `open_stream` returns. -/
def opening (s : Session) : List StreamId :=
  match s.openStream with
  | (t, .ok i) => (t.handles[i]?.map fun sl => sl.handle.id).toList
  | (_, .error _) => []

/-- The id an inner call hands out. -/
def opens (s : Session) : Micro → List StreamId
  | .openStream => s.opening
  | .controlPoll =>
    match s.controlReceiver with
    | .openStream :: rest => { s with controlReceiver := rest }.opening
    | _ => []
  | _ => []

/-- From `s` to `t` at most one id is handed out, the next one.  It is skipped when it is in
use. -/
structure HandsOut (s : Session) (ids : List StreamId) (t : Session) : Prop where
  ty : t.ty = s.ty
  next : ids = [] ∧ t.nextStreamId = s.nextStreamId ∨
    s.nextStreamId.toNat + 2 < 2 ^ 32 ∧ t.nextStreamId = s.nextStreamId + 2 ∧
      (ids = [] ∨ ids = [s.nextStreamId])

theorem HandsOut.of_allotment (heq : t.allotment = s.allotment) : HandsOut s [] t := by
  obtain ⟨hty, hnext⟩ := Prod.mk.inj heq
  exact ⟨hty, .inl ⟨rfl, hnext⟩⟩

theorem HandsOut.of_desk (hd : t.desk = s.desk) : HandsOut s [] t :=
  .of_allotment (allotment_of_desk hd)

theorem openStream_handsOut (s : Session) : HandsOut s s.opening s.openStream.1 := by
  unfold opening openStream createStream
  split_ifs with hdead haway hlt
  · exact .of_allotment rfl
  · exact .of_allotment rfl
  · obtain ⟨hty, hnext⟩ := Prod.mk.inj (allotment_insertStream
      { s with nextStreamId := s.nextStreamId + 2 } s.nextStreamId .init)
    refine ⟨hty, .inr ⟨hlt, hnext, ?_⟩⟩
    unfold insertStream
    split_ifs
    · exact .inl rfl
    · right
      have hid : (Slot.create s.nextStreamId .init s.config.maxStreamWindowSize).1.handle.id
          = s.nextStreamId := Slot.create_id (.inl rfl) rfl
      dsimp only
      rw [List.getElem?_concat_length, Option.map_some, hid]
      rfl
  · exact .of_allotment rfl

theorem controlPoll_handsOut (s : Session) :
    HandsOut s (s.opens .controlPoll) s.controlPoll.1 := by
  unfold controlPoll opens
  rcases hc : s.controlReceiver with _ | ⟨_ | _, rest⟩
  · exact .of_allotment rfl
  · exact { openStream_handsOut { s with controlReceiver := rest } with }
  · exact .of_desk (s := s) (desk_shutdown { s with controlReceiver := rest })

/-- **Every inner call hands out the next id or none**, whatever arrives. -/
theorem micro_handsOut (s : Session) (m : Micro) : HandsOut s (s.opens m) (s.micro m) := by
  cases m with
  | setSink | handOut | command | arrive => exact .of_allotment rfl
  | onTick now => exact .of_desk (desk_onTick s now)
  | flush => exact .of_allotment (allotment_flush s)
  | controlPoll => exact controlPoll_handsOut s
  | recvFrames a => exact .of_allotment (allotment_recvFrames s a)
  | recvEvents => exact .of_allotment (allotment_recvEvents s)
  | openStream => exact openStream_handsOut s
  | shutdown => exact .of_desk (desk_shutdown s)
  | sendGoAway => exact .of_desk (desk_sendGoAwayWithCode s .normal)
  | handle i op => exact .of_allotment (allotment_applyHandle s i op)

theorem HandsOut.exhausted {ids : List StreamId} (h : HandsOut s ids t) (hx : s.Exhausted) :
    t.Exhausted := by
  rcases h.next with ⟨-, hnext⟩ | ⟨hlt, -, -⟩
  · unfold Exhausted
    rw [hnext]
    exact hx
  · exact absurd hlt (not_lt.mpr hx)

/-- **A session whose ids are used up opens no stream and does not change.** -/
theorem openStream_of_exhausted (hx : s.Exhausted) :
    s.openStream.1 = s ∧ ∃ e, s.openStream.2 = .error e := by
  unfold openStream createStream
  split_ifs with hdead haway hlt
  · exact ⟨rfl, _, rfl⟩
  · exact ⟨rfl, _, rfl⟩
  · exact absurd hlt (not_lt.mpr hx)
  · exact ⟨rfl, _, rfl⟩

/-- The ids handed out so far, in order: all of this side, and smaller than the next. -/
structure Allots (l : List StreamId) (s : Session) : Prop where
  parity : s.ty.owns s.nextStreamId = true
  own : ∀ id ∈ l, s.ty.owns id = true
  lt : ∀ id ∈ l, id.toNat < s.nextStreamId.toNat
  ascending : l.Pairwise fun a b => a.toNat < b.toNat

namespace Allots

variable {l : List StreamId}

theorem nodup (h : Allots l s) : l.Nodup := by
  refine h.ascending.imp ?_
  rintro a b hlt rfl
  exact lt_irrefl _ hlt

/-- **Ids are handed out in ascending order.** -/
theorem handsOut {ids : List StreamId} (h : Allots l s) (hout : HandsOut s ids t) :
    Allots (l ++ ids) t := by
  have hsub : ∀ id ∈ ids, id = s.nextStreamId := by
    intro id hid
    rcases hout.next with ⟨hnone, -⟩ | ⟨-, -, hnone | hone⟩
    · exact absurd (hnone ▸ hid) List.not_mem_nil
    · exact absurd (hnone ▸ hid) List.not_mem_nil
    · exact List.mem_singleton.mp (hone ▸ hid)
  refine ⟨?_, fun id hid => ?_, fun id hid => ?_, ?_⟩
  · rw [hout.ty]
    rcases hout.next with ⟨-, hnext⟩ | ⟨hlt, hnext, -⟩ <;> rw [hnext]
    · exact h.parity
    · exact SessionType.owns_add_two h.parity hlt
  · rw [hout.ty]
    rcases List.mem_append.mp hid with hid | hid
    · exact h.own id hid
    · exact hsub id hid ▸ h.parity
  · rcases hout.next with ⟨hnone, hnext⟩ | ⟨hlt, hnext, -⟩ <;> rw [hnext]
    · rw [hnone, List.append_nil] at hid
      exact h.lt id hid
    · rw [toNat_add_two hlt]
      rcases List.mem_append.mp hid with hid | hid
      · exact (h.lt id hid).trans (Nat.lt_add_of_pos_right two_pos)
      · rw [hsub id hid]
        exact Nat.lt_add_of_pos_right two_pos
  · refine List.pairwise_append.mpr ⟨h.ascending, ?_, fun a ha b hb => ?_⟩
    · rcases hout.next with ⟨hnone, -⟩ | ⟨-, -, hnone | hone⟩
      · exact hnone ▸ .nil
      · exact hnone ▸ .nil
      · exact hone ▸ List.pairwise_singleton _ _
    · rw [hsub b hb]
      exact h.lt a ha

end Allots

/-- An inner call of the session, or of its user, is a sequence of moves. -/
theorem micro_moves (hr : s.Readable) {m : Micro} (hown : m.own = true) : Moves s (s.micro m) := by
  cases m with
  | setSink sink =>
    exact .single (.other s s.pings s.pingId s.keepalive sink s.pendingStreams s.controlReceiver)
  | handOut =>
    exact .single (.other s s.pings s.pingId s.keepalive s.sink _ s.controlReceiver)
  | command c => exact .single (.other s s.pings s.pingId s.keepalive s.sink s.pendingStreams _)
  | arrive f => cases hown
  | onTick now => exact onTick_moves s now
  | flush => exact flush_moves s
  | controlPoll => exact controlPoll_moves s
  | recvFrames a => exact (recvFrames_moves hr a).1
  | recvEvents => exact recvEvents_moves s
  | openStream => exact openStream_moves s
  | shutdown => exact shutdown_moves s
  | sendGoAway => exact sendGoAwayWithCode_moves s .normal
  | handle i op => exact step_moves hr (.handle i op)

end Session

/-! ### Two sessions -/

/-- The transport hands out no ids. -/
theorem World.allotment_carry (w : World) (side side' : SessionType) :
    (w.step (.carry side) side').allotment = (w side').allotment := by
  cases ho : (w side).outgoing with
  | nil => simp [World.step, ho]
  | cons f rest =>
    rcases side.eq_or_eq_peer side' with rfl | rfl
    · simp [World.step, ho, Session.allotment, (SessionType.peer_ne side').symm]
    · simp [World.step, ho, Session.allotment, SessionType.peer_ne]

/-- What can happen, one inner call at a time. -/
inductive Tick where
  /-- An inner call of a side's session, or a call on one of its handles. -/
  | act (side : SessionType) (m : Session.Micro)
  /-- The transport carries the first frame of `side` over. -/
  | carry (side : SessionType)
  deriving Repr

/-- Two sessions, and the ids each has handed out. -/
structure Ledger where
  world : World
  opened : SessionType → List StreamId

namespace Ledger

variable {r : Ledger}

/-- Two new sessions. -/
def new (config : SessionType → Config) : Ledger := ⟨World.new config, fun _ => []⟩

/-- One tick.  Frames arrive by the transport only. -/
def step (r : Ledger) : Tick → Ledger
  | .act side m =>
    if m.own then
      { world := Function.update r.world side ((r.world side).micro m)
        opened := Function.update r.opened side (r.opened side ++ (r.world side).opens m) }
    else r
  | .carry side => { r with world := r.world.step (.carry side) }

theorem step_of_own {side : SessionType} {m : Session.Micro} (hm : m.own = true) (r : Ledger) :
    r.step (.act side m) =
      { world := Function.update r.world side ((r.world side).micro m)
        opened := Function.update r.opened side (r.opened side ++ (r.world side).opens m) } :=
  if_pos hm

theorem step_of_not_own {side : SessionType} {m : Session.Micro} (hm : m.own = false) (r : Ledger) :
    r.step (.act side m) = r :=
  if_neg (by simp [hm])

/-- Every call, and every frame carried over, is a run of ticks. -/
theorem step_ticks (r : Ledger) (l : Label) :
    ∃ ts, (runFrom step r ts).world = r.world.step l := by
  cases l with
  | carry side => exact ⟨[.carry side], rfl⟩
  | act side a =>
    obtain ⟨ms, hown, hms⟩ := Session.step_micro (r.world side) a
    refine ⟨ms.map (.act side), ?_⟩
    show _ = Function.update r.world side ((r.world side).step a)
    rw [← hms]
    clear hms
    induction ms generalizing r with
    | nil => exact (Function.update_eq_self side r.world).symm
    | cons m ms ih =>
      show (runFrom step (r.step (.act side m)) (ms.map (.act side))).world
        = Function.update r.world side (runFrom Session.micro ((r.world side).micro m) ms)
      rw [ih _ fun m' hm' => hown m' (List.mem_cons_of_mem _ hm'),
        step_of_own (hown m List.mem_cons_self)]
      dsimp only
      rw [Function.update_self, Function.update_idem]

/-- The invariant: that of the two sessions, and the ids of each in order. -/
structure Inv (r : Ledger) : Prop where
  world : r.world.Inv FlowInv
  allots : ∀ side, (r.world side).Allots (r.opened side)
  ty : ∀ side, (r.world side).ty = side

theorem Inv.step (h : r.Inv) (l : Tick) : (r.step l).Inv := by
  cases l with
  | carry side =>
    have hsame := r.world.allotment_carry side
    refine ⟨h.world.carry pairInv_flow side, fun side' => ?_, fun side' => ?_⟩
    · have := (h.allots side').handsOut (.of_allotment (hsame side'))
      rwa [List.append_nil] at this
    · exact (Prod.mk.inj (hsame side')).1.trans (h.ty side')
  | act side m =>
    cases hm : m.own with
    | false => rwa [step_of_not_own hm]
    | true =>
      have hout := Session.micro_handsOut (r.world side) m
      rw [step_of_own hm]
      refine ⟨h.world.moves pairInv_flow (Session.micro_moves (h.world.readable side) hm),
        fun side' => ?_, fun side' => ?_⟩ <;> dsimp only
      · by_cases hs : side' = side
        · subst hs
          rw [Function.update_self, Function.update_self]
          exact (h.allots side').handsOut hout
        · rw [Function.update_of_ne hs, Function.update_of_ne hs]
          exact h.allots side'
      · by_cases hs : side' = side
        · subst hs
          rw [Function.update_self, hout.ty]
          exact h.ty side'
        · rw [Function.update_of_ne hs]
          exact h.ty side'

theorem inv_new (config : SessionType → Config) : (new config).Inv where
  world := pairInv_flow.inv_new config
  allots side :=
    ⟨Session.owns_nextStreamId_new (config side) side, fun _ h => absurd h List.not_mem_nil,
      fun _ h => absurd h List.not_mem_nil, .nil⟩
  ty _ := rfl

theorem inv_run (config : SessionType → Config) (ts : List Tick) :
    (runFrom step (new config) ts).Inv :=
  inv_runFrom (fun _ l h => h.step l) (inv_new config) ts

/-- A side whose ids are used up stays so. -/
theorem exhausted_step {side : SessionType} (hx : (r.world side).Exhausted) (l : Tick) :
    ((r.step l).world side).Exhausted := by
  cases l with
  | carry side' =>
    exact (Session.HandsOut.of_allotment (r.world.allotment_carry side' side)).exhausted hx
  | act side' m =>
    cases hm : m.own with
    | false => rwa [step_of_not_own hm]
    | true =>
      rw [step_of_own hm]
      dsimp only
      by_cases hs : side = side'
      · subst hs
        rw [Function.update_self]
        exact (Session.micro_handsOut _ m).exhausted hx
      · rw [Function.update_of_ne hs]
        exact hx

/-- A SYN that waits is for a stream its receiver does not know. -/
theorem Inv.syn_fresh (h : r.Inv) (side : SessionType) {f : Frame}
    (hf : f ∈ (r.world side).readPendingFrames ++ (r.world side).incoming)
    (hst : f.isStream = true) (hsyn : f.isSyn = true) : f.streamId ∉ (r.world side).streams := by
  intro hmem
  have hslot := (h.world.good side).slotOf_of_mem hmem
  have hin : f ∈ ((r.world side).view f.streamId).inq := mem_onStream.mpr ⟨hf, hst, rfl⟩
  have hpos : 0 < ((r.world side).view f.streamId).synsIn :=
    List.countP_pos_iff.mpr ⟨f, hin, hsyn⟩
  have hpair := h.world.pair f.streamId
  rcases (opener f.streamId).eq_or_eq_peer side with hs | hs <;> rw [hs] at hslot hpos
  · have hreq := hpair.requestsBack
    omega
  · have hreq := hpair.requests
    have hone : ((r.world (opener f.streamId).peer).view f.streamId).slot.isSome.toNat = 1 := by
      rw [show ((r.world (opener f.streamId).peer).view f.streamId).slot.isSome = true from hslot]
      rfl
    omega

end Ledger

/-- **The ids of streams.**  Along every run of two sessions, at either side: the ids that
`open_stream` has returned are of the side's parity and pairwise distinct; a SYN that has
arrived is for an id its receiver does not know; and once the ids are used up, whatever
happens next, `open_stream` fails and leaves the session as it is. -/
theorem stream_ids_allocated (config : SessionType → Config) (ts : List Tick)
    (side : SessionType) :
    let r := runFrom Ledger.step (Ledger.new config) ts
    (∀ id ∈ r.opened side, side.owns id = true) ∧ (r.opened side).Nodup ∧
      (∀ f ∈ (r.world side).readPendingFrames ++ (r.world side).incoming,
        f.isStream = true → f.isSyn = true → f.streamId ∉ (r.world side).streams) ∧
      ((r.world side).Exhausted → ∀ ts',
        let s := (runFrom Ledger.step r ts').world side
        s.openStream.1 = s ∧ ∃ e, s.openStream.2 = .error e) := by
  intro r
  have h : r.Inv := Ledger.inv_run config ts
  refine ⟨fun id hid => ?_, (h.allots side).nodup,
    fun f hf hst hsyn => h.syn_fresh side hf hst hsyn,
    fun hx ts' => ?_⟩
  · rw [← h.ty side]
    exact (h.allots side).own id hid
  · exact Session.openStream_of_exhausted
      (inv_runFrom (P := fun r : Ledger => (r.world side).Exhausted)
        (fun _ l hx => Ledger.exhausted_step hx l) hx ts')

end Yamux
end CkbP2P

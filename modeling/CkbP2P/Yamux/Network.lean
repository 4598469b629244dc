import CkbP2P.Lib.Run
import CkbP2P.Yamux.Flow

/-!
# Two sessions and their transports

A client and a server session are joined by two transports, each a queue: the frames a
side has put into its transport are carried to the other side one by one and in order.
A run is any interleaving of calls on either session, calls on any handle, and frames
carried over.
-/

namespace CkbP2P
namespace Yamux

open Lib Relation

/-- The other side. -/
def SessionType.peer : SessionType → SessionType
  | .client => .server
  | .server => .client

@[simp] theorem SessionType.peer_peer (side : SessionType) : side.peer.peer = side := by
  cases side <;> rfl

theorem SessionType.peer_ne (side : SessionType) : side.peer ≠ side := by
  cases side <;> decide

theorem SessionType.eq_or_eq_peer (side t : SessionType) : t = side ∨ t = side.peer := by
  cases side <;> cases t <;> decide

/-- The side that hands out the id. -/
def opener (id : StreamId) : SessionType :=
  if SessionType.client.owns id then .client else .server

theorem owns_peer_opener (id : StreamId) : (opener id).peer.owns id = false := by
  unfold opener
  split_ifs with h
  · simp only [SessionType.owns, beq_iff_eq] at h
    simp [SessionType.peer, SessionType.owns, h]
  · exact Bool.not_eq_true _ ▸ h

/-- The two sessions. -/
abbrev World := SessionType → Session

/-- What can happen. -/
inductive Label where
  /-- A call on a side's session or on one of its handles. -/
  | act (side : SessionType) (a : Session.SessionAct)
  /-- The transport carries the first frame of `side` over. -/
  | carry (side : SessionType)
  deriving Repr

namespace World

/-- Two new sessions. -/
def new (config : SessionType → Config) : World := fun side => Session.new (config side) side

/-- One step. -/
def step (w : World) : Label → World
  | .act side a => Function.update w side ((w side).step a)
  | .carry side =>
    match (w side).outgoing with
    | [] => w
    | f :: rest =>
      let w := Function.update w side { w side with outgoing := rest }
      Function.update w side.peer
        { w side.peer with incoming := (w side.peer).incoming ++ [f] }

end World

/-! ### Pings and go-aways -/

/-- The frames in the session's queues. -/
def Session.Queued (s : Session) (f : Frame) : Prop :=
  f ∈ s.incoming ∨ f ∈ s.outgoing ∨ f ∈ s.writePendingFrames ∨ f ∈ framesOf s.eventReceiver

/-- Every ping and go-away in the session's queues is well formed. -/
def Session.ControlOk (s : Session) : Prop :=
  ∀ f, s.Queued f → f.isStream = false → f.WellFormed

theorem Frame.Honest.isStream {id : StreamId} {f : Frame} (h : f.Honest id) :
    f.isStream = true := by
  cases h <;> rfl

theorem IsRefusal.isStream {id : StreamId} {r : Frame} (h : IsRefusal id r) :
    r.isStream = true := by
  rcases h with rfl | rfl <;> rfl

/-- A move only adds well-formed control frames. -/
theorem Move.controlOk {s t : Session} (h : Move s t) (hg : s.Good)
    (hc : ∀ id, (s.view id).Clean) (hok : s.ControlOk) : t.ControlOk := by
  intro g hmem hg'
  suffices s.Queued g ∨ g.WellFormed ∨ g.isStream = true from
    this.elim (hok g · hg') (Or.elim · id fun h => by simp [h] at hg')
  -- a stream that is created emits stream frames only
  have created {id : StreamId} {state : StreamState} {flag : Flag} {sl : Slot}
      {events : List StreamEvent}
      (hst : state = .init ∧ flag = .syn ∨ state = .synReceived ∧ flag = .ack)
      (hcr : Slot.create id state s.config.maxStreamWindowSize = (sl, events))
      (hf : g ∈ framesOf events) : g.isStream = true := by
    rw [(Slot.created_of_create hst hcr).frames, List.mem_singleton] at hf
    subst hf
    rfl
  unfold Session.Queued at hmem ⊢
  cases h with
  | other | eof | timeout | unregister | pass | skip | cut | giveUp | burn => exact .inl hmem
  | transmit hw he | lose hw hd => grind
  | ping flags n =>
    have := Frame.wellFormed_newPing flags n
    grind
  | goAway code =>
    have := Frame.wellFormed_newGoAway code
    grind
  | remoteGone => grind
  | emit hev =>
    simp only [hev, framesOf_frame_cons]
    grind
  | @event ev rest hev hf =>
    have : framesOf (ev :: rest) = framesOf rest := by
      rw [← List.singleton_append, framesOf_append, hf, List.nil_append]
    rw [hev, this]
    exact .inl hmem
  | arrive hin hf | absorb hin hf => grind
  | accept hl hsyn hnew hcr =>
    have := created (.inr ⟨rfl, rfl⟩) hcr
    simp only [framesOf_append] at hmem
    grind
  | refuse hl hsyn hnew hr | refuseBusy hl hsyn hold hr | refuseGone hgone hr =>
    have := hr.isStream
    grind
  | openStream hnext hnew hcr =>
    have := created (.inl ⟨rfl, rfl⟩) hcr
    simp only [framesOf_append] at hmem
    grind
  | @handle i sl hs op =>
    obtain ⟨hinv, hsafe⟩ := (hc sl.handle.id).calls sl (slotOf_of_getElem? hg.nodup hs)
    obtain ⟨taken, hst⟩ := Slot.apply_step hinv hsafe op
    have hemit (hf : g ∈ framesOf (sl.apply op).2) := (hst.honest g hf).1.isStream
    simp only [framesOf_append] at hmem
    grind

/-! ### The transport -/

/-- The sending side after its first frame in the transport has been carried over. -/
def Session.sendOff (s : Session) (rest : List Frame) : Session := { s with outgoing := rest }

/-- The receiving side. -/
def Session.takeIn (s : Session) (f : Frame) : Session :=
  { s with incoming := s.incoming ++ [f] }

/-- A frame carried over is carried over in the views of its stream; other streams do not
see it. -/
theorem Session.view_carry {s : Session} {f : Frame} {rest : List Frame}
    (ho : s.outgoing = f :: rest) (t : Session) (id : StreamId) :
    (s.sendOff rest).view id = s.view id ∧ (t.takeIn f).view id = t.view id ∨
      (s.view id).wire = f :: onStream id rest ∧
        (s.sendOff rest).view id = (s.view id).sendOff (onStream id rest) ∧
        (t.takeIn f).view id = (t.view id).takeIn f := by
  have hin : (t.takeIn f).view id = { t.view id with
      inq := onStream id (t.readPendingFrames ++ t.incoming) ++ onStream id [f] } := by
    rw [← onStream_append, List.append_assoc]
    rfl
  have hout : (s.view id).wire = onStream id (f :: rest) := by rw [← ho]; rfl
  rcases onStream_cons_cases id f rest with he | ⟨hf, rfl, he⟩
  · left
    have hnil : onStream id [f] = [] := by
      have happ := onStream_append id [f] rest
      rw [List.singleton_append, he] at happ
      exact List.self_eq_append_left.mp happ
    refine ⟨?_, by rw [hin, hnil, List.append_nil]; rfl⟩
    show { s.view id with wire := onStream id rest } = _
    rw [← he, ← hout]
  · right
    refine ⟨hout.trans he, rfl, ?_⟩
    rw [hin, onStream_cons_self hf, onStream_nil]
    rfl

/-! ### The invariant -/

/-- A stream nobody has used, which this side may open or not. -/
def View.unused (id : StreamId) (max : UInt32) (mayOpen : Bool) : View :=
  { id, max, slot := none, live := false, inq := [], wire := [], outq := [], eof := false,
    goAway := false, mayOpen }

theorem Session.view_new (config : Config) (ty : SessionType) (id : StreamId) :
    (Session.new config ty).view id = .unused id config.maxStreamWindowSize
      (ty.owns id && decide ((Session.new config ty).nextStreamId ≤ id)) := rfl

/-- A property of the two views of a stream, the opener's first, that holds at the start
and survives the moves of both sides and of the transport.  Flow control is part of it, as
without it a side could give up the connection. -/
structure PairInv (P : View → View → Prop) : Prop where
  flow : ∀ {x y}, P x y → FlowInv x y
  left : ∀ {x x' y}, P x y → VMove x x' → P x' y
  right : ∀ {x y y'}, P x y → VMove y y' → P x y'
  carry : ∀ {x y f rest}, P x y → x.wire = f :: rest → P (x.sendOff rest) (y.takeIn f)
  carryBack : ∀ {x y f rest}, P x y → y.wire = f :: rest → P (x.takeIn f) (y.sendOff rest)
  unused : ∀ id mayOpen {n m}, initialStreamWindow ≤ n → initialStreamWindow ≤ m →
    P (.unused id n mayOpen) (.unused id m false)

theorem FlowInv.unused (id : StreamId) (mayOpen : Bool) {n m : UInt32}
    (hn : initialStreamWindow ≤ n) (hm : initialStreamWindow ≤ m) :
    FlowInv (.unused id n mayOpen) (.unused id m false) where
  id := rfl
  flow := le_rfl
  flowBack := le_rfl
  honest := fun _ h => by cases h
  honestBack := fun _ h => by cases h
  slotOk := by refine ⟨hn, ?_, ?_, ?_⟩ <;> simp [View.unused]
  slotOkBack := by refine ⟨hm, ?_, ?_, ?_⟩ <;> simp [View.unused]
  requests := by cases mayOpen <;> simp [View.unused, View.synsOut, View.synsIn, View.departed]
  requestsBack := rfl
  unopened := fun _ => rfl

theorem pairInv_flow : PairInv FlowInv where
  flow := id
  left h hm := h.left hm
  right h hm := h.right hm
  carry h hw := h.carry hw
  carryBack h hw := h.carryBack hw
  unused := FlowInv.unused

/-- The invariant of the two sessions, over a property of the views. -/
structure World.Inv (P : View → View → Prop) (w : World) : Prop where
  good : ∀ side, (w side).Good
  control : ∀ side, (w side).ControlOk
  pair : ∀ id, P ((w (opener id)).view id) ((w (opener id).peer).view id)

namespace PairInv

variable {P : View → View → Prop} (hP : PairInv P)
include hP

theorem lefts {x x' y : View} (h : P x y) (hm : VMoves x x') : P x' y := by
  induction hm with
  | refl => exact h
  | tail _ hm ih => exact hP.left ih hm

theorem rights {x y y' : View} (h : P x y) (hm : VMoves y y') : P x y' := by
  induction hm with
  | refl => exact h
  | tail _ hm ih => exact hP.right ih hm

theorem flowInv {w : World} (h : w.Inv P) : w.Inv FlowInv :=
  ⟨h.good, h.control, fun id => hP.flow (h.pair id)⟩

end PairInv

namespace World.Inv

section Flow

variable {w : World} (h : w.Inv FlowInv)
include h

theorem clean (side : SessionType) (id : StreamId) : ((w side).view id).Clean := by
  rcases (opener id).eq_or_eq_peer side with rfl | rfl
  · exact (h.pair id).clean_left
  · exact (h.pair id).clean_right

/-- What is pending at a side, and what its peer owes, fit the receive window. -/
theorem window (side : SessionType) (id : StreamId) :
    ((w side.peer).view id).owed + ((w side).view id).pending ≤ ((w side).view id).recvWindow := by
  rcases (opener id).eq_or_eq_peer side with rfl | rfl
  · exact (h.pair id).flowBack
  · rw [SessionType.peer_peer]
    exact (h.pair id).flow

theorem slotOk (side : SessionType) (id : StreamId) : ((w side).view id).SlotOk := by
  rcases (opener id).eq_or_eq_peer side with rfl | rfl
  · exact (h.pair id).slotOk
  · exact (h.pair id).slotOkBack

theorem honest (side : SessionType) (id : StreamId) :
    ∀ f ∈ ((w side).view id).frames, f.Honest id := by
  rcases (opener id).eq_or_eq_peer side with rfl | rfl
  · exact (h.pair id).honest
  · exact (h.pair id).honestBack

/-- Every frame that has arrived passes the decoder. -/
theorem readable (side : SessionType) : (w side).Readable := by
  intro f hf
  by_cases hs : f.isStream = true
  · have hin : f ∈ onStream f.streamId ((w side).readPendingFrames ++ (w side).incoming) :=
      mem_onStream.mpr ⟨List.mem_append_right _ hf, hs, rfl⟩
    have harr : f ∈ ((w side).view f.streamId).arrived := List.mem_append_right _ hin
    refine ⟨(h.honest side _ f (List.mem_append_left _ harr)).wellFormed, fun hd => ?_⟩
    -- its bytes are pending at this side, so they fit the receive window
    have hbytes : f.length.toNat = f.dataBytes := by simp [Frame.dataBytes, hd]
    have hle := bytesOf_sublist (List.singleton_sublist.mpr harr)
    simp only [bytesOf_cons, bytesOf_nil, ← hbytes] at hle
    have hwindow := h.window side f.streamId
    have hmax := (h.slotOk side f.streamId).recvWindow_le
    rw [UInt32.le_iff_toNat_le]
    show _ ≤ ((w side).view f.streamId).max.toNat
    unfold View.pending at hwindow
    omega
  · have hs : f.isStream = false := by simpa using hs
    exact ⟨h.control side f (.inl hf) hs, fun hd => by simp [Frame.isStream, hd] at hs⟩

/-- The handles of a side, with the history they keep and the frames they can take. -/
theorem handle (side : SessionType) {sl : Slot} (hsl : sl ∈ (w side).handles) :
    slotOf (w side).handles sl.handle.id = some sl ∧ sl.Inv ∧ sl.handle.Safe := by
  obtain ⟨i, hi⟩ := List.getElem?_of_mem hsl
  have hs := slotOf_of_getElem? (h.good side).nodup hi
  exact ⟨hs, (h.clean side sl.handle.id).calls sl hs⟩

end Flow

variable {P : View → View → Prop} (hP : PairInv P) {w : World} (h : w.Inv P)
include hP h

/-- A side makes a move. -/
theorem move {side : SessionType} {t : Session} (hm : Move (w side) t) :
    World.Inv P (Function.update w side t) := by
  have hg := h.good side
  have hc := (hP.flowInv h).clean side
  refine ⟨fun side' => ?_, fun side' => ?_, fun id => ?_⟩
  · by_cases hs : side' = side
    · subst hs
      simpa using hm.good hg hc
    · simpa [hs] using h.good side'
  · by_cases hs : side' = side
    · subst hs
      simpa using hm.controlOk hg hc (h.control _)
    · simpa [hs] using h.control side'
  · have hv := Move.view hg hc hm id
    rcases (opener id).eq_or_eq_peer side with rfl | rfl
    · rw [Function.update_self, Function.update_of_ne (SessionType.peer_ne _)]
      exact hP.lefts (h.pair id) hv
    · rw [Function.update_self, Function.update_of_ne (SessionType.peer_ne _).symm]
      exact hP.rights (h.pair id) hv

theorem moves {side : SessionType} {t : Session} (hm : Moves (w side) t) :
    World.Inv P (Function.update w side t) := by
  induction hm with
  | refl => simpa using h
  | @tail t u _ hm ih =>
    have hm : Move (Function.update w side t side) u := by rwa [Function.update_self]
    have := ih.move hP hm
    rwa [Function.update_idem] at this

/-- The transport carries a frame over. -/
theorem carry (side : SessionType) : (w.step (.carry side)).Inv P := by
  cases ho : (w side).outgoing with
  | nil => simpa [World.step, ho] using h
  | cons f rest =>
    have hpeer : (w.step (.carry side)) side.peer = (w side.peer).takeIn f := by
      simp [World.step, ho, Session.takeIn, SessionType.peer_ne]
    have hself : (w.step (.carry side)) side = (w side).sendOff rest := by
      simp [World.step, ho, Session.sendOff, (SessionType.peer_ne side).symm]
    generalize w.step (.carry side) = w' at hpeer hself
    refine ⟨fun side' => ?_, fun side' => ?_, fun id => ?_⟩
    · rcases side.eq_or_eq_peer side' with rfl | rfl
      · rw [hself]
        exact ⟨(h.good _).nodup, (h.good _).registered, (h.good _).parity, (h.good _).stream⟩
      · rw [hpeer]
        exact ⟨(h.good _).nodup, (h.good _).registered, (h.good _).parity, (h.good _).stream⟩
    · have hf : f ∈ (w side).outgoing := by simp [ho]
      have hrest {g : Frame} (hg : g ∈ rest) : g ∈ (w side).outgoing := by simp [ho, hg]
      rcases side.eq_or_eq_peer side' with rfl | rfl
      · rw [hself]
        exact fun g hg => h.control _ g (hg.imp_right (Or.imp_left hrest))
      · rw [hpeer]
        rintro g (hg | hg)
        · rcases List.mem_append.mp hg with hg | hg
          · exact h.control _ g (.inl hg)
          · exact List.mem_singleton.mp hg ▸ h.control _ f (.inr (.inl hf))
        · exact h.control _ g (.inr hg)
    · rcases (opener id).eq_or_eq_peer side with rfl | rfl
      · rw [hself, hpeer]
        rcases Session.view_carry ho (w (opener id).peer) id with ⟨h₁, h₂⟩ | ⟨hw, h₁, h₂⟩
        · exact h₁ ▸ h₂ ▸ h.pair id
        · exact h₁ ▸ h₂ ▸ hP.carry (h.pair id) hw
      · rw [SessionType.peer_peer] at hpeer
        rw [hself, hpeer]
        rcases Session.view_carry ho (w (opener id)) id with ⟨h₁, h₂⟩ | ⟨hw, h₁, h₂⟩
        · exact h₁ ▸ h₂ ▸ h.pair id
        · exact h₁ ▸ h₂ ▸ hP.carryBack (h.pair id) hw

/-- **Every step keeps the invariant.** -/
theorem step (l : Label) : (w.step l).Inv P := by
  cases l with
  | act side a => exact h.moves hP (Session.step_moves ((hP.flowInv h).readable side) a)
  | carry side => exact h.carry hP side

end World.Inv

namespace PairInv

variable {P : View → View → Prop} (hP : PairInv P)
include hP

/-- Two new sessions satisfy the invariant. -/
theorem inv_new (config : SessionType → Config) : (World.new config).Inv P where
  good := by
    intro side
    refine ⟨List.nodup_nil, fun h => ?_, Session.owns_nextStreamId_new (config side) side,
      by simp [World.new, Session.new]⟩
    simp [World.new, Session.new] at h
  control := by
    intro side f hf
    simp [World.new, Session.new, Session.Queued] at hf
  pair := by
    intro id
    have h := owns_peer_opener id
    simp only [World.new, Session.view_new, h, Bool.false_and]
    exact hP.unused id _ (config _).window_ge (config _).window_ge

/-- **The invariant holds after every run.** -/
theorem inv_run (config : SessionType → Config) (ls : List Label) :
    (runFrom World.step (World.new config) ls).Inv P :=
  inv_runFrom (fun _ l h => h.step hP l) (hP.inv_new config) ls

end PairInv

/-! ### Flow control -/

namespace World

/-- The send window of `side`'s end of the stream.  Before the end exists, both sides
assume the initial window. -/
def sendWindow (w : World) (side : SessionType) (id : StreamId) : ℕ :=
  ((slotOf (w side).handles id).elim initialStreamWindow fun sl => sl.handle.sendWindow).toNat

/-- The receive window of `side`'s end of the stream. -/
def recvWindow (w : World) (side : SessionType) (id : StreamId) : ℕ :=
  ((slotOf (w side).handles id).elim initialStreamWindow fun sl => sl.handle.recvWindow).toNat

/-- The frames of the stream on their way from `side`, the oldest first: in the channel of
the peer's handle, read by the peer, in the transport, queued, and in the event channel. -/
def inFlight (w : World) (side : SessionType) (id : StreamId) : List Frame :=
  (slotOf (w side.peer).handles id).elim [] Slot.queue ++
    onStream id ((w side.peer).readPendingFrames ++ (w side.peer).incoming) ++
    onStream id (w side).outgoing ++
    onStream id ((w side).writePendingFrames ++ framesOf (w side).eventReceiver)

theorem inFlight_eq (w : World) (side : SessionType) (id : StreamId) :
    w.inFlight side id
      = ((w side.peer).view id).arrived ++ ((w side).view id).departed := by
  rw [View.departed, ← List.append_assoc]
  rfl

end World

/-- **Flow control is conserved.**  After every run each stream has one handle at most at
either end, and in both directions the receive window covers the send window of the other
end, the data on the way, and the window updates on the way back.  So no handle finds a
frame its windows do not allow for, and the decoder takes every frame that arrives. -/
theorem flow_control_conserved (config : SessionType → Config) (ls : List Label) :
    let w := runFrom World.step (World.new config) ls
    (∀ side, (idsOf (w side).handles).Nodup) ∧
      (∀ side id, w.sendWindow side id + bytesOf (w.inFlight side id)
        + deltasOf (w.inFlight side.peer id) ≤ w.recvWindow side.peer id) ∧
      (∀ side, ∀ sl ∈ (w side).handles, ∀ e, sl.handle.recvFrames.2 = .error e →
        e ≠ .recvWindowExceeded ∧ e ≠ .invalidMsgType) ∧
      ∀ side, ∀ f ∈ (w side).incoming, ∀ rest,
        let codec := FrameCodec.withMaxFrameSize (w side).config.maxStreamWindowSize
        (FrameCodec.decodeHeader codec.maxFrameSize (FrameCodec.encodeHeader f.header ++ rest)
            = (rest, .ok (some f.header))) ∧
          FrameCodec.decode codec (FrameCodec.encode f ++ rest) = (codec, rest, .ok (some f)) := by
  intro w
  have h : w.Inv FlowInv := pairInv_flow.inv_run config ls
  refine ⟨fun side => (h.good side).nodup, fun side id => ?_, fun side sl hsl e he => ?_,
    fun side f hf rest => ?_⟩
  · have hw := h.window side.peer id
    rw [SessionType.peer_peer] at hw
    rw [w.inFlight_eq, w.inFlight_eq, SessionType.peer_peer, bytesOf_append, deltasOf_append]
    simp only [View.owed, View.pending] at hw
    show ((w side).view id).sendWindow + _ + _ ≤ ((w side.peer).view id).recvWindow
    omega
  · obtain ⟨-, hinv, hsafe⟩ := h.handle side hsl
    obtain ⟨h', r, taken, hr, -, hfatal⟩ := StreamHandle.recvFrames_effect hinv.good hsafe
    rw [hr] at he
    subst he
    constructor <;> rintro rfl <;> exact hfatal trivial
  · have hacc := h.readable side f hf
    exact ⟨FrameCodec.decodeHeader_encodeHeader rest hacc.1.1 hacc.2,
      FrameCodec.decode_encode hacc rest⟩

end Yamux
end CkbP2P

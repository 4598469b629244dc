import CkbP2P.Yamux.View

/-!
# A session simulates the views of its streams

Every move of a session is, for each stream, one of a few moves of the view or none at
all; frames of other streams and control frames are not seen.
-/

namespace CkbP2P
namespace Yamux

open Lib Relation

/-- The next id but one does not overflow. -/
theorem toNat_add_two {id : StreamId} (hlt : id.toNat + 2 < 2 ^ 32) :
    (id + 2).toNat = id.toNat + 2 := by
  rw [UInt32.toNat_add]
  exact Nat.mod_eq_of_lt hlt

theorem SessionType.owns_add_two {ty : SessionType} {id : StreamId} (h : ty.owns id = true)
    (hlt : id.toNat + 2 < 2 ^ 32) : ty.owns (id + 2) = true := by
  cases ty <;> simp only [owns, toNat_add_two hlt, beq_iff_eq] at h ⊢ <;> omega

section Simulation

variable {s : Session} (hg : s.Good)
include hg

/-- The first waiting frame of a stream is the head of its view's queue. -/
theorem Session.Good.inq_of_firstOf {f : Frame} {l : List Frame}
    (hl : FirstOf f s.readPendingFrames l) :
    (s.view f.streamId).inq = f :: onStream f.streamId (l ++ s.incoming) := by
  simp only [Session.view, onStream_append, hl.onStream_self (hg.stream f hl.mem),
    List.cons_append]

variable (hc : ∀ id, (s.view id).Clean)
include hc

theorem Session.Good.slotOf_syn {f : Frame} {l : List Frame}
    (hl : FirstOf f s.readPendingFrames l) (hsyn : f.isSyn = true) :
    slotOf s.handles f.streamId = none := by
  by_contra h
  have := ((hc f.streamId).fresh (Option.isSome_iff_ne_none.mpr h)).2 f _ (hg.inq_of_firstOf hl)
  simp [this] at hsyn

theorem Session.Good.slotOf_next : slotOf s.handles s.nextStreamId = none := by
  by_contra h
  have := ((hc s.nextStreamId).fresh (Option.isSome_iff_ne_none.mpr h)).1
  simp [Session.view, hg.parity] at this

omit hc in
/-- A new handle keeps ids distinct. -/
theorem Session.Good.nodup_append {sl : Slot} (hnew : slotOf s.handles sl.handle.id = none) :
    (idsOf (s.handles ++ [sl])).Nodup := by
  rw [slotOf_eq_none] at hnew
  simp only [idsOf, List.map_append, List.map_cons, List.map_nil]
  exact List.nodup_append.mpr ⟨hg.nodup, List.nodup_singleton _, by
    intro a ha b hb
    rw [List.mem_singleton.mp hb]
    rintro rfl
    exact hnew ha⟩

/-- **A move keeps a session good.** -/
theorem Move.good {t : Session} (h : Move s t) : t.Good := by
  cases h with
  | other | transmit | lose | ping | goAway | remoteGone | eof | timeout | emit | event | absorb
    | refuseBusy | refuseGone => exact ⟨hg.nodup, hg.registered, hg.parity, hg.stream⟩
  | unregister id => exact hg.removeStream id
  | arrive hin hf =>
    refine ⟨hg.nodup, hg.registered, hg.parity, fun g hmem => ?_⟩
    rcases List.mem_append.mp hmem with hmem | hmem
    · exact hg.stream g hmem
    · exact List.mem_singleton.mp hmem ▸ hf
  | pass hl hi hs hr =>
    rw [modify_eq_set hs]
    refine ⟨?_, hg.registered_set hs (Slot.id_push _ _), hg.parity,
      fun g hmem => hg.stream g (hl.sublist.mem hmem)⟩
    exact idsOf_set hs (Slot.id_push _ _) ▸ hg.nodup
  | skip hl | refuse hl =>
    exact ⟨hg.nodup, hg.registered, hg.parity, fun g hmem => hg.stream g (hl.sublist.mem hmem)⟩
  | giveUp hgone hl =>
    exact ⟨hg.nodup, hg.registered, hg.parity, fun g hmem => hg.stream g (hl.mem hmem)⟩
  | cut hl hold =>
    obtain ⟨hnd, hreg, hpar, -⟩ := hg.removeStream _
    exact ⟨hnd, hreg, hpar, fun g hmem => hg.stream g (hl.sublist.mem hmem)⟩
  | accept hl hsyn hnew hcr =>
    have hid := Slot.create_id (.inr rfl) hcr
    refine ⟨hg.nodup_append ?_, hg.registered_insert ((Slot.id_push _ _).trans hid), hg.parity,
      fun g hmem => hg.stream g (hl.sublist.mem hmem)⟩
    rw [Slot.id_push, hid]
    exact hg.slotOf_syn hc hl hsyn
  | openStream hnext hnew hcr =>
    have hid := Slot.create_id (.inl rfl) hcr
    refine ⟨hg.nodup_append ?_, hg.registered_insert hid,
      SessionType.owns_add_two hg.parity hnext, hg.stream⟩
    rw [hid]
    exact hg.slotOf_next hc
  | burn hnext =>
    exact ⟨hg.nodup, hg.registered, SessionType.owns_add_two hg.parity hnext, hg.stream⟩
  | @handle i slot hs op =>
    have hsl := slotOf_of_getElem? hg.nodup hs
    obtain ⟨hinv, hsafe⟩ := (hc slot.handle.id).calls slot hsl
    obtain ⟨taken, hstep⟩ := Slot.apply_step hinv hsafe op
    refine ⟨?_, hg.registered_set hs hstep.id, hg.parity, hg.stream⟩
    exact idsOf_set hs hstep.id ▸ hg.nodup

omit hg hc in
/-- A refusal is queued before the frames of the handles. -/
theorem outq_refusal {id : StreamId} {r : Frame} (hr : IsRefusal id r) (w e : List Frame)
    (id' : StreamId) :
    onStream id' (w ++ [r] ++ e)
      = if id = id' then onStream id' w ++ r :: onStream id' e else onStream id' (w ++ e) := by
  have hid : r.streamId = id := by rcases hr with rfl | rfl <;> rfl
  have hst : r.isStream = true := by rcases hr with rfl | rfl <;> rfl
  split_ifs with h
  · subst h
    subst hid
    simp [onStream_cons_self hst]
  · simp [onStream_cons_of_ne (hid ▸ h : r.streamId ≠ id')]

omit hg hc in
theorem VMove.to {v w u : View} (h : VMove v w) (he : u = w) : VMoves v u := he ▸ .single h

omit hg hc in
theorem VMoves.of_eq {v u : View} (he : u = v) : VMoves v u := he ▸ .refl

omit hg hc in
/-- A frame goes from the queue to the transport. -/
theorem view_transmit {f : Frame} {rest : List Frame} (hw : s.writePendingFrames = f :: rest)
    (he : s.eof = false) (id : StreamId) :
    VMoves (s.view id)
      ({ s with writePendingFrames := rest, outgoing := s.outgoing ++ [f] }.view id) := by
  by_cases hon : f.isStream = true ∧ f.streamId = id
  · obtain ⟨hf, rfl⟩ := hon
    have hq : (s.view f.streamId).outq
        = f :: onStream f.streamId (rest ++ framesOf s.eventReceiver) := by
      simp [Session.view, hw, onStream_cons_self hf]
    exact (VMove.transmit hq he).to (by simp [Session.view, onStream_cons_self hf])
  · have hno : ∀ l, onStream id (f :: l) = onStream id l := fun l => by
      rcases onStream_cons_cases id f l with h | ⟨hf, hid, -⟩
      · exact h
      · exact absurd ⟨hf, hid⟩ hon
    exact .of_eq (by simp [Session.view, hw, hno])

omit hg hc in
/-- The end gives up, and with it the frames it has queued. -/
theorem view_goAway {l r : Bool} {w : List Frame} (hflag : (l || r) = true)
    (hw : ∀ id, onStream id w = []) (id : StreamId) :
    VMoves (s.view id)
      ({ s with localGoAway := l, remoteGoAway := r, writePendingFrames := w }.view id) := by
  have hhalt : VMove (s.view id) { s.view id with eof := s.eof, goAway := true } :=
    .halt (fun h => h) (fun _ => rfl)
  refine .head hhalt ((VMove.lose (l := onStream id (framesOf s.eventReceiver)) ?_ (.inr rfl)).to
    ?_)
  · simp [Session.view]
  · simp [Session.view, hw, hflag]

omit hc in
/-- The stream is forgotten. -/
theorem view_unregister (id id' : StreamId) :
    VMoves (s.view id') ((s.removeStream id).view id') := by
  cases hl : s.streams.lookup id with
  | none => exact .of_eq (Session.Good.view_removeStream_of_none hl id')
  | some i =>
    by_cases hid : id = id'
    · subst hid
      exact (VMove.unregister _).to (hg.view_removeStream_self hl)
    · exact .of_eq (hg.view_removeStream_of_ne hid)

omit hc in
/-- A frame is put into the channel of its stream. -/
theorem view_pass {f : Frame} {l : List Frame} {i : ℕ} {slot : Slot}
    (hl : FirstOf f s.readPendingFrames l) (hi : s.streams.lookup f.streamId = some i)
    (hs : s.handles[i]? = some slot) (id : StreamId) :
    VMoves (s.view id)
      ({ s with readPendingFrames := l,
                handles := s.handles.modify i fun sl => sl.push f }.view id) := by
  obtain ⟨sl, hi', hid, hsl⟩ := hg.slotOf_registered hi
  rw [hs] at hi'
  cases hi'
  have hset := slotOf_set hg.nodup hs (slot.id_push f) id
  rw [← modify_eq_set hs fun sl => sl.push f] at hset
  by_cases h : f.streamId = id
  · subst h
    rw [if_pos hid] at hset
    refine (VMove.deliver (hg.inq_of_firstOf hl) hsl ?_).to ?_
    · simp [Session.view, hi]
    · simp only [Session.view, hset]
  · rw [if_neg (hid ▸ h)] at hset
    exact .of_eq (by simp only [Session.view, hset, onStream_append, hl.onStream_of_ne h])

omit hc in
/-- A frame of a forgotten stream is dropped. -/
theorem view_skip {f : Frame} {l : List Frame} (hl : FirstOf f s.readPendingFrames l)
    (hnew : f.streamId ∉ s.streams) (hsyn : f.isSyn = false) (id : StreamId) :
    VMoves (s.view id) ({ s with readPendingFrames := l }.view id) := by
  by_cases h : f.streamId = id
  · subst h
    refine (VMove.discard (hg.inq_of_firstOf hl) ?_ hsyn).to rfl
    simp [Session.view, AList.lookup_eq_none.mpr hnew]
  · exact .of_eq (by simp only [Session.view, onStream_append, hl.onStream_of_ne h])

omit hc in
/-- A frame of a stream without a receiver is dropped, and the stream forgotten. -/
theorem view_cut {f : Frame} {l : List Frame} (hl : FirstOf f s.readPendingFrames l)
    (hold : f.streamId ∈ s.streams) (id : StreamId) :
    VMoves (s.view id) ({ s.removeStream f.streamId with readPendingFrames := l }.view id) := by
  rw [← AList.lookup_isSome, Option.isSome_iff_exists] at hold
  obtain ⟨i, hi⟩ := hold
  obtain ⟨sl, -, -, hsl⟩ := hg.slotOf_registered hi
  have hview (id : StreamId) : { s.removeStream f.streamId with readPendingFrames := l }.view id
      = { (s.removeStream f.streamId).view id with inq := onStream id (l ++ s.incoming) } := rfl
  rw [hview]
  by_cases h : f.streamId = id
  · subst h
    rw [hg.view_removeStream_self hi]
    refine (VMove.cut (hg.inq_of_firstOf hl) hsl).to ?_
    simp only [Session.view, hsl, Option.map_some]
  · rw [hg.view_removeStream_of_ne h]
    exact .of_eq (by simp only [Session.view, onStream_append, hl.onStream_of_ne h])

omit hg hc in
/-- Frames of one handle. -/
theorem onStream_honest {id : StreamId} {l : List Frame} (h : ∀ f ∈ l, f.Honest id)
    (id' : StreamId) : onStream id' l = if id = id' then l else [] := by
  have hon (f : Frame) (hf : f ∈ l) : (f.isStream && f.streamId == id') = decide (id = id') := by
    have hst : f.isStream = true := by cases h f hf <;> rfl
    simp [hst, (h f hf).streamId_eq, beq_eq_decide]
  split_ifs with hid
  · exact List.filter_eq_self.mpr fun f hf => by simp [hon f hf, hid]
  · exact List.filter_eq_nil_iff.mpr fun f hf => by simp [hon f hf, hid]

omit hg hc in
/-- The events of a new handle are one frame of its own. -/
theorem onStream_create {id : StreamId} {n : UInt32} {state : StreamState} {sl : Slot}
    {events : List StreamEvent} (hst : state = .init ∨ state = .synReceived)
    (hcr : Slot.create id state n = (sl, events)) (id' : StreamId) :
    onStream id' (framesOf events) = if id = id' then framesOf events else [] := by
  refine onStream_honest (fun f hf => ?_) id'
  rcases hst with rfl | rfl
  · rw [Slot.create_eq id n (.inl ⟨rfl, rfl, rfl⟩)] at hcr
    cases hcr
    exact List.mem_singleton.mp hf ▸ .windowUpdate _ _
  · rw [Slot.create_eq id n (.inr ⟨rfl, rfl, rfl⟩)] at hcr
    cases hcr
    exact List.mem_singleton.mp hf ▸ .windowUpdate _ _

/-- A stream of the peer is accepted. -/
theorem view_accept {f : Frame} {l : List Frame} (hl : FirstOf f s.readPendingFrames l)
    (hsyn : f.isSyn = true) (hnew : f.streamId ∉ s.streams) {sl : Slot}
    {events : List StreamEvent}
    (hcr : Slot.create f.streamId .synReceived s.config.maxStreamWindowSize = (sl, events))
    (id : StreamId) :
    VMoves (s.view id) ({ s with
      readPendingFrames := l
      streams := s.streams.insert f.streamId s.handles.length
      handles := s.handles ++ [sl.push f]
      eventReceiver := s.eventReceiver ++ events }.view id) := by
  have hnone := hg.slotOf_syn hc hl hsyn
  have hid : (sl.push f).handle.id = f.streamId :=
    (sl.id_push f).trans (Slot.create_id (.inr rfl) hcr)
  have hev := onStream_create (.inr rfl) hcr id
  by_cases h : f.streamId = id
  · subst h
    rw [if_pos rfl] at hev
    refine (VMove.accept (v := s.view f.streamId) (hg.inq_of_firstOf hl) hsyn hnone ?_ hcr).to ?_
    · simp [Session.view, AList.lookup_eq_none.mpr hnew]
    · simp [Session.view, slotOf_append_singleton, hnone, hid, hev, AList.lookup_insert]
  · rw [if_neg h] at hev
    refine .of_eq ?_
    simp [Session.view, slotOf_append_singleton, hid, h, hev, hl.onStream_of_ne h,
      AList.lookup_insert_ne (Ne.symm h)]

omit hc in
/-- Using up an id does not concern the others. -/
theorem mayOpen_next (hnext : s.nextStreamId.toNat + 2 < 2 ^ 32) (id : StreamId) :
    (s.ty.owns id && decide (s.nextStreamId + 2 ≤ id))
      = if s.nextStreamId = id then false else s.ty.owns id && decide (s.nextStreamId ≤ id) := by
  have hadd := toNat_add_two hnext
  have hpar := hg.parity
  simp only [UInt32.le_iff_toNat_le, hadd]
  split_ifs with h
  · subst h
    simp
  · have hne : s.nextStreamId.toNat ≠ id.toNat := fun he => h (UInt32.toNat_inj.mp he)
    cases hown : s.ty.owns id with
    | false => rfl
    | true =>
      simp only [Bool.true_and, decide_eq_decide]
      cases hty : s.ty <;> simp only [hty, SessionType.owns, beq_iff_eq] at hpar hown <;> omega

/-- A stream of our own is created. -/
theorem view_openStream (hnext : s.nextStreamId.toNat + 2 < 2 ^ 32) {sl : Slot}
    {events : List StreamEvent}
    (hcr : Slot.create s.nextStreamId .init s.config.maxStreamWindowSize = (sl, events))
    (id : StreamId) :
    VMoves (s.view id) ({ s with
      nextStreamId := s.nextStreamId + 2
      streams := s.streams.insert s.nextStreamId s.handles.length
      handles := s.handles ++ [sl]
      eventReceiver := s.eventReceiver ++ events }.view id) := by
  have hnone := hg.slotOf_next hc
  have hid : sl.handle.id = s.nextStreamId := Slot.create_id (.inl rfl) hcr
  have hev := onStream_create (.inl rfl) hcr id
  have hmay := mayOpen_next hg hnext id
  by_cases h : s.nextStreamId = id
  · rw [if_pos h] at hev hmay
    subst h
    refine (VMove.openStream (v := s.view s.nextStreamId) ?_ hnone hcr).to ?_
    · simp [Session.view, hg.parity]
    · simp [Session.view, slotOf_append_singleton, hnone, hid, hev, hmay, AList.lookup_insert]
  · rw [if_neg h] at hev hmay
    refine .of_eq ?_
    simp [Session.view, slotOf_append_singleton, hid, h, hev, hmay,
      AList.lookup_insert_ne (Ne.symm h)]

/-- The owner of a handle calls it. -/
theorem view_handle {i : ℕ} {slot : Slot} (hs : s.handles[i]? = some slot) (op : HandleOp)
    (id : StreamId) :
    VMoves (s.view id) ({ s with
      handles := s.handles.set i (slot.apply op).1
      eventReceiver := s.eventReceiver ++ (slot.apply op).2 }.view id) := by
  have hsl := slotOf_of_getElem? hg.nodup hs
  obtain ⟨hinv, hsafe⟩ := (hc slot.handle.id).calls slot hsl
  obtain ⟨taken, hstep⟩ := Slot.apply_step hinv hsafe op
  have hset := slotOf_set hg.nodup hs hstep.id id
  have hev := onStream_honest (fun f hf => (hstep.honest f hf).1) id
  by_cases h : slot.handle.id = id
  · rw [if_pos h] at hset hev
    subst h
    exact (VMove.handle hsl op).to (by simp [Session.view, hset, hev])
  · rw [if_neg h] at hset hev
    exact .of_eq (by simp [Session.view, hset, hev])

/-- **The simulation.**  A move is a sequence of moves of each view. -/
theorem Move.view {t : Session} (h : Move s t) (id : StreamId) :
    VMoves (s.view id) (t.view id) := by
  cases h with
  | other => exact .refl
  | transmit hw he => exact view_transmit hw he id
  | lose hw hd =>
    refine .single (.lose ?_ ?_)
    · simp only [Session.view, hw, onStream_append]
      exact (onStream_sublist id (List.sublist_cons_self _ _)).append_right _
    · simp only [Session.isDead, Bool.or_eq_true, Bool.and_eq_true] at hd
      simp only [Session.view, Bool.or_eq_true]
      tauto
  | ping flags n =>
    have hping : (Frame.newPing flags n).isStream = false := rfl
    exact .of_eq (by simp [Session.view, onStream_cons_of_control hping])
  | goAway code => exact view_goAway rfl (fun id => onStream_cons_of_control rfl id _) id
  | remoteGone => exact view_goAway (Bool.or_true _) (fun id => rfl) id
  | eof => exact (VMove.halt (fun _ => rfl) (fun h => h)).to rfl
  | timeout hl => exact (VMove.halt (fun h => h) (fun _ => Bool.or_true _)).to rfl
  | emit hev => exact .of_eq (by simp [Session.view, hev])
  | @event ev rest hev hf =>
    have hfr : framesOf s.eventReceiver = framesOf rest := by
      rw [hev, ← List.singleton_append, framesOf_append, hf, List.nil_append]
    exact .of_eq (by simp [Session.view, hfr])
  | unregister id' => exact view_unregister hg id' id
  | arrive hin hf => exact .of_eq (by simp [Session.view, hin])
  | absorb hin hf => exact .of_eq (by simp [Session.view, hin, onStream_cons_of_control hf])
  | pass hl hi hs hr => exact view_pass hg hl hi hs id
  | skip hl hnew hsyn => exact view_skip hg hl hnew hsyn id
  | cut hl hold => exact view_cut hg hl hold id
  | giveUp hgone hl =>
    refine .single (.loseIn ?_ ?_)
    · simp only [Session.view, onStream_append]
      exact (onStream_sublist id hl).append_right _
    · simp [Session.view, hgone]
  | @refuse f r l hl hsyn hnew hr =>
    by_cases h : f.streamId = id
    · subst h
      refine (VMove.refuse (hg.inq_of_firstOf hl) hsyn ?_ hr (onStream_append _ _ _)).to ?_
      · simp [Session.view, AList.lookup_eq_none.mpr hnew]
      · simp only [Session.view, outq_refusal hr, if_true]
    · refine .of_eq ?_
      simp only [Session.view, outq_refusal hr, if_neg h, onStream_append, hl.onStream_of_ne h]
  | refuseBusy hl hsyn hold hr =>
    have := hg.slotOf_of_mem hold
    rw [hg.slotOf_syn hc hl hsyn] at this
    cases this
  | @refuseGone id' r hgone hr =>
    by_cases h : id' = id
    · subst h
      refine (VMove.refuseGone ?_ hr (onStream_append _ _ _)).to ?_
      · simp [Session.view, hgone]
      · simp only [Session.view, outq_refusal hr, if_true]
    · exact .of_eq (by simp only [Session.view, outq_refusal hr, if_neg h])
  | accept hl hsyn hnew hcr => exact view_accept hg hc hl hsyn hnew hcr id
  | openStream hnext hnew hcr => exact view_openStream hg hc hnext hcr id
  | burn hnext =>
    have hmay := mayOpen_next hg hnext id
    split_ifs at hmay
    · exact (VMove.burn _).to (by simp [Session.view, hmay])
    · exact .of_eq (by simp [Session.view, hmay])
  | handle hs op => exact view_handle hg hc hs op id

end Simulation

end Yamux
end CkbP2P

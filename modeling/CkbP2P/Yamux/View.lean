import CkbP2P.Lib.Entries
import CkbP2P.Yamux.Moves

/-!
# One stream seen from one end

For a fixed stream id, most of a session is irrelevant.  `Session.view` keeps what
concerns the stream: its handle, whether it is registered, and the frames of the
stream in the queues on the way in and out.  The moves of a view are those a session
can make as far as the stream is concerned.
-/

namespace CkbP2P
namespace Yamux

open Lib Relation

/-! ### The frames of one stream -/

/-- The stream frames with id `id` of a list. -/
def onStream (id : StreamId) (l : List Frame) : List Frame :=
  l.filter fun f => f.isStream && f.streamId == id

@[simp] theorem onStream_nil (id : StreamId) : onStream id [] = [] := rfl

@[simp] theorem onStream_append (id : StreamId) (l l' : List Frame) :
    onStream id (l ++ l') = onStream id l ++ onStream id l' := List.filter_append ..

theorem onStream_cons_self {f : Frame} (hf : f.isStream = true) (l : List Frame) :
    onStream f.streamId (f :: l) = f :: onStream f.streamId l := by
  simp [onStream, hf]

theorem onStream_cons_of_ne {id : StreamId} {f : Frame} (h : f.streamId ≠ id) (l : List Frame) :
    onStream id (f :: l) = onStream id l := by
  simp [onStream, h]

theorem onStream_cons_of_control {f : Frame} (hf : f.isStream = false) (id : StreamId)
    (l : List Frame) : onStream id (f :: l) = onStream id l := by
  simp [onStream, hf]

theorem onStream_sublist (id : StreamId) {l l' : List Frame} (h : l.Sublist l') :
    (onStream id l).Sublist (onStream id l') := h.filter _

theorem mem_onStream {id : StreamId} {f : Frame} {l : List Frame} :
    f ∈ onStream id l ↔ f ∈ l ∧ f.isStream = true ∧ f.streamId = id := by
  simp [onStream]

/-- A frame of the stream at the head, or nothing. -/
theorem onStream_cons_cases (id : StreamId) (f : Frame) (l : List Frame) :
    onStream id (f :: l) = onStream id l ∨
      f.isStream = true ∧ f.streamId = id ∧ onStream id (f :: l) = f :: onStream id l := by
  by_cases hf : f.isStream = true
  · by_cases hid : f.streamId = id
    · subst hid
      exact .inr ⟨hf, rfl, onStream_cons_self hf l⟩
    · exact .inl (onStream_cons_of_ne hid l)
  · exact .inl (onStream_cons_of_control (by simpa using hf) id l)

theorem FirstOf.onStream_self {f : Frame} {l l' : List Frame} (h : FirstOf f l l')
    (hf : f.isStream = true) : onStream f.streamId l = f :: onStream f.streamId l' := by
  obtain ⟨l₁, l₂, rfl, rfl, hne⟩ := h
  have hnil : onStream f.streamId l₁ = [] := by
    rw [List.eq_nil_iff_forall_not_mem]
    intro g hg
    rw [mem_onStream] at hg
    exact hne g hg.1 hg.2.2
  simp [hnil, onStream_cons_self hf]

theorem FirstOf.onStream_of_ne {f : Frame} {l l' : List Frame} (h : FirstOf f l l')
    {id : StreamId} (hid : f.streamId ≠ id) : onStream id l = onStream id l' := by
  obtain ⟨l₁, l₂, rfl, rfl, _⟩ := h
  simp [onStream_cons_of_ne hid]

theorem FirstOf.mem {f : Frame} {l l' : List Frame} (h : FirstOf f l l') : f ∈ l := by
  obtain ⟨l₁, l₂, rfl, -, -⟩ := h
  simp

theorem FirstOf.sublist {f : Frame} {l l' : List Frame} (h : FirstOf f l l') : l'.Sublist l := by
  obtain ⟨l₁, l₂, rfl, rfl, -⟩ := h
  exact (List.sublist_cons_self f l₂).append_left l₁

/-! ### Handles by id -/

/-- The handle with id `id`. -/
def slotOf (handles : List Slot) (id : StreamId) : Option Slot :=
  handles.find? fun sl => sl.handle.id == id

/-- The ids of the handles. -/
def idsOf (handles : List Slot) : List StreamId := handles.map fun sl => sl.handle.id

theorem slotOf_eq_none {handles : List Slot} {id : StreamId} :
    slotOf handles id = none ↔ id ∉ idsOf handles := by
  simp [slotOf, idsOf]

theorem slotOf_append_singleton (handles : List Slot) (sl : Slot) (id : StreamId) :
    slotOf (handles ++ [sl]) id
      = (slotOf handles id).or (if sl.handle.id = id then some sl else none) := by
  simp only [slotOf, List.find?_append]
  congr 1
  by_cases h : sl.handle.id = id <;> simp [h]

theorem slotOf_of_getElem? {handles : List Slot} (hnd : (idsOf handles).Nodup) :
    ∀ {i : ℕ} {sl : Slot}, handles[i]? = some sl → slotOf handles sl.handle.id = some sl := by
  induction handles with
  | nil => simp
  | cons a l ih =>
    intro i sl hi
    simp only [idsOf, List.map_cons, List.nodup_cons] at hnd
    cases i with
    | zero =>
      cases hi
      simp [slotOf]
    | succ i =>
      have hmem : sl.handle.id ∈ idsOf l := List.mem_map.mpr ⟨sl, List.mem_of_getElem? hi, rfl⟩
      have hne : a.handle.id ≠ sl.handle.id := fun he => hnd.1 (he ▸ hmem)
      simpa [slotOf, hne] using ih hnd.2 hi

theorem idsOf_set {handles : List Slot} {i : ℕ} {sl sl' : Slot} (hi : handles[i]? = some sl)
    (hid : sl'.handle.id = sl.handle.id) : idsOf (handles.set i sl') = idsOf handles := by
  unfold idsOf
  rw [List.map_set, hid]
  apply List.ext_getElem?
  intro j
  rw [List.getElem?_set, List.getElem?_map]
  split_ifs with hij hlt
  · subst hij
    rw [hi]
    rfl
  · subst hij
    rw [List.getElem?_eq_none (by simpa using hlt)]
    rfl
  · rfl

/-- Replacing one handle by another with the same id. -/
theorem slotOf_set {handles : List Slot} (hnd : (idsOf handles).Nodup) {i : ℕ} {sl sl' : Slot}
    (hi : handles[i]? = some sl) (hid : sl'.handle.id = sl.handle.id) (id : StreamId) :
    slotOf (handles.set i sl') id
      = if sl.handle.id = id then some sl' else slotOf handles id := by
  induction handles generalizing i with
  | nil => simp at hi
  | cons a l ih =>
    simp only [idsOf, List.map_cons, List.nodup_cons] at hnd
    cases i with
    | zero =>
      cases hi
      by_cases h : sl.handle.id = id <;> simp [slotOf, hid, h]
    | succ i =>
      have hmem : sl.handle.id ∈ idsOf l := List.mem_map.mpr ⟨sl, List.mem_of_getElem? hi, rfl⟩
      by_cases ha : a.handle.id = id
      · have hne : sl.handle.id ≠ id := fun he => hnd.1 (ha ▸ he ▸ hmem)
        simp [slotOf, ha, hne]
      · simpa [slotOf, ha] using ih hnd.2 hi

/-- Changing a handle in place is replacing it. -/
theorem modify_eq_set {handles : List Slot} {i : ℕ} {sl : Slot} (hi : handles[i]? = some sl)
    (f : Slot → Slot) : handles.modify i f = handles.set i (f sl) := by
  rw [List.modify_eq_set_getElem?, hi]
  rfl

/-! ### The view and its moves -/

/-- What one end knows of one stream. -/
structure View where
  id : StreamId
  /-- The maximal window of this end. -/
  max : UInt32
  slot : Option Slot
  /-- The stream is registered. -/
  live : Bool
  /-- Frames that have arrived and are not in the stream's channel. -/
  inq : List Frame
  /-- Frames put into the transport. -/
  wire : List Frame
  /-- Frames emitted and not put into the transport. -/
  outq : List Frame
  eof : Bool
  /-- Either side is known to have given up. -/
  goAway : Bool
  /-- This end may still create the stream. -/
  mayOpen : Bool

/-- The ids a side hands out. -/
def SessionType.owns : SessionType → StreamId → Bool
  | .client, id => id.toNat % 2 == 1
  | .server, id => id.toNat % 2 == 0

theorem Session.owns_nextStreamId_new (config : Config) (ty : SessionType) :
    ty.owns (Session.new config ty).nextStreamId = true := by
  cases ty with
  | client =>
    show SessionType.client.owns 1 = true
    decide
  | server =>
    show SessionType.server.owns 2 = true
    decide

/-- The view of stream `id`. -/
def Session.view (s : Session) (id : StreamId) : View where
  id := id
  max := s.config.maxStreamWindowSize
  slot := slotOf s.handles id
  live := (s.streams.lookup id).isSome
  inq := onStream id (s.readPendingFrames ++ s.incoming)
  wire := onStream id s.outgoing
  outq := onStream id (s.writePendingFrames ++ framesOf s.eventReceiver)
  eof := s.eof
  goAway := s.localGoAway || s.remoteGoAway
  mayOpen := s.ty.owns id && decide (s.nextStreamId ≤ id)

/-- The moves of a view. -/
inductive VMove : View → View → Prop
  | transmit {v : View} {f : Frame} {rest : List Frame} (ho : v.outq = f :: rest)
      (he : v.eof = false) : VMove v { v with outq := rest, wire := v.wire ++ [f] }
  /-- A dead or leaving end loses frames. -/
  | lose {v : View} {l : List Frame} (hl : l.Sublist v.outq)
      (hd : v.eof = true ∨ v.goAway = true) : VMove v { v with outq := l }
  | loseIn {v : View} {l : List Frame} (hl : l.Sublist v.inq) (hg : v.goAway = true) :
    VMove v { v with inq := l }
  | halt {v : View} {e g : Bool} (he : v.eof = true → e = true)
      (hg : v.goAway = true → g = true) : VMove v { v with eof := e, goAway := g }
  | unregister (v : View) : VMove v { v with live := false, slot := v.slot.map Slot.closeSender }
  | deliver {v : View} {f : Frame} {rest : List Frame} {sl : Slot} (hi : v.inq = f :: rest)
      (hs : v.slot = some sl) (hl : v.live = true) :
    VMove v { v with inq := rest, slot := some (sl.push f) }
  | discard {v : View} {f : Frame} {rest : List Frame} (hi : v.inq = f :: rest)
      (hl : v.live = false) (hsyn : f.isSyn = false) : VMove v { v with inq := rest }
  | cut {v : View} {f : Frame} {rest : List Frame} {sl : Slot} (hi : v.inq = f :: rest)
      (hs : v.slot = some sl) :
    VMove v { v with inq := rest, live := false, slot := some sl.closeSender }
  | accept {v : View} {f : Frame} {rest : List Frame} {sl : Slot} {events : List StreamEvent}
      (hi : v.inq = f :: rest) (hsyn : f.isSyn = true) (hs : v.slot = none) (hl : v.live = false)
      (hc : Slot.create v.id .synReceived v.max = (sl, events)) :
    VMove v { v with
      inq := rest, slot := some (sl.push f), live := true, outq := v.outq ++ framesOf events }
  | refuse {v : View} {f r : Frame} {rest a b : List Frame} (hi : v.inq = f :: rest)
      (hsyn : f.isSyn = true) (hl : v.live = false) (hr : IsRefusal v.id r)
      (ho : v.outq = a ++ b) : VMove v { v with inq := rest, outq := a ++ r :: b }
  | refuseGone {v : View} {r : Frame} {a b : List Frame} (hg : v.goAway = true)
      (hr : IsRefusal v.id r) (ho : v.outq = a ++ b) : VMove v { v with outq := a ++ r :: b }
  | openStream {v : View} {sl : Slot} {events : List StreamEvent} (hm : v.mayOpen = true)
      (hs : v.slot = none) (hc : Slot.create v.id .init v.max = (sl, events)) :
    VMove v { v with
      slot := some sl, live := true, outq := v.outq ++ framesOf events, mayOpen := false }
  | burn (v : View) : VMove v { v with mayOpen := false }
  | handle {v : View} {sl : Slot} (hs : v.slot = some sl) (op : HandleOp) :
    VMove v { v with
      slot := some (sl.apply op).1, outq := v.outq ++ framesOf (sl.apply op).2 }

/-- Sequences of moves of a view. -/
abbrev VMoves : View → View → Prop := ReflTransGen VMove

/-- A stream that has a handle is not asked for again, and calls on the handle meet no
error. -/
structure View.Clean (v : View) : Prop where
  fresh : v.slot.isSome → v.mayOpen = false ∧ ∀ f rest, v.inq = f :: rest → f.isSyn = false
  calls : ∀ sl, v.slot = some sl → sl.Inv ∧ sl.handle.Safe

/-- What every session keeps by itself. -/
structure Session.Good (s : Session) : Prop where
  nodup : (idsOf s.handles).Nodup
  /-- A registered stream has a handle with its id. -/
  registered : ∀ {id i}, s.streams.lookup id = some i →
    ∃ sl, s.handles[i]? = some sl ∧ sl.handle.id = id
  parity : s.ty.owns s.nextStreamId = true
  stream : ∀ f ∈ s.readPendingFrames, f.isStream = true

namespace Session.Good

variable {s : Session}

/-- The handle of a registered stream is the one found by its id. -/
theorem slotOf_registered (hg : s.Good) {id : StreamId} {i : ℕ}
    (hl : s.streams.lookup id = some i) :
    ∃ sl, s.handles[i]? = some sl ∧ sl.handle.id = id ∧ slotOf s.handles id = some sl := by
  obtain ⟨sl, hi, rfl⟩ := hg.registered hl
  exact ⟨sl, hi, rfl, slotOf_of_getElem? hg.nodup hi⟩

theorem slotOf_of_mem (hg : s.Good) {id : StreamId} (h : id ∈ s.streams) :
    (slotOf s.handles id).isSome := by
  rw [← AList.lookup_isSome, Option.isSome_iff_exists] at h
  obtain ⟨i, hi⟩ := h
  obtain ⟨sl, -, -, hsl⟩ := hg.slotOf_registered hi
  rw [hsl]
  rfl

/-- A handle is replaced by one with the same id. -/
theorem registered_set (hg : s.Good) {i : ℕ} {sl sl' : Slot} (hi : s.handles[i]? = some sl)
    (hid : sl'.handle.id = sl.handle.id) {id : StreamId} {j : ℕ}
    (hl : s.streams.lookup id = some j) :
    ∃ x, (s.handles.set i sl')[j]? = some x ∧ x.handle.id = id := by
  obtain ⟨x, hx, rfl⟩ := hg.registered hl
  by_cases hij : i = j
  · subst hij
    rw [hi] at hx
    cases hx
    exact ⟨sl', by simp [(List.getElem?_eq_some_iff.mp hi).1], hid⟩
  · exact ⟨x, by rw [List.getElem?_set_ne hij]; exact hx, rfl⟩

/-- A new handle with a new id is registered. -/
theorem registered_insert (hg : s.Good) {id : StreamId} {sl : Slot} (hid : sl.handle.id = id)
    {id' : StreamId} {j : ℕ}
    (hl : (s.streams.insert id s.handles.length).lookup id' = some j) :
    ∃ x, (s.handles ++ [sl])[j]? = some x ∧ x.handle.id = id' := by
  rcases lookup_insert_eq_some_iff.mp hl with ⟨rfl, rfl⟩ | ⟨-, hl⟩
  · exact ⟨sl, by simp, hid⟩
  · obtain ⟨x, hx, hxid⟩ := hg.registered hl
    exact ⟨x, by rw [List.getElem?_append_left (List.getElem?_eq_some_iff.mp hx).1]; exact hx, hxid⟩

/-! ### Forgetting a stream -/

theorem handles_removeStream {id : StreamId} {i : ℕ} {sl : Slot}
    (hl : s.streams.lookup id = some i) (hi : s.handles[i]? = some sl) :
    (s.removeStream id).handles = s.handles.set i sl.closeSender := by
  simp only [Session.removeStream, hl, modify_eq_set hi]

theorem handles_removeStream_of_none {id : StreamId} (hl : s.streams.lookup id = none) :
    (s.removeStream id).handles = s.handles := by
  simp only [Session.removeStream, hl]

theorem lookup_removeStream (id id' : StreamId) :
    (s.removeStream id).streams.lookup id' = if id' = id then none else s.streams.lookup id' := by
  show (s.streams.erase id).lookup id' = _
  split_ifs with h
  · subst h
    exact AList.lookup_erase id' s.streams
  · exact AList.lookup_erase_ne h

theorem removeStream (hg : s.Good) (id : StreamId) : (s.removeStream id).Good := by
  cases hl : s.streams.lookup id with
  | none =>
    refine ⟨?_, fun {id' j} hj => ?_, hg.parity, hg.stream⟩
    · rw [handles_removeStream_of_none hl]
      exact hg.nodup
    · rw [lookup_removeStream] at hj
      split_ifs at hj
      rw [handles_removeStream_of_none hl]
      exact hg.registered hj
  | some i =>
    obtain ⟨sl, hi, -, -⟩ := hg.slotOf_registered hl
    refine ⟨?_, fun {id' j} hj => ?_, hg.parity, hg.stream⟩
    · rw [handles_removeStream hl hi, idsOf_set hi sl.id_closeSender]
      exact hg.nodup
    · rw [lookup_removeStream] at hj
      split_ifs at hj
      rw [handles_removeStream hl hi]
      exact hg.registered_set hi sl.id_closeSender hj

/-- The view of a registered stream that is forgotten. -/
theorem view_removeStream_self (hg : s.Good) {id : StreamId} {i : ℕ}
    (hl : s.streams.lookup id = some i) :
    (s.removeStream id).view id
      = { s.view id with live := false, slot := (s.view id).slot.map Slot.closeSender } := by
  obtain ⟨sl, hi, hid, hsl⟩ := hg.slotOf_registered hl
  have hslot : slotOf (s.removeStream id).handles id = some sl.closeSender := by
    rw [handles_removeStream hl hi, slotOf_set hg.nodup hi sl.id_closeSender, if_pos hid]
  simp only [Session.view, hslot, lookup_removeStream, if_true, hsl]
  rfl

theorem view_removeStream_of_ne (hg : s.Good) {id id' : StreamId} (hne : id ≠ id') :
    (s.removeStream id).view id' = s.view id' := by
  have hslot : slotOf (s.removeStream id).handles id' = slotOf s.handles id' := by
    cases hl : s.streams.lookup id with
    | none => rw [handles_removeStream_of_none hl]
    | some i =>
      obtain ⟨sl, hi, hid, -⟩ := hg.slotOf_registered hl
      rw [handles_removeStream hl hi, slotOf_set hg.nodup hi sl.id_closeSender,
        if_neg (hid ▸ hne)]
  simp only [Session.view, hslot, lookup_removeStream, if_neg hne.symm]
  rfl

theorem view_removeStream_of_none {id : StreamId} (hl : s.streams.lookup id = none)
    (id' : StreamId) : (s.removeStream id).view id' = s.view id' := by
  have hlook : (s.removeStream id).streams.lookup id' = s.streams.lookup id' := by
    rw [lookup_removeStream]
    split_ifs with h
    · rw [h, hl]
    · rfl
  simp only [Session.view, handles_removeStream_of_none hl, hlook]
  rfl

end Session.Good

end Yamux
end CkbP2P

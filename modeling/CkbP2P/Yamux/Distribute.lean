import Mathlib.Data.List.AList
import CkbP2P.Yamux.Micro

/-!
# Distribution under back-pressure

`distribute_to_substream` goes through the waiting frames once.  A frame whose stream's
channel is full is put back, and so are all later frames of that stream, for which the
loop keeps a set of blocked ids.  What a stream gets is therefore always the first of its
waiting frames.
-/

namespace CkbP2P
namespace Yamux

open Lib

/-- The frames put into the channel so far: those taken and those waiting. -/
def Slot.delivered (sl : Slot) : List Frame := sl.received ++ sl.queue

namespace Session

variable {s t u : Session} {blocked : List StreamId} {f : Frame}

/-- The `i`-th handle has not been dropped, and its stream is registered. -/
def Live (s : Session) (i : ℕ) (sl : Slot) : Prop :=
  s.handles[i]? = some sl ∧ sl.gone = false ∧ s.streams.lookup sl.handle.id = some i

/-- The stream is live and its channel is full. -/
def Full (s : Session) (id : StreamId) : Prop :=
  ∃ i sl, s.Live i sl ∧ sl.handle.id = id ∧ sl.handle.frameReceiver.parked = true

theorem Live.of_book {i : ℕ} {sl : Slot} (hl : s.Live i sl) (hb : t.book = s.book) :
    t.Live i sl := by
  obtain ⟨hs, hrest⟩ := Prod.mk.inj hb
  obtain ⟨hh, -⟩ := Prod.mk.inj hrest
  unfold Live
  rw [hs, hh]
  exact hl

theorem Full.of_book {id : StreamId} (hf : s.Full id) (hb : t.book = s.book) : t.Full id := by
  obtain ⟨i, sl, hl, hid, hp⟩ := hf
  exact ⟨i, sl, hl.of_book hb, hid, hp⟩

theorem Full.mem_idsOf {id : StreamId} (hf : s.Full id) : id ∈ idsOf s.handles := by
  obtain ⟨i, sl, hl, rfl, -⟩ := hf
  exact List.mem_map_of_mem (List.mem_of_getElem? hl.1)

/-! ### The loop keeps full streams blocked -/

/-- The state of the loop of `distribute_to_substream`. -/
structure Blocks (blocked : List StreamId) (s : Session) : Prop where
  registered : s.Registered
  full : ∀ id ∈ blocked, s.Full id
  pending : ∀ g ∈ s.readPendingFrames, g.streamId ∈ blocked

namespace Blocks

theorem of_desk (hb : Blocks blocked s) (hd : t.desk = s.desk) : Blocks blocked t := by
  have hbook := book_of_desk hd
  have hp : t.readPendingFrames = s.readPendingFrames := congrArg (fun d => d.2.1) hd
  refine ⟨hb.registered.of_book hbook, fun id hid => (hb.full id hid).of_book hbook, ?_⟩
  rw [hp]
  exact hb.pending

theorem requeue (hb : Blocks blocked s) (hf : f.streamId ∈ blocked) :
    Blocks blocked (s.requeue f) := by
  refine ⟨hb.registered, hb.full, fun g hg => ?_⟩
  rcases List.mem_append.mp hg with hg | hg
  · exact hb.pending g hg
  · rw [List.mem_singleton.mp hg]
    exact hf

/-- A stream is added, which disturbs no other. -/
theorem insertStream (hb : Blocks blocked s) (id : StreamId) :
    Blocks blocked (s.insertStream id .synReceived).1 := by
  have hreg := hb.registered.insertStream id (.inr rfl)
  unfold Session.insertStream at hreg ⊢
  split_ifs at hreg ⊢ with hold
  · exact hb
  refine ⟨hreg, fun id' hid' => ?_, hb.pending⟩
  obtain ⟨i, sl, ⟨hi, hgone, hlook⟩, rfl, hp⟩ := hb.full id' hid'
  have hne : sl.handle.id ≠ id := by
    rintro rfl
    rw [← AList.lookup_isSome, hlook] at hold
    exact hold rfl
  refine ⟨i, sl, ⟨?_, hgone, ?_⟩, rfl, hp⟩
  · show (s.handles ++ _)[i]? = some sl
    rw [List.getElem?_append_left (List.getElem?_eq_some_iff.mp hi).1]
    exact hi
  · show (s.streams.insert id _).lookup sl.handle.id = some i
    rw [AList.lookup_insert_ne hne]
    exact hlook

theorem acceptSyn (hb : Blocks blocked s) (f : Frame) : Blocks blocked (s.acceptSyn f).1 := by
  unfold Session.acceptSyn
  split_ifs
  · exact hb.of_desk (desk_sendFrame s _)
  · have hins := hb.insertStream f.streamId
    simp only [createStream]
    generalize s.insertStream f.streamId .synReceived = r at hins ⊢
    obtain ⟨s₁, _ | _⟩ := r
    · exact hins.of_desk (desk_sendGoAwayWithCode _ _)
    · exact hins.of_desk rfl
  · exact hb.of_desk rfl
  · exact hb

/-- The handle of another stream is changed. -/
theorem full_set (hb : Blocks blocked s) {i : ℕ} {sl sl' : Slot} (hi : s.handles[i]? = some sl)
    (hf : sl.handle.id ∉ blocked) (hh : t.handles = s.handles.set i sl')
    (hlook : ∀ id, id ≠ sl.handle.id → t.streams.lookup id = s.streams.lookup id) :
    ∀ id ∈ blocked, t.Full id := by
  intro id hid
  obtain ⟨j, x, ⟨hj, hgone, hl⟩, rfl, hp⟩ := hb.full id hid
  have hne : x.handle.id ≠ sl.handle.id := fun he => hf (he ▸ hid)
  have hij : i ≠ j := by
    rintro rfl
    rw [hi] at hj
    cases hj
    exact hne rfl
  refine ⟨j, x, ⟨?_, hgone, ?_⟩, rfl, hp⟩
  · rw [hh, List.getElem?_set_ne hij]
    exact hj
  · rw [hlook _ hne]
    exact hl

/-- A frame of a stream that is not blocked: the stream is blocked now if its channel is
full. -/
theorem passOn (hb : Blocks blocked s) (hf : f.streamId ∉ blocked) :
    Blocks (if (s.passOn f).2 then f.streamId :: blocked else blocked) (s.passOn f).1 := by
  have hreg := Registered.bookInv.passOn f hb.registered
  rcases passOn_outcome s f with ⟨-, heq⟩ | ⟨i, hlook, ⟨hi, heq⟩ |
    ⟨sl, hi, ⟨hgone, heq⟩ | ⟨hgone, hp, heq⟩ | ⟨hgone, hp, heq⟩⟩⟩ <;> rw [heq] at hreg ⊢
  · exact hb
  · obtain ⟨sl, hsl, -⟩ := hb.registered _ _ hlook
    rw [hi] at hsl
    cases hsl
  all_goals
    obtain ⟨x, hx, hid⟩ := hb.registered _ _ hlook
    rw [hi] at hx
    cases hx
    rw [← hid] at hf hlook
  · rw [← hid] at hreg ⊢
    refine ⟨hreg, hb.full_set hi hf (Good.handles_removeStream hlook hi) ?_, hb.pending⟩
    intro id hne
    rw [Good.lookup_removeStream, if_neg hne]
  · -- the frame is put back, and its stream is full
    refine ⟨hreg, fun id hmem => ?_, fun g hg => ?_⟩
    · rcases List.mem_cons.mp hmem with rfl | hmem
      · exact ⟨i, sl, ⟨hi, hgone, hlook⟩, hid, hp⟩
      · exact (hb.full id hmem).of_book rfl
    · rcases List.mem_append.mp hg with hg | hg
      · exact List.mem_cons_of_mem _ (hb.pending g hg)
      · rw [List.mem_singleton.mp hg]
        exact List.mem_cons_self
  · exact ⟨hreg, hb.full_set hi hf (modify_eq_set hi _) fun _ _ => rfl, hb.pending⟩

/-- Whatever happens to a frame in the loop, the loop goes on or stops with full streams
blocked. -/
theorem distributeLoop (buf : List Frame) :
    ∀ (blocked : List StreamId) (s : Session), Blocks blocked s →
      ∃ blocked', Blocks blocked' (distributeLoop buf blocked s) := by
  induction buf with
  | nil =>
    intro blocked s hb
    exact ⟨blocked, hb⟩
  | cons f buf ih =>
    intro blocked s hb
    rw [Session.distributeLoop]
    split_ifs with hf
    · exact ih blocked _ (hb.requeue hf)
    · have hacc := hb.acceptSyn f
      generalize s.acceptSyn f = r at hacc ⊢
      obtain ⟨s₁, _ | _⟩ := r
      · exact ⟨blocked, hacc⟩
      · have hpass := hacc.passOn hf
        dsimp only at hpass ⊢
        generalize s₁.passOn f = r at hpass ⊢
        obtain ⟨s₂, _ | _⟩ := r
        · exact ih _ s₂ hpass
        · exact ih _ s₂ hpass

/-- Before the first frame is looked at. -/
theorem start (hr : s.Registered) : Blocks [] { s with readPendingFrames := [] } :=
  ⟨hr, fun _ hid => absurd hid List.not_mem_nil, fun _ hg => absurd hg List.not_mem_nil⟩

end Blocks

/-- **The frames left queued are those of streams whose channel is full.** -/
theorem full_of_distribute (hr : s.Registered) :
    ∀ g ∈ s.distributeToSubstream.readPendingFrames, s.distributeToSubstream.Full g.streamId := by
  intro g hg
  obtain ⟨blocked, hb⟩ := (Blocks.start hr).distributeLoop s.readPendingFrames
  exact hb.full _ (hb.pending g hg)

/-! ### What the streams get -/

/-- A live stream after one handle has been replaced was live before, or is the one of the
replaced handle. -/
theorem Live.of_set {i j : ℕ} {sl x : Slot} (hl : t.Live i sl)
    (hh : t.handles = s.handles.set j x)
    (hlook : ∀ id k, t.streams.lookup id = some k → s.streams.lookup id = some k) :
    i = j ∧ sl = x ∨ i ≠ j ∧ s.Live i sl := by
  obtain ⟨hi, hgone, hl⟩ := hl
  rw [hh] at hi
  by_cases hij : i = j
  · subst hij
    have hlen : i < s.handles.length := by
      have := (List.getElem?_eq_some_iff.mp hi).1
      rwa [List.length_set] at this
    rw [List.getElem?_set_self hlen] at hi
    exact .inl ⟨rfl, (Option.some.inj hi).symm⟩
  · rw [List.getElem?_set_ne (Ne.symm hij)] at hi
    exact .inr ⟨hij, hi, hgone, hlook _ _ hl⟩

/-- A stream that is live after another has been forgotten was live before. -/
theorem Live.of_removeStream (hr : s.Registered) {id : StreamId} {i : ℕ} {sl : Slot}
    (hl : (s.removeStream id).Live i sl) : sl.handle.id ≠ id ∧ s.Live i sl := by
  have hless : ∀ id' k, (s.removeStream id).streams.lookup id' = some k →
      id' ≠ id ∧ s.streams.lookup id' = some k := by
    intro id' k hk
    rw [Good.lookup_removeStream] at hk
    split_ifs at hk with hid
    exact ⟨hid, hk⟩
  obtain ⟨hne, hold⟩ := hless _ _ hl.2.2
  refine ⟨hne, ?_⟩
  cases hlook : s.streams.lookup id with
  | none =>
    obtain ⟨hi, hgone, -⟩ := hl
    rw [Good.handles_removeStream_of_none hlook] at hi
    exact ⟨hi, hgone, hold⟩
  | some j =>
    obtain ⟨x, hj, hid⟩ := hr _ _ hlook
    rcases hl.of_set (Good.handles_removeStream hlook hj) fun id' k hk => (hless id' k hk).2
      with ⟨-, rfl⟩ | ⟨-, hl'⟩
    · exact absurd hid hne
    · exact hl'

/-- The frames `l` have been distributed.  A live stream has got, or will get, what it
would have got before, and then its frames of `l`. -/
structure Served (l : List Frame) (s t : Session) : Prop where
  ids : idsOf t.handles = idsOf s.handles
  next : t.nextStreamId = s.nextStreamId
  ty : t.ty = s.ty
  pending : ∀ g ∈ t.readPendingFrames, g ∈ s.readPendingFrames ∨ g ∈ l
  order : ∀ i sl', t.Live i sl' → ∃ sl, s.Live i sl ∧ sl.handle.id = sl'.handle.id ∧
    sl'.delivered ++ onStream sl.handle.id t.readPendingFrames =
      sl.delivered ++ onStream sl.handle.id s.readPendingFrames ++ onStream sl.handle.id l

namespace Served

theorem refl (s : Session) : Served [] s s where
  ids := rfl
  next := rfl
  ty := rfl
  pending _ hg := .inl hg
  order _ sl hl := ⟨sl, hl, rfl, by rw [onStream_nil, List.append_nil]⟩

theorem trans {l l' : List Frame} (h : Served l s t) (h' : Served l' t u) :
    Served (l ++ l') s u where
  ids := h'.ids.trans h.ids
  next := h'.next.trans h.next
  ty := h'.ty.trans h.ty
  pending g hg := by
    rcases h'.pending g hg with hg | hg
    · rcases h.pending g hg with hg | hg
      · exact .inl hg
      · exact .inr (List.mem_append_left _ hg)
    · exact .inr (List.mem_append_right _ hg)
  order i sl'' hl := by
    obtain ⟨sl', hl', hid', heq'⟩ := h'.order i sl'' hl
    obtain ⟨sl, hl, hid, heq⟩ := h.order i sl' hl'
    refine ⟨sl, hl, hid.trans hid', ?_⟩
    rw [← hid] at heq'
    rw [heq', heq, onStream_append, List.append_assoc]

/-- Nothing that distribution looks at has changed, and no live stream has a frame in
`l`. -/
theorem of_desk {l : List Frame} (hd : t.desk = s.desk)
    (hl : ∀ i sl, s.Live i sl → onStream sl.handle.id l = []) : Served l s t := by
  obtain ⟨hb, hrest⟩ := Prod.mk.inj hd
  obtain ⟨hp, hrest⟩ := Prod.mk.inj hrest
  obtain ⟨hn, hty⟩ := Prod.mk.inj hrest
  refine ⟨congrArg (fun b => idsOf b.2.1) hb, hn, hty, fun g hg => .inl (hp ▸ hg), ?_⟩
  intro i sl hi
  have hi' : s.Live i sl := hi.of_book hb.symm
  refine ⟨sl, hi', rfl, ?_⟩
  rw [hp, hl i sl hi', List.append_nil]

/-- The stream `id` is forgotten, and with it its frames. -/
theorem removeStream (hr : s.Registered) (id : StreamId) {l : List Frame}
    (hl : ∀ id', id' ≠ id → onStream id' l = []) : Served l s (s.removeStream id) where
  ids := idsOf_removeStream s id
  next := rfl
  ty := rfl
  pending _ hg := .inl hg
  order i sl hi := by
    obtain ⟨hne, hi'⟩ := hi.of_removeStream hr
    refine ⟨sl, hi', rfl, ?_⟩
    rw [hl _ hne, List.append_nil]
    rfl

theorem requeue (s : Session) (f : Frame) : Served [f] s (s.requeue f) where
  ids := rfl
  next := rfl
  ty := rfl
  pending _ hg := List.mem_append.mp hg
  order _ sl hl := by
    refine ⟨sl, hl, rfl, ?_⟩
    show sl.delivered ++ onStream _ (s.readPendingFrames ++ [f]) = _
    rw [onStream_append, List.append_assoc]

/-- The frame goes to its stream, waits for it, or has none, when none of the stream's
frames has been put back before it. -/
theorem passOn (hr : s.Registered) (hst : f.isStream = true)
    (hp : ∀ g ∈ s.readPendingFrames, g.streamId ≠ f.streamId) : Served [f] s (s.passOn f).1 := by
  have hother : ∀ {id}, id ≠ f.streamId → onStream id [f] = [] := fun hne =>
    onStream_cons_of_ne (Ne.symm hne) []
  rcases passOn_outcome s f with ⟨hnone, heq⟩ | ⟨j, hlook, ⟨hj, heq⟩ |
    ⟨x, hj, ⟨-, heq⟩ | ⟨-, -, heq⟩ | ⟨-, -, heq⟩⟩⟩ <;> rw [heq]
  · refine of_desk rfl fun i sl hl => hother ?_
    intro he
    rw [← he, hl.2.2] at hnone
    cases hnone
  · obtain ⟨x, hx, -⟩ := hr _ _ hlook
    rw [hj] at hx
    cases hx
  · exact removeStream hr f.streamId fun id => hother
  · exact requeue s f
  · -- the frame is put into the channel
    obtain ⟨x', hx', hid⟩ := hr _ _ hlook
    rw [hj] at hx'
    cases hx'
    refine ⟨?_, rfl, rfl, fun g hg => .inl hg, fun i sl hl => ?_⟩
    · show idsOf (s.handles.modify j _) = _
      rw [modify_eq_set hj, idsOf_set hj (x.id_push f)]
    rcases hl.of_set (modify_eq_set hj _) fun _ _ hk => hk with ⟨rfl, rfl⟩ | ⟨hij, hl'⟩
    · refine ⟨x, ⟨hj, hl.2.1, hl.2.2⟩, rfl, ?_⟩
      have hnone : onStream x.handle.id s.readPendingFrames = [] :=
        List.filter_eq_nil_iff.mpr fun g hg => by simp [hid, hp g hg]
      show x.received ++ (x.queue ++ [f]) ++ onStream x.handle.id s.readPendingFrames = _
      rw [hnone, hid, onStream_cons_self hst, onStream_nil, List.append_nil, List.append_nil,
        ← List.append_assoc]
      rfl
    · have hne : sl.handle.id ≠ f.streamId := by
        intro he
        rw [← he, hl'.2.2] at hlook
        exact hij (Option.some.inj hlook)
      refine ⟨sl, hl', rfl, ?_⟩
      rw [hother hne, List.append_nil]

/-- The queue is emptied at the start, and its frames are distributed first. -/
theorem of_start {l : List Frame}
    (h : Served (s.readPendingFrames ++ l) { s with readPendingFrames := [] } t) :
    Served l s t where
  ids := h.ids
  next := h.next
  ty := h.ty
  pending g hg := List.mem_append.mp ((h.pending g hg).resolve_left List.not_mem_nil)
  order i sl' hi := by
    obtain ⟨sl, hi', hid, heq⟩ := h.order i sl' hi
    refine ⟨sl, hi', hid, heq.trans ?_⟩
    rw [onStream_append, ← List.append_assoc]
    exact congrArg (· ++ _ ++ _) (List.append_nil _)

end Served

/-! ### The two kinds of frames -/

namespace Blocks

/-- A frame of a stream that is not blocked finds no frame of its stream put back. -/
theorem pending_ne (hb : Blocks blocked s) (hf : f.streamId ∉ blocked) :
    ∀ g ∈ s.readPendingFrames, g.streamId ≠ f.streamId := by
  intro g hg he
  exact hf (he ▸ hb.pending g hg)

/-- One frame without SYN. -/
theorem round (hb : Blocks blocked s) (hst : f.isStream = true)
    (hsyn : f.flags.contains .syn = false) :
    ∃ blocked' t, Blocks blocked' t ∧ Served [f] s t ∧
      ∀ buf, Session.distributeLoop (f :: buf) blocked s = Session.distributeLoop buf
      blocked' t := by
  by_cases hf : f.streamId ∈ blocked
  · refine ⟨blocked, s.requeue f, hb.requeue hf, .requeue s f, fun buf => ?_⟩
    rw [Session.distributeLoop, if_pos hf]
  · refine ⟨_, _, hb.passOn hf, .passOn hb.registered hst (hb.pending_ne hf), fun buf => ?_⟩
    have hacc : s.acceptSyn f = (s, true) := by
      unfold Session.acceptSyn
      rw [hsyn]
      rfl
    rw [Session.distributeLoop, if_neg hf, hacc]
    dsimp only
    generalize s.passOn f = r
    obtain ⟨s₁, _ | _⟩ := r <;> rfl

/-- **Frames without SYN**, each in its turn. -/
theorem rounds (l : List Frame)
    (hl : ∀ f ∈ l, f.isStream = true ∧ f.flags.contains .syn = false) :
    ∀ {blocked : List StreamId} {s : Session}, Blocks blocked s →
      ∃ blocked' t, Blocks blocked' t ∧ Served l s t ∧
        ∀ buf, Session.distributeLoop (l ++ buf) blocked s = Session.distributeLoop buf
        blocked' t := by
  induction l with
  | nil =>
    intro blocked s hb
    exact ⟨blocked, s, hb, .refl s, fun _ => rfl⟩
  | cons f l ih =>
    intro blocked s hb
    obtain ⟨hst, hsyn⟩ := hl f List.mem_cons_self
    obtain ⟨blocked₁, s₁, hb₁, hserved₁, hloop₁⟩ := hb.round hst hsyn
    obtain ⟨blocked₂, s₂, hb₂, hserved₂, hloop₂⟩ :=
      ih (fun g hg => hl g (List.mem_cons_of_mem _ hg)) hb₁
    refine ⟨blocked₂, s₂, hb₂, hserved₁.trans hserved₂, fun buf => ?_⟩
    rw [List.cons_append, hloop₁, hloop₂]

end Blocks

/-- A stream has been added, and its channel has been given `l`. -/
structure Added (id : StreamId) (l : List Frame) (s t : Session) : Prop where
  fresh : id ∉ s.streams
  streams : t.streams = s.streams.insert id s.handles.length
  handles : ∃ sl, t.handles = s.handles ++ [sl] ∧ sl.handle.id = id ∧ sl.delivered = l
  pending : t.readPendingFrames = s.readPendingFrames
  ty : t.ty = s.ty

namespace Blocks

/-- **A frame with SYN that comes last**, for an id without a live stream: the stream is
accepted, or the frame is nobody's. -/
theorem syn (hb : Blocks blocked s) (hst : f.isStream = true) (hsyn : f.flags.contains .syn = true)
    (hopen : ∀ i sl, s.Live i sl → f.streamId ≠ sl.handle.id) :
    Served [f] s (Session.distributeLoop [f] blocked s) ∨
      Added f.streamId [f] s (Session.distributeLoop [f] blocked s) ∧
        (Session.distributeLoop [f] blocked s).nextStreamId = s.nextStreamId := by
  have hf : f.streamId ∉ blocked := by
    intro hmem
    obtain ⟨i, sl, hl, hid, -⟩ := hb.full _ hmem
    exact hopen i sl hl hid.symm
  have hnone : ∀ i sl, s.Live i sl → onStream sl.handle.id [f] = [] := fun i sl hl =>
    onStream_cons_of_ne (hopen i sl hl) []
  rw [Session.distributeLoop, if_neg hf]
  unfold Session.acceptSyn
  rw [if_pos hsyn]
  split_ifs with haway hroom
  · exact .inl (.of_desk (desk_sendFrame s _) hnone)
  · simp only [createStream, Session.insertStream]
    split_ifs with hold
    · exact .inl (.of_desk (desk_sendGoAwayWithCode s _) hnone)
    · right
      dsimp only
      rw [passOn_fresh _ (AList.lookup_insert s.streams) List.getElem?_concat_length
        (Slot.create_frameReceiver _ _)]
      refine ⟨⟨hold, rfl, ⟨_, modify_append_singleton _ _ _, ?_, ?_⟩, rfl, rfl⟩, rfl⟩ <;>
      · rw [Slot.create_eq f.streamId s.config.maxStreamWindowSize (.inr ⟨rfl, rfl, rfl⟩)]
        rfl
  · -- refused for want of room: the frame is passed on all the same
    have hb' : Blocks blocked { s with writePendingFrames := s.writePendingFrames ++
        [.newWindowUpdate ((Flags.ofFlag .ack).add .rst) f.streamId 0] } := hb.of_desk rfl
    have hserved := Served.passOn hb'.registered hst (hb'.pending_ne hf)
    dsimp only
    generalize Session.passOn _ f = r at hserved ⊢
    obtain ⟨t, _ | _⟩ := r <;> exact .inl { hserved with }

end Blocks

end Session

end Yamux
end CkbP2P

import Mathlib.Algebra.Order.Ring.Nat
import Mathlib.Data.List.AList
import CkbP2P.Yamux.Distribute
import CkbP2P.Yamux.HandleMoves
import CkbP2P.Yamux.Simulation

/-!
# Each stream gets its own frames

A session run is recorded: the frames of streams it has received, and how many there had
been when each handle was made.  What a live stream has been given, followed by its frames
that wait, is then what has been received for it since its handle was made, in the order
of arrival.

The peer must not open a stream that is open.  That is not enough: `open_stream` takes the
next id of this side without a look at the waiting frames.  A peer that has opened a stream
under that id itself can leave frames waiting when its stream is closed, and the new stream
gets them.  So the peer must also keep to the ids of its own side.
-/

namespace CkbP2P
namespace Yamux

open Lib

/-- Frames are taken from the front of the channel. -/
theorem Slot.takenBy_append {h h' : StreamHandle}
    (hq : h'.frameReceiver.queue <:+ h.frameReceiver.queue) :
    takenBy h h' ++ h'.frameReceiver.queue = h.frameReceiver.queue := by
  obtain ⟨taken, hq⟩ := hq
  unfold takenBy
  rw [← hq, List.length_append, Nat.add_sub_cancel, List.take_left]

/-- What is taken from a channel and what stays in it were there before. -/
theorem Slot.delivered_apply {sl : Slot} (hl : sl.Linked) {op : HandleOp}
    (hgone : (sl.apply op).1.gone = false) : (sl.apply op).1.delivered = sl.delivered := by
  unfold apply at hgone ⊢
  split_ifs at hgone ⊢ with hold
  · rfl
  cases op with
  | read remaining =>
    have hq := takenBy_append (StreamHandle.pollRead_hmoves hl.1 remaining).queue_suffix
    show sl.received ++ takenBy sl.handle (sl.handle.pollRead remaining).1 ++
      (sl.handle.pollRead remaining).1.frameReceiver.queue = _
    rw [List.append_assoc, hq]
    rfl
  | write buf =>
    have hch := (StreamHandle.pollWrite_hacts hl.1 buf).frameReceiver_eq
    exact congrArg (fun c : Channel Frame => sl.received ++ c.queue) hch
  | shutdown =>
    have hch : sl.handle.pollShutdown.1.frameReceiver = sl.handle.frameReceiver := by
      rw [StreamHandle.pollShutdown_fst]
      obtain ⟨h', ha, heq | ⟨-, heq⟩⟩ := StreamHandle.close_hacts hl.1 <;>
      · rw [heq]
        exact ha.frameReceiver_eq
    exact congrArg (fun c : Channel Frame => sl.received ++ c.queue) hch
  | drop => cases hgone

namespace Session

variable {s t : Session} {f : Frame}

/-! ### The record of a run -/

/-- A session, the frames of streams it has received, and for each handle how many of them
had been received when it was made. -/
structure Recorded where
  session : Session
  log : List Frame
  born : List ℕ

/-- The frame of a stream that an inner call takes from the transport. -/
def taken (s : Session) : Micro → List Frame
  | .recvFrames .ready =>
    match s.incoming with
    | [] => []
    | frame :: _ =>
      match (FrameCodec.withMaxFrameSize s.config.maxStreamWindowSize).decode
          (FrameCodec.encode frame) with
      | (_, _, .ok (some frame)) => if frame.isStream then [frame] else []
      | _ => []
  | _ => []

namespace Recorded

/-- `Session::new`. -/
def new (config : Config) (ty : SessionType) : Recorded := ⟨.new config ty, [], []⟩

/-- The session has become `t` and has taken the frames `l`. -/
def next (r : Recorded) (t : Session) (l : List Frame) : Recorded where
  session := t
  log := r.log ++ l
  born := r.born ++ .replicate (t.handles.length - r.session.handles.length) r.log.length

/-- One inner call. -/
def step (r : Recorded) (m : Micro) : Recorded :=
  r.next (r.session.micro m) (r.session.taken m)

/-- What has been received for the stream `id` since the `i`-th handle was made. -/
def receivedSince (r : Recorded) (i : ℕ) (id : StreamId) : List Frame :=
  onStream id (r.log.drop (r.born.getD i 0))

theorem session_runFrom (r : Recorded) (ms : List Micro) :
    (runFrom step r ms).session = runFrom micro r.session ms := by
  induction ms generalizing r with
  | nil => rfl
  | cons m ms ih => exact ih (r.step m)

end Recorded

/-- The stream is registered, and its handle has not been dropped. -/
def isOpen (s : Session) (id : StreamId) : Bool :=
  match s.streams.lookup id with
  | none => false
  | some i => s.handles[i]?.any fun sl => !sl.gone

theorem Live.isOpen {i : ℕ} {sl : Slot} (hl : s.Live i sl) : s.isOpen sl.handle.id = true := by
  obtain ⟨hi, hgone, hlook⟩ := hl
  unfold Session.isOpen
  simp [hlook, hi, hgone]

/-- A SYN the session takes is not for a stream that is still open. -/
def Fair (s : Session) (m : Micro) : Prop :=
  ∀ f ∈ s.taken m, f.flags.contains .syn = true → s.isOpen f.streamId = false

/-- A SYN the session takes is not for an id of this side. -/
def KeepsSide (s : Session) (m : Micro) : Prop :=
  ∀ f ∈ s.taken m, f.flags.contains .syn = true → s.ty.owns f.streamId = false

instance (s : Session) (m : Micro) : Decidable (s.Fair m) := by
  unfold Fair
  infer_instance

instance (s : Session) (m : Micro) : Decidable (s.KeepsSide m) := by
  unfold KeepsSide
  infer_instance

/-! ### The invariant -/

/-- Every live stream has got its own frames, or they wait.  The waiting frames are of
streams that there have been; the next id of this side is not among those. -/
structure Orderly (r : Recorded) : Prop where
  length_born : r.born.length = r.session.handles.length
  born_le : ∀ b ∈ r.born, b ≤ r.log.length
  pending : ∀ g ∈ r.session.readPendingFrames, g.isStream = true ∧
    g.flags.contains .syn = false ∧ g.streamId ∈ idsOf r.session.handles
  parity : r.session.ty.owns r.session.nextStreamId = true
  own : ∀ id ∈ idsOf r.session.handles, r.session.ty.owns id = true →
    id.toNat < r.session.nextStreamId.toNat
  order : ∀ i sl, r.session.Live i sl →
    sl.delivered ++ onStream sl.handle.id r.session.readPendingFrames
      = r.receivedSince i sl.handle.id

/-- `recv_frames` distributes the frame it takes, or takes none of a stream. -/
theorem recvFrames_taken (s : Session) (a : ReadAnswer) :
    (s.taken (.recvFrames a) = [] ∧ (s.recvFrames a).1.desk = s.desk) ∨
    ∃ f rest, s.taken (.recvFrames a) = [f] ∧ f.isStream = true ∧
      (s.recvFrames a).1 = ({ s with incoming := rest }.requeue f).distributeToSubstream := by
  cases a with
  | pending | eof => exact .inl ⟨rfl, rfl⟩
  | ready =>
    unfold Session.recvFrames taken
    dsimp only
    cases s.incoming with
    | nil => exact .inl ⟨rfl, rfl⟩
    | cons g rest =>
      dsimp only
      generalize (FrameCodec.withMaxFrameSize s.config.maxStreamWindowSize).decode
        (FrameCodec.encode g) = d
      obtain ⟨codec, buf, _ | _ | f⟩ := d
      · exact .inl ⟨rfl, rfl⟩
      · exact .inl ⟨rfl, rfl⟩
      · dsimp only
        unfold handleFrame
        cases hty : f.ty with
        | data | windowUpdate =>
          have hst : f.isStream = true := by simp [Frame.isStream, hty]
          exact .inr ⟨f, rest, if_pos hst, hst, rfl⟩
        | ping =>
          have hst : ¬ f.isStream = true := by simp [Frame.isStream, hty]
          exact .inl ⟨if_neg hst, desk_handlePing { s with incoming := rest } f⟩
        | goAway =>
          have hst : ¬ f.isStream = true := by simp [Frame.isStream, hty]
          exact .inl ⟨if_neg hst, desk_handleGoAway { s with incoming := rest } f⟩

namespace Orderly

variable {log l : List Frame} {born : List ℕ}

theorem born_getD_le {r : Recorded} (ho : Orderly r) (i : ℕ) : r.born.getD i 0 ≤ r.log.length := by
  rw [List.getD_eq_getElem?_getD]
  cases hb : r.born[i]? with
  | none => exact Nat.zero_le _
  | some b => exact ho.born_le b (List.mem_of_getElem? hb)

/-- Frames are distributed among the streams that there are. -/
theorem served (ho : Orderly ⟨s, log, born⟩) (hs : Served l s t)
    (hl : ∀ g ∈ t.readPendingFrames, g ∈ l → g.isStream = true ∧
      g.flags.contains .syn = false ∧ g.streamId ∈ idsOf t.handles) :
    Orderly ⟨t, log ++ l, born⟩ where
  length_born := by
    have hlen := congrArg List.length hs.ids
    simp only [idsOf, List.length_map] at hlen
    exact ho.length_born.trans hlen.symm
  born_le b hb := by
    rw [List.length_append]
    exact (ho.born_le b hb).trans (Nat.le_add_right _ _)
  pending g hg := by
    rcases hs.pending g hg with hold | hnew
    · rw [hs.ids]
      exact ho.pending g hold
    · exact hl g hg hnew
  parity := by
    rw [hs.ty, hs.next]
    exact ho.parity
  own := by
    rw [hs.ids, hs.ty, hs.next]
    exact ho.own
  order i sl' hi := by
    obtain ⟨sl, hi', hid, heq⟩ := hs.order i sl' hi
    have hb := ho.born_getD_le i
    rw [← hid, heq, ho.order i sl hi']
    unfold Recorded.receivedSince
    rw [List.drop_append_of_le_length hb, onStream_append]

/-- After a stream is added, every live stream has got its own frames: the new one has `l`, and
nothing of `l` is for an old one. -/
theorem order_added {id : StreamId} (ho : Orderly ⟨s, log, born⟩) (ha : Added id l s t)
    (hp : ∀ g ∈ s.readPendingFrames, g.streamId ≠ id)
    (hl : ∀ g ∈ l, g.isStream = true ∧ g.streamId = id) {i : ℕ} {sl : Slot} (hlive : t.Live i sl) :
    sl.delivered ++ onStream sl.handle.id t.readPendingFrames
      = Recorded.receivedSince ⟨t, log ++ l, born ++ [log.length]⟩ i sl.handle.id := by
  obtain ⟨x, hh, hid, hdel⟩ := ha.handles
  obtain ⟨hi, hgone, hlook⟩ := hlive
  show sl.delivered ++ onStream _ t.readPendingFrames = onStream _ ((log ++ l).drop _)
  rw [ha.streams] at hlook
  rw [hh] at hi
  rw [ha.pending]
  rcases lookup_insert_eq_some_iff.mp hlook with ⟨hsl, rfl⟩ | ⟨hsl, hlook⟩
  · -- the new stream: nothing else has been received since
    rw [List.getElem?_concat_length] at hi
    cases hi
    have hborn : (born ++ [log.length]).getD s.handles.length 0 = log.length := by
      rw [← ho.length_born, List.getD_eq_getElem?_getD]
      exact congrArg (·.getD 0) List.getElem?_concat_length
    have hnone : onStream id s.readPendingFrames = [] := by
      refine List.filter_eq_nil_iff.mpr fun g hg => ?_
      simp [hp g hg]
    have hself : onStream id l = l := by
      refine List.filter_eq_self.mpr fun g hg => ?_
      simp [hl g hg]
    rw [hsl, hborn, hnone, hdel, List.drop_left, hself, List.append_nil]
  · have hother : onStream sl.handle.id l = [] := by
      refine List.filter_eq_nil_iff.mpr fun g hg => ?_
      simp [hl g hg, Ne.symm hsl]
    obtain hlt | hge := Nat.lt_or_ge i s.handles.length
    · rw [List.getElem?_append_left hlt] at hi
      have hlt' : i < born.length := ho.length_born.symm ▸ hlt
      have hborn : (born ++ [log.length]).getD i 0 = born.getD i 0 := by
        rw [List.getD_eq_getElem?_getD, List.getElem?_append_left hlt',
          ← List.getD_eq_getElem?_getD]
      have hord := ho.order i sl ⟨hi, hgone, hlook⟩
      rw [hborn, List.drop_append_of_le_length (ho.born_getD_le i), onStream_append,
        hother, List.append_nil]
      exact hord
    · rw [List.getElem?_append_right hge] at hi
      have hx : sl = x := List.mem_singleton.mp (List.mem_of_getElem? hi)
      exact absurd (hx ▸ hid) hsl

/-- A stream is added, and none of its frames waits. -/
theorem added {id next : StreamId} (ho : Orderly ⟨s, log, born⟩) (ha : Added id l s t)
    (hp : ∀ g ∈ s.readPendingFrames, g.streamId ≠ id)
    (hl : ∀ g ∈ l, g.isStream = true ∧ g.streamId = id) (hnext : t.nextStreamId = next)
    (hpar : s.ty.owns next = true) (hle : s.nextStreamId.toNat ≤ next.toNat)
    (hown : s.ty.owns id = true → id.toNat < next.toNat) :
    Orderly ⟨t, log ++ l, born ++ [log.length]⟩ := by
  obtain ⟨x, hh, hid, -⟩ := ha.handles
  have hids : idsOf t.handles = idsOf s.handles ++ [id] := by
    rw [hh, idsOf, List.map_append, ← hid]
    rfl
  refine ⟨?_, ?_, ?_, ?_, ?_, fun _ _ hlive => ho.order_added ha hp hl hlive⟩
  · show (born ++ [_]).length = t.handles.length
    rw [hh, List.length_append, List.length_append]
    exact congrArg (· + 1) ho.length_born
  · intro b hb
    rw [List.length_append]
    rcases List.mem_append.mp hb with hb | hb
    · exact (ho.born_le b hb).trans (Nat.le_add_right _ _)
    · rw [List.mem_singleton.mp hb]
      exact Nat.le_add_right _ _
  · show ∀ g ∈ t.readPendingFrames, _ ∧ _ ∧ g.streamId ∈ idsOf t.handles
    rw [ha.pending, hids]
    intro g hg
    obtain ⟨hst, hsyn, hmem⟩ := ho.pending g hg
    exact ⟨hst, hsyn, List.mem_append_left _ hmem⟩
  · show t.ty.owns t.nextStreamId = true
    rw [ha.ty, hnext]
    exact hpar
  · show ∀ id' ∈ idsOf t.handles, t.ty.owns id' = true → id'.toNat < t.nextStreamId.toNat
    rw [hids, ha.ty, hnext]
    intro id' hmem howns
    rcases List.mem_append.mp hmem with hmem | hmem
    · exact (ho.own id' hmem howns).trans_le hle
    · rw [List.mem_singleton.mp hmem] at howns ⊢
      exact hown howns

/-- The record goes on as it should, whether or not a handle has been made. -/
theorem next (ho : Orderly ⟨s, log, born⟩)
    (h : Orderly ⟨t, log ++ l, born⟩ ∨ Orderly ⟨t, log ++ l, born ++ [log.length]⟩) :
    Orderly (Recorded.next ⟨s, log, born⟩ t l) := by
  have hold : born.length = s.handles.length := ho.length_born
  unfold Recorded.next
  dsimp only
  rcases h with h | h
  · have hnew : born.length = t.handles.length := h.length_born
    rw [← hold, ← hnew, Nat.sub_self, List.replicate_zero, List.append_nil]
    exact h
  · have hnew : (born ++ [log.length]).length = t.handles.length := h.length_born
    rw [← hold, ← hnew, List.length_append, Nat.add_sub_cancel_left]
    exact h

/-- The frames that wait are looked at, and then `l`. -/
theorem distribute (hr : s.Registered) (ho : Orderly ⟨s, log, born⟩)
    (hl : ∀ g ∈ l, g.isStream = true ∧ g.flags.contains .syn = false) :
    Orderly ⟨{ s with readPendingFrames := s.readPendingFrames ++ l }.distributeToSubstream,
      log ++ l, born⟩ := by
  have hall : ∀ g ∈ s.readPendingFrames ++ l, g.isStream = true ∧
      g.flags.contains .syn = false := by
    intro g hg
    rcases List.mem_append.mp hg with hg | hg
    · exact ⟨(ho.pending g hg).1, (ho.pending g hg).2.1⟩
    · exact hl g hg
  obtain ⟨blocked, t, hb, hs, hloop⟩ := (Blocks.start hr).rounds _ hall
  have ht : { s with readPendingFrames := s.readPendingFrames ++ l }.distributeToSubstream = t := by
    have h := hloop []
    rw [List.append_nil] at h
    exact h
  rw [ht]
  refine ho.served hs.of_start fun g hg hgl => ⟨(hl g hgl).1, (hl g hgl).2, ?_⟩
  exact (hb.full _ (hb.pending g hg)).mem_idsOf

/-- The same with a SYN of the peer. -/
theorem distribute_syn (hr : s.Registered) (ho : Orderly ⟨s, log, born⟩) (hst : f.isStream = true)
    (hsyn : f.flags.contains .syn = true) (hopen : s.isOpen f.streamId = false)
    (hside : s.ty.owns f.streamId = false) :
    Orderly (Recorded.next ⟨s, log, born⟩
      { s with readPendingFrames := s.readPendingFrames ++ [f] }.distributeToSubstream [f]) := by
  have hall : ∀ g ∈ s.readPendingFrames, g.isStream = true ∧ g.flags.contains .syn = false :=
    fun g hg => ⟨(ho.pending g hg).1, (ho.pending g hg).2.1⟩
  obtain ⟨blocked, s₁, hb, hs, hloop⟩ := (Blocks.start hr).rounds _ hall
  have ho₁ : Orderly ⟨s₁, log, born⟩ := by
    have hs' : Served [] s s₁ := .of_start (by rw [List.append_nil]; exact hs)
    have h := ho.served hs' fun _ _ hg => absurd hg List.not_mem_nil
    rwa [List.append_nil] at h
  have hnone : ∀ i sl, s₁.Live i sl → f.streamId ≠ sl.handle.id := by
    intro i sl hi he
    obtain ⟨sl₀, hi₀, hid, -⟩ := hs.order i sl hi
    have hopen' : s.isOpen sl₀.handle.id = true := Live.isOpen (s := s) hi₀
    rw [hid, ← he, hopen] at hopen'
    cases hopen'
  have hfull : ∀ id, s₁.Full id → id ≠ f.streamId := by
    rintro id ⟨i, sl, hi, rfl, -⟩ he
    exact hnone i sl hi he.symm
  have hleft := full_of_distribute
      (s := { s with readPendingFrames := s.readPendingFrames ++ [f] }) hr
  have ht : { s with readPendingFrames := s.readPendingFrames ++ [f] }.distributeToSubstream
      = distributeLoop [f] blocked s₁ := hloop [f]
  rw [ht] at hleft ⊢
  refine ho.next ?_
  rcases hb.syn hst hsyn hnone with hserved | ⟨hadded, hnext⟩
  · refine .inl (ho₁.served hserved fun g hg hgl => ?_)
    -- the SYN itself does not wait: its stream would be live
    rw [List.mem_singleton.mp hgl] at hg
    obtain ⟨i, sl, hi, hid, -⟩ := hleft f hg
    obtain ⟨sl₁, hi₁, hid₁, -⟩ := hserved.order i sl hi
    exact absurd (hid₁.trans hid).symm (hnone i sl₁ hi₁)
  · refine .inr (ho₁.added hadded (fun g hg => hfull _ (hb.full _ (hb.pending g hg))) ?_ hnext
      ho₁.parity (le_refl _) fun howns => ?_)
    · intro g hg
      rw [List.mem_singleton.mp hg]
      exact ⟨hst, rfl⟩
    · have hty : s₁.ty = s.ty := hs.ty
      rw [hty, hside] at howns
      cases howns

/-- `open_stream`: the next id has not been in use. -/
theorem openStream (hr : s.Registered) (ho : Orderly ⟨s, log, born⟩) :
    Orderly (Recorded.next ⟨s, log, born⟩ s.openStream.1 []) := by
  have hsame : Orderly ⟨s, log ++ [], born⟩ := by
    rw [List.append_nil]
    exact ho
  have hnew : s.nextStreamId ∉ idsOf s.handles := fun hmem =>
    absurd (ho.own _ hmem ho.parity) (lt_irrefl _)
  unfold Session.openStream createStream
  split_ifs with hdead haway hlt
  · exact ho.next (.inl hsame)
  · exact ho.next (.inl hsame)
  · have hfresh : s.nextStreamId ∉ s.streams := by
      intro hmem
      obtain ⟨i, hi⟩ := Option.isSome_iff_exists.mp (AList.lookup_isSome.mpr hmem)
      obtain ⟨sl, hsl, hid⟩ := hr _ _ hi
      exact hnew (hid ▸ List.mem_map_of_mem (List.mem_of_getElem? hsl))
    have hnext := toNat_add_two hlt
    have hpending : ∀ g ∈ s.readPendingFrames, g.streamId ≠ s.nextStreamId := by
      intro g hg he
      exact hnew (he ▸ (ho.pending g hg).2.2)
    unfold Session.insertStream
    rw [if_neg hfresh]
    refine ho.next (.inr (ho.added ?_ hpending
      (fun _ hg => absurd hg List.not_mem_nil) rfl (SessionType.owns_add_two ho.parity hlt) ?_ ?_))
    · refine ⟨hfresh, rfl, ⟨_, rfl, ?_, ?_⟩, rfl, rfl⟩ <;>
      · rw [Slot.create_eq s.nextStreamId s.config.maxStreamWindowSize (.inl ⟨rfl, rfl, rfl⟩)]
        rfl
    · rw [hnext]
      exact Nat.le_add_right _ _
    · intro _
      rw [hnext]
      exact Nat.lt_add_of_pos_right two_pos
  · exact ho.next (.inl hsame)

/-- A step that distributes nothing. -/
theorem quiet (ho : Orderly ⟨s, log, born⟩) (hs : Served [] s t) :
    Orderly (Recorded.next ⟨s, log, born⟩ t []) :=
  ho.next (.inl (ho.served hs fun _ _ hg => absurd hg List.not_mem_nil))

theorem of_desk (ho : Orderly ⟨s, log, born⟩) (hd : t.desk = s.desk) :
    Orderly (Recorded.next ⟨s, log, born⟩ t []) :=
  ho.quiet (.of_desk hd fun _ _ _ => rfl)

theorem flush (hr : s.Registered) (ho : Orderly ⟨s, log, born⟩) :
    Orderly (Recorded.next ⟨s, log, born⟩ s.flush []) := by
  unfold Session.flush
  split_ifs
  · exact ho.of_desk rfl
  · have hd := desk_sendAllLoop s.sink s
    have ho' : Orderly ⟨s.sendAll, log, born⟩ := by
      have h := ho.served (.of_desk (l := []) hd fun _ _ _ => rfl) fun _ _ hg =>
        absurd hg List.not_mem_nil
      rwa [List.append_nil] at h
    have h := ho'.distribute (l := []) (hr.of_book (book_of_desk hd)) fun _ hg =>
      absurd hg List.not_mem_nil
    rw [List.append_nil] at h
    exact ho.next (.inl h)

theorem recvFrames (hr : s.Registered) (ho : Orderly ⟨s, log, born⟩) (a : ReadAnswer)
    (hfair : s.Fair (.recvFrames a)) (hside : s.KeepsSide (.recvFrames a)) :
    Orderly (Recorded.next ⟨s, log, born⟩ (s.recvFrames a).1 (s.taken (.recvFrames a))) := by
  rcases recvFrames_taken s a with ⟨htaken, hd⟩ | ⟨f, rest, htaken, hst, heq⟩
  · rw [htaken]
    exact ho.of_desk hd
  · have hmem : f ∈ s.taken (.recvFrames a) := htaken ▸ List.mem_singleton_self f
    have ho' : Orderly ⟨{ s with incoming := rest }, log, born⟩ := { ho with }
    rw [htaken, heq]
    cases hsyn : f.flags.contains .syn with
    | true => exact ho'.distribute_syn hr hst hsyn (hfair f hmem hsyn) (hside f hmem hsyn)
    | false =>
      refine ho'.next (.inl (ho'.distribute hr fun g hg => ?_))
      rw [List.mem_singleton.mp hg]
      exact ⟨hst, hsyn⟩

theorem recvEvents (hr : s.Registered) (ho : Orderly ⟨s, log, born⟩) :
    Orderly (Recorded.next ⟨s, log, born⟩ s.recvEvents.1 []) := by
  unfold Session.recvEvents
  cases s.eventReceiver with
  | nil => exact ho.of_desk rfl
  | cons ev rest =>
    have ho' : Orderly ⟨{ s with eventReceiver := rest }, log, born⟩ := { ho with }
    cases ev with
    | frame f => exact ho'.of_desk (desk_sendFrame _ f)
    | closed id => exact ho'.quiet (.removeStream (s := { s with eventReceiver := rest }) hr id
      fun _ _ => rfl)
    | goAway => exact ho'.of_desk (desk_sendGoAwayWithCode _ _)

theorem applyHandle (hlinked : s.Linked) (ho : Orderly ⟨s, log, born⟩) (i : ℕ) (op : HandleOp) :
    Orderly (Recorded.next ⟨s, log, born⟩ (s.applyHandle i op) []) := by
  rcases applyHandle_cases s i op with ⟨-, heq⟩ | ⟨sl, hi, -, hgone, heq⟩ <;> rw [heq]
  · exact ho.of_desk rfl
  · have hid := sl.id_apply op
    refine ho.quiet ⟨idsOf_set hi hid, rfl, rfl, fun _ hg => .inl hg, fun j sl' hj => ?_⟩
    rcases hj.of_set (s := s) rfl fun _ _ hk => hk with ⟨rfl, rfl⟩ | ⟨-, hj'⟩
    · refine ⟨sl, ⟨hi, hgone, hid ▸ hj.2.2⟩, hid.symm, ?_⟩
      rw [Slot.delivered_apply (hlinked sl (List.mem_of_getElem? hi)) hj.2.1, onStream_nil,
        List.append_nil]
    · exact ⟨sl', hj', rfl, (List.append_nil _).symm⟩

theorem controlPoll (hr : s.Registered) (ho : Orderly ⟨s, log, born⟩) :
    Orderly (Recorded.next ⟨s, log, born⟩ s.controlPoll.1 []) := by
  unfold Session.controlPoll
  split
  · exact ho.of_desk rfl
  · next rest _ => exact openStream (s := { s with controlReceiver := rest }) hr { ho with }
  · next rest _ => exact ho.of_desk (desk_shutdown { s with controlReceiver := rest })

/-- **Every inner call keeps the order**, when the peer is fair and keeps to its side. -/
theorem step {r : Recorded} (hr : r.session.Registered) (hl : r.session.Linked) (ho : Orderly r)
    {m : Micro} (hfair : r.session.Fair m) (hside : r.session.KeepsSide m) :
    Orderly (r.step m) := by
  obtain ⟨s, log, born⟩ := r
  cases m with
  | setSink | handOut | command | arrive => exact ho.of_desk rfl
  | onTick now => exact ho.of_desk (desk_onTick s now)
  | flush => exact ho.flush hr
  | controlPoll => exact ho.controlPoll hr
  | recvFrames a => exact ho.recvFrames hr a hfair hside
  | recvEvents => exact ho.recvEvents hr
  | openStream => exact ho.openStream hr
  | shutdown => exact ho.of_desk (desk_shutdown s)
  | sendGoAway => exact ho.of_desk (desk_sendGoAwayWithCode s .normal)
  | handle i op => exact ho.applyHandle hl i op

theorem new (config : Config) (ty : SessionType) : Orderly (.new config ty) where
  length_born := rfl
  born_le _ hb := absurd hb List.not_mem_nil
  pending _ hg := absurd hg List.not_mem_nil
  parity := owns_nextStreamId_new config ty
  own _ hid := absurd hid List.not_mem_nil
  order _ _ hi := absurd hi.1 (by simp [Recorded.new, Session.new])

/-- **The order is kept along every run.** -/
theorem run {r : Recorded} (hr : r.session.Registered) (hl : r.session.Linked) (ho : Orderly r)
    {ms : List Micro} (hfair : Guarded micro Fair r.session ms)
    (hside : Guarded micro KeepsSide r.session ms) : Orderly (runFrom Recorded.step r ms) := by
  induction ms generalizing r with
  | nil => exact ho
  | cons m ms ih =>
    exact ih (r := r.step m) (Registered.bookInv.micro m hr) (linked_bookInv.micro m hl)
      (ho.step hr hl hfair.1 hside.1) hfair.2 hside.2

end Orderly

theorem registered_new (config : Config) (ty : SessionType) : (new config ty).Registered := by
  intro id i hi
  cases hi

theorem linked_new (config : Config) (ty : SessionType) : (new config ty).Linked := by
  intro sl hsl
  cases hsl

/-- **Each live stream gets its own frames, in the order of arrival**, for every run of
inner calls, those of `poll_next` among them: what has been put into its channel, followed
by what waits, is what has been received for it.  And whatever waits, what distribution
leaves is for streams whose channel is full. -/
theorem delivered_in_order (config : Config) (ty : SessionType) (ms : List Micro)
    (hfair : Guarded micro Fair (new config ty) ms)
    (hside : Guarded micro KeepsSide (new config ty) ms) :
    let r := runFrom Recorded.step (.new config ty) ms
    (∀ i sl, r.session.Live i sl →
      sl.delivered ++ onStream sl.handle.id r.session.readPendingFrames
        = r.receivedSince i sl.handle.id) ∧
    ∀ l, let t := { r.session with readPendingFrames := l }.distributeToSubstream
      ∀ g ∈ t.readPendingFrames, t.Full g.streamId := by
  intro r
  have ho : Orderly r := (Orderly.new config ty).run (registered_new config ty)
    (linked_new config ty) hfair hside
  have hr : r.session.Registered := by
    show (runFrom Recorded.step (.new config ty) ms).session.Registered
    rw [Recorded.session_runFrom]
    exact inv_runFrom (fun _ m h => Registered.bookInv.micro m h) (registered_new config ty) ms
  refine ⟨ho.order, fun l => ?_⟩
  exact full_of_distribute (s := { r.session with readPendingFrames := l }) hr

/-- The client accepts a stream of the server, whose channel is full after eight more
frames; a ninth waits. -/
def fullRun : List Micro :=
  let frame (flags : Flags) : Micro := .arrive (.newWindowUpdate flags 2 5)
  frame (.ofFlag .syn) :: .recvFrames .ready :: .recvEvents :: .handOut ::
    (List.replicate 9 [frame .empty, .recvFrames .ready]).flatten

theorem delivered_in_order_full :
    let r := runFrom Recorded.step (.new .default .client) fullRun
    r.session.Full 2 ∧ r.session.readPendingFrames ≠ [] ∧
      ∀ i sl, r.session.Live i sl →
        sl.delivered ++ onStream sl.handle.id r.session.readPendingFrames
          = r.receivedSince i sl.handle.id := by
  have hslot : ((runFrom Recorded.step (.new .default .client) fullRun).session.handles[0]?.map
      fun sl => (sl.gone, sl.handle.id, sl.handle.frameReceiver.parked))
        = some (false, 2, true) := by
    decide +kernel
  have hlook : (runFrom Recorded.step (.new .default .client) fullRun).session.streams.lookup 2
      = some 0 := by decide +kernel
  have hwait : (runFrom Recorded.step (.new .default .client) fullRun).session.readPendingFrames
      ≠ [] := by decide +kernel
  have hall := delivered_in_order .default .client fullRun (by decide +kernel) (by decide +kernel)
  dsimp only at hall ⊢
  refine ⟨?_, hwait, hall.1⟩
  obtain ⟨sl, hi, hsl⟩ := Option.map_eq_some_iff.mp hslot
  obtain ⟨hgone, hrest⟩ := Prod.mk.inj hsl
  obtain ⟨hid, hparked⟩ := Prod.mk.inj hrest
  exact ⟨0, sl, ⟨hi, hgone, hid ▸ hlook⟩, hid, hparked⟩

/-- The server opens stream 1, an id of the client, and sends until a frame waits.  The
client writes on it and closes it; one poll hears the sixteen events of that, the last of
which is `Closed`.  Then the client opens a stream, and polls. -/
def staleCalls : List Input :=
  let poll (reads : List ReadAnswer) : Input := .act (.poll 0 false (.replicate 20 .ready) reads)
  .arrive (.newWindowUpdate (.ofFlag .syn) 1 0) :: poll [.ready] ::
    .replicate 9 (.arrive (.newWindowUpdate .empty 1 5)) ++ poll (.replicate 9 .ready) ::
    .replicate 14 (.act (.handle 0 (.write [7]))) ++ .replicate 2 (.act (.handle 0 .shutdown)) ++
    [poll [], .act .openStream, poll []]

/-- The inner calls of `staleCalls`. -/
def staleRun : List Micro :=
  let round (a : ReadAnswer) : List Micro := [.flush, .controlPoll, .recvFrames a, .recvEvents]
  let poll : Micro := .setSink (.replicate 20 .ready)
  .arrive (.newWindowUpdate (.ofFlag .syn) 1 0) :: poll :: round .ready ++ [.flush, .handOut] ++
    .replicate 9 (.arrive (.newWindowUpdate .empty 1 5)) ++
    poll :: (List.replicate 9 (round .ready)).flatten ++ round .pending ++
    .replicate 14 (.handle 0 (.write [7])) ++ .replicate 2 (.handle 0 .shutdown) ++
    poll :: (List.replicate 16 (round .pending)).flatten ++ [.openStream] ++
    poll :: round .pending ++ round .pending

/-- **A new stream gets a frame of an old one**: nothing has been received since it was
opened, and its channel holds the frame that waited for the stream of the same id before
it.  Every SYN was for an id that was not open. -/
theorem delivered_stale :
    let r := runFrom Recorded.step (.new .default .client) staleRun
    Guarded micro Fair (new .default .client) staleRun ∧
      (∃ sl, r.session.Live 1 sl ∧ sl.delivered = [.newWindowUpdate .empty 1 5] ∧
        r.receivedSince 1 sl.handle.id = []) ∧
      (runFrom input (new .default .client) staleCalls).handles.map
          (fun sl => (sl.handle.id, sl.delivered, sl.gone))
        = r.session.handles.map fun sl => (sl.handle.id, sl.delivered, sl.gone) := by
  have hslot : ((runFrom Recorded.step (.new .default .client) staleRun).session.handles[1]?.map
      fun sl => (sl.gone, sl.handle.id, sl.delivered))
        = some (false, 1, [.newWindowUpdate .empty 1 5]) := by decide +kernel
  have hlook : (runFrom Recorded.step (.new .default .client) staleRun).session.streams.lookup 1
      = some 1 := by decide +kernel
  have hnone : (runFrom Recorded.step (.new .default .client) staleRun).receivedSince 1 1 = [] := by
    decide +kernel
  refine ⟨by decide +kernel, ?_, by decide +kernel⟩
  obtain ⟨sl, hi, hsl⟩ := Option.map_eq_some_iff.mp hslot
  obtain ⟨hgone, hrest⟩ := Prod.mk.inj hsl
  obtain ⟨hid, hdel⟩ := Prod.mk.inj hrest
  exact ⟨sl, ⟨hi, hgone, hid ▸ hlook⟩, hdel, hid ▸ hnone⟩

end Session

end Yamux
end CkbP2P

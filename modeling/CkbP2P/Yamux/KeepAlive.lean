import CkbP2P.Yamux.Network
import CkbP2P.Yamux.Micro

/-!
# Pings and go-aways

A session sends a ping whenever its timer fires, and fails with `TimedOut` when it finds a ping
that has waited for its answer too long.  When it has sent a go-away it waits for the peer's with
the same timer, takes no new streams, and is dead once the peer's has come or the wait is over.
-/

namespace CkbP2P
namespace Yamux

open Lib

/-- A ping that asks for an answer. -/
def Frame.ask (n : UInt32) : Frame := .newPing (.ofFlag .syn) n

/-- The answer to a ping. -/
def Frame.answer (n : UInt32) : Frame := .newPing (.ofFlag .ack) n

namespace Session

variable {s t u : Session}

/-- A go-away has been sent or received, or the transport has ended. -/
def Gone (s : Session) : Prop := s.localGoAway = true ∨ s.remoteGoAway = true ∨ s.eof = true

/-- The frames that have not yet left for the peer. -/
def path (s : Session) : List Frame := s.outgoing ++ s.writePendingFrames

/-- **What is over** at `s` and stays so until `t`. -/
structure Final (s t : Session) : Prop where
  localGoAway : s.localGoAway = true → t.localGoAway = true
  remoteGoAway : s.remoteGoAway = true → t.remoteGoAway = true
  eof : s.eof = true → t.eof = true
  /-- Having sent a go-away, the session accepts no stream: those that wait are handed out. -/
  accepts : s.localGoAway = true → t.pendingStreams <:+ s.pendingStreams
  /-- Having received one, it opens no stream. -/
  opens : s.remoteGoAway = true → t.nextStreamId = s.nextStreamId
  /-- When it is dead, it puts nothing into the transport. -/
  silent : s.isDead = true → t.outgoing = s.outgoing

/-- A frame that has been read was heeded: a ping is answered, and an answer is no longer waited
for unless the same number has been asked again. -/
def Heeds (t : Session) (f : Frame) : Prop :=
  ∀ n, (f = .ask n → .answer n ∈ t.path) ∧
    (f = .answer n → ∀ p ∈ t.pings, p.1 = n → .ask n ∈ t.path)

/-- **What becomes of frames and pings** between `s` and `t`. -/
structure Carries (s t : Session) : Prop where
  path : s.path ⊆ t.path
  pings : ∀ p ∈ t.pings, p ∈ s.pings ∨ .ask p.1 ∈ t.path
  incoming : ∀ f ∈ s.incoming, f ∈ t.incoming ∨ t.Heeds f

/-- What every call keeps to. -/
structure Serves (s t : Session) : Prop extends Final s t where
  carries : ¬ t.Gone → Carries s t

theorem Final.isDead (h : Final s t) (hd : s.isDead = true) : t.isDead = true := by
  simp only [Session.isDead, Bool.or_eq_true, Bool.and_eq_true] at hd ⊢
  exact hd.imp (fun hd => ⟨h.remoteGoAway hd.1, h.localGoAway hd.2⟩) h.eof

theorem Final.gone (h : Final s t) (hg : s.Gone) : t.Gone :=
  hg.imp h.localGoAway (Or.imp h.remoteGoAway h.eof)

theorem Final.trans (h : Final s t) (h' : Final t u) : Final s u where
  localGoAway hs := h'.localGoAway (h.localGoAway hs)
  remoteGoAway hs := h'.remoteGoAway (h.remoteGoAway hs)
  eof hs := h'.eof (h.eof hs)
  accepts hs := (h'.accepts (h.localGoAway hs)).trans (h.accepts hs)
  opens hs := (h'.opens (h.remoteGoAway hs)).trans (h.opens hs)
  silent hs := (h'.silent (h.isDead hs)).trans (h.silent hs)

theorem Carries.trans (h : Carries s t) (h' : Carries t u) : Carries s u where
  path := List.Subset.trans h.path h'.path
  pings p hp := (h'.pings p hp).elim (fun hp => (h.pings p hp).imp_right (@h'.path _)) .inr
  incoming f hf := by
    rcases h.incoming f hf with hf | hf
    · exact h'.incoming f hf
    · refine .inr fun n => ⟨fun hn => h'.path ((hf n).1 hn), fun hn p hp heq => ?_⟩
      rcases h'.pings p hp with hp | hp
      · exact h'.path ((hf n).2 hn p hp heq)
      · exact heq ▸ hp

theorem Serves.trans (h : Serves s t) (h' : Serves t u) : Serves s u where
  toFinal := h.toFinal.trans h'.toFinal
  carries hg := (h.carries fun ht => hg (h'.gone ht)).trans (h'.carries hg)

/-- What the relation speaks of. -/
def traffic (s : Session) :=
  ((s.localGoAway, s.remoteGoAway, s.eof), s.pendingStreams, s.nextStreamId, s.outgoing,
    s.writePendingFrames, s.pings, s.incoming)

theorem Serves.of_traffic (h : t.traffic = s.traffic) : Serves s t := by
  simp only [traffic, Prod.mk.injEq] at h
  obtain ⟨⟨hl, hr, he⟩, hp, hn, ho, hw, hpings, hin⟩ := h
  refine ⟨⟨hl ▸ id, hr ▸ id, he ▸ id, fun _ => hp ▸ List.suffix_rfl, fun _ => hn, fun _ => ho⟩,
    fun _ => ⟨?_, fun p hp => .inl (hpings ▸ hp), fun f hf => .inl (hin ▸ hf)⟩⟩
  rw [Session.path, Session.path, ho, hw]
  exact List.Subset.refl _

theorem Serves.refl (s : Session) : Serves s s := .of_traffic rfl

/-! ### Writing -/

/-- Only the queues change, and a frame is lost only by a dead session. -/
theorem Serves.of_queues {outgoing writePendingFrames : List Frame}
    (ho : s.isDead = true → outgoing = s.outgoing)
    (hw : ¬ s.Gone → s.path ⊆ outgoing ++ writePendingFrames) :
    Serves s { s with outgoing, writePendingFrames } where
  toFinal := ⟨id, id, id, fun _ => List.suffix_rfl, fun _ => rfl, ho⟩
  carries hg := ⟨hw hg, fun _ => .inl, fun _ => .inl⟩

/-- What waits is handed out, no longer waited for, used up or added to. -/
theorem Serves.of_tables {pendingStreams : List ℕ} {nextStreamId : StreamId}
    {pings : List (UInt32 × ℕ)} {incoming : List Frame}
    (haccepts : s.localGoAway = true → pendingStreams <:+ s.pendingStreams)
    (hopens : s.remoteGoAway = true → nextStreamId = s.nextStreamId)
    (hpings : pings ⊆ s.pings) (hincoming : s.incoming ⊆ incoming) :
    Serves s { s with pendingStreams, nextStreamId, pings, incoming } where
  toFinal := ⟨id, id, id, haccepts, hopens, fun _ => rfl⟩
  carries _ := ⟨List.Subset.refl _, fun _ hp => .inl (hpings hp), fun _ hf => .inl (hincoming hf)⟩

theorem gone_of_isDead (hd : s.isDead = true) : s.Gone := by
  simp only [isDead, Bool.or_eq_true, Bool.and_eq_true] at hd
  exact hd.elim (fun hd => .inl hd.2) fun he => .inr (.inr he)

theorem enqueue_serves (s : Session) (f : Frame) :
    Serves s { s with writePendingFrames := s.writePendingFrames ++ [f] } := by
  refine .of_queues (fun _ => rfl) fun _ => ?_
  rw [← List.append_assoc]
  exact List.subset_append_left _ _

/-- The loop takes nothing, or there is a frame it can take. -/
theorem sendAllLoop_serves_or (s : Session) :
    (∀ answers, Serves s (sendAllLoop answers s)) ∨
      s.isDead = false ∧ ∃ f rest, s.writePendingFrames = f :: rest := by
  rcases hw : s.writePendingFrames with _ | ⟨f, rest⟩
  · refine .inl fun answers => ?_
    rw [sendAllLoop_of_nil hw]
    exact .of_traffic rfl
  cases hd : s.isDead with
  | false => exact .inr ⟨rfl, f, rest, rfl⟩
  | true =>
    refine .inl fun answers => ?_
    rw [sendAllLoop_of_dead hw hd]
    exact (Serves.of_queues (fun _ => rfl) fun hg => absurd (gone_of_isDead hd) hg).trans
      (.of_traffic rfl)

theorem sendAllLoop_serves (answers : List SinkAnswer) :
    ∀ s : Session, Serves s (sendAllLoop answers s) := by
  induction answers with
  | nil =>
    intro s
    rcases sendAllLoop_serves_or s with h | ⟨hd, f, rest, hw⟩
    · exact h []
    · rw [sendAllLoop_of_alive hw hd]
      exact .of_traffic rfl
  | cons a answers ih =>
    intro s
    rcases sendAllLoop_serves_or s with h | ⟨hd, f, rest, hw⟩
    · exact h (a :: answers)
    rw [sendAllLoop_of_alive hw hd]
    cases a with
    | ready =>
      refine (Serves.of_queues (fun h => absurd h (by simp [hd])) fun _ => ?_).trans (ih _)
      rw [path, hw, List.append_assoc]
      exact List.Subset.refl _
    | flushed => exact ih s
    | pending => exact .of_traffic rfl

theorem sendFrame_serves (s : Session) (f : Frame) : Serves s (s.sendFrame f) :=
  (enqueue_serves s f).trans (sendAllLoop_serves _ _)

/-- The frame has been queued, unless the session is dead. -/
theorem mem_path_sendFrame (s : Session) (f : Frame) (hg : ¬ (s.sendFrame f).Gone) :
    f ∈ (s.sendFrame f).path :=
  ((sendAllLoop_serves _ { s with writePendingFrames := s.writePendingFrames ++ [f] }).carries
    hg).path (by simp [path])

theorem sendGoAwayWithCode_serves (s : Session) (code : GoAwayCode) :
    Serves s (s.sendGoAwayWithCode code) := by
  have h := sendFrame_serves { s with writePendingFrames := [] } (.newGoAway code)
  exact ⟨⟨fun _ => rfl, h.remoteGoAway, h.eof, h.accepts, h.opens, h.silent⟩,
    fun hg => absurd (.inl rfl) hg⟩

theorem shutdown_serves (s : Session) : Serves s s.shutdown := by
  unfold shutdown
  split_ifs
  · exact .refl s
  · exact sendGoAwayWithCode_serves s .normal

/-- The peer's go-away, however it has become known. -/
theorem Serves.of_remoteGoAway {w : List Frame}
    (h : Serves { s with remoteGoAway := true, writePendingFrames := w } t) : Serves s t where
  localGoAway := h.localGoAway
  remoteGoAway _ := h.remoteGoAway rfl
  eof := h.eof
  accepts := h.accepts
  opens _ := h.opens rfl
  silent hd := h.silent (by
    simp only [isDead, Bool.or_eq_true, Bool.and_eq_true, true_and] at hd ⊢
    exact hd.imp_left And.right)
  carries hg := absurd (.inr (.inl (h.remoteGoAway rfl))) hg

theorem handleGoAway_serves (s : Session) (f : Frame) : Serves s (s.handleGoAway f) := by
  unfold handleGoAway
  cases GoAwayCode.ofU32 f.length <;>
  · refine .of_remoteGoAway (w := []) ?_
    dsimp only
    split_ifs
    · exact .refl _
    · exact sendGoAwayWithCode_serves _ .normal

/-! ### Pings -/

theorem onTick_serves (s : Session) (now : ℕ) : Serves s (s.onTick now).1 := by
  unfold onTick keepAlive
  split_ifs with hl hp
  · exact .of_remoteGoAway (w := s.writePendingFrames) (.refl _)
  · exact .refl s
  · -- the new ping has been queued before it is waited for
    have h := sendFrame_serves { s with pingId := s.pingId + 1 } (.ask (s.pingId + 1))
    have hmem := mem_path_sendFrame { s with pingId := s.pingId + 1 } (.ask (s.pingId + 1))
    refine ⟨⟨h.localGoAway, h.remoteGoAway, h.eof, h.accepts, h.opens, h.silent⟩, fun hg => ?_⟩
    have hc := h.carries hg
    refine ⟨hc.path, fun p hp => ?_, fun f hf => (hc.incoming f hf).imp_right ?_⟩
    · rcases List.mem_cons.mp hp with rfl | hp
      · exact .inr (hmem hg)
      · exact hc.pings p (List.mem_of_mem_filter hp)
    · refine fun hf n => ⟨(hf n).1, fun hn p hp heq => ?_⟩
      rcases List.mem_cons.mp hp with rfl | hp
      · exact heq ▸ hmem hg
      · exact (hf n).2 hn p (List.mem_of_mem_filter hp) heq

theorem handlePing_ask (s : Session) (n : UInt32) :
    s.handlePing (.ask n) = s.sendFrame (.answer n) := by
  have hflag : (Flags.ofFlag .syn).contains .syn = true := by decide
  exact if_pos hflag

theorem handlePing_answer (s : Session) (n : UInt32) :
    (s.handlePing (.answer n)).pings = (s.pings.filter (·.1 ≠ n)).filter (n ≤ ·.1) := by
  have hsyn : ¬ (Flags.ofFlag .ack).contains .syn = true := by decide
  have hack : (Flags.ofFlag .ack).contains .ack = true := by decide
  exact congrArg Session.pings ((if_neg hsyn).trans (if_pos hack))

theorem handlePing_serves (s : Session) (f : Frame) : Serves s (s.handlePing f) := by
  unfold handlePing
  split_ifs
  · exact sendFrame_serves s _
  · refine .of_tables (fun _ => List.suffix_rfl) (fun _ => rfl) ?_ (List.Subset.refl _)
    exact fun _ hp => List.mem_of_mem_filter (List.mem_of_mem_filter hp)
  · exact .refl s

/-! ### Streams -/

theorem traffic_insertStream (s : Session) (id : StreamId) (state : StreamState) :
    (s.insertStream id state).1.traffic = s.traffic := by
  unfold insertStream
  split_ifs <;> rfl

theorem openStream_serves (s : Session) : Serves s s.openStream.1 := by
  unfold openStream
  simp only [createStream]
  split_ifs with hd hr hn
  · exact .refl s
  · exact .refl s
  · -- an id is used up, so the peer has not given up
    exact (Serves.of_tables (fun _ => List.suffix_rfl) (fun h => absurd h hr)
      (List.Subset.refl _) (List.Subset.refl _)).trans
        (.of_traffic (traffic_insertStream _ _ .init))
  · exact .refl s

theorem acceptSyn_serves (s : Session) (f : Frame) : Serves s (s.acceptSyn f).1 := by
  unfold acceptSyn
  split_ifs with hs hl
  · exact sendFrame_serves s _
  · have ht := traffic_insertStream s f.streamId .synReceived
    simp only [createStream]
    generalize s.insertStream f.streamId .synReceived = r at ht ⊢
    obtain ⟨t, _ | i⟩ := r
    · exact (Serves.of_traffic ht).trans (sendGoAwayWithCode_serves t _)
    · -- a stream is accepted only before the session gives up
      have hlt : t.localGoAway = s.localGoAway := congrArg (fun x => x.1.1) ht
      exact (Serves.of_traffic ht).trans (.of_tables (fun h => absurd (hlt ▸ h) hl) (fun _ => rfl)
        (List.Subset.refl _) (List.Subset.refl _))
  · exact enqueue_serves s _
  · exact .refl s

theorem traffic_passOn (s : Session) (f : Frame) : (s.passOn f).1.traffic = s.traffic := by
  unfold passOn
  repeat' split
  all_goals rfl

theorem distributeLoop_serves (buf : List Frame) :
    ∀ (blocked : List StreamId) (s : Session), Serves s (distributeLoop buf blocked s) := by
  induction buf with
  | nil =>
    intro blocked s
    exact .refl s
  | cons f buf ih =>
    intro blocked s
    rw [distributeLoop]
    split_ifs
    · exact Serves.trans (t := s.requeue f) (.of_traffic rfl) (ih blocked _)
    · have hacc := acceptSyn_serves s f
      generalize s.acceptSyn f = r at hacc ⊢
      obtain ⟨t, _ | _⟩ := r
      · exact hacc
      · have hpass : Serves t (t.passOn f).1 := .of_traffic (traffic_passOn t f)
        dsimp only at hacc ⊢
        generalize t.passOn f = r at hpass ⊢
        obtain ⟨u, _ | _⟩ := r <;> exact (hacc.trans hpass).trans (ih _ u)

theorem distributeToSubstream_serves (s : Session) : Serves s s.distributeToSubstream :=
  Serves.trans (t := { s with readPendingFrames := [] }) (.of_traffic rfl)
    (distributeLoop_serves _ _ _)

theorem handleFrame_serves (s : Session) (f : Frame) : Serves s (s.handleFrame f) := by
  unfold handleFrame
  cases f.ty with
  | data | windowUpdate =>
    exact Serves.trans (t := s.requeue f) (.of_traffic rfl) (distributeToSubstream_serves _)
  | ping => exact handlePing_serves s f
  | goAway => exact handleGoAway_serves s f

/-! ### Reading -/

/-- A frame is read, and heeded. -/
theorem Serves.of_read {f : Frame} {rest : List Frame} (hin : s.incoming = f :: rest)
    (h : Serves { s with incoming := rest } t) (hf : ¬ t.Gone → t.Heeds f) : Serves s t where
  toFinal := ⟨h.localGoAway, h.remoteGoAway, h.eof, h.accepts, h.opens, h.silent⟩
  carries hg := by
    refine ⟨(h.carries hg).path, (h.carries hg).pings, fun g hmem => ?_⟩
    rcases List.mem_cons.mp (hin ▸ hmem) with rfl | hmem
    · exact .inr (hf hg)
    · exact (h.carries hg).incoming g hmem

/-- Pings pass the codec. -/
theorem recvFrames_ping {flags : Flags} {n : UInt32} {rest : List Frame}
    (hin : s.incoming = .newPing flags n :: rest) :
    (s.recvFrames .ready).1 = { s with incoming := rest }.handlePing (.newPing flags n) := by
  have hok : FrameCodec.Accepts s.config.maxStreamWindowSize (.newPing flags n) :=
    ⟨Frame.wellFormed_newPing flags n, nofun⟩
  have hdec := FrameCodec.decode_encode hok []
  rw [List.append_nil] at hdec
  simp only [recvFrames, hin, hdec]
  rfl

theorem recvFrames_serves (s : Session) (a : ReadAnswer) : Serves s (s.recvFrames a).1 := by
  cases a with
  | pending => exact .refl s
  | eof =>
    exact ⟨⟨id, id, fun _ => rfl, fun _ => List.suffix_rfl, fun _ => rfl, fun _ => rfl⟩,
      fun hg => absurd (.inr (.inr rfl)) hg⟩
  | ready =>
    rcases hin : s.incoming with _ | ⟨f, rest⟩
    · have heq : s.recvFrames .ready = (s, .pending) := by simp [recvFrames, hin]
      rw [heq]
      exact .refl s
    refine .of_read hin ?_ fun hg n => ⟨?_, ?_⟩
    · simp only [recvFrames, hin]
      split
      · exact handleFrame_serves _ _
      · exact .refl _
      · exact .refl _
    · rintro rfl
      rw [recvFrames_ping hin, ← Frame.ask, handlePing_ask] at hg ⊢
      exact mem_path_sendFrame _ _ hg
    · rintro rfl p hp rfl
      rw [recvFrames_ping hin, ← Frame.answer, handlePing_answer] at hp
      exact absurd rfl (of_decide_eq_true (List.mem_filter.mp (List.mem_of_mem_filter hp)).2)

theorem recvEvents_serves (s : Session) : Serves s s.recvEvents.1 := by
  unfold recvEvents
  split
  · exact .refl s
  · next ev rest _ =>
    refine Serves.trans (t := { s with eventReceiver := rest }) (.of_traffic rfl) ?_
    cases ev with
    | frame f => exact sendFrame_serves _ f
    | closed id => exact .of_traffic rfl
    | goAway => exact sendGoAwayWithCode_serves _ _

theorem controlPoll_serves (s : Session) : Serves s s.controlPoll.1 := by
  unfold controlPoll
  split
  · exact .refl s
  · next rest _ =>
    exact Serves.trans (t := { s with controlReceiver := rest }) (.of_traffic rfl)
      (openStream_serves _)
  · next rest _ =>
    exact Serves.trans (t := { s with controlReceiver := rest }) (.of_traffic rfl)
      (shutdown_serves _)

/-! ### Runs -/

/-- **Every inner call keeps to it**, and so does the arrival of a frame. -/
theorem micro_serves (s : Session) (m : Micro) : Serves s (s.micro m) := by
  cases m with
  | setSink sink => exact .of_traffic rfl
  | onTick now => exact onTick_serves s now
  | flush =>
    unfold micro flush
    dsimp only
    split_ifs
    · exact .refl s
    · exact (sendAllLoop_serves _ s).trans (distributeToSubstream_serves _)
  | handOut =>
    exact .of_tables (fun _ => List.tail_suffix _) (fun _ => rfl) (List.Subset.refl _)
      (List.Subset.refl _)
  | controlPoll => exact controlPoll_serves s
  | recvFrames a => exact recvFrames_serves s a
  | recvEvents => exact recvEvents_serves s
  | openStream => exact openStream_serves s
  | shutdown => exact shutdown_serves s
  | sendGoAway => exact sendGoAwayWithCode_serves s .normal
  | command c => exact .of_traffic rfl
  | handle i op =>
    unfold micro applyHandle
    dsimp only
    split_ifs
    · exact .refl s
    · split <;> exact .of_traffic rfl
  | arrive f =>
    exact .of_tables (fun _ => List.suffix_rfl) (fun _ => rfl) (List.Subset.refl _)
      (List.subset_append_left _ _)

theorem runFrom_serves (ms : List Micro) : ∀ s : Session, Serves s (runFrom micro s ms) := by
  induction ms with
  | nil => exact .refl
  | cons m ms ih => exact fun s => (micro_serves s m).trans (ih _)

/-- **A go-away is final.**  Whatever the peer sends and the user does: having sent a go-away, the
session accepts no further stream; having received one, or waited for it in vain, it opens none;
and once it is dead it stays dead and puts nothing more into the transport. -/
theorem go_away_final (s : Session) (ls : List Input) : Final s (runFrom input s ls) := by
  obtain ⟨ms, hms⟩ := run_micro s ls
  rw [← hms]
  exact (runFrom_serves ms s).toFinal

/-! ### Two sessions -/

/-- The ping with the number `n` is on its way from `x` to `y`, or its answer is on its way back. -/
def Underway (x y : Session) (n : UInt32) : Prop :=
  .ask n ∈ x.path ++ y.incoming ∨ .answer n ∈ y.path ++ x.incoming

/-- Every ping `x` waits for is on its way, or its answer is. -/
def Awaits (x y : Session) : Prop := ∀ p ∈ x.pings, Underway x y p.1

theorem Awaits.asker (h : Awaits s u) (hc : Carries s t) : Awaits t u := by
  intro p hp
  rcases hc.pings p hp with hp' | hask
  swap
  · exact .inl (List.mem_append_left _ hask)
  rcases h p hp' with hask | hans
  · exact .inl ((List.mem_append.mp hask).elim
      (fun hf => List.mem_append_left _ (hc.path hf)) (List.mem_append_right _))
  · rcases List.mem_append.mp hans with hans | hans
    · exact .inr (List.mem_append_left _ hans)
    -- the answer is still to be read, or it was for an earlier ping of the same number
    · rcases hc.incoming _ hans with hans | hheeds
      · exact .inr (List.mem_append_right _ hans)
      · exact .inl (List.mem_append_left _ ((hheeds p.1).2 rfl p hp rfl))

theorem Awaits.answerer (h : Awaits u s) (hc : Carries s t) : Awaits u t := by
  intro p hp
  rcases h p hp with hask | hans
  · rcases List.mem_append.mp hask with hask | hask
    · exact .inl (List.mem_append_left _ hask)
    · rcases hc.incoming _ hask with hask | hheeds
      · exact .inl (List.mem_append_right _ hask)
      · exact .inr (List.mem_append_left _ ((hheeds p.1).1 rfl))
  · exact .inr ((List.mem_append.mp hans).elim
      (fun hf => List.mem_append_left _ (hc.path hf)) (List.mem_append_right _))

/-- A frame that is carried over stays on its way. -/
theorem mem_carry {f g : Frame} {rest : List Frame} (ho : s.outgoing = f :: rest)
    (hg : g ∈ s.path ++ t.incoming) : g ∈ (s.sendOff rest).path ++ (t.takeIn f).incoming := by
  simp only [path, sendOff, takeIn, ho, List.mem_append, List.mem_cons] at hg ⊢
  tauto

theorem step_serves (s : Session) (a : SessionAct) : Serves s (s.step a) := by
  obtain ⟨ms, -, hms⟩ := step_micro s a
  rw [← hms]
  exact runFrom_serves ms s

end Session

namespace World

open Session

variable {w : World}

/-- Neither side has given up, and both transports work. -/
def Connected (w : World) : Prop := ∀ side, ¬ (w side).Gone

/-- **Every ping waited for is on its way, or its answer is**; in particular the one for which a
session fails. -/
structure Awaited (w : World) : Prop where
  pings : ∀ side, Awaits (w side) (w side.peer)
  timedOut : ∀ side now, ((w side).onTick now).2 = .error .timedOut →
    ∃ p ∈ (w side).pings, pingTimeout < now - p.2 ∧ Underway (w side) (w side.peer) p.1

/-- Every ping is awaited, unless a side has given up. -/
def Awaiting (w : World) : Prop := w.Connected → ∀ side, Awaits (w side) (w side.peer)

/-- What is to be seen of the side that acts and of its peer. -/
theorem awaits_of_sides (side : SessionType) {w' : World}
    (hgone : ∀ side', (w side').Gone → (w' side').Gone)
    (hask : w'.Connected → Awaits (w side) (w side.peer) → Awaits (w' side) (w' side.peer))
    (hanswer : w'.Connected → Awaits (w side.peer) (w side) → Awaits (w' side.peer) (w' side))
    (h : w.Awaiting) : w'.Awaiting := by
  intro hc side'
  have hw := h fun side' hg => hc side' (hgone side' hg)
  rcases side.eq_or_eq_peer side' with rfl | rfl
  · exact hask hc (hw side')
  · have hback := hw side.peer
    rw [SessionType.peer_peer] at hback ⊢
    exact hanswer hc hback

/-- A side makes a call. -/
theorem awaits_act (side : SessionType) (a : SessionAct) (h : w.Awaiting) :
    (w.step (.act side a)).Awaiting := by
  have hserves := step_serves (w side) a
  have hself : w.step (.act side a) side = (w side).step a := Function.update_self ..
  have hpeer : w.step (.act side a) side.peer = w side.peer :=
    Function.update_of_ne side.peer_ne ..
  refine awaits_of_sides side ?_ ?_ ?_ h
  · intro side' hg
    rcases side.eq_or_eq_peer side' with rfl | rfl
    · exact hself ▸ hserves.gone hg
    · exact hpeer ▸ hg
  · intro hc hask
    rw [hpeer, hself]
    exact hask.asker (hserves.carries (hself ▸ hc side))
  · intro hc hanswer
    rw [hpeer, hself]
    exact hanswer.answerer (hserves.carries (hself ▸ hc side))

/-- The transport carries a frame over. -/
theorem awaits_carry (side : SessionType) (h : w.Awaiting) : (w.step (.carry side)).Awaiting := by
  cases ho : (w side).outgoing with
  | nil =>
    have hstep : w.step (.carry side) = w := by simp [World.step, ho]
    rw [hstep]
    exact h
  | cons f rest =>
    have hpeer : (w.step (.carry side)) side.peer = (w side.peer).takeIn f := by
      simp [World.step, ho, Session.takeIn, SessionType.peer_ne]
    have hself : (w.step (.carry side)) side = (w side).sendOff rest := by
      simp [World.step, ho, Session.sendOff, (SessionType.peer_ne side).symm]
    refine awaits_of_sides side ?_ ?_ ?_ h
    · intro side' hg
      rcases side.eq_or_eq_peer side' with rfl | rfl
      · rw [hself]
        exact hg
      · rw [hpeer]
        exact hg
    · rw [hself, hpeer]
      exact fun _ hask p hp => (hask p hp).imp_left (mem_carry ho)
    · rw [hself, hpeer]
      exact fun _ hanswer p hp => (hanswer p hp).imp_right (mem_carry ho)

theorem awaits_step (w : World) (l : Label) (h : w.Awaiting) : (w.step l).Awaiting := by
  cases l with
  | act side a => exact awaits_act side a h
  | carry side => exact awaits_carry side h

end World

end Yamux
end CkbP2P

import CkbP2P.Lib.Run
import CkbP2P.Tentacle.ServiceSpec

/-!
# The published listen addresses

The service keeps the addresses it listens on in a set and publishes them as a list.  Before it
waits for its next event it compares the two lengths, and publishes the set anew if they differ.
That is enough because it does so after every event, and an event adds one address, removes one,
or removes all: a change that leaves the number as it was is no change.

When publishing finds a protocol handle that is gone, the service shuts down, and the addresses it
has just published are no longer listened on.
-/

namespace CkbP2P
namespace Tentacle

open Lib

/-! ### Changes -/

/-- At most one element is added or removed, or all are removed. -/
inductive OneChange {α : Type*} [BEq α] (l : List α) : List α → Prop
  | same : OneChange l l
  | insert (a : α) : OneChange l (l.insert a)
  | erase (a : α) : OneChange l (l.erase a)
  | clear : OneChange l []

namespace OneChange

variable {α : Type*} [DecidableEq α] {l l' : List α}

/-- **A change that keeps the length is none.** -/
theorem eq_of_length (h : OneChange l l') (hlength : l'.length = l.length) : l' = l := by
  cases h with
  | same => rfl
  | insert a =>
    by_cases ha : a ∈ l
    · exact List.insert_of_mem ha
    · rw [List.length_insert_of_not_mem ha] at hlength
      omega
  | erase a =>
    by_cases ha : a ∈ l
    · rw [← List.length_erase_add_one ha] at hlength
      omega
    · exact List.erase_of_not_mem ha
  | clear => exact (List.length_eq_zero_iff.mp hlength.symm).symm

theorem nodup (h : OneChange l l') (hl : l.Nodup) : l'.Nodup := by
  cases h with
  | same => exact hl
  | insert a => exact hl.insert
  | erase a => exact hl.erase a
  | clear => exact List.nodup_nil

end OneChange

/-- An event is one change of the addresses. -/
theorem Books.listens_event (b : Books) (full : Bool) (e : SessionEvent) :
    OneChange b.listens (b.event full e).listens := by
  cases e with
  | handshakeSuccess publicKey address ty listenAddress =>
    cases ty <;> cases full <;> exact .same
  | handshakeError ty error address => cases ty <;> exact .same
  | listenError address error =>
    simp only [event]
    split
    · exact .erase address
    · exact .same
  | listenStart address => exact .insert address
  | protocolHandleError protoId session => exact .clear
  | _ => exact .same

theorem Books.listens_task (b : Books) (accepts : Multiaddr → Bool) (t : ServiceTask) :
    OneChange b.listens (b.task accepts t).listens := by
  cases t with
  | dial address target =>
    simp only [task]
    split
    · exact .same
    · split <;> exact .same
  | listen address =>
    simp only [task]
    split
    · exact .same
    · split <;> exact .same
  | shutdown quick => exact .clear
  | _ => exact .same

namespace InnerService

variable (sha256 : Sha256) (s : InnerService)

/-! ### What is published -/

/-- What is published, and the handles that have ended. -/
def board : List Multiaddr × List (Option SessionId × ProtocolId) := (s.published, s.ended)

theorem board_command (id : SessionId) (c : SessionCommand) : (s.command id c).board = s.board := by
  unfold command
  split <;> rfl

theorem board_sessionClose (id : SessionId) (source : Source) :
    (s.sessionClose id source).board = s.board := by
  cases source with
  | external => exact board_command s id _
  | internal =>
    simp only [sessionClose]
    split <;> rfl

theorem board_foldl {α : Type} {f : InnerService → α → InnerService}
    (hf : ∀ s a, (f s a).board = s.board) (as : List α) : (as.foldl f s).board = s.board := by
  induction as generalizing s with
  | nil => rfl
  | cons a as ih => rw [List.foldl_cons, ih, hf]

theorem board_handleShutdown (quick : Bool) : (s.handleShutdown quick).board = s.board := by
  cases quick with
  | false => exact board_foldl _ (fun s id => board_sessionClose s id .external) _
  | true => exact board_foldl _ (fun s id => board_sessionClose s id .internal) _

theorem board_reportSession (id : SessionId) (e : SessionContext → ServiceError) :
    (s.reportSession id e).board = s.board := by
  unfold reportSession
  split <;> rfl

theorem board_repeatedConnection (id : SessionId) (address : Multiaddr) (ty : SessionType)
    (listenAddr : Option Multiaddr) :
    (s.repeatedConnection id address ty listenAddr).board = s.board := by
  unfold repeatedConnection
  split
  · rfl
  · split <;> rfl

theorem board_sessionOpen (remotePubkey : Option PublicKey) (address : Multiaddr)
    (ty : SessionType) (listenAddr : Option Multiaddr) :
    (s.sessionOpen sha256 remotePubkey address ty listenAddr).board = s.board := by
  cases remotePubkey with
  | none => rfl
  | some key =>
    simp only [sessionOpen]
    split
    · exact board_repeatedConnection ..
    · split
      · split <;> rfl
      · rfl

/-- Only a listener that starts is published at once. -/
theorem board_handleSessionEvent {e : SessionEvent} (he : ∀ address, e ≠ .listenStart address) :
    (s.handleSessionEvent sha256 e).board = s.board := by
  cases e with
  | sessionClose id => exact board_sessionClose ..
  | handshakeSuccess publicKey address ty listenAddress =>
    have hcount : (s.counted ty).board = s.board := by cases ty <;> rfl
    change (if (s.counted ty).reachedMaxConnectionLimit = true then s.counted ty
      else (s.counted ty).sessionOpen sha256 publicKey address ty listenAddress).board = s.board
    split
    · exact hcount
    · rw [board_sessionOpen, hcount]
  | handshakeError ty error address => cases ty <;> rfl
  | protocolSelectError id protoName => exact board_reportSession ..
  | protocolError id protoId error => rfl
  | dialError address error => rfl
  | listenError address error =>
    simp only [handleSessionEvent]
    split <;> rfl
  | sessionTimeout id => exact board_reportSession ..
  | muxerError id error => exact board_reportSession ..
  | listenStart address => exact absurd rfl (he address)
  | protocolHandleError protoId session => exact board_handleShutdown ..
  | changeState id => exact board_reportSession ..

theorem board_handleServiceTask (t : ServiceTask) : (s.handleServiceTask t).board = s.board := by
  cases t with
  | dial address target =>
    simp only [handleServiceTask, dialInner]
    split
    · rfl
    · cases s.multiTransport.dial address <;> rfl
  | listen address =>
    simp only [handleServiceTask, listenInner]
    split
    · rfl
    · cases s.multiTransport.listen address <;> rfl
  | disconnect sessionId => exact board_sessionClose ..
  | protocolOpen sessionId target => exact board_foldl _ (fun s id => board_command s sessionId _) _
  | protocolClose sessionId protoId => exact board_command ..
  | shutdown quick => exact board_handleShutdown ..

/-! ### Rounds of the main loop -/

/-- The published addresses are current if their number is. -/
structure Comparable : Prop where
  nodup : s.listens.Nodup
  length : s.listens.length = s.published.length → s.published = s.listens
  ended : s.ended = []

/-- While the main loop waits, what is published is what is listened on. -/
structure Current : Prop where
  nodup : s.listens.Nodup
  published : s.shutdown = false → s.published = s.listens
  ended : s.ended = []

variable {s}

theorem comparable_of_change {s' : InnerService} (h : s.Current) (hrun : s.shutdown = false)
    (hboard : s'.board = s.board) (hchange : OneChange s.listens s'.listens) : s'.Comparable := by
  -- the published addresses are still those before the change
  have hpublished : s'.published = s.listens :=
    (congrArg Prod.fst hboard).trans (h.published hrun)
  refine ⟨hchange.nodup h.nodup, ?_, (congrArg Prod.snd hboard).trans h.ended⟩
  intro hlength
  rw [hpublished] at hlength ⊢
  exact (hchange.eq_of_length hlength).symm

/-- The addresses are published if their number has changed, and no handle is missed. -/
theorem Comparable.tryUpdateListens (h : s.Comparable) :
    s.tryUpdateListens.published = s.listens ∧ s.tryUpdateListens.listens = s.listens ∧
      s.tryUpdateListens.ended = [] := by
  -- no handle has ended, so that the update reaches every handle
  have hgone : s.unreachable = [] := by
    unfold unreachable
    rw [h.ended]
    exact List.filter_eq_nil_iff.mpr fun _ _ hmem =>
      absurd (of_decide_eq_true hmem) List.not_mem_nil
  unfold InnerService.tryUpdateListens
  split
  case isTrue hlength => exact ⟨h.length hlength, rfl, h.ended⟩
  case isFalse =>
    simp only [hgone]
    exact ⟨rfl, rfl, h.ended⟩

theorem Comparable.update (h : s.Comparable) : s.tryUpdateListens.Comparable := by
  obtain ⟨hpublished, hlistens, hended⟩ := h.tryUpdateListens
  refine ⟨hlistens ▸ h.nodup, ?_, hended⟩
  intro _
  rw [hpublished, hlistens]

theorem Comparable.head (h : s.Comparable) : s.head.Current := by
  unfold InnerService.head
  split
  · -- The main loop is over: it does not wait any more.
    refine ⟨h.nodup, ?_, h.ended⟩
    intro hrun
    cases hrun
  · obtain ⟨hpublished, hlistens, hended⟩ := h.tryUpdateListens
    exact ⟨hlistens ▸ h.nodup, fun _ => hpublished.trans hlistens.symm, hended⟩

/-- A listener that starts is one change, and is published at once. -/
theorem comparable_handleSessionEvent (h : s.Current) (hrun : s.shutdown = false)
    (e : SessionEvent) : (s.handleSessionEvent sha256 e).Comparable := by
  by_cases he : ∃ address, e = .listenStart address
  · obtain ⟨address, rfl⟩ := he
    let started := { s.send (.event (.listenStarted address)) with
      listens := s.listens.insert address }.decrease
    have hstarted : started.Comparable := comparable_of_change h hrun rfl (.insert address)
    exact hstarted.update
  · have hboard := s.board_handleSessionEvent sha256 fun address heq => he ⟨address, heq⟩
    refine comparable_of_change h hrun hboard ?_
    change OneChange s.books.listens (s.handleSessionEvent sha256 e).books.listens
    rcases s.books_handleSessionEvent sha256 e with hbooks | hbooks
    · rw [hbooks]
      exact s.books.listens_event (s.full e) e
    · rw [hbooks]
      exact .clear

theorem comparable_handleServiceTask (h : s.Current) (hrun : s.shutdown = false)
    (t : ServiceTask) : (s.handleServiceTask t).Comparable := by
  refine comparable_of_change h hrun (s.board_handleServiceTask t) ?_
  change OneChange s.books.listens (s.handleServiceTask t).books.listens
  rw [s.books_handleServiceTask t]
  exact s.books.listens_task _ t

/-- **One round of the main loop.** -/
theorem current_step (h : s.Current) {input : Input}
    (hhandle : ∀ handle, input ≠ .handleEnded handle) : (s.step sha256 input).Current := by
  cases input with
  | event e =>
    simp only [step]
    split
    · exact h
    case isFalse hrun =>
      exact (comparable_handleSessionEvent sha256 h (Bool.eq_false_iff.mpr hrun) e).head
  | task t =>
    simp only [step]
    split
    · exact h
    case isFalse hrun =>
      exact (comparable_handleServiceTask h (Bool.eq_false_iff.mpr hrun) t).head
  | handleEnded handle => exact absurd rfl (hhandle handle)

/-! ### Runs -/

/-- Before the main loop nothing is published, whatever is listened on. -/
theorem board_prepare (preparations : List Preparation) (s : InnerService) :
    (preparations.foldl prepare s).board = s.board :=
  board_foldl s (fun s p => by cases p <;> rfl) preparations

theorem nodup_prepare (preparations : List Preparation) {s : InnerService} (h : s.listens.Nodup) :
    (preparations.foldl prepare s).listens.Nodup := by
  induction preparations generalizing s with
  | nil => exact h
  | cons p ps ih =>
    cases p with
    | listen address => exact ih h.insert
    | dial address target => exact ih h

theorem current_start (protocolConfigs : List ProtocolMeta) (multiTransport : MultiTransport)
    (maxConnectionNumber : ℕ) (forever : Bool) (preparations : List Preparation) :
    ((new protocolConfigs multiTransport maxConnectionNumber forever).start
    preparations).Current := by
  let s := new protocolConfigs multiTransport maxConnectionNumber forever
  have hboard : (preparations.foldl prepare s).board = ([], []) := board_prepare preparations s
  have hpublished : (preparations.foldl prepare s).published = [] := congrArg Prod.fst hboard
  have hready : (preparations.foldl prepare s).initProtoHandles.Comparable := by
    refine ⟨nodup_prepare preparations List.nodup_nil, ?_, congrArg Prod.snd hboard⟩
    intro hlength
    change (preparations.foldl prepare s).listens.length
      = (preparations.foldl prepare s).published.length at hlength
    rw [hpublished] at hlength
    exact hpublished.trans (List.length_eq_zero_iff.mp hlength).symm
  exact hready.head

/-- **Whenever the main loop waits, each address that is listened on is published once, and
nothing else is**, as long as no protocol handle has ended. -/
theorem published_current (protocolConfigs : List ProtocolMeta) (multiTransport : MultiTransport)
    (maxConnectionNumber : ℕ) (forever : Bool) (preparations : List Preparation)
    (inputs : List Input) (hhandle : ∀ handle, .handleEnded handle ∉ inputs) :
    Throughout (step sha256)
      (fun s => s.shutdown = false →
        ∀ address, s.published.count address = if address ∈ s.listens then 1 else 0)
      ((new protocolConfigs multiTransport maxConnectionNumber forever).start preparations)
      inputs := by
  have hok : ∀ input ∈ inputs, ∀ handle, input ≠ .handleEnded handle := by
    rintro input hmem handle rfl
    exact hhandle handle hmem
  have hcurrent := throughout_of_guarded
    (P := Current) (fun _ _ h hinput => current_step sha256 h hinput)
    (current_start protocolConfigs multiTransport maxConnectionNumber forever preparations)
    (guarded_of_forall_mem hok _)
  refine hcurrent.mono ?_
  intro s h hrun address
  rw [h.published hrun]
  exact h.nodup.count

theorem published_current_repeated :
    Throughout (step generatorSha256)
      (fun s => s.shutdown = false →
        ∀ address, s.published.count address = if address ∈ s.listens then 1 else 0)
      ((new [] ⟨false, false, false⟩ 65535 true).start [.listen loopback])
      [.event (.listenStart loopbackWss), .event (.listenStart loopbackWss),
        .event (.listenError loopback (.io ⟨.other 0⟩))] :=
  published_current _ _ _ _ _ _ _ fun handle hmem => by
    simp only [List.mem_cons, List.not_mem_nil, or_false, reduceCtorEq] at hmem

end InnerService

end Tentacle
end CkbP2P

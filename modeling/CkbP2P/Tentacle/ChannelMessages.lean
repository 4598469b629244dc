import CkbP2P.Tentacle.ChannelThreads

/-!
# No message is lost between threads

What the word of a channel counts are the messages in the queues, those that a thread has counted
and not yet put into a queue, and the one that the receiver has taken and not yet counted down.
So the number never falls below zero, and the end is not reported while a message is on its way.
-/

namespace CkbP2P
namespace Tentacle
namespace ChannelThreads

open Lib
open CkbP2P.Tentacle.Bound

variable {w : ℕ} {ι α : Type}

/-- The number of messages in both queues. -/
def Sys.queued (s : Sys w ι α) : ℕ := (s.queue .high).length + (s.queue .normal).length

variable [Fintype ι]

/-- The messages that are in a queue, on the way into it or just out of it. -/
def Sys.count (s : Sys w ι α) : ℕ := s.queued + tally Calling.owes s.calling + s.receiving.owes

/-- **The invariant of messages and of the end.** -/
structure Inv (s : Sys w ι α) : Prop where
  counted : PackedWord.Holds s.state s.isOpen s.count
  fifo : ∀ p, s.placed p = s.taken p ++ StagedQueue.values (s.queue p)
  exchange : ∀ t m curr, s.calling t = .exchange m curr →
    (decodeState curr).isOpen = true ∧ (decodeState curr).numMessages < maxCapacity w
  finished : s.receiver ≠ .active → s.receiving = .idle ∧ s.isOpen = false ∧ s.count = 0
  cleared : s.receiving.Cleared → s.isOpen = false

/-- One more message is counted. -/
theorem holds_add_one {x : Usize w} {flag : Bool} {n : ℕ} (h : PackedWord.Holds x flag n)
    (hopen : (decodeState x).isOpen = true)
    (hroom : (decodeState x).numMessages < maxCapacity w) :
    ((decodeState x).numMessages + 1).toNat = n + 1 ∧
      PackedWord.Holds (encodeState ⟨(decodeState x).isOpen, (decodeState x).numMessages + 1⟩) true
        (n + 1) := by
  have hcount := toNat_numMessages_decodeState h
  rw [BitVec.lt_def, toNat_maxCapacity, hcount] at hroom
  have hnum : ((decodeState x).numMessages + 1).toNat = n + 1 := by
    have hone : (1 : Usize w).toNat = 1 := by simp
    rw [BitVec.toNat_add, hcount, hone, Nat.mod_eq_of_lt]
    rw [Nat.pow_succ]
    omega
  have hlt : ((decodeState x).numMessages + 1).toNat < 2 ^ w := by omega
  have hholds := holds_encodeState
      (s := ⟨(decodeState x).isOpen, (decodeState x).numMessages + 1⟩) hlt
  dsimp only at hholds
  rw [hnum, hopen] at hholds
  rw [hopen]
  exact ⟨hnum, hholds⟩

variable {s s' : Sys w ι α}

omit [Fintype ι] in
theorem isOpen_of_holds {flag : Bool} {n : ℕ} (h : PackedWord.Holds s.state flag n) :
    s.isOpen = flag := isOpen_decodeState h

omit [Fintype ι] in
theorem isOpen_eq (h : s'.state = s.state) :
    s'.isOpen = s.isOpen := by rw [Sys.isOpen, h, Sys.isOpen]

/-- The flag is cleared, by a thread or by the receiver. -/
theorem Inv.isOpen_clear (h : Inv s) (hstate : s'.state = s.state &&& ~~~openMask w) :
    s'.isOpen = false := by
  have hclear := h.counted.clear
  rw [← openMask_eq, ← hstate] at hclear
  exact isOpen_of_holds hclear

omit [Fintype ι] in
theorem queued_update {p : Priority} {q : List (Staged ι α)}
    (hqueue : s'.queue = Function.update s.queue p q) :
    s'.queued + (s.queue p).length = s.queued + q.length := by
  unfold Sys.queued
  rw [hqueue]
  cases p with
  | high =>
    rw [Function.update_self, Function.update_of_ne (by decide)]
    omega
  | normal =>
    rw [Function.update_self, Function.update_of_ne (by decide)]
    omega

section Threads

variable [DecidableEq ι] {t : ι} {c : Calling w α}

theorem count_of_calling (hqueue : s'.queue = s.queue) (hreceiving : s'.receiving = s.receiving)
    (hcalling : s'.calling = Function.update s.calling t c) :
    s'.count + (s.calling t).owes = s.count + c.owes := by
  have htally := tally_update Calling.owes s.calling t c
  unfold Sys.count Sys.queued
  rw [hqueue, hreceiving, hcalling]
  omega

/-- The thread leaves the number of messages as it is. -/
theorem Sys.Goes.count (hgo : s.Goes t c s') (hstate : ¬ s.Touches (s.calling t) .state)
    (hmessages : ¬ s.Touches (s.calling t) .messages) : s'.count = s.count := by
  have heq := count_of_calling (hgo.agrees .messages hmessages).1 hgo.receiving hgo.calling
  have howes := hgo.follows.owes hstate hmessages
  omega

theorem Inv.exchange_goes (h : Inv s) (hgo : s.Goes t c s') (t' : ι) (m : Sending α)
    (curr : Usize w) (ht' : s'.calling t' = .exchange m curr) :
    (decodeState curr).isOpen = true ∧ (decodeState curr).numMessages < maxCapacity w := by
  rw [hgo.calling, Function.update_apply] at ht'
  split_ifs at ht'
  · exact hgo.follows.exchange m curr ht'
  · exact h.exchange t' m curr ht'

/-- The access leaves the word and the queues of messages alone. -/
theorem Inv.goes (h : Inv s) (hgo : s.Goes t c s') (hstate : ¬ s.Touches (s.calling t) .state)
    (hmessages : ¬ s.Touches (s.calling t) .messages) : Inv s' := by
  have hcount := hgo.count hstate hmessages
  have hopen : s'.isOpen = s.isOpen := isOpen_eq (hgo.agrees .state hstate)
  obtain ⟨hqueue, hplaced, htaken⟩ := hgo.agrees .messages hmessages
  refine ⟨?_, ?_, h.exchange_goes hgo, ?_, ?_⟩
  · rw [hopen, hcount, show s'.state = s.state from hgo.agrees .state hstate]
    exact h.counted
  · rw [hplaced, htaken, hqueue]
    exact h.fifo
  · rw [hgo.receiver, hgo.receiving, hopen, hcount]
    exact h.finished
  · rw [hgo.receiving, hopen]
    exact h.cleared

omit [Fintype ι] in
/-- The word is exchanged. -/
theorem threadStep_exchange {m : Sending α} {curr : Usize w} (hpc : s.calling t = .exchange m curr)
    (hstate : s.state = curr) : s.threadStep t = Sys.goto
      { s with
        state := encodeState ⟨(decodeState curr).isOpen, (decodeState curr).numMessages + 1⟩ } t
      (if s.kind.parks ((decodeState curr).numMessages + 1) then .lockPark m else .push m) := by
  rw [Sys.threadStep, hpc, Sys.access, if_pos hstate]

/-- A message is counted. -/
theorem inv_exchange (h : Inv s) (hgo : s.Goes t c (s.threadStep t)) {m : Sending α}
    {curr : Usize w} (hpc : s.calling t = .exchange m curr) (hstate : s.state = curr) :
    Inv (s.threadStep t) ∧ (s.threadStep t).isOpen = true ∧
      (s.threadStep t).count = s.count + 1 := by
  obtain ⟨hopen, hroom⟩ := h.exchange t m curr hpc
  have hholds := h.counted
  rw [hstate] at hholds
  obtain ⟨-, hnew⟩ := holds_add_one hholds hopen hroom
  have hisOpen : s.isOpen = true := by rw [Sys.isOpen, hstate, hopen]
  have hstep := threadStep_exchange hpc hstate
  have hcount : (s.threadStep t).count = s.count + 1 := by
    have heq : (s.threadStep t).count + (s.calling t).owes = s.count + Calling.owes _ :=
      count_of_calling (by rw [hstep]; rfl) (by rw [hstep]; rfl) (by rw [hstep]; rfl)
    rw [hpc] at heq
    refine heq.trans ?_
    split_ifs <;> rfl
  have hnewOpen : (s.threadStep t).isOpen = true := isOpen_of_holds (by rw [hstep]; exact hnew)
  refine ⟨⟨?_, ?_, h.exchange_goes hgo, ?_, ?_⟩, hnewOpen, hcount⟩
  · rw [hnewOpen, hcount, hstep]
    exact hnew
  · rw [hstep]
    exact h.fifo
  · rw [hgo.receiver]
    intro hne
    rw [(h.finished hne).2.1] at hisOpen
    cases hisOpen
  · rw [hgo.receiving]
    intro hcleared
    rw [h.cleared hcleared] at hisOpen
    cases hisOpen

/-- A value is put into its queue, or linked there. -/
theorem inv_queue (h : Inv s) (hgo : s.Goes t c s') {p : Priority} {q : List (Staged ι α)}
    (hstate : s'.state = s.state) (hqueue : s'.queue = Function.update s.queue p q)
    (hplaced : ∀ p, s'.placed p = s.taken p ++ StagedQueue.values (s'.queue p))
    (htaken : s'.taken = s.taken)
    (hlength : q.length + c.owes = (s.queue p).length + (s.calling t).owes) :
    Inv s' ∧ s'.count = s.count := by
  have hopen : s'.isOpen = s.isOpen := isOpen_eq hstate
  have hcount : s'.count = s.count := by
    have hqueued := queued_update hqueue
    have htally := tally_update Calling.owes s.calling t c
    unfold Sys.count
    rw [hgo.calling, hgo.receiving]
    omega
  refine ⟨⟨?_, ?_, h.exchange_goes hgo, ?_, ?_⟩, hcount⟩
  · rw [hopen, hcount, hstate]
    exact h.counted
  · rw [htaken]
    exact hplaced
  · rw [hgo.receiver, hgo.receiving, hopen, hcount]
    exact h.finished
  · rw [hgo.receiving, hopen]
    exact h.cleared

theorem inv_push (h : Inv s) (hgo : s.Goes t c (s.threadStep t)) {m : Sending α}
    (hpc : s.calling t = .push m) : Inv (s.threadStep t) ∧ (s.threadStep t).count = s.count := by
  have hstep : s.threadStep t = s.access t (.push m) := by rw [Sys.threadStep, hpc]
  have hc : c = .link m := by
    have hcalling := congrFun hgo.calling t
    rw [Function.update_self, hstep] at hcalling
    exact hcalling.symm.trans (Sys.calling_goto_self ..)
  rw [hstep] at hgo ⊢
  refine inv_queue h hgo rfl rfl ?_ rfl ?_
  · intro p
    change Function.update s.placed m.priority _ p
      = s.taken p ++ StagedQueue.values (Function.update s.queue m.priority _ p)
    rw [Function.update_apply, Function.update_apply]
    split_ifs with hp
    · rw [StagedQueue.values_reserve, ← List.append_assoc, hp, h.fifo]
    · exact h.fifo p
  · rw [hpc, hc, StagedQueue.length_reserve]
    rfl

theorem inv_link (h : Inv s) (hgo : s.Goes t c (s.threadStep t)) {m : Sending α}
    (hpc : s.calling t = .link m) : Inv (s.threadStep t) ∧ (s.threadStep t).count = s.count := by
  have hstep : s.threadStep t = s.access t (.link m) := by rw [Sys.threadStep, hpc]
  have hc : c = .wake (some m.id) .accepted := by
    have hcalling := congrFun hgo.calling t
    rw [Function.update_self, hstep] at hcalling
    exact hcalling.symm.trans (Sys.calling_goto_self ..)
  rw [hstep] at hgo ⊢
  refine inv_queue h hgo rfl rfl ?_ rfl ?_
  · intro p
    change s.placed p = s.taken p ++ StagedQueue.values (Function.update s.queue m.priority _ p)
    rw [Function.update_apply]
    split_ifs with hp
    · rw [StagedQueue.values_publish, hp, h.fifo]
    · exact h.fifo p
  · rw [hpc, hc, StagedQueue.length_publish]
    rfl

theorem inv_closeAnd (h : Inv s) (hgo : s.Goes t c (s.threadStep t)) {id : Option SenderId}
    (hpc : s.calling t = .closeAnd id) :
    Inv (s.threadStep t) ∧ (s.threadStep t).isOpen = false ∧ (s.threadStep t).count = s.count := by
  have hstep : s.threadStep t = s.access t (.closeAnd id) := by rw [Sys.threadStep, hpc]
  have hopen : (s.threadStep t).isOpen = false := h.isOpen_clear (by rw [hstep]; rfl)
  have hcount : (s.threadStep t).count = s.count := by
    have heq : (s.access t (.closeAnd id)).count + (s.calling t).owes = s.count + Calling.owes _ :=
      count_of_calling rfl rfl rfl
    rw [hpc] at heq
    exact hstep ▸ heq
  refine ⟨⟨?_, ?_, h.exchange_goes hgo, ?_, fun _ => hopen⟩, hopen, hcount⟩
  · have hclear := h.counted.clear
    rw [← openMask_eq] at hclear
    rw [hopen, hcount, hstep]
    exact hclear
  · rw [hstep]
    exact h.fifo
  · intro hne
    rw [hgo.receiver] at hne
    rw [hgo.receiving, hcount]
    exact ⟨(h.finished hne).1, hopen, (h.finished hne).2.2⟩

/-- **Every access of a thread keeps the invariant.** -/
theorem inv_threadStep (h : Inv s) (t : ι) : Inv (s.threadStep t) := by
  obtain ⟨c, hgo⟩ := goes_threadStep s t
  cases hpc : s.calling t with
  | exchange m curr =>
    by_cases hstate : s.state = curr
    · exact (inv_exchange h hgo hpc hstate).1
    · exact h.goes hgo (by rw [hpc]; exact hstate) (by rw [hpc]; exact fun h => h)
  | push m => exact (inv_push h hgo hpc).1
  | link m => exact (inv_link h hgo hpc).1
  | closeAnd id => exact (inv_closeAnd h hgo hpc).1
  | _ => exact h.goes hgo (by rw [hpc]; exact fun h => h) (by rw [hpc]; exact fun h => h)

end Threads

/-! ### The receiver -/

/-- The receiver leaves the number of messages as it is. -/
theorem Sys.Advances.count (ha : s.Advances s') (hstate : ¬ s.Takes s.receiving .state)
    (hmessages : ¬ s.Takes s.receiving .messages) : s'.count = s.count := by
  unfold Sys.count Sys.queued
  rw [(ha.agrees .messages hmessages nofun).1, ha.calling, ha.owes hstate hmessages]

/-- The receiver goes on, and leaves the word and the queues of messages alone. -/
theorem Inv.advances (h : Inv s) (ha : s.Advances s') (hstate : ¬ s.Takes s.receiving .state)
    (hmessages : ¬ s.Takes s.receiving .messages) : Inv s' := by
  have hcount := ha.count hstate hmessages
  have hstate' : s'.state = s.state := ha.agrees .state hstate nofun
  have hopen := isOpen_eq hstate'
  obtain ⟨hqueue, hplaced, htaken⟩ := ha.agrees .messages hmessages nofun
  constructor
  case counted =>
    rw [hopen, hcount, hstate']
    exact h.counted
  case fifo =>
    rw [hplaced, htaken, hqueue]
    exact h.fifo
  case exchange =>
    rw [ha.calling]
    exact h.exchange
  case finished =>
    intro hne
    rw [hopen, hcount]
    rcases ha.ends with heq | ⟨hidle, hclosed⟩
    · rw [heq] at hne
      exact ⟨ha.finished hne (h.finished hne).1, (h.finished hne).2⟩
    · refine ⟨hidle, ?_⟩
      by_cases hactive : s.receiver = .active
      · exact (isClosed_decodeState_iff h.counted).mp (hclosed hactive)
      · exact (h.finished hactive).2
  case cleared =>
    intro hcleared
    rw [hopen]
    exact (ha.cleared hstate hcleared).elim h.cleared fun hclosed => hclosed

/-- A receiver that is in a call has not reported the end. -/
theorem Inv.active (h : Inv s) (hbusy : s.receiving ≠ .idle) : s.receiver = .active := by
  by_contra hne
  exact hbusy (h.finished hne).1

section Takes

omit [Fintype ι]

/-- A message is taken. -/
theorem receiverStep_pop {p : Priority} {why : Purpose} (hpc : s.receiving = .pop p why) {msg : α}
    {rest : List (Staged ι α)} (hqueue : s.queue p = ⟨msg, none⟩ :: rest) :
    s.receiverStep = Sys.receive { s with
      queue := Function.update s.queue p rest
      taken := Function.update s.taken p (s.taken p ++ [msg]) }
      (if s.kind.hasParked then .popParked p msg why else .dec p msg why) := by
  rw [Sys.receiverStep, hpc, Sys.receiverAccess]
  unfold Sys.pop
  rw [hqueue]
  rfl

/-- A parked task is taken, to let its sender in. -/
theorem receiverStep_popParked {p : Priority} {msg : α} {why : Purpose}
    (hpc : s.receiving = .popParked p msg why) {task : TaskId} {rest : List (Staged ι TaskId)}
    (hqueue : s.parkedQueue = ⟨task, none⟩ :: rest) :
    s.receiverStep = Sys.receive { s with parkedQueue := rest } (.notify task p msg why) := by
  rw [Sys.receiverStep, hpc, Sys.receiverAccess, Sys.unparkOne, hqueue]
  rfl

/-- A parked task is taken by `close`. -/
theorem receiverStep_closePop {dropping : Bool} (hpc : s.receiving = .closePop dropping)
    {task : TaskId} {rest : List (Staged ι TaskId)}
    (hqueue : s.parkedQueue = ⟨task, none⟩ :: rest) :
    s.receiverStep = Sys.receive { s with parkedQueue := rest } (.closeNotify task dropping) := by
  rw [Sys.receiverStep, hpc, Sys.receiverAccess, Sys.closeLoop, hqueue]
  rfl

end Takes

/-- A message is taken, and has yet to be counted down. -/
theorem inv_pop (h : Inv s) {p : Priority} {why : Purpose} (hpc : s.receiving = .pop p why)
    {msg : α} {rest : List (Staged ι α)} (hqueue : s.queue p = ⟨msg, none⟩ :: rest) :
    Inv s.receiverStep ∧ s.receiverStep.count = s.count := by
  have hactive : s.receiver = .active := h.active (by rw [hpc]; nofun)
  have hstep := receiverStep_pop hpc hqueue
  have hcount : s.receiverStep.count = s.count := by
    have hqueued : s.receiverStep.queued + (s.queue p).length = s.queued + rest.length :=
      queued_update (by rw [hstep]; rfl)
    have howes : s.receiverStep.receiving.owes = 1 := by
      rw [hstep, Sys.receive]
      split_ifs <;> rfl
    rw [hqueue, List.length_cons] at hqueued
    unfold Sys.count
    rw [howes, hpc, (advances_receiverStep s).calling]
    change _ = _ + _ + 0
    omega
  refine ⟨⟨?_, ?_, ?_, ?_, ?_⟩, hcount⟩
  · rw [hcount, hstep]
    exact h.counted
  · intro p'
    rw [hstep]
    change s.placed p' = Function.update s.taken p _ p'
      ++ StagedQueue.values (Function.update s.queue p rest p')
    rw [Function.update_apply, Function.update_apply]
    split_ifs with hp
    · rw [hp, h.fifo, hqueue, StagedQueue.values_cons, List.append_assoc]
      rfl
    · exact h.fifo p'
  · rw [hstep]
    exact h.exchange
  · rw [hstep]
    exact absurd hactive
  · intro hcleared
    have hold := ((advances_receiverStep s).cleared (by rw [hpc]; exact fun h => h) hcleared).elim
      h.cleared fun hclosed => hclosed
    rw [hstep]
    exact hold

/-- The word changes as the number of messages and the flag do. -/
theorem Inv.word (h : Inv s) (ha : s.Advances s') (hmessages : ¬ s.Takes s.receiving .messages)
    (hbusy : s.receiving ≠ .idle) (hreceiver : s'.receiver = s.receiver)
    (hcounted : PackedWord.Holds s'.state s'.isOpen s'.count)
    (hcleared : s'.receiving.Cleared → s'.isOpen = false) : Inv s' := by
  obtain ⟨hqueue, hplaced, htaken⟩ := ha.agrees .messages hmessages nofun
  refine ⟨hcounted, ?_, ?_, ?_, hcleared⟩
  · rw [hplaced, htaken, hqueue]
    exact h.fifo
  · rw [ha.calling]
    exact h.exchange
  · rw [hreceiver]
    exact absurd (h.active hbusy)

/-- A message is counted down. -/
theorem inv_dec (h : Inv s) {p : Priority} {msg : α} {why : Purpose}
    (hpc : s.receiving = .dec p msg why) : Inv s.receiverStep ∧
      s.receiverStep.isOpen = s.isOpen ∧ s.count = s.receiverStep.count + 1 := by
  have ha := advances_receiverStep s
  have hmessages : ¬ s.Takes s.receiving .messages := by rw [hpc]; exact fun h => h
  obtain ⟨hstate, hreceiver, howes, hdrain⟩ : s.receiverStep.state = s.state - 1 ∧
      s.receiverStep.receiver = s.receiver ∧ s.receiverStep.receiving.owes = 0 ∧
      (s.receiverStep.receiving.Cleared → why = .drain) := by
    rw [Sys.receiverStep, hpc, Sys.receiverAccess, Sys.gotMessage]
    split_ifs with hdrain
    · exact ⟨rfl, rfl, rfl, fun _ => hdrain⟩
    · exact ⟨rfl, rfl, rfl, False.elim⟩
  have hcount : s.count = s.receiverStep.count + 1 := by
    unfold Sys.count Sys.queued
    rw [howes, (ha.agrees .messages hmessages (by decide)).1, ha.calling, hpc]
    rfl
  have hholds := h.counted.sub_one (by rw [hcount]; exact Nat.succ_ne_zero _)
  rw [hcount, Nat.add_sub_cancel, ← hstate] at hholds
  have hopen := isOpen_of_holds hholds
  refine ⟨h.word ha hmessages (by rw [hpc]; intro h; cases h) hreceiver
    (by rw [hopen]; exact hholds) ?_, hopen,
    hcount⟩
  intro hcleared
  rw [hopen]
  exact h.cleared (by rw [hpc]; exact hdrain hcleared)

/-- The receiver clears the flag. -/
theorem inv_flagAnd (h : Inv s) {dropping : Bool} (hpc : s.receiving = .closeAnd dropping) :
    Inv s.receiverStep ∧ s.receiverStep.isOpen = false ∧ s.receiverStep.count = s.count := by
  have ha := advances_receiverStep s
  have hmessages : ¬ s.Takes s.receiving .messages := by rw [hpc]; exact fun h => h
  obtain ⟨hstate, hreceiver, howes⟩ : s.receiverStep.state = s.state &&& ~~~openMask w ∧
      s.receiverStep.receiver = s.receiver ∧ s.receiverStep.receiving.owes = 0 := by
    rw [Sys.receiverStep, hpc, Sys.receiverAccess, Sys.flagCleared, Sys.closeDone]
    split_ifs <;> exact ⟨rfl, rfl, rfl⟩
  have hopen := h.isOpen_clear hstate
  have hcount : s.receiverStep.count = s.count := by
    unfold Sys.count Sys.queued
    rw [howes, (ha.agrees .messages hmessages (by decide)).1, ha.calling, hpc]
    rfl
  have hclear := h.counted.clear
  rw [← openMask_eq, ← hstate, ← hcount] at hclear
  exact ⟨h.word ha hmessages (by rw [hpc]; intro h; cases h) hreceiver (by rw [hopen]; exact hclear)
    fun _ => hopen, hopen, hcount⟩

/-- **Every access of the receiver keeps the invariant.** -/
theorem inv_receiverStep (h : Inv s) : Inv s.receiverStep := by
  have ha := advances_receiverStep s
  cases hpc : s.receiving with
  | pop p why =>
    by_cases hready : StagedQueue.Ready (s.queue p)
    · obtain ⟨msg, rest, hqueue⟩ := hready.exists_cons
      exact (inv_pop h hpc hqueue).1
    · exact h.advances ha (by rw [hpc]; exact fun h => h) (by rw [hpc]; exact hready)
  | dec p msg why => exact (inv_dec h hpc).1
  | closeAnd dropping => exact (inv_flagAnd h hpc).1
  | _ => exact h.advances ha (by rw [hpc]; exact fun h => h) (by rw [hpc]; exact fun h => h)

/-- **Everything that can happen keeps the invariant.** -/
theorem inv_step [DecidableEq ι] (h : Inv s) (a : Access ι α) : Inv (step s a) :=
  step_rule h (inv_threadStep h) (inv_receiverStep h)
    (fun _ _ _ hgo hnot => h.goes hgo (hnot _ nofun) (hnot _ nofun))
    (fun _ ha _ hnot => h.advances ha (hnot _ nofun) (hnot _ nofun)) a

theorem inv_channel (kind : Kind w) : Inv (channel ι α kind) where
  counted := by
    have hcount : (channel ι α kind).count = 0 := by
      unfold Sys.count
      rw [show tally Calling.owes (channel ι α kind).calling = 0 from
        tally_eq_zero_iff.mpr fun _ => rfl]
      rfl
    have hholds := PackedWord.holds_flagMask w
    rw [← openMask_eq] at hholds
    rw [isOpen_of_holds (s := channel ι α kind) hholds, hcount]
    exact hholds
  fifo _ := rfl
  exchange := nofun
  finished hne := absurd rfl hne
  cleared := nofun

/-! ### Links -/

/-- The thread links a message of this priority next. -/
def Sys.Links (s : Sys w ι α) (p : Priority) (t : ι) : Prop :=
  ∃ m, s.calling t = .link m ∧ m.priority = p

/-- The thread links its task next. -/
def Sys.LinksTask (s : Sys w ι α) (t : ι) : Prop := ∃ m, s.calling t = .linkParked m

/-- **Whoever has put a value into a queue links it next.** -/
structure Linked (s : Sys w ι α) : Prop where
  messages : ∀ p, StagedQueue.Writers (s.queue p) (s.Links p)
  parked : StagedQueue.Writers s.parkedQueue s.LinksTask

section Linked

omit [Fintype ι]

section Threads

variable [DecidableEq ι] {t t' : ι} {c : Calling w α} {p : Priority}

/-- Whoever is linking goes on linking, unless it is the thread that goes on. -/
theorem Sys.Goes.links (hgo : s.Goes t c s') (hne : ∀ m, s.calling t = .link m → m.priority ≠ p)
    (h : s.Links p t') : s'.Links p t' := by
  obtain ⟨m, hm, hp⟩ := h
  refine ⟨m, ?_, hp⟩
  rw [hgo.calling, Function.update_of_ne, hm]
  rintro rfl
  exact hne m hm hp

theorem Sys.Goes.linksTask (hgo : s.Goes t c s') (hne : ∀ m, s.calling t ≠ .linkParked m)
    (h : s.LinksTask t') : s'.LinksTask t' := by
  obtain ⟨m, hm⟩ := h
  refine ⟨m, ?_⟩
  rw [hgo.calling, Function.update_of_ne, hm]
  rintro rfl
  exact hne m hm

theorem Linked.goes (h : Linked s) (hgo : s.Goes t c s')
    (hmessages : ¬ s.Touches (s.calling t) .messages)
    (hparked : ¬ s.Touches (s.calling t) .parked) : Linked s' where
  messages p := by
    rw [(hgo.agrees .messages hmessages).1]
    exact (h.messages p).mono (fun _ h => h) fun _ =>
      hgo.links fun m hm _ => hmessages (by rw [hm]; trivial)
  parked := by
    rw [show s'.parkedQueue = s.parkedQueue from hgo.agrees .parked hparked]
    exact h.parked.mono (fun _ h => h) fun _ =>
      hgo.linksTask fun m hm => hparked (by rw [hm]; trivial)

theorem linked_threadStep (h : Linked s) (t : ι) : Linked (s.threadStep t) := by
  obtain ⟨c, hgo⟩ := goes_threadStep s t
  cases hpc : s.calling t with
  | push m =>
    have hstep : s.threadStep t = s.access t (.push m) := by rw [Sys.threadStep, hpc]
    have hnot : ∀ p m', s.calling t = .link m' → m'.priority ≠ p := by rw [hpc]; exact nofun
    rw [hstep] at hgo ⊢
    refine ⟨fun p => ?_, h.parked.mono (fun _ h => h)
      fun _ => hgo.linksTask (by rw [hpc]; exact nofun)⟩
    change StagedQueue.Writers (Function.update s.queue m.priority _ p) _
    rw [Function.update_apply]
    split_ifs with hp
    · exact (h.messages _).reserve (fun _ => hp ▸ hgo.links (hnot p))
        ⟨m, Function.update_self .., hp.symm⟩ _
    · exact (h.messages p).mono (fun _ h => h) fun _ => hgo.links (hnot p)
  | link m =>
    have hstep : s.threadStep t = s.access t (.link m) := by rw [Sys.threadStep, hpc]
    rw [hstep] at hgo ⊢
    refine ⟨fun p => ?_, h.parked.mono (fun _ h => h)
      fun _ => hgo.linksTask (by rw [hpc]; exact nofun)⟩
    change StagedQueue.Writers (Function.update s.queue m.priority _ p) _
    rw [Function.update_apply]
    split_ifs with hp
    · refine (h.messages _).publish ?_
      rintro t' hne ⟨m', hm', hp'⟩
      exact ⟨m', (Function.update_of_ne hne _ _).trans hm', hp'.trans hp.symm⟩
    · refine (h.messages p).mono (fun _ h => h) fun _ => hgo.links ?_
      rw [hpc]
      rintro _ ⟨⟩ heq
      exact hp heq.symm
  | pushParked m =>
    have hstep : s.threadStep t = s.access t (.pushParked m) := by rw [Sys.threadStep, hpc]
    rw [hstep] at hgo ⊢
    exact ⟨fun p => (h.messages p).mono (fun _ h => h)
      fun _ => hgo.links (by rw [hpc]; exact nofun),
      h.parked.reserve (fun _ => hgo.linksTask (by rw [hpc]; exact nofun))
        ⟨m, Function.update_self ..⟩ _⟩
  | linkParked m =>
    have hstep : s.threadStep t = s.access t (.linkParked m) := by rw [Sys.threadStep, hpc]
    rw [hstep] at hgo ⊢
    refine ⟨fun p => (h.messages p).mono (fun _ h => h)
      fun _ => hgo.links (by rw [hpc]; exact nofun),
      h.parked.publish ?_⟩
    rintro t' hne ⟨m', hm'⟩
    exact ⟨m', (Function.update_of_ne hne _ _).trans hm'⟩
  | _ => exact h.goes hgo (by rw [hpc]; exact fun h => h) (by rw [hpc]; exact fun h => h)

end Threads

/-- The receiver takes values from the queues, and leaves the threads alone. -/
theorem Linked.mono (h : Linked s) (hqueue : ∀ p, s'.queue p <:+ s.queue p)
    (hparked : s'.parkedQueue <:+ s.parkedQueue) (hcalling : s'.calling = s.calling) :
    Linked s' where
  messages p := by
    refine (h.messages p).mono (fun _ => ((hqueue p).subset ·)) fun t ht => ?_
    rw [Sys.Links, hcalling]
    exact ht
  parked := by
    refine h.parked.mono (fun _ => (hparked.subset ·)) fun t ht => ?_
    rw [Sys.LinksTask, hcalling]
    exact ht

theorem Linked.advances (h : Linked s) (ha : s.Advances s')
    (hmessages : ¬ s.Takes s.receiving .messages) (hparked : ¬ s.Takes s.receiving .parked) :
    Linked s' := by
  refine h.mono (fun p => ?_) ?_ ha.calling
  · rw [(ha.agrees .messages hmessages nofun).1]
  · rw [show s'.parkedQueue = s.parkedQueue from ha.agrees .parked hparked nofun]

theorem linked_receiverStep (h : Linked s) : Linked s.receiverStep := by
  have ha := advances_receiverStep s
  cases hpc : s.receiving with
  | pop p why =>
    by_cases hready : StagedQueue.Ready (s.queue p)
    · obtain ⟨msg, rest, hqueue⟩ := hready.exists_cons
      rw [receiverStep_pop hpc hqueue]
      refine h.mono (fun p' => ?_) (List.suffix_refl _) rfl
      change Function.update s.queue p rest p' <:+ s.queue p'
      rw [Function.update_apply]
      split_ifs with hp
      · rw [hp, hqueue]
        exact List.suffix_cons _ _
      · exact List.suffix_refl _
    · exact h.advances ha (by rw [hpc]; exact hready) (by rw [hpc]; exact fun h => h)
  | popParked p msg why =>
    by_cases hready : StagedQueue.Ready s.parkedQueue
    · obtain ⟨task, rest, hqueue⟩ := hready.exists_cons
      rw [receiverStep_popParked hpc hqueue]
      exact h.mono (fun _ => List.suffix_refl _) (hqueue ▸ List.suffix_cons _ _) rfl
    · exact h.advances ha (by rw [hpc]; exact fun h => h) (by rw [hpc]; exact hready)
  | closePop dropping =>
    by_cases hready : StagedQueue.Ready s.parkedQueue
    · obtain ⟨task, rest, hqueue⟩ := hready.exists_cons
      rw [receiverStep_closePop hpc hqueue]
      exact h.mono (fun _ => List.suffix_refl _) (hqueue ▸ List.suffix_cons _ _) rfl
    · exact h.advances ha (by rw [hpc]; exact fun h => h) (by rw [hpc]; exact hready)
  | _ => exact h.advances ha (by rw [hpc]; exact fun h => h) (by rw [hpc]; exact fun h => h)

theorem linked_step [Fintype ι] [DecidableEq ι] (h : Linked s) (a : Access ι α) :
    Linked (step s a) :=
  step_rule h (linked_threadStep h) (linked_receiverStep h)
    (fun _ _ _ hgo hnot => h.goes hgo (hnot _ nofun) (hnot _ nofun))
    (fun _ ha _ hnot => h.advances ha (hnot _ nofun) (hnot _ nofun)) a

end Linked

/-! ### A receive on its own -/

/-- No thread is in a call. -/
def Sys.Quiet (s : Sys w ι α) : Prop := ∀ t, s.calling t = .idle

/-- The two queues and the flag. -/
def Sys.view (s : Sys w ι α) : PriorityChannel α :=
  ⟨StagedQueue.values (s.queue .high), StagedQueue.values (s.queue .normal), s.isOpen⟩

section Receives

variable {call : ReceiverCall} {p : Priority} {why : Purpose} {msg : α} {rest : List (Staged ι α)}

omit [Fintype ι] in
/-- A message that is there is received, after a parked task has been notified. -/
theorem results_of_pop (hparked : ∀ cell ∈ s.parkedQueue, cell.writer = none)
    (hpc : s.receiving = .pop p why) (hwhy : why ≠ .drain)
    (hqueue : s.queue p = ⟨msg, none⟩ :: rest)
    (n : ℕ) : (Sys.receiverStep^[n + 4] s).results = s.results ++ [.received (.item p msg)] := by
  have hfixed : ∀ s' : Sys w ι α, s'.receiving = .idle → Sys.receiverStep^[n] s' = s' :=
    fun s' hidle => Function.iterate_fixed (by rw [Sys.receiverStep, hidle]; rfl) n
  rw [Function.iterate_add_apply]
  cases hkind : s.kind with
  | unbounded =>
    simp [Sys.receiverStep, hpc, Sys.receiverAccess, Sys.pop, hqueue, hkind, Kind.hasParked,
      Sys.receive, Sys.gotMessage, hwhy, Sys.answer, hfixed]
  | bounded buffer =>
    cases hq : s.parkedQueue with
    | nil =>
      simp [Sys.receiverStep, hpc, Sys.receiverAccess, Sys.pop, hqueue, hkind, Kind.hasParked,
        Sys.receive, Sys.unparkOne, hq, Sys.gotMessage, hwhy, Sys.answer, hfixed]
    | cons cell tasks =>
      obtain ⟨task, writer⟩ := cell
      obtain rfl : writer = none := hparked _ (by rw [hq]; exact List.mem_cons_self)
      simp [Sys.receiverStep, hpc, Sys.receiverAccess, Sys.pop, hqueue, hkind, Kind.hasParked,
        Sys.receive, Sys.unparkOne, hq, Sys.notify, Sys.gotMessage, hwhy, Sys.answer, hfixed]

/-- **What a receive gives when no thread is in a call** is the first message of the two queues. -/
theorem results_of_quiet (h : Inv s) (hlinked : Linked s) (hquiet : s.Quiet)
    (howes : s.receiving.owes = 0) (hcall : call = .tryNext ∨ ∃ cx, call = .pollNext cx) :
    (Sys.receiverStep^[7] (s.receive call.first)).results
      = s.results ++ [.received s.view.next.1] := by
  have hparked : ∀ cell ∈ s.parkedQueue, cell.writer = none := fun _ =>
    StagedQueue.Writers.writer_eq_none <| hlinked.parked.mono (fun _ h => h) fun t ⟨m, hm⟩ => by
      rw [hquiet t] at hm
      cases hm
  have hlinks : ∀ p, ∀ cell ∈ s.queue p, cell.writer = none := fun p _ =>
    StagedQueue.Writers.writer_eq_none <| (hlinked.messages p).mono (fun _ h => h)
      fun t ⟨m, hm, _⟩ => by
        rw [hquiet t] at hm
        cases hm
  obtain ⟨why, hfirst, hwhy⟩ : ∃ why, (call.first : Receiving α) = .pop .high why ∧
      why ≠ .drain := by
    rcases hcall with rfl | ⟨cx, rfl⟩
    · exact ⟨_, rfl, nofun⟩
    · exact ⟨_, rfl, nofun⟩
  cases hhigh : s.queue .high with
  | cons cell rest =>
    obtain ⟨msg, writer⟩ := cell
    obtain rfl : writer = none := hlinks .high _ (by rw [hhigh]; exact List.mem_cons_self)
    have hnext : s.view.next.1 = .item .high msg := by simp [Sys.view, hhigh, PriorityChannel.next]
    rw [hnext, hfirst]
    exact results_of_pop (s := s.receive (.pop .high why)) hparked rfl hwhy hhigh 3
  | nil =>
    cases hnormal : s.queue .normal with
    | cons cell rest =>
      obtain ⟨msg, writer⟩ := cell
      obtain rfl : writer = none := hlinks .normal _ (by rw [hnormal]; exact List.mem_cons_self)
      have hnext : s.view.next.1 = .item .normal msg := by
        simp [Sys.view, hhigh, hnormal, PriorityChannel.next]
      have hpop : Sys.receiverStep (s.receive (.pop .high why)) = s.receive (.pop .normal why) := by
        simp [Sys.receiverStep, Sys.receive, Sys.receiverAccess, Sys.pop, hhigh]
      rw [hnext, hfirst, Function.iterate_succ_apply, hpop]
      exact results_of_pop (s := s.receive (.pop .normal why)) hparked rfl hwhy hnormal 2
    | nil =>
      -- nothing is on its way, so the word says what the flag says
      have hcount : s.count = 0 := by
        unfold Sys.count Sys.queued
        rw [hhigh, hnormal, howes, tally_eq_zero_iff.mpr fun t => by rw [hquiet t]; rfl]
        rfl
      have hclosed : (decodeState s.state).isClosed = true ↔ s.isOpen = false := by
        rw [isClosed_decodeState_iff h.counted, hcount]
        exact and_iff_left rfl
      cases hopen : s.isOpen <;> rw [hopen] at hclosed <;> rcases hcall with rfl | ⟨cx, rfl⟩ <;>
        simp [ReceiverCall.first, Sys.receiverStep, Sys.receive, Sys.receiverAccess, Sys.pop, hhigh,
          hnormal, hclosed, Sys.gotEnd, Sys.gotNothing, Sys.answer, Sys.view, hopen,
          PriorityChannel.next]

end Receives

/-! ### Runs -/

/-- **What senders and the receiver can rely on.** -/
structure Delivered [DecidableEq ι] (s : Sys w ι α) : Prop where
  /-- The word counts the messages in the queues, those that a thread has yet to put there and the
  one that the receiver has just taken. -/
  count : (decodeState s.state).numMessages.toNat
    = s.queued + tally Calling.owes s.calling + s.receiving.owes
  /-- Messages of one priority are taken in the order in which they were put into their queue. -/
  fifo : ∀ p, s.placed p = s.taken p ++ StagedQueue.values (s.queue p)
  /-- A receiver that has reported the end, or is gone, has taken all messages; no thread has one
  on its way, and none is accepted. -/
  ended : s.receiver ≠ .active → s.isOpen = false ∧ (∀ t, (s.calling t).owes = 0) ∧
    ∀ p, s.placed p = s.taken p
  /-- A queue whose first message is not linked has a thread that links it next. -/
  links : ∀ p cell rest, s.queue p = cell :: rest → ∀ t, cell.writer = some t →
    ∃ m, s.calling t = .link m ∧ m.priority = p
  /-- With no call under way, a receive gives the first message of the two queues, or tells whether
  the channel is closed. -/
  receives : s.Quiet → s.receiver = .active → s.receiving.isIdle = true → ∀ call,
    call = .tryNext ∨ (∃ cx, call = .pollNext cx) →
    (runFrom step s (.receive call :: List.replicate 7 .receiver)).results
      = s.results ++ [.received s.view.next.1]

section Runs

variable [DecidableEq ι]

theorem runFrom_receiver (s : Sys w ι α) (n : ℕ) :
    runFrom step s (List.replicate n .receiver) = Sys.receiverStep^[n] s := by
  induction n generalizing s with
  | zero => rfl
  | succ n ih =>
    rw [List.replicate_succ, Function.iterate_succ_apply]
    exact ih s.receiverStep

theorem delivered_of_inv (h : Inv s) (hlinked : Linked s) : Delivered s where
  count := toNat_numMessages_decodeState h.counted
  fifo := h.fifo
  ended hne := by
    obtain ⟨-, hopen, hcount⟩ := h.finished hne
    unfold Sys.count Sys.queued at hcount
    refine ⟨hopen, tally_eq_zero_iff.mp (by omega), ?_⟩
    intro p
    have hnil : s.queue p = [] := by
      cases p with
      | high => exact List.length_eq_zero_iff.mp (by omega)
      | normal => exact List.length_eq_zero_iff.mp (by omega)
    rw [h.fifo p, hnil, StagedQueue.values_nil, List.append_nil]
  links p cell rest hqueue := hlinked.messages p cell (by rw [hqueue]; exact List.mem_cons_self)
  receives hquiet hactive hidle call hcall := by
    have hbegin : step s (.receive call) = s.receive call.first := by
      unfold step Sys.beginReceive
      simp [hidle, hactive]
    have howes : s.receiving.owes = 0 := by
      cases hr : s.receiving <;> simp_all [Receiving.isIdle, Receiving.owes]
    rw [runFrom, hbegin, runFrom_receiver]
    exact results_of_quiet h hlinked hquiet howes hcall

end Runs

end ChannelThreads
end Tentacle
end CkbP2P

import CkbP2P.Yamux.Simulation

/-!
# Flow control between two views of a stream

The two ends of a stream keep four windows, and frames on their way carry data bytes
in one direction and window deltas in the other.  For each end two sums matter: what it
*owes* (its send window, the data it has on the way, and the deltas on the way to it),
and what is *pending* at it (the data that has reached its side and the deltas it has
on the way).  No move increases what an end owes, and none increases what is pending
beyond what its receive window gains.  The window inequality between two ends is the
statement that what one owes and what is pending at the other fit its receive window;
it therefore survives every move of either end, and the transport moves bytes from one
sum to the other.
-/

namespace CkbP2P
namespace Yamux

open Lib Relation

namespace View

/-- The send window; both sides assume the initial one before there is a handle. -/
def sendWindow (v : View) : ℕ :=
  (v.slot.elim initialStreamWindow fun sl => sl.handle.sendWindow).toNat

/-- The receive window. -/
def recvWindow (v : View) : ℕ :=
  (v.slot.elim initialStreamWindow fun sl => sl.handle.recvWindow).toNat

/-- The frames in the channel of the handle. -/
def chan (v : View) : List Frame := v.slot.elim [] Slot.queue

/-- Frames that have reached this side and not been taken by the handle. -/
def arrived (v : View) : List Frame := v.chan ++ v.inq

/-- Frames this end has emitted and that have not reached the other side. -/
def departed (v : View) : List Frame := v.wire ++ v.outq

/-- What this end may still send, what it has on the way, and what is on the way to
extend its window. -/
def owed (v : View) : ℕ := v.sendWindow + bytesOf v.departed + deltasOf v.arrived

/-- The data that has reached this side, and the window it has announced. -/
def pending (v : View) : ℕ := bytesOf v.arrived + deltasOf v.departed

/-- Requests for the stream that have reached this side. -/
def synsIn (v : View) : ℕ := v.inq.countP Frame.isSyn

/-- Requests for the stream on their way from this end. -/
def synsOut (v : View) : ℕ := v.departed.countP Frame.isSyn

/-- The handle belongs to the stream and keeps its history. -/
structure SlotOk (v : View) : Prop where
  window_ge : initialStreamWindow ≤ v.max
  inv : ∀ {sl}, v.slot = some sl → sl.Inv
  id : ∀ {sl}, v.slot = some sl → sl.handle.id = v.id
  max : ∀ {sl}, v.slot = some sl → sl.handle.maxRecvWindow = v.max

/-- Every call on the handle is safe. -/
def Callable (v : View) : Prop := ∀ sl, v.slot = some sl → sl.handle.Safe

variable {v : View} {sl : Slot}

theorem sendWindow_some (h : v.slot = some sl) :
    v.sendWindow = sl.handle.sendWindow.toNat := by simp [sendWindow, h]

theorem recvWindow_some (h : v.slot = some sl) :
    v.recvWindow = sl.handle.recvWindow.toNat := by simp [recvWindow, h]

theorem chan_some (h : v.slot = some sl) : v.chan = sl.queue := by simp [chan, h]

/-- An open window never exceeds the maximum. -/
theorem SlotOk.recvWindow_le (h : v.SlotOk) : v.recvWindow ≤ v.max.toNat := by
  cases hs : v.slot with
  | none =>
    have := UInt32.le_iff_toNat_le.mp h.window_ge
    simpa [recvWindow, hs] using this
  | some sl =>
    have := (h.inv hs).good.room
    rw [h.max hs] at this
    rw [recvWindow_some hs]
    omega

end View

theorem bytesOf_sublist {l l' : List Frame} (h : l.Sublist l') : bytesOf l ≤ bytesOf l' := by
  induction h with
  | slnil => exact le_rfl
  | cons a _ ih => exact le_trans ih (by simp)
  | cons_cons a _ ih => simpa using ih

theorem deltasOf_sublist {l l' : List Frame} (h : l.Sublist l') : deltasOf l ≤ deltasOf l' := by
  induction h with
  | slnil => exact le_rfl
  | cons a _ ih => exact le_trans ih (by simp)
  | cons_cons a _ ih => simpa using ih

/-- A refusal carries neither bytes nor a delta, and no request. -/
theorem IsRefusal.measures {id : StreamId} {r : Frame} (h : IsRefusal id r) :
    r.Honest id ∧ r.dataBytes = 0 ∧ r.delta = 0 ∧ r.isSyn = false := by
  rcases h with rfl | rfl
  · exact ⟨.windowUpdate _ _, rfl, rfl, by rw [isSyn_newWindowUpdate]; decide⟩
  · exact ⟨.windowUpdate _ _, rfl, rfl, by rw [isSyn_newWindowUpdate]; decide⟩

/-- What a new stream starts with. -/
structure Slot.Created (sl : Slot) (events : List StreamEvent) (streamId : StreamId) (flag : Flag)
    (window : UInt32) : Prop where
  inv : sl.Inv
  id : sl.handle.id = streamId
  max : sl.handle.maxRecvWindow = window
  sendWindow : sl.handle.sendWindow = initialStreamWindow
  recvWindow : sl.handle.recvWindow = window
  queue : sl.queue = []
  sent : sl.sent = [hello flag streamId window]
  received : sl.received = []
  frames : framesOf events = [hello flag streamId window]

theorem Slot.created_of_create {id : StreamId} {max : UInt32} {state : StreamState} {sl : Slot}
    {events : List StreamEvent} {flag : Flag}
    (hst : state = .init ∧ flag = .syn ∨ state = .synReceived ∧ flag = .ack)
    (hc : Slot.create id state max = (sl, events)) : sl.Created events id flag max := by
  have hinv := Slot.create_inv id max (hst.imp And.left And.left)
  rw [hc] at hinv
  rcases hst with ⟨rfl, rfl⟩ | ⟨rfl, rfl⟩
  · rw [Slot.create_eq id max (.inl ⟨rfl, rfl, rfl⟩)] at hc
    cases hc
    exact ⟨hinv, rfl, rfl, rfl, rfl, rfl, rfl, rfl, rfl⟩
  · rw [Slot.create_eq id max (.inr ⟨rfl, rfl, rfl⟩)] at hc
    cases hc
    exact ⟨hinv, rfl, rfl, rfl, rfl, rfl, rfl, rfl, rfl⟩

/-- The delta a new stream announces is what its window exceeds the initial one by. -/
theorem Slot.delta_hello (flag : Flag) (id : StreamId) {n : UInt32} (hn : initialStreamWindow ≤ n) :
    initialStreamWindow.toNat + (hello flag id n).delta = n.toNat := by
  have hle := UInt32.le_iff_toNat_le.mp hn
  rw [hello, delta_newWindowUpdate, UInt32.toNat_sub_of_le _ _ hn]
  omega

/-! ### The two sums under a move -/

/-- **The two sums under a move**: what an end owes does not grow, and what is pending
at it grows by no more than its receive window does. -/
theorem VMove.ledger {v v' : View} (h : VMove v v') (hok : v.SlotOk) (hcall : v.Callable) :
    v'.owed ≤ v.owed ∧ v'.pending + v.recvWindow ≤ v.pending + v'.recvWindow := by
  simp only [View.owed, View.pending, View.departed, View.arrived, View.sendWindow,
    View.recvWindow, View.chan, bytesOf_append, deltasOf_append]
  cases h with
  | transmit ho he =>
    simp only [ho, bytesOf_append, deltasOf_append, bytesOf_cons, deltasOf_cons, bytesOf_nil,
      deltasOf_nil]
    omega
  -- frames that are lost are owed no more, and grant nothing
  | lose hl hd =>
    have := bytesOf_sublist hl
    have := deltasOf_sublist hl
    dsimp only
    omega
  | loseIn hl hg =>
    have := bytesOf_sublist hl
    have := deltasOf_sublist hl
    dsimp only
    omega
  | halt | burn => exact ⟨le_rfl, le_rfl⟩
  | unregister => cases hs : v.slot <;> exact ⟨le_rfl, le_rfl⟩
  | deliver hi hs hl =>
    simp only [hi, hs, Option.elim, Slot.queue_push, bytesOf_append, deltasOf_append,
      bytesOf_cons, deltasOf_cons, bytesOf_nil, deltasOf_nil, Slot.sendWindow_push,
      Slot.recvWindow_push]
    omega
  | discard hi hl hsyn =>
    simp only [hi, bytesOf_cons, deltasOf_cons]
    omega
  | cut hi hs =>
    simp only [hi, hs, Option.elim, Slot.queue_closeSender, bytesOf_cons, deltasOf_cons,
      Slot.sendWindow_closeSender, Slot.recvWindow_closeSender]
    omega
  | @accept f rest sl events hi hsyn hs hl hc =>
    have hcr := Slot.created_of_create (.inr ⟨rfl, rfl⟩) hc
    have hd := Slot.delta_hello Flag.ack v.id hok.window_ge
    have hb : (Slot.hello .ack v.id v.max).dataBytes = 0 := rfl
    have hsw : (sl.push f).handle.sendWindow = initialStreamWindow := hcr.sendWindow
    have hrw : (sl.push f).handle.recvWindow = v.max := hcr.recvWindow
    simp only [hi, hs, hcr.frames, Option.elim, Slot.queue_push, hcr.queue, hsw, hrw,
      bytesOf_append, deltasOf_append, bytesOf_cons, deltasOf_cons, bytesOf_nil, deltasOf_nil, hb]
    omega
  | refuse hi hsyn hl hr ho =>
    obtain ⟨-, hb, hd, -⟩ := hr.measures
    simp only [hi, ho, bytesOf_append, deltasOf_append, bytesOf_cons, deltasOf_cons, hb, hd]
    omega
  | refuseGone hg hr ho =>
    obtain ⟨-, hb, hd, -⟩ := hr.measures
    simp only [ho, bytesOf_append, deltasOf_append, bytesOf_cons, deltasOf_cons, hb, hd]
    omega
  | openStream hm hs hc =>
    have hcr := Slot.created_of_create (.inl ⟨rfl, rfl⟩) hc
    have hd := Slot.delta_hello Flag.syn v.id hok.window_ge
    have hb : (Slot.hello .syn v.id v.max).dataBytes = 0 := rfl
    simp only [hs, hcr.frames, Option.elim, hcr.queue, hcr.sendWindow, hcr.recvWindow,
      bytesOf_append, deltasOf_append, bytesOf_cons, deltasOf_cons, bytesOf_nil, deltasOf_nil, hb]
    omega
  | @handle sl hs op =>
    obtain ⟨taken, hst⟩ := Slot.apply_step (hok.inv hs) (hcall _ hs) op
    have hsend := hst.sendWindow
    have hrecv := hst.recvWindow
    simp only [hs, Option.elim, bytesOf_append, deltasOf_append]
    -- the call takes frames from the front of its channel, or finds the channel dropped
    rcases hst.queue with hq | ⟨ht, hq, -⟩
    · rw [hq, bytesOf_append, deltasOf_append]
      omega
    · rw [hq, bytesOf_nil, deltasOf_nil]
      subst ht
      simp only [bytesOf_nil, deltasOf_nil] at hsend hrecv
      omega

/-! ### Handles, frames and requests under a move -/

/-- A move keeps the handle in order. -/
theorem VMove.slotOk {v v' : View} (h : VMove v v') (hok : v.SlotOk) (hcall : v.Callable) :
    v'.SlotOk := by
  -- a handle replaced by one with the same id and maximum
  have replace {sl sl' : Slot} (hs : v.slot = some sl) (hinv : sl'.Inv)
      (hid : sl'.handle.id = sl.handle.id)
      (hm : sl'.handle.maxRecvWindow = sl.handle.maxRecvWindow) {w : View} (hw : w.slot = some sl')
      (hwid : w.id = v.id) (hwm : w.max = v.max) : w.SlotOk := by
    refine ⟨hwm ▸ hok.window_ge, fun h => ?_, fun h => ?_, fun h => ?_⟩ <;>
      (rw [hw] at h; cases h)
    · exact hinv
    · rw [hid, hok.id hs, hwid]
    · rw [hm, hok.max hs, hwm]
  cases h with
  | transmit | lose | loseIn | halt | discard | refuse | refuseGone | burn =>
    exact ⟨hok.window_ge, hok.inv, hok.id, hok.max⟩
  | unregister =>
    cases hs : v.slot with
    | none => exact ⟨hok.window_ge, by simp, by simp, by simp⟩
    | some sl => exact replace hs (hok.inv hs).closeSender rfl rfl rfl rfl rfl
  | deliver hi hs hl => exact replace hs ((hok.inv hs).push _) rfl rfl rfl rfl rfl
  | cut hi hs => exact replace hs (hok.inv hs).closeSender rfl rfl rfl rfl rfl
  | accept hi hsyn hs hl hc =>
    have hcr := Slot.created_of_create (.inr ⟨rfl, rfl⟩) hc
    refine ⟨hok.window_ge, fun h => ?_, fun h => ?_, fun h => ?_⟩ <;> cases h
    · exact hcr.inv.push _
    · exact hcr.id
    · exact hcr.max
  | openStream hm hs hc =>
    have hcr := Slot.created_of_create (.inl ⟨rfl, rfl⟩) hc
    refine ⟨hok.window_ge, fun h => ?_, fun h => ?_, fun h => ?_⟩ <;> cases h
    · exact hcr.inv
    · exact hcr.id
    · exact hcr.max
  | handle hs op =>
    obtain ⟨taken, hst⟩ := Slot.apply_step (hok.inv hs) (hcall _ hs) op
    exact replace hs hst.inv hst.id hst.max rfl rfl rfl

/-- All frames of the stream this side knows of. -/
def View.frames (v : View) : List Frame := v.arrived ++ v.departed

theorem VMove.id_eq {v v' : View} (h : VMove v v') : v'.id = v.id := by cases h <;> rfl

/-- A move only adds honest frames. -/
theorem VMove.frames_honest {v v' : View} (h : VMove v v') (hok : v.SlotOk) (hcall : v.Callable)
    (hf : ∀ f ∈ v.frames, f.Honest v.id) : ∀ f ∈ v'.frames, f.Honest v.id := by
  intro g hmem
  suffices g ∈ v.frames ∨ g.Honest v.id from this.elim (hf g) id
  simp only [View.frames, View.arrived, View.departed, View.chan, List.mem_append] at hmem ⊢
  cases h with
  | transmit ho he => grind
  | lose hl hd => grind
  | loseIn hl hg => grind
  | halt | burn => exact .inl hmem
  | unregister => cases hs : v.slot <;> simp_all
  | deliver hi hs hl =>
    simp only [hs, Option.elim_some, Slot.queue_push] at hmem ⊢
    grind
  | discard hi hl hsyn => grind
  | cut hi hs =>
    simp only [hs, Option.elim_some, Slot.queue_closeSender] at hmem ⊢
    grind
  | accept hi hsyn hs hl hc =>
    have hcr := Slot.created_of_create (.inr ⟨rfl, rfl⟩) hc
    have hh : (Slot.hello .ack v.id v.max).Honest v.id := .windowUpdate _ _
    simp only [Option.elim_some, Slot.queue_push, hcr.frames, hcr.queue] at hmem
    grind
  | refuse hi hsyn hl hr ho =>
    have hh := hr.measures.1
    grind
  | refuseGone hg hr ho =>
    have hh := hr.measures.1
    grind
  | openStream hm hs hc =>
    have hcr := Slot.created_of_create (.inl ⟨rfl, rfl⟩) hc
    have hh : (Slot.hello .syn v.id v.max).Honest v.id := .windowUpdate _ _
    simp only [Option.elim_some, hcr.frames, hcr.queue] at hmem
    grind
  | handle hs op =>
    obtain ⟨taken, hst⟩ := Slot.apply_step (hok.inv hs) (hcall _ hs) op
    have hh := hst.honest
    have hid := hok.id hs
    simp only [hs, Option.elim_some] at hmem ⊢
    rcases hst.queue with hq | ⟨-, hq, -⟩ <;> grind

/-- What a move does to the requests for the stream: it consumes one to accept the
stream, and uses up the permission to open it when it emits one. -/
structure RequestsKept (v v' : View) : Prop where
  synsIn : v'.synsIn ≤ v.synsIn
  synsOut : v'.synsOut + v'.mayOpen.toNat ≤ v.synsOut + v.mayOpen.toNat
  accepted : v.mayOpen = false →
    v'.synsIn + v'.slot.isSome.toNat ≤ v.synsIn + v.slot.isSome.toNat
  unopened : v.synsIn = 0 → (v.mayOpen = true → v.slot = none) → v'.mayOpen = true →
    v'.slot = none

theorem VMove.requests {v v' : View} (h : VMove v v') (hok : v.SlotOk) (hcall : v.Callable) :
    RequestsKept v v' := by
  have keep {w : View} (hin : w.inq.Sublist v.inq) (hout : w.synsOut ≤ v.synsOut)
      (hslot : w.slot.isSome = v.slot.isSome) (hmay : w.mayOpen = v.mayOpen) :
      RequestsKept v w := by
    refine ⟨hin.countP_le, by rw [hmay]; exact Nat.add_le_add_right hout _,
      fun _ => by rw [hslot]; exact Nat.add_le_add_right hin.countP_le _, ?_⟩
    intro _ hun hm
    rw [hmay] at hm
    have := hun hm
    rw [this] at hslot
    simpa using hslot
  cases h with
  | transmit ho he => exact keep (.refl _) (by simp [View.synsOut, View.departed, ho]) rfl rfl
  | lose hl hd =>
    refine keep (.refl _) ?_ rfl rfl
    simpa [View.synsOut, View.departed] using hl.countP_le
  | loseIn hl hg => exact keep hl le_rfl rfl rfl
  | halt => exact keep (.refl _) le_rfl rfl rfl
  | unregister => exact keep (.refl _) le_rfl (by simp) rfl
  | deliver hi hs hl => exact keep (hi ▸ List.sublist_cons_self _ _) le_rfl (by simp [hs]) rfl
  | discard hi hl hsyn => exact keep (hi ▸ List.sublist_cons_self _ _) le_rfl rfl rfl
  | cut hi hs => exact keep (hi ▸ List.sublist_cons_self _ _) le_rfl (by simp [hs]) rfl
  | accept hi hsyn hs hl hc =>
    have hcr := Slot.created_of_create (.inr ⟨rfl, rfl⟩) hc
    have hno : (Slot.hello .ack v.id v.max).isSyn = false := by
      rw [Slot.hello, isSyn_newWindowUpdate]
      decide
    refine ⟨(hi ▸ List.sublist_cons_self _ _ : List.Sublist _ v.inq).countP_le, ?_,
      fun _ => by simp [View.synsIn, hi, hsyn, hs], ?_⟩
    · simp [View.synsOut, View.departed, hcr.frames, hno]
    · simp [View.synsIn, hi, hsyn]
  | refuse hi hsyn hl hr ho =>
    obtain ⟨-, -, -, hno⟩ := hr.measures
    exact keep (hi ▸ List.sublist_cons_self _ _) (by simp [View.synsOut, View.departed, ho, hno])
      rfl rfl
  | refuseGone hg hr ho =>
    obtain ⟨-, -, -, hno⟩ := hr.measures
    exact keep (.refl _) (by simp [View.synsOut, View.departed, ho, hno]) rfl rfl
  | openStream hm hs hc =>
    have hcr := Slot.created_of_create (.inl ⟨rfl, rfl⟩) hc
    have hsyn : (Slot.hello .syn v.id v.max).isSyn = true := by
      rw [Slot.hello, isSyn_newWindowUpdate]
      decide
    refine ⟨le_rfl, ?_, by simp [hm], by simp⟩
    simp [View.synsOut, View.departed, hcr.frames, hsyn, hm]
    omega
  | burn => exact ⟨le_rfl, by simp [View.synsOut, View.departed], fun _ => le_rfl, by simp⟩
  | @handle sl hs op =>
    obtain ⟨taken, hst⟩ := Slot.apply_step (hok.inv hs) (hcall _ hs) op
    have hno : (framesOf (sl.apply op).2).countP Frame.isSyn = 0 :=
      List.countP_eq_zero.mpr fun f hf => by simp [(hst.honest f hf).2]
    exact keep (.refl _) (by simp [View.synsOut, View.departed, hno]) (by simp [hs]) rfl

/-! ### The transport -/

/-- The view of the sending side after its first frame in the transport has been carried
over. -/
def View.sendOff (v : View) (rest : List Frame) : View := { v with wire := rest }

/-- The view of the receiving side. -/
def View.takeIn (v : View) (f : Frame) : View := { v with inq := v.inq ++ [f] }

/-- Carrying a frame over moves its bytes and its delta from one sum to the other. -/
theorem View.sendOff_ledger {v : View} {f : Frame} {rest : List Frame} (hw : v.wire = f :: rest) :
    (v.sendOff rest).owed + f.dataBytes = v.owed ∧ (v.sendOff rest).pending + f.delta = v.pending ∧
      (v.sendOff rest).synsOut + f.isSyn.toNat = v.synsOut := by
  simp only [View.owed, View.pending, View.synsOut, View.departed, hw, View.sendOff,
    List.cons_append, bytesOf_cons, deltasOf_cons, List.countP_cons]
  refine ⟨?_, ?_, ?_⟩
  · show _ + _ + deltasOf v.arrived + _ = _
    show v.sendWindow + _ + _ + _ = _
    omega
  · show bytesOf v.arrived + _ + _ = _
    omega
  · cases f.isSyn <;> rfl

theorem View.takeIn_ledger (v : View) (f : Frame) :
    (v.takeIn f).owed = v.owed + f.delta ∧ (v.takeIn f).pending = v.pending + f.dataBytes ∧
      (v.takeIn f).synsIn = v.synsIn + f.isSyn.toNat := by
  have harr : (v.takeIn f).arrived = v.arrived ++ [f] := (List.append_assoc ..).symm
  have hdep : (v.takeIn f).departed = v.departed := rfl
  have hwin : (v.takeIn f).sendWindow = v.sendWindow := rfl
  simp only [View.owed, View.pending, View.synsIn, harr, hdep, hwin, bytesOf_append,
    deltasOf_append, bytesOf_cons, deltasOf_cons, bytesOf_nil, deltasOf_nil]
  refine ⟨by omega, by omega, ?_⟩
  cases hf : f.isSyn <;> simp [View.takeIn, hf]

theorem View.mem_frames_sendOff {v : View} {f g : Frame} {rest : List Frame}
    (hw : v.wire = f :: rest) (hg : g ∈ (v.sendOff rest).frames) : g ∈ v.frames := by
  simp only [View.frames, View.departed, View.sendOff, View.arrived, View.chan, hw,
    List.mem_append, List.mem_cons] at hg ⊢
  tauto

theorem View.mem_frames_takeIn {v : View} {f g : Frame} (hg : g ∈ (v.takeIn f).frames) :
    g ∈ v.frames ∨ g = f := by
  simp only [View.frames, View.departed, View.takeIn, View.arrived, View.chan,
    List.mem_append, List.mem_singleton] at hg ⊢
  tauto

theorem View.mem_frames_wire {v : View} {f : Frame} (h : f ∈ v.wire) : f ∈ v.frames := by
  simp [View.frames, View.departed, h]

/-! ### The invariant of a pair -/

/-- The invariant of the two views of a stream; `x` belongs to the side that may open
it. -/
structure FlowInv (x y : View) : Prop where
  id : y.id = x.id
  /-- The window inequality from `x` to `y`. -/
  flow : x.owed + y.pending ≤ y.recvWindow
  /-- The window inequality from `y` to `x`. -/
  flowBack : y.owed + x.pending ≤ x.recvWindow
  honest : ∀ f ∈ x.frames, f.Honest x.id
  honestBack : ∀ f ∈ y.frames, f.Honest y.id
  slotOk : x.SlotOk
  slotOkBack : y.SlotOk
  /-- The stream is asked for at most once, and not again when there is a handle. -/
  requests : x.synsOut + x.mayOpen.toNat + y.synsIn + y.slot.isSome.toNat ≤ 1
  /-- The other side never asks for it. -/
  requestsBack : y.synsOut + y.mayOpen.toNat + x.synsIn = 0
  unopened : x.mayOpen = true → x.slot = none

/-- The frames waiting at `v` can be processed, when the windows between `v` and the
other end `w` are in order. -/
theorem View.callable_of_flow {v w : View} (hin : w.owed + v.pending ≤ v.recvWindow)
    (hout : v.owed + w.pending ≤ w.recvWindow) (hf : ∀ f ∈ v.frames, f.Honest v.id)
    (hv : v.SlotOk) (hw : w.SlotOk) : v.Callable := by
  intro sl hs
  have hle := hw.recvWindow_le
  have hlt := w.max.toNat_lt
  simp only [View.owed, View.pending, View.arrived, bytesOf_append, deltasOf_append,
    View.chan_some hs, View.sendWindow_some hs, View.recvWindow_some hs] at hin hout
  refine ⟨fun f hmem => ?_, ?_, ?_⟩
  · rw [hv.id hs]
    refine hf f ?_
    simp only [View.frames, View.arrived, View.chan_some hs, List.mem_append]
    exact .inl (.inl hmem)
  · show bytesOf sl.queue ≤ _
    omega
  · show _ + deltasOf sl.queue < _
    omega

namespace FlowInv

variable {x y : View} (h : FlowInv x y)
include h

theorem callable_left : x.Callable :=
  View.callable_of_flow h.flowBack h.flow h.honest h.slotOk h.slotOkBack

theorem callable_right : y.Callable :=
  View.callable_of_flow h.flow h.flowBack h.honestBack h.slotOkBack h.slotOk

/-- A move of the side that opens. -/
theorem left {x' : View} (hm : VMove x x') : FlowInv x' y := by
  obtain ⟨howed, hpend⟩ := hm.ledger h.slotOk h.callable_left
  obtain ⟨hin, hout, -, hun⟩ := hm.requests h.slotOk h.callable_left
  have hflow := h.flow
  have hflowBack := h.flowBack
  have hreq := h.requests
  have hreqBack := h.requestsBack
  exact
    { id := h.id.trans hm.id_eq.symm
      flow := by omega
      flowBack := by omega
      honest := hm.id_eq ▸ hm.frames_honest h.slotOk h.callable_left h.honest
      honestBack := h.honestBack
      slotOk := hm.slotOk h.slotOk h.callable_left
      slotOkBack := h.slotOkBack
      requests := by omega
      requestsBack := by omega
      unopened := hun (by omega) h.unopened }

/-- A move of the side that accepts. -/
theorem right {y' : View} (hm : VMove y y') : FlowInv x y' := by
  obtain ⟨howed, hpend⟩ := hm.ledger h.slotOkBack h.callable_right
  obtain ⟨hin, hout, hacc, -⟩ := hm.requests h.slotOkBack h.callable_right
  have hflow := h.flow
  have hflowBack := h.flowBack
  have hreq := h.requests
  have hreqBack := h.requestsBack
  have hmay : y.mayOpen = false := by
    cases hy : y.mayOpen with
    | false => rfl
    | true => rw [hy] at hreqBack; simp at hreqBack
  have hacc := hacc hmay
  exact
    { id := hm.id_eq.trans h.id
      flow := by omega
      flowBack := by omega
      honest := h.honest
      honestBack := hm.id_eq ▸ hm.frames_honest h.slotOkBack h.callable_right h.honestBack
      slotOk := h.slotOk
      slotOkBack := hm.slotOk h.slotOkBack h.callable_right
      requests := by omega
      requestsBack := by omega
      unopened := h.unopened }

/-- No SYN waits for a stream that has a handle, and calls are safe. -/
theorem clean_left : x.Clean where
  fresh := by
    intro hs
    refine ⟨?_, fun f rest hi => ?_⟩
    · cases hm : x.mayOpen with
      | false => rfl
      | true => simp [h.unopened hm] at hs
    · have hreq := h.requestsBack
      have : x.synsIn = 0 := by omega
      simp only [View.synsIn, hi, List.countP_eq_zero, List.mem_cons] at this
      simpa using this f (.inl rfl)
  calls := fun sl hs => ⟨h.slotOk.inv hs, h.callable_left sl hs⟩

theorem clean_right : y.Clean where
  fresh := by
    intro hs
    have hreq := h.requests
    have hreqBack := h.requestsBack
    rw [hs] at hreq
    refine ⟨?_, fun f rest hi => ?_⟩
    · cases hm : y.mayOpen with
      | false => rfl
      | true => rw [hm] at hreqBack; simp at hreqBack
    · have : y.synsIn = 0 := by simp only [Bool.toNat_true] at hreq; omega
      simp only [View.synsIn, hi, List.countP_eq_zero, List.mem_cons] at this
      simpa using this f (.inl rfl)
  calls := fun sl hs => ⟨h.slotOkBack.inv hs, h.callable_right sl hs⟩

/-- The transport carries a frame to the side that accepts. -/
theorem carry {f : Frame} {rest : List Frame} (hw : x.wire = f :: rest) :
    FlowInv (x.sendOff rest) (y.takeIn f) := by
  obtain ⟨hox, hpx, hsx⟩ := View.sendOff_ledger hw
  obtain ⟨hoy, hpy, hsy⟩ := y.takeIn_ledger f
  have hflow := h.flow
  have hflowBack := h.flowBack
  have hreq := h.requests
  have hf : f.Honest x.id := h.honest f (View.mem_frames_wire (by simp [hw]))
  exact
    { id := h.id
      flow := show _ ≤ y.recvWindow by omega
      flowBack := show _ ≤ x.recvWindow by omega
      honest := fun g hg => h.honest g (View.mem_frames_sendOff hw hg)
      honestBack := fun g hg => (View.mem_frames_takeIn hg).elim (h.honestBack g)
        fun he => by rw [he]; exact h.id ▸ hf
      slotOk := ⟨h.slotOk.window_ge, h.slotOk.inv, h.slotOk.id, h.slotOk.max⟩
      slotOkBack := ⟨h.slotOkBack.window_ge, h.slotOkBack.inv, h.slotOkBack.id, h.slotOkBack.max⟩
      requests := by
        show _ + x.mayOpen.toNat + _ + y.slot.isSome.toNat ≤ 1
        omega
      requestsBack := h.requestsBack
      unopened := h.unopened }

/-- The transport carries a frame to the side that opens. -/
theorem carryBack {f : Frame} {rest : List Frame} (hw : y.wire = f :: rest) :
    FlowInv (x.takeIn f) (y.sendOff rest) := by
  obtain ⟨hoy, hpy, hsy⟩ := View.sendOff_ledger hw
  obtain ⟨hox, hpx, hsx⟩ := x.takeIn_ledger f
  have hflow := h.flow
  have hflowBack := h.flowBack
  have hreqBack := h.requestsBack
  have hf : f.Honest y.id := h.honestBack f (View.mem_frames_wire (by simp [hw]))
  exact
    { id := h.id
      flow := show _ ≤ y.recvWindow by omega
      flowBack := show _ ≤ x.recvWindow by omega
      honest := fun g hg => (View.mem_frames_takeIn hg).elim (h.honest g)
        fun he => by rw [he]; exact h.id.symm ▸ hf
      honestBack := fun g hg => h.honestBack g (View.mem_frames_sendOff hw hg)
      slotOk := ⟨h.slotOk.window_ge, h.slotOk.inv, h.slotOk.id, h.slotOk.max⟩
      slotOkBack := ⟨h.slotOkBack.window_ge, h.slotOkBack.inv, h.slotOkBack.id, h.slotOkBack.max⟩
      requests := h.requests
      requestsBack := by
        show _ + y.mayOpen.toNat + _ = 0
        omega
      unopened := h.unopened }

end FlowInv

end Yamux
end CkbP2P

import CkbP2P.Yamux.Network

/-!
# Ordered delivery

The frames one end of a stream has emitted pass six queues before the other end takes
them.  As long as neither side gives up the connection, nothing overtakes, is duplicated
or gets lost in between: what the receiving end has taken, what waits for it, what is in
the transport and what the sender has queued are, in this order, the frames emitted.  When
the stream is forgotten by the receiver's session or the sender's transport ends, the tail
of that sequence is cut off, and only the tail.
-/

namespace CkbP2P
namespace Yamux

open Lib Relation

namespace View

/-- All frames this end has emitted. -/
def sent (v : View) : List Frame := v.slot.elim [] Slot.sent

/-- The frames the handle has taken. -/
def received (v : View) : List Frame := v.slot.elim [] Slot.received

/-- The handle has been dropped. -/
def gone (v : View) : Bool := v.slot.elim false Slot.gone

/-- The frames that have left, `p`, and those in the transport are the first this end has
emitted; with those still queued they are all, unless the transport has ended. -/
structure Sends (v : View) (p : List Frame) : Prop where
  onWay : p ++ v.wire <+: v.sent
  all : v.eof = false → p ++ v.departed = v.sent

/-- The session's side of the channel does not touch the history. -/
theorem sent_closeSender (s : Option Slot) :
    (s.map Slot.closeSender).elim [] Slot.sent = s.elim [] Slot.sent := by cases s <;> rfl

theorem received_closeSender (s : Option Slot) :
    (s.map Slot.closeSender).elim [] Slot.received = s.elim [] Slot.received := by cases s <;> rfl

theorem gone_closeSender (s : Option Slot) :
    (s.map Slot.closeSender).elim false Slot.gone = s.elim false Slot.gone := by cases s <;> rfl

theorem chan_closeSender (s : Option Slot) :
    (s.map Slot.closeSender).elim [] Slot.queue = s.elim [] Slot.queue := by cases s <;> rfl

/-- What does not concern the sender changes nothing for it. -/
theorem Sends.of_eq {v v' : View} {p : List Frame} (hp : v.Sends p) (hs : v'.sent = v.sent)
    (hw : v'.wire = v.wire) (ho : v'.outq = v.outq) (he : v'.eof = false → v.eof = false) :
    v'.Sends p where
  onWay := by rw [hw, hs]; exact hp.onWay
  all h := by rw [View.departed, hw, ho, hs]; exact hp.all (he h)

end View

/-- The frames on their way from `v` to `w`. -/
structure Deliver (v w : View) : Prop where
  taken : w.received <+: v.sent
  waiting : w.gone = false → w.received ++ w.chan <+: v.sent
  coming : w.gone = false → w.live = true → v.Sends (w.received ++ w.arrived)

/-- An end of a stream in use: it has a handle, nobody asks for the stream again, and
neither side is known to have given up. -/
structure View.InUse (v : View) : Prop where
  slotOk : v.SlotOk
  callable : v.Callable
  opened : v.slot.isSome
  synsIn : v.synsIn = 0
  goAway : v.goAway = false

namespace View.InUse

variable {v v' : View} (hu : v.InUse)
include hu

theorem not_syn {f : Frame} {rest : List Frame} (hi : v.inq = f :: rest) : f.isSyn ≠ true := by
  have := hu.synsIn
  simp only [View.synsIn, hi, List.countP_eq_zero, List.mem_cons] at this
  exact this f (.inl rfl)

theorem slot_ne_none : v.slot ≠ none := Option.isSome_iff_ne_none.mp hu.opened

variable (h : VMove v v')
include h

/-- A handle stays. -/
theorem isSome : v'.slot.isSome := by
  have := hu.opened
  cases h <;> simp_all

/-- Emitted frames are only added to. -/
theorem sent_isPrefix : v.sent <+: v'.sent := by
  cases h with
  | transmit | lose | loseIn | halt | discard | refuse | refuseGone | burn =>
    exact List.prefix_refl _
  | unregister =>
    simp only [View.sent, View.sent_closeSender]
    exact List.prefix_refl _
  | deliver hi hs hl | cut hi hs =>
    simp only [View.sent, hs]
    exact List.prefix_refl _
  | accept hi hsyn hs | openStream hm hs => exact absurd hs hu.slot_ne_none
  | handle hs op =>
    obtain ⟨taken, hst⟩ := Slot.apply_step (hu.slotOk.inv hs) (hu.callable _ hs) op
    simp only [View.sent, hs, Option.elim_some, hst.sent]
    exact List.prefix_append _ _

/-- **A move of the sender** keeps the order of the frames on their way. -/
theorem sends {p : List Frame} (hp : v.Sends p) : v'.Sends p := by
  cases h with
  | @transmit f rest ho he =>
    have hall : p ++ (v.wire ++ f :: rest) = v.sent := ho ▸ hp.all he
    refine ⟨⟨rest, Eq.trans ?_ hall⟩, fun _ => Eq.trans ?_ hall⟩
    · simp
    · simp [View.departed]
  | lose hl hd =>
    have he : v.eof = true := hd.resolve_right (by simp [hu.goAway])
    exact ⟨hp.onWay, fun h => absurd h (by simp [he])⟩
  | loseIn hl hg => exact absurd hg (by simp [hu.goAway])
  | halt he hg =>
    refine hp.of_eq rfl rfl rfl fun h => ?_
    cases hv : v.eof with
    | false => rfl
    | true => exact absurd (he hv) (by simpa using h)
  | discard | burn => exact hp.of_eq rfl rfl rfl fun h => h
  | unregister => exact hp.of_eq (View.sent_closeSender v.slot) rfl rfl fun h => h
  | deliver hi hs hl | cut hi hs =>
    exact hp.of_eq (by simp only [View.sent, hs]; rfl) rfl rfl fun h => h
  | refuse hi hsyn => exact absurd hsyn (hu.not_syn hi)
  | refuseGone hg => exact absurd hg (by simp [hu.goAway])
  | accept hi hsyn hs | openStream hm hs => exact absurd hs hu.slot_ne_none
  | @handle sl hs op =>
    obtain ⟨taken, hst⟩ := Slot.apply_step (hu.slotOk.inv hs) (hu.callable _ hs) op
    have hsent : (sl.apply op).1.sent = v.sent ++ framesOf (sl.apply op).2 := by
      simp only [View.sent, hs]
      exact hst.sent
    refine ⟨?_, fun he => ?_⟩
    · show _ <+: (sl.apply op).1.sent
      rw [hsent]
      exact hp.onWay.trans (List.prefix_append _ _)
    · refine Eq.trans ?_ hsent.symm
      rw [← hp.all he]
      simp [View.departed]

/-- **A move of the receiver** takes frames in order. -/
theorem deliver {w : View} (hd : Deliver w v) : Deliver w v' := by
  obtain ⟨htaken, hwaiting, hcoming⟩ := hd
  cases h with
  | transmit | lose | halt | burn => exact ⟨htaken, hwaiting, hcoming⟩
  | loseIn hl hg | refuseGone hg => exact absurd hg (by simp [hu.goAway])
  | refuse hi hsyn => exact absurd hsyn (hu.not_syn hi)
  | accept hi hsyn hs | openStream hm hs => exact absurd hs hu.slot_ne_none
  | discard hi hl => exact ⟨htaken, hwaiting, fun _ h => absurd h (by simp [hl])⟩
  | unregister =>
    refine ⟨?_, ?_, fun _ h => absurd h (by simp)⟩
    · simpa only [View.received, View.received_closeSender] using htaken
    · simpa only [View.received, View.chan, View.gone, View.received_closeSender,
        View.chan_closeSender, View.gone_closeSender] using hwaiting
  | cut hi hs =>
    simp only [View.received, View.chan, View.gone, hs] at htaken hwaiting
    exact ⟨htaken, hwaiting, fun _ h => absurd h (by simp)⟩
  | @deliver f rest sl hi hs hl =>
    simp only [View.received, View.chan, View.gone, View.arrived, hs, hi, Option.elim_some]
      at htaken hwaiting hcoming
    have hmove : sl.queue ++ f :: rest = (sl.push f).queue ++ rest := by simp
    rw [hmove] at hcoming
    refine ⟨htaken, fun hg => ?_, hcoming⟩
    have hway := (hcoming hg hl).onWay
    simp only [← List.append_assoc] at hway
    exact ((List.prefix_append _ _).trans (List.prefix_append _ _)).trans hway
  | @handle sl hs op =>
    obtain ⟨taken, hst⟩ := Slot.apply_step (hu.slotOk.inv hs) (hu.callable _ hs) op
    have hq := Slot.apply_queue hst
    simp only [View.received, View.chan, View.gone, View.arrived, hs, Option.elim_some]
      at htaken hwaiting hcoming
    -- what has been taken and what waits are the same frames as before
    have hsame (hg : (sl.apply op).1.gone = false) :
        sl.received ++ sl.queue = (sl.apply op).1.received ++ (sl.apply op).1.queue := by
      rw [(hq hg).2, hst.received, List.append_assoc]
    refine ⟨?_, fun hg => ?_, fun hg hl => ?_⟩
    · show (sl.apply op).1.received <+: w.sent
      cases hgone : sl.gone with
      | true => rwa [Slot.apply_of_gone hgone]
      | false =>
        rw [hst.received]
        refine List.IsPrefix.trans ?_ (hwaiting hgone)
        rcases hst.queue with hq | ⟨rfl, -, -⟩ <;> simp [*]
    · exact hsame hg ▸ hwaiting (hq hg).1
    · have := hcoming (hq hg).1 hl
      rw [← List.append_assoc, hsame hg, List.append_assoc] at this
      exact this

/-- Nothing is heard at an end that was not on its way to it. -/
theorem heard {f : Frame} (hf : f ∈ v'.received ++ v'.arrived) : f ∈ v.received ++ v.arrived := by
  simp only [View.received, View.arrived, View.chan, List.mem_append] at hf ⊢
  cases h with
  | transmit | lose | halt | burn => exact hf
  | loseIn hl hg | refuseGone hg => exact absurd hg (by simp [hu.goAway])
  | refuse hi hsyn => exact absurd hsyn (hu.not_syn hi)
  | accept hi hsyn hs | openStream hm hs => exact absurd hs hu.slot_ne_none
  | discard hi hl => grind
  | unregister =>
    rwa [View.received_closeSender, View.chan_closeSender] at hf
  | cut hi hs =>
    have hr (sl : Slot) : sl.closeSender.received = sl.received := rfl
    simp only [hs, Option.elim_some, Slot.queue_closeSender, hr] at hf ⊢
    grind
  | deliver hi hs hl =>
    have hr (sl : Slot) (f : Frame) : (sl.push f).received = sl.received := rfl
    simp only [hs, hi, Option.elim_some, Slot.queue_push, hr] at hf ⊢
    grind
  | @handle sl hs op =>
    obtain ⟨taken, hst⟩ := Slot.apply_step (hu.slotOk.inv hs) (hu.callable _ hs) op
    simp only [hs, Option.elim_some, hst.received] at hf ⊢
    rcases hst.queue with hq | ⟨rfl, hq, -⟩ <;> grind

end View.InUse

/-- A move of the sender, seen from the receiver. -/
theorem Deliver.sender {v v' w : View} (hd : Deliver v w) (hu : v.InUse) (h : VMove v v') :
    Deliver v' w where
  taken := hd.taken.trans (hu.sent_isPrefix h)
  waiting hg := (hd.waiting hg).trans (hu.sent_isPrefix h)
  coming hg hl := hu.sends h (hd.coming hg hl)

/-- The transport takes the first frame that has not arrived. -/
theorem View.Sends.sendOff {v : View} {p : List Frame} (hp : v.Sends p) {f : Frame}
    {rest : List Frame} (hw : v.wire = f :: rest) : (v.sendOff rest).Sends (p ++ [f]) where
  onWay := by
    have := hp.onWay
    rw [hw] at this
    simpa [View.sendOff, View.sent] using this
  all he := by
    have := hp.all he
    rw [View.departed, hw] at this
    simpa [View.departed, View.sendOff, View.sent] using this

theorem Deliver.carry {v w : View} (hd : Deliver v w) {f : Frame} {rest : List Frame}
    (hw : v.wire = f :: rest) : Deliver (v.sendOff rest) (w.takeIn f) where
  taken := hd.taken
  waiting := hd.waiting
  coming hg hl := by
    have := (hd.coming hg hl).sendOff hw
    rw [View.arrived, List.append_assoc, List.append_assoc] at this
    exact this

/-- Going away is for good. -/
theorem VMove.goAway_mono {v v' : View} (h : VMove v v') (hg : v'.goAway = false) :
    v.goAway = false := by
  cases h with
  | halt he hgo =>
    by_contra hv
    exact absurd (hgo (by simpa using hv)) (by simpa using hg)
  | _ => exact hg

/-! ### Both directions -/

/-- The frame carries no bytes and does not end the direction. -/
def Frame.Quiet (f : Frame) : Prop := f.payload = [] ∧ f.isFin = false

/-- The frames of a stream on their way between its two ends; `x` belongs to the side that
may open it. -/
structure Delivery (x y : View) : Prop where
  /-- Nothing happens before the stream is opened. -/
  idle : x.slot = none → y.slot = none ∧ y.inq ++ x.departed = [] ∧ x.inq ++ y.departed = []
  /-- While the request is on its way, it comes first and nothing comes back. -/
  asked : y.slot = none → 0 < x.synsOut + y.synsIn →
    (∃ f l, x.sent = f :: l ∧ f.isSyn = true) ∧ x.Sends y.inq ∧
      x.received ++ x.arrived ++ y.departed = []
  /-- A side that has no handle sends nothing that could be read. -/
  quiet : y.slot = none → ∀ f ∈ x.received ++ x.arrived ++ y.departed, f.Quiet
  there : y.slot.isSome → Deliver x y
  back : y.slot.isSome → Deliver y x

theorem IsRefusal.quiet {id : StreamId} {r : Frame} (h : IsRefusal id r) : r.Quiet := by
  rcases h with rfl | rfl
  · exact ⟨rfl, by rw [isFin_newWindowUpdate]; decide⟩
  · exact ⟨rfl, by rw [isFin_newWindowUpdate]; decide⟩

/-- A stream nobody has opened. -/
theorem Delivery.of_idle {x y : View} (hx : x.slot = none) (hy : y.slot = none)
    (hxy : y.inq ++ x.departed = []) (hyx : x.inq ++ y.departed = []) : Delivery x y := by
  have hnil : x.received ++ x.arrived ++ y.departed = [] := by
    simpa [View.received, View.arrived, View.chan, hx] using hyx
  have hsyn : x.synsOut + y.synsIn = 0 := by
    rw [List.append_eq_nil_iff] at hxy
    simp [View.synsOut, View.synsIn, hxy]
  exact
    { idle := fun _ => ⟨hy, hxy, hyx⟩
      asked := fun _ h => by omega
      quiet := fun _ f hf => by simp [hnil] at hf
      there := fun h => by simp [hy] at h
      back := fun h => by simp [hy] at h }

/-- A stream that has just been opened. -/
theorem Delivery.of_asked {x y : View} {sl : Slot} {f : Frame} (hx : x.slot = some sl)
    (hy : y.slot = none) (hsent : sl.sent = [f]) (hsyn : f.isSyn = true) (hsends : x.Sends y.inq)
    (hnil : sl.received ++ (sl.queue ++ x.inq) ++ y.departed = []) : Delivery x y := by
  have hnil : x.received ++ x.arrived ++ y.departed = [] := by
    simpa [View.received, View.arrived, View.chan, hx] using hnil
  exact
    { idle := fun h => by simp [hx] at h
      asked := fun _ _ => ⟨⟨f, [], by simp [View.sent, hx, hsent], hsyn⟩, hsends, hnil⟩
      quiet := fun _ f hf => by simp [hnil] at hf
      there := fun h => by simp [hy] at h
      back := fun h => by simp [hy] at h }

namespace Delivery

variable {x y : View} (hd : Delivery x y) (hf : FlowInv x y) (hx : x.goAway = false)
  (hy : y.goAway = false)

include hf hx in
theorem inUse_left (hs : x.slot.isSome) : x.InUse :=
  ⟨hf.slotOk, hf.callable_left, hs, by have := hf.requestsBack; omega, hx⟩

include hf hy in
theorem inUse_right (hs : y.slot.isSome) : y.InUse := by
  refine ⟨hf.slotOkBack, hf.callable_right, hs, ?_, hy⟩
  have := hf.requests
  rw [hs, Bool.toNat_true] at this
  omega

include hd

include hx in
/-- A move of the opener before it has opened the stream. -/
theorem left_idle {x' : View} (hs : x.slot = none) (hm : VMove x x') : Delivery x' y := by
  obtain ⟨hys, hxy, hyx⟩ := hd.idle hs
  have hin : x.inq = [] := (List.append_eq_nil_iff.mp hyx).1
  have hout : x.wire = [] ∧ x.outq = [] :=
    List.append_eq_nil_iff.mp (List.append_eq_nil_iff.mp hxy).2
  have hyin : y.inq = [] := (List.append_eq_nil_iff.mp hxy).1
  have hyout : y.departed = [] := (List.append_eq_nil_iff.mp hyx).2
  cases hm with
  | transmit ho | deliver ho | discard ho | cut ho | accept ho | refuse ho => simp_all
  | lose hl =>
    rw [hout.2, List.sublist_nil] at hl
    exact .of_idle hs hys (by simp [View.departed, hyin, hout, hl]) hyx
  | loseIn hl hg | refuseGone hg => exact absurd hg (by simp [hx])
  | halt | burn => exact .of_idle hs hys hxy hyx
  | unregister => exact .of_idle (by simp [hs]) hys hxy hyx
  | handle hs' => simp [hs] at hs'
  | @openStream sl events hmay hnone hc =>
    have hcr := Slot.created_of_create (.inl ⟨rfl, rfl⟩) hc
    have hsyn : (Slot.hello .syn x.id x.max).isSyn = true := by
      rw [Slot.hello, isSyn_newWindowUpdate]
      decide
    refine .of_asked rfl hys hcr.sent hsyn ⟨?_, fun _ => ?_⟩ ?_
    · simp [hyin, hout]
    · simp [View.departed, View.sent, hyin, hout, hcr.frames, hcr.sent]
    · simp [hcr.received, hcr.queue, hin, hyout]

include hf hx in
/-- A move of the opener. -/
theorem left {x' : View} (hm : VMove x x') : Delivery x' y := by
  cases hs : x.slot with
  | none => exact hd.left_idle hx hs hm
  | some sl =>
    have hu : x.InUse := inUse_left hf hx (by simp [hs])
    have hsome := hu.isSome hm
    have heard (f : Frame) (hmem : f ∈ x'.received ++ x'.arrived ++ y.departed) :
        f ∈ x.received ++ x.arrived ++ y.departed := by
      rw [List.mem_append] at hmem ⊢
      exact hmem.imp_left (hu.heard hm)
    exact
      { idle := fun h => by simp [h] at hsome
        asked := fun hy hsyn => by
          have hreq := (hm.requests hf.slotOk hf.callable_left).synsOut
          have hmay : x.mayOpen = false := by
            by_contra h
            simp [hf.unopened (by simpa using h)] at hs
          rw [hmay, Bool.toNat_false] at hreq
          obtain ⟨⟨f, l, hsent, hsyn⟩, hsends, hnil⟩ := hd.asked hy (by omega)
          refine ⟨?_, hu.sends hm hsends, ?_⟩
          · obtain ⟨l', hl'⟩ := hu.sent_isPrefix hm
            exact ⟨f, l ++ l', by rw [← hl', hsent]; rfl, hsyn⟩
          · rw [List.eq_nil_iff_forall_not_mem] at hnil ⊢
            exact fun f hmem => hnil f (heard f hmem)
        quiet := fun hy f hmem => hd.quiet hy f (heard f hmem)
        there := fun hy => (hd.there hy).sender hu hm
        back := fun hy => hu.deliver hm (hd.back hy) }

/-- A side without a handle loses frames, or puts them into the transport. -/
theorem right_fewer {w : View} (hs : y.slot = none) (hslot : w.slot = none) (hin : w.inq = y.inq)
    (hout : w.departed.Sublist y.departed) : Delivery x w := by
  refine ⟨fun h => ?_, fun _ hsyn => ?_, fun _ f hmem => ?_, ?_, ?_⟩
  · obtain ⟨-, hxy, hyx⟩ := hd.idle h
    rw [List.append_eq_nil_iff] at hyx
    rw [hyx.2, List.sublist_nil] at hout
    exact ⟨hslot, by rw [hin, hxy], by rw [hyx.1, hout]; rfl⟩
  · rw [View.synsIn, hin] at hsyn
    obtain ⟨hsent, hsends, hnil⟩ := hd.asked hs hsyn
    rw [List.append_eq_nil_iff] at hnil
    rw [hnil.2, List.sublist_nil] at hout
    exact ⟨hsent, hin ▸ hsends, by rw [hnil.1, hout]; rfl⟩
  · refine hd.quiet hs f ?_
    rw [List.mem_append] at hmem ⊢
    exact hmem.imp_right (hout.subset ·)
  · simp [hslot]
  · simp [hslot]

/-- A side without a handle drops a frame that is no request. -/
theorem right_discard {f : Frame} {rest : List Frame} (hs : y.slot = none) (hi : y.inq = f :: rest)
    (hsyn : f.isSyn = false) : Delivery x { y with inq := rest } := by
  refine ⟨fun h => ?_, fun _ h => ?_, hd.quiet, ?_, ?_⟩
  · simpa [hi] using (hd.idle h).2.1
  · have hcount : y.synsIn = List.countP Frame.isSyn rest := by simp [View.synsIn, hi, hsyn]
    obtain ⟨⟨g, l, hsent, hg⟩, hsends, -⟩ := hd.asked hs (hcount ▸ h)
    -- the request comes first, and this frame is none
    have hway := hsends.onWay
    rw [hsent, hi, List.cons_append, List.cons_prefix_cons] at hway
    exact absurd (hway.1 ▸ hg) (by simp [hsyn])
  · simp [hs]
  · simp [hs]

include hf in
/-- A side without a handle refuses the stream.  There is no second request. -/
theorem right_refuse {f r : Frame} {rest a b : List Frame} (hs : y.slot = none)
    (hi : y.inq = f :: rest) (hsyn : f.isSyn = true) (hr : IsRefusal y.id r)
    (ho : y.outq = a ++ b) : Delivery x { y with inq := rest, outq := a ++ r :: b } := by
  have hreq := hf.requests
  have hcount : y.synsIn = List.countP Frame.isSyn rest + 1 := by
    simp [View.synsIn, hi, hsyn]
  refine ⟨fun h => ?_, fun _ h => ?_, fun _ g hmem => ?_, ?_, ?_⟩
  · simpa [hi] using (hd.idle h).2.1
  · simp only [View.synsIn] at h
    omega
  · have hold := hd.quiet hs g
    have hnew := hr.quiet
    simp only [View.departed, ho, List.mem_append, List.mem_cons] at hmem hold
    by_cases hgr : g = r
    · exact hgr ▸ hnew
    · exact hold (by tauto)
  · simp [hs]
  · simp [hs]

/-- A side without a handle accepts the stream. -/
theorem right_accept {f : Frame} {rest : List Frame} {sl : Slot} {events : List StreamEvent}
    (hs : y.slot = none) (hi : y.inq = f :: rest) (hsyn : f.isSyn = true)
    (hc : Slot.create y.id .synReceived y.max = (sl, events)) :
    Delivery x { y with
      inq := rest, slot := some (sl.push f), live := true, outq := y.outq ++ framesOf events } := by
  have hcr := Slot.created_of_create (.inr ⟨rfl, rfl⟩) hc
  have hcount : y.synsIn = List.countP Frame.isSyn rest + 1 := by
    simp [View.synsIn, hi, hsyn]
  obtain ⟨⟨g, l, hsent, -⟩, hsends, hnil⟩ := hd.asked hs (by omega)
  refine ⟨fun h => ?_, by simp, by simp, fun _ => ?_, fun _ => ?_⟩
  · simp [View.sent, h] at hsent
  · -- the request is the first frame in the new channel
    have hq : (sl.push f).queue = [f] := by simp [hcr.queue]
    have hr : (sl.push f).received = [] := hcr.received
    have hall : x.Sends ([] ++ ([f] ++ rest)) := by
      rw [hi] at hsends
      exact hsends
    refine ⟨?_, fun _ => ?_, fun _ _ => ?_⟩
    · show (sl.push f).received <+: x.sent
      simp [hr]
    · show (sl.push f).received ++ (sl.push f).queue <+: x.sent
      rw [hr, hq]
      exact (List.prefix_append [f] (rest ++ x.wire)).trans (by simpa using hall.onWay)
    · show x.Sends ((sl.push f).received ++ ((sl.push f).queue ++ rest))
      rwa [hr, hq]
  · -- nothing has been sent back so far
    rw [List.append_eq_nil_iff, List.append_eq_nil_iff] at hnil
    obtain ⟨⟨hrec, harr⟩, hout⟩ := hnil
    have hchan := (List.append_eq_nil_iff.mp harr).1
    have hy' := List.append_eq_nil_iff.mp hout
    have hsl : (sl.push f).sent = [Slot.hello .ack y.id y.max] := hcr.sent
    refine ⟨by simp [hrec], fun _ => by simp [hrec, hchan], fun _ _ => ⟨?_, fun _ => ?_⟩⟩
    · simp [hrec, harr, hy'.1]
    · simp [hrec, harr, View.departed, View.sent, hy'.1, hy'.2, hcr.frames, hsl]

include hf hy

/-- A move of a side without a handle: it may accept the stream or refuse it. -/
theorem right_none {y' : View} (hs : y.slot = none) (hm : VMove y y') : Delivery x y' := by
  cases hm with
  | transmit ho he => exact hd.right_fewer hs hs rfl (by simp [View.departed, ho])
  | lose hl hd' => exact hd.right_fewer hs hs rfl (hl.append_left _)
  | loseIn hl hg | refuseGone hg => exact absurd hg (by simp [hy])
  | halt | burn => exact hd.right_fewer hs hs rfl (.refl _)
  | unregister => exact hd.right_fewer hs (by simp [hs]) rfl (.refl _)
  | deliver hi hs' | cut hi hs' | handle hs' => simp [hs] at hs'
  | openStream hmay =>
    have hback := hf.requestsBack
    simp [hmay] at hback
  | discard hi hl hsyn => exact hd.right_discard hs hi hsyn
  | refuse hi hsyn hl hr ho => exact hd.right_refuse hf hs hi hsyn hr ho
  | accept hi hsyn hs' hl hc => exact hd.right_accept hs hi hsyn hc

/-- A move of the side that accepts. -/
theorem right {y' : View} (hm : VMove y y') : Delivery x y' := by
  cases hs : y.slot with
  | none => exact hd.right_none hf hy hs hm
  | some sl =>
    have hu : y.InUse := inUse_right hf hy (by simp [hs])
    have hsome := hu.isSome hm
    exact
      { idle := fun h => by simp [(hd.idle h).1] at hs
        asked := fun h => by simp [h] at hsome
        quiet := fun h => by simp [h] at hsome
        there := fun _ => hu.deliver hm (hd.there hu.opened)
        back := fun _ => (hd.back hu.opened).sender hu hm }

omit hf hy

/-- A frame is carried to the side that accepts. -/
theorem carry {f : Frame} {rest : List Frame} (hw : x.wire = f :: rest) :
    Delivery (x.sendOff rest) (y.takeIn f) where
  idle h := by
    have := (hd.idle h).2.1
    simp [View.departed, hw] at this
  asked hs hsyn := by
    have hout := (View.sendOff_ledger hw).2.2
    have hin := (y.takeIn_ledger f).2.2
    obtain ⟨hsent, hsends, hnil⟩ := hd.asked hs (by omega)
    exact ⟨hsent, hsends.sendOff hw, hnil⟩
  quiet := hd.quiet
  there hs := (hd.there hs).carry hw
  back hs := ⟨(hd.back hs).taken, (hd.back hs).waiting,
    fun hg hl => ((hd.back hs).coming hg hl).of_eq rfl rfl rfl fun h => h⟩

/-- A frame is carried to the side that opens. -/
theorem carryBack {f : Frame} {rest : List Frame} (hw : y.wire = f :: rest) :
    Delivery (x.takeIn f) (y.sendOff rest) where
  idle h := by
    have := (hd.idle h).2.2
    simp [View.departed, hw] at this
  asked hs hsyn := by
    have := (hd.asked hs hsyn).2.2
    simp [View.departed, hw] at this
  quiet hs g hmem := by
    refine hd.quiet hs g ?_
    simp only [View.takeIn, View.sendOff, View.arrived, View.departed, View.received, View.chan,
      hw, List.mem_append, List.mem_cons, List.not_mem_nil, or_false] at hmem ⊢
    tauto
  there hs := ⟨(hd.there hs).taken, (hd.there hs).waiting,
    fun hg hl => ((hd.there hs).coming hg hl).of_eq rfl rfl rfl fun h => h⟩
  back hs := (hd.back hs).carry hw

end Delivery

/-! ### Runs -/

/-- The invariant of the two views of a stream: flow control, and ordered delivery as long
as neither side gives up. -/
def DeliveryInv (x y : View) : Prop :=
  FlowInv x y ∧ (x.goAway = false → y.goAway = false → Delivery x y)

theorem pairInv_delivery : PairInv DeliveryInv where
  flow h := h.1
  left h hm := ⟨h.1.left hm, fun hx hy =>
    (h.2 (hm.goAway_mono hx) hy).left h.1 (hm.goAway_mono hx) hm⟩
  right h hm := ⟨h.1.right hm, fun hx hy =>
    (h.2 hx (hm.goAway_mono hy)).right h.1 (hm.goAway_mono hy) hm⟩
  carry h hw := ⟨h.1.carry hw, fun hx hy => (h.2 hx hy).carry hw⟩
  carryBack h hw := ⟨h.1.carryBack hw, fun hx hy => (h.2 hx hy).carryBack hw⟩
  unused id mayOpen _ _ hn hm :=
    ⟨FlowInv.unused id mayOpen hn hm, fun _ _ => .of_idle rfl rfl rfl rfl⟩

/-- What the handle of `v` has taken are frames of `w`, in order; from a side without a
handle, only refusals. -/
def Taken (v w : View) : Prop := v.received <+: w.sent ∨ ∀ f ∈ v.received, f.Quiet

theorem Delivery.taken_left {x y : View} (hd : Delivery x y) : Taken x y := by
  cases hs : y.slot with
  | none => exact .inr fun f hf => hd.quiet hs f (by simp [hf])
  | some sl => exact .inl (hd.back (by simp [hs])).taken

theorem Delivery.taken_right {x y : View} (hd : Delivery x y) : Taken y x := by
  cases hs : y.slot with
  | none => exact .inr fun f hf => by simp [View.received, hs] at hf
  | some sl => exact .inl (hd.there (by simp [hs])).taken

/-- The bytes taken are a prefix of the bytes sent. -/
theorem Taken.payload {v w : View} (h : Taken v w) :
    payloadOf v.received <+: payloadOf w.sent := by
  rcases h with h | h
  · exact payloadOf_isPrefix h
  · have : payloadOf v.received = [] := by
      rw [payloadOf, List.flatMap_eq_nil_iff]
      exact fun f hf => (h f hf).1
    simp [this]

/-- Once a FIN has been taken, everything sent before it has been read. -/
theorem Taken.fin {v w : View} (h : Taken v w) {sl : Slot} (hs : v.slot = some sl)
    (hi : sl.Inv) {f : Frame} (hf : f ∈ sl.received) (hfin : f.isFin = true) :
    sl.returned = payloadOf (w.sent.takeWhile fun f => !f.isFin) := by
  have hrec : v.received = sl.received := by simp [View.received, hs]
  rw [Taken, hrec] at h
  obtain ⟨rest, hpre⟩ := h.resolve_right fun hq => by simp [(hq f hf).2] at hfin
  have hret := hi.returned
  rcases hi.fin with hno | ⟨⟨l₀, g, hl, hno, hg, hp⟩, -, hbuf⟩
  · simp [hno f hf] at hfin
  · rw [← hpre, hl, List.append_assoc, List.takeWhile_append_of_pos (by simpa [NoFin] using hno)]
    rw [hl, hbuf] at hret
    simpa [hg, hp] using hret.symm

namespace World

/-- The bytes accepted by `poll_write` at `side`'s end of the stream. -/
def written (w : World) (side : SessionType) (id : StreamId) : Bytes :=
  (slotOf (w side).handles id).elim [] Slot.written

/-- The bytes returned by `poll_read` at `side`'s end of the stream. -/
def returned (w : World) (side : SessionType) (id : StreamId) : Bytes :=
  (slotOf (w side).handles id).elim [] Slot.returned

/-- The bytes accepted at `side`'s end before it has sent a FIN. -/
def writtenBeforeFin (w : World) (side : SessionType) (id : StreamId) : Bytes :=
  payloadOf (((slotOf (w side).handles id).elim [] Slot.sent).takeWhile fun f => !f.isFin)

/-- Neither side has sent or received a go-away. -/
def NoGoAway (w : World) : Prop :=
  ∀ side, (w side).localGoAway = false ∧ (w side).remoteGoAway = false

theorem NoGoAway.view {w : World} (hno : w.NoGoAway) (side : SessionType) (id : StreamId) :
    ((w side).view id).goAway = false := by
  simp [Session.view, hno side]

/-- The history of the handles agrees with the frames sent and taken. -/
theorem Inv.history {w : World} (h : w.Inv FlowInv) (side : SessionType) (id : StreamId) :
    w.written side id = payloadOf ((w side).view id).sent ∧
      w.returned side id <+: payloadOf ((w side).view id).received := by
  simp only [written, returned, View.sent, View.received, Session.view]
  cases hs : slotOf (w side).handles id with
  | none => exact ⟨rfl, List.nil_prefix⟩
  | some sl =>
    have hinv : sl.Inv := (h.slotOk side id).inv hs
    refine ⟨hinv.written, ?_⟩
    show sl.returned <+: payloadOf sl.received
    rw [hinv.returned]
    exact List.prefix_append _ _

namespace Inv

variable {w : World} (h : w.Inv DeliveryInv) (hno : w.NoGoAway)
include h hno

/-- The frames taken, at either end. -/
theorem taken (side : SessionType) (id : StreamId) :
    Taken ((w side).view id) ((w side.peer).view id) := by
  have hd := (h.pair id).2 (hno.view _ id) (hno.view _ id)
  rcases (opener id).eq_or_eq_peer side with rfl | rfl
  · exact hd.taken_left
  · rw [SessionType.peer_peer]
    exact hd.taken_right

/-- The frames taken after a call on a handle. -/
theorem taken_apply (side : SessionType) {id : StreamId} {sl : Slot}
    (hs : slotOf (w side).handles id = some sl) (op : HandleOp) :
    ∃ v, v.slot = some (sl.apply op).1 ∧ Taken v ((w side.peer).view id) := by
  have hx := hno.view (opener id) id
  have hy := hno.view (opener id).peer id
  have hm : VMove ((w side).view id) _ := .handle hs op
  rcases (opener id).eq_or_eq_peer side with rfl | rfl
  · exact ⟨_, rfl, ((pairInv_delivery.left (h.pair id) hm).2 hx hy).taken_left⟩
  · rw [SessionType.peer_peer]
    exact ⟨_, rfl, ((pairInv_delivery.right (h.pair id) hm).2 hx hy).taken_right⟩

end Inv

end World

/-- **Ordered delivery.**  After every run in which no side has given up, each stream has
one handle at most at either end; the bytes read at one end are a prefix of those written at
the other; and when a read reports the end of the stream and a FIN has been taken, all bytes
written before the FIN have been read. -/
theorem ordered_delivery (config : SessionType → Config) (ls : List Label)
    (hno : (runFrom World.step (World.new config) ls).NoGoAway) :
    let w := runFrom World.step (World.new config) ls
    (∀ side, (idsOf (w side).handles).Nodup) ∧
      (∀ side id, w.returned side id <+: w.written side.peer id) ∧
      ∀ side, ∀ sl ∈ (w side).handles, ∀ n, (sl.handle.pollRead n).2 = .ready (.ok []) →
        (∃ f ∈ (sl.apply (.read n)).1.received, f.isFin = true) →
          (sl.apply (.read n)).1.returned = w.writtenBeforeFin side.peer sl.handle.id := by
  intro w
  have h : w.Inv DeliveryInv := pairInv_delivery.inv_run config ls
  have hflow := pairInv_delivery.flowInv h
  refine ⟨fun side => (h.good side).nodup, fun side id => ?_, ?_⟩
  · rw [(hflow.history side.peer id).1]
    exact (hflow.history side id).2.trans (h.taken hno side id).payload
  · rintro side sl hsl n - ⟨f, hf, hfin⟩
    obtain ⟨hs, hinv, hsafe⟩ := hflow.handle side hsl
    obtain ⟨taken, hst⟩ := Slot.apply_step hinv hsafe (.read n)
    obtain ⟨v, hv, htaken⟩ := h.taken_apply hno side hs (.read n)
    exact htaken.fin hv hst.inv hf hfin

/-- The client opens a stream, writes three bytes and shuts it down; the server accepts it
and reads in two pieces. -/
def oneStreamRun : List Label :=
  [.act .client .openStream, .act .client (.handle 0 (.write [1, 2, 3])),
    .act .client (.handle 0 .shutdown), .act .client (.poll 0 false [.ready, .ready, .ready] []),
    .carry .client, .carry .client, .carry .client, .act .server (.poll 0 false [] [.ready]),
    .act .server (.poll 0 false [] [.ready, .ready]), .act .server (.handle 0 (.read 2)),
    .act .server (.handle 0 (.read 2))]

/-- All three bytes have been read, and the next read meets the FIN. -/
theorem ordered_delivery_oneStreamRun :
    let w := runFrom World.step (World.new fun _ => Config.default) oneStreamRun
    w.NoGoAway ∧ w.returned .server 1 = [1, 2, 3] ∧
      (w .server).handles.map (fun sl => ((sl.handle.pollRead 4).2 = .ready (.ok []) : Bool))
        = [true] ∧
      (w .server).handles.map (fun sl => (sl.apply (.read 4)).1.received.any Frame.isFin) = [true] ∧
      w.returned .server 1 <+: w.written .client 1 := by
  intro w
  have hno : w.NoGoAway := by
    intro side
    cases side <;> exact ⟨by decide +kernel, by decide +kernel⟩
  exact ⟨hno, by decide +kernel, by decide +kernel, by decide +kernel,
    (ordered_delivery _ oneStreamRun hno).2.1 .server 1⟩

end Yamux
end CkbP2P

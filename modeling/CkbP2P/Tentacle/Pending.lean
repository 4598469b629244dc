import CkbP2P.Lib.Entries
import CkbP2P.Lib.Run
import CkbP2P.Lib.Total
import CkbP2P.Tentacle.SubstreamMoves

/-!
# The accounting of pending data

The service charges a message to its session when it sends it; the substream takes the
charge off when the codec has taken the message.  A message that is dropped on the way stays
charged.
-/

namespace CkbP2P
namespace Tentacle

open Lib

/-! ### Lengths -/

/-- The length of the message in an event. -/
def eventSize : ProtocolEvent → ℕ
  | .message data => data.length
  | _ => 0

/-- The length of the message in an input. -/
def inputSize : SessionInput → ℕ
  | .protocolMessage _ data => data.length
  | .command _ => 0

theorem weigh_messages (events : List ProtocolEvent) :
    weigh List.length (messages events) = weigh eventSize events := by
  induction events with
  | nil => rfl
  | cons event events ih =>
    cases event with
    | message data => exact congrArg (data.length + ·) ih
    | _ => exact ih.trans (Nat.zero_add _).symm

theorem weigh_inputMessages (inputs : List SessionInput) :
    weigh List.length (inputMessages inputs) = weigh inputSize inputs := by
  induction inputs with
  | nil => rfl
  | cons input inputs ih =>
    cases input with
    | protocolMessage protoId data => exact congrArg (data.length + ·) ih
    | command c => exact ih.trans (Nat.zero_add _).symm

namespace PriorityChannel

variable {α : Type}

theorem weigh_push (w : α → ℕ) (c : PriorityChannel α) (priority : Priority) (a : α) :
    weigh w (c.push priority a).toList = weigh w c.toList + w a := by
  cases priority <;> simp [push, toList] <;> omega

/-- What is received was queued. -/
theorem weigh_next_item {w : α → ℕ} {c c' : PriorityChannel α} {priority : Priority} {a : α}
    (h : c.next = (.item priority a, c')) : weigh w c.toList = w a + weigh w c'.toList := by
  unfold next at h
  split at h
  case h_1 as _ hhigh =>
    obtain ⟨⟨-, rfl⟩, rfl⟩ := by simpa using h
    simp [toList, hhigh]
  case h_2 as hhigh hnormal =>
    obtain ⟨⟨-, rfl⟩, rfl⟩ := by simpa using h
    simp [toList, hhigh, hnormal]
  case h_3 => split at h <;> simp at h

end PriorityChannel

/-! ### Substreams -/

namespace Substream

/-- The length of the messages a substream holds. -/
def queued (t : Substream) : ℕ :=
  weigh List.length t.highWriteBuf + weigh List.length t.writeBuf +
    weigh eventSize t.eventReceiver.toList

/-- The counter is what the substream holds and has dropped, and `k` more. -/
def Owes (k : ℕ) (t : Substream) : Prop :=
  t.context.pendingDataSize = t.queued + weigh List.length t.discarded + k

variable {k : ℕ} {t : Substream}

theorem owes_loadClosed (h : t.Owes k) : t.loadClosed.2.Owes k := by
  unfold loadClosed
  split <;> exact h

/-- A frame the codec has taken is counted no more. -/
theorem owes_hand {frame : Bytes} (priority : Priority) (h : t.Owes (frame.length + k)) :
    (t.hand frame priority).Owes k := by
  unfold Owes at h ⊢
  change t.context.pendingDataSize - frame.length = t.queued + weigh List.length t.discarded + k
  omega

theorem owes_pushBack {frame : Bytes} (priority : Priority) (h : t.Owes (frame.length + k)) :
    (t.pushBack priority frame).Owes k := by
  cases priority <;>
    simp only [Owes, queued, pushBack, weigh_append, weigh_cons, weigh_nil] at h ⊢ <;> omega

theorem owes_setBuf {priority : Priority} {frame : Bytes} {frames : List Bytes}
    (hbuf : t.buf priority = frame :: frames) (h : t.Owes k) :
    (t.setBuf priority frames).Owes (frame.length + k) := by
  cases priority <;> simp only [Owes, queued, setBuf, buf] at hbuf h ⊢ <;>
    rw [hbuf, weigh_cons] at h <;> omega

theorem owes_closeProtoStream (h : t.Owes k) : t.closeProtoStream.Owes k := by
  -- What is queued in a channel that is closed stays queued.
  have hstart : ∀ t : Substream, t.Owes k → (if t.keepBuffer then t else
      { t with eventSender := [] }).Owes k := by
    intro t h
    split <;> exact h
  have hservice : ∀ t : Substream, t.Owes k → t.closeService.Owes k := by
    intro t h
    unfold closeService
    split <;> exact h
  have hhandle : ∀ t : Substream, t.Owes k → t.closeHandle.Owes k := by
    intro t h
    unfold closeHandle
    split
    · exact h
    · exact owes_loadClosed h
  have hsession : ∀ t : Substream, t.Owes k → t.closeSession.Owes k := by
    intro t h
    have hload := owes_loadClosed h
    unfold closeSession
    dsimp only
    split <;> exact hload
  exact hsession _ (hhandle _ (hservice _ (hstart { t with
    eventReceiver := t.eventReceiver.close } h)))

/-- **A move keeps the accounts**: what leaves a buffer is handed over. -/
theorem owes_move {t' : Substream} (h : t.Owes k) (hmove : Move t t') : t'.Owes k := by
  cases hmove with
  | ask => exact h
  | hand hbuf => exact owes_hand _ (owes_setBuf hbuf h)
  | die => exact h
  | report hdead e => exact h
  | output => exact h
  | distributeToService =>
    unfold distributeToService
    split <;> exact h
  | distributeToHandle =>
    unfold distributeToHandle
    split <;> exact h
  | receive data => exact h
  | @take priority data receiver hnext =>
    have hweigh := PriorityChannel.weigh_next_item (w := eventSize) hnext
    refine owes_pushBack priority ?_
    simp only [Owes, queued, eventSize] at h hweigh ⊢
    omega
  | @skip priority event receiver hnext hevent =>
    have hweigh := PriorityChannel.weigh_next_item (w := eventSize) hnext
    have hzero : eventSize event = 0 := by
      have hlength := weigh_messages [event]
      rw [hevent] at hlength
      exact hlength.symm
    simp only [Owes, queued, hzero] at h hweigh ⊢
    omega

/-- What is lost is noted as dropped. -/
theorem owes_loss {t' : Substream} (h : t.Owes k) (hloss : Loss t t') : t'.Owes k := by
  cases hloss with
  | @lose priority frame frames hbuf =>
    have hset := owes_setBuf hbuf h
    have hdiscarded : (t.setBuf priority frames).discarded = t.discarded := by
      cases priority <;> rfl
    simp only [Owes, queued, weigh_append, weigh_cons, weigh_nil, hdiscarded] at hset ⊢
    omega
  | stop hnext =>
    have hweigh := PriorityChannel.weigh_next_item (w := eventSize) hnext
    simp only [Owes, queued, eventSize, weigh_append, weigh_nil] at h hweigh ⊢
    omega

/-- **A poll of a substream keeps its accounts.** -/
theorem owes_pollNext (h : t.Owes k) : t.pollNext.1.Owes k :=
  inv_pollNext owes_move owes_loss owes_closeProtoStream h

end Substream

/-! ### Sessions -/

namespace Session

/-- The length of the messages in a buffer. -/
def bufferSize (buffer : PriorityBuffer ProtocolEvent) : ℕ := weigh eventSize buffer.toList

/-- The length of the messages under way: those the service waits to send, those in the
channel of the session, those in the buffers and those that the substreams hold. -/
def queued (s : Session) : ℕ :=
  weigh (fun m => m.2.2.length) s.sending + weigh inputSize s.serviceReceiver.toList +
    total bufferSize s.substreams + total Substream.queued s.tasks

/-- The counter is what is under way and has been dropped, and `k` more; and what was dropped
up to `log` is not forgotten; and the number of the next substream is a new one. -/
structure Sound (log : List Bytes) (k : ℕ) (s : Session) : Prop where
  pending : s.context.pendingDataSize = s.queued + weigh List.length s.discarded + k
  discarded : log <+: s.discarded
  substreams : ∀ id ∈ s.substreams, id < s.nextStream
  tasks : ∀ id ∈ s.tasks, id < s.nextStream

variable {log : List Bytes} {k : ℕ} {s : Session}

theorem Sound.dropped (h : s.Sound log k) (more : List Bytes) : log <+: s.discarded ++ more :=
  h.discarded.trans (List.prefix_append _ _)

theorem lt_of_mem_insert {β : Type} {m : AList fun _ : StreamId => β} {n id : StreamId} {b : β}
    (h : ∀ id ∈ m, id < n) (hid : id < n) : ∀ id' ∈ m.insert id b, id' < n := by
  intro id' hmem
  rcases (AList.mem_insert _).mp hmem with rfl | hmem
  · exact hid
  · exact h id' hmem

theorem queued_deliver (t : Substream) (high normal : List ProtocolEvent) :
    (deliver t high normal).queued = t.queued + weigh eventSize high + weigh eventSize normal := by
  simp only [Substream.queued, deliver, PriorityChannel.toList, weigh_append]
  omega

/-! #### Moving messages on -/

theorem sound_trySendTo (id : StreamId) (h : s.Sound log k) : (s.trySendTo id).2.Sound log k := by
  unfold trySendTo
  split
  · exact h
  case _ buffer hbuffer =>
    have hid := h.substreams id (mem_of_lookup_eq_some hbuffer)
    have hold := weightAt_of_lookup (w := bufferSize) hbuffer
    dsimp only
    split
    case _ htask =>
      have hsplit := buffer.weigh_trySend eventSize ⟨0, true⟩
      have hinsert := total_insert bufferSize s.substreams id (buffer.trySend ⟨0, true⟩).kept
      obtain ⟨hhigh, hnormal⟩ := buffer.trySend_gone
      refine ⟨?_, h.dropped _, lt_of_mem_insert h.substreams hid, h.tasks⟩
      have hpending := h.pending
      simp only [queued, weigh_append, weigh_messages] at hpending ⊢
      simp only [hhigh, hnormal, weigh_nil, bufferSize] at hsplit hold hinsert hpending ⊢
      omega
    case _ task htask =>
      generalize (if task.eventReceiver.isOpen then s.answers.stream.headD ⟨0, false⟩
        else ⟨0, true⟩) = room
      have hsplit := buffer.weigh_trySend eventSize room
      have hinsert := total_insert bufferSize s.substreams id (buffer.trySend room).kept
      have htasks := total_insert Substream.queued s.tasks id
        (deliver task (buffer.trySend room).high (buffer.trySend room).normal)
      rw [weightAt_of_lookup htask, queued_deliver] at htasks
      refine ⟨?_, h.dropped _, lt_of_mem_insert h.substreams hid, lt_of_mem_insert h.tasks hid⟩
      have hpending := h.pending
      simp only [queued, weigh_append, weigh_messages] at hpending ⊢
      simp only [bufferSize] at hold hinsert hpending ⊢
      omega

/-- An event is pushed to a substream that is there. -/
theorem sound_pushTo {id : StreamId} {event : ProtocolEvent} (priority : Priority)
    (hid : id ∈ s.substreams) (h : s.Sound log (eventSize event + k)) :
    (s.pushTo id priority event).Sound log k := by
  obtain ⟨buffer, hbuffer⟩ := Option.isSome_iff_exists.mp (AList.lookup_isSome.mpr hid)
  have hold := weightAt_of_lookup (w := bufferSize) hbuffer
  have hinsert := total_insert bufferSize s.substreams id (buffer.push priority event)
  have hpush : bufferSize (buffer.push priority event) = bufferSize buffer + eventSize event := by
    cases priority <;>
      simp only [bufferSize, PriorityBuffer.push, PriorityBuffer.toList, weigh_append, weigh_cons,
        weigh_nil] <;> omega
  simp only [pushTo, hbuffer]
  apply sound_trySendTo
  refine ⟨?_, h.discarded, lt_of_mem_insert h.substreams (h.substreams id hid), h.tasks⟩
  have hpending := h.pending
  simp only [queued] at hpending ⊢
  omega

/-- An event without a message is pushed, or there is no such substream. -/
theorem sound_pushTo_close {id id' : StreamId} {protoId : ProtocolId} (priority : Priority)
    (h : s.Sound log k) : (s.pushTo id priority (.close id' protoId)).Sound log k := by
  by_cases hid : id ∈ s.substreams
  · refine sound_pushTo priority hid ?_
    change s.Sound log (0 + k)
    rwa [Nat.zero_add]
  · have hnone : s.substreams.lookup id = none := AList.lookup_eq_none.mpr hid
    simp only [pushTo, hnone]
    exact h

theorem sound_clearBuffer (id : StreamId) (h : s.Sound log k) : (s.clearBuffer id).Sound log k := by
  unfold clearBuffer
  split
  · exact h
  case _ buffer hbuffer =>
    have hold := weightAt_of_lookup (w := bufferSize) hbuffer
    have hinsert := total_insert bufferSize s.substreams id .empty
    have hempty : weigh eventSize PriorityBuffer.empty.toList = 0 := rfl
    have hid := h.substreams id (mem_of_lookup_eq_some hbuffer)
    refine ⟨?_, h.dropped _, lt_of_mem_insert h.substreams hid, h.tasks⟩
    have hpending := h.pending
    simp only [queued, weigh_append, weigh_messages] at hpending ⊢
    simp only [bufferSize] at hold hinsert hpending ⊢
    omega

theorem sound_output (h : s.Sound log k) : s.output.Sound log k :=
  ⟨h.pending, h.discarded, h.substreams, h.tasks⟩

theorem sound_eventOutput (event : SessionEvent) (h : s.Sound log k) :
    (s.eventOutput event).Sound log k :=
  ⟨h.pending, h.discarded, h.substreams, h.tasks⟩

theorem sound_distributeLoop (ids : List StreamId) (h : s.Sound log k) :
    (distributeLoop ids s).Sound log k := by
  induction ids generalizing s with
  | nil => exact h
  | cons id ids ih =>
    have hsend := sound_trySendTo id h
    unfold distributeLoop
    split
    · exact ih h
    · rcases hs : s.trySendTo id with ⟨result, s'⟩
      rw [hs] at hsend
      cases result with
      | pending =>
        dsimp only
        split
        · apply sound_eventOutput
          apply sound_clearBuffer
          exact ⟨hsend.pending, hsend.discarded, hsend.substreams, hsend.tasks⟩
        · exact hsend
      | ok => exact ih hsend
      | disconnect => exact ih hsend

theorem sound_flush (h : s.Sound log k) : s.flush.Sound log k := by
  have hloop := sound_distributeLoop s.walk h
  unfold flush
  dsimp only
  split
  · exact hloop
  · exact sound_output hloop

/-! #### Closing -/

theorem sound_dropSubstream (id : StreamId) (h : s.Sound log k) :
    (s.dropSubstream id).Sound log k := by
  have hclear := sound_clearBuffer id h
  -- The buffer that goes is empty by then.
  have hweight : weightAt bufferSize (s.clearBuffer id).substreams id = 0 := by
    unfold clearBuffer
    split
    case _ hnone => exact weightAt_of_lookup_none hnone
    · exact weightAt_of_lookup (AList.lookup_insert _)
  have herase := total_erase bufferSize (s.clearBuffer id).substreams id
  have hpending := hclear.pending
  have hsubstreams : ∀ id' ∈ (s.clearBuffer id).substreams.erase id,
      id' < (s.clearBuffer id).nextStream :=
    fun id' hmem => hclear.substreams id' (AList.mem_erase.mp hmem).2
  unfold dropSubstream
  dsimp only
  split
  · refine ⟨?_, hclear.discarded, hsubstreams, hclear.tasks⟩
    simp only [queued] at hpending ⊢
    omega
  case _ task htask =>
    have hinsert := total_insert Substream.queued (s.clearBuffer id).tasks id (hangUp task)
    have hsame : (hangUp task).queued = task.queued := rfl
    rw [weightAt_of_lookup htask, hsame] at hinsert
    refine ⟨?_, hclear.discarded, hsubstreams, lt_of_mem_insert hclear.tasks
      (hclear.tasks id (mem_of_lookup_eq_some htask))⟩
    simp only [queued] at hpending ⊢
    omega

theorem sound_clean (h : s.Sound log k) : s.clean.Sound log k := by
  have hdrop : ∀ (ids : List StreamId) (s : Session), s.Sound log k →
      (ids.foldl dropSubstream s).Sound log k := by
    intro ids
    induction ids with
    | nil => exact fun s h => h
    | cons id ids ih => exact fun s h => ih _ (sound_dropSubstream id h)
  have h' := hdrop s.substreams.keys s h
  exact ⟨h'.pending, h'.discarded, h'.substreams, h'.tasks⟩

theorem sound_closeSession (h : s.Sound log k) : s.closeSession.Sound log k :=
  sound_clean ⟨h.pending, h.discarded, h.substreams, h.tasks⟩

theorem sound_closeAllProto (h : s.Sound log k) : s.closeAllProto.Sound log k := by
  have hclose : ∀ (ids : List StreamId) (s : Session), s.Sound log k →
      (ids.foldl (fun s id => s.pushTo id .high (.close id 0)) s).Sound log k := by
    intro ids
    induction ids with
    | nil => exact fun s h => h
    | cons id ids ih => exact fun s h => ih _ (sound_pushTo_close .high h)
  unfold closeAllProto
  split
  · exact sound_closeSession h
  · have h' := hclose s.walk s h
    exact ⟨h'.pending, h'.discarded, h'.substreams, h'.tasks⟩

/-! #### Events -/

/-- A new substream holds nothing, and takes no number that is in use. -/
theorem sound_openProtocol (name version : String) (h : s.Sound log k) :
    (s.openProtocol name version).Sound log k := by
  unfold openProtocol
  split
  · exact ⟨h.pending, h.discarded, h.substreams, h.tasks⟩
  case _ proto _ =>
    split
    · exact h
    · have hsubstreams : s.substreams.lookup s.nextStream = none :=
        AList.lookup_eq_none.mpr fun hmem => (h.substreams _ hmem).false
      have htasks : s.tasks.lookup s.nextStream = none :=
        AList.lookup_eq_none.mpr fun hmem => (h.tasks _ hmem).false
      have hbuffers := total_insert bufferSize s.substreams s.nextStream .empty
      have hheld := total_insert Substream.queued s.tasks s.nextStream
        (s.newSubstream proto version)
      have hbuffer : bufferSize .empty = 0 := rfl
      have hnew : (s.newSubstream proto version).queued = 0 := rfl
      rw [weightAt_of_lookup_none hsubstreams, hbuffer] at hbuffers
      rw [weightAt_of_lookup_none htasks, hnew] at hheld
      refine ⟨?_, h.discarded, ?_, ?_⟩
      · have hpending := h.pending
        simp only [queued] at hpending ⊢
        omega
      · exact lt_of_mem_insert (fun id hid => (h.substreams id hid).trans (Nat.lt_succ_self _))
          (Nat.lt_succ_self _)
      · exact lt_of_mem_insert (fun id hid => (h.tasks id hid).trans (Nat.lt_succ_self _))
          (Nat.lt_succ_self _)

theorem sound_handleStreamEvent (event : ProtocolEvent) (h : s.Sound log k) :
    (s.handleStreamEvent event).Sound log k := by
  cases event with
  | opened protoName version => exact sound_openProtocol protoName version h
  | close id protoId =>
    simp only [handleStreamEvent]
    split
    · have hdrop := sound_dropSubstream id h
      exact ⟨hdrop.pending, hdrop.discarded, hdrop.substreams, hdrop.tasks⟩
    · exact h
  | message data => exact h
  | selectError protoName => exact sound_eventOutput _ h
  | error protoId error => exact sound_eventOutput _ h
  | timeoutCheck =>
    simp only [handleStreamEvent]
    split
    · exact ⟨h.pending, h.discarded, h.substreams, h.tasks⟩
    · exact h

theorem sound_discard {data : Bytes} (h : s.Sound log (data.length + k)) :
    (s.discard data).Sound log k := by
  refine ⟨?_, h.dropped _, h.substreams, h.tasks⟩
  have hpending := h.pending
  simp only [queued, discard, weigh_append, weigh_cons, weigh_nil] at hpending ⊢
  omega

theorem sound_handleProtocolMessage {protoId : ProtocolId} {data : Bytes} (priority : Priority)
    (h : s.Sound log (data.length + k)) :
    (s.handleProtocolMessage protoId data priority).Sound log k := by
  unfold handleProtocolMessage
  split
  · exact sound_discard h
  · split
    case _ hmem => exact sound_pushTo priority hmem h
    · exact sound_discard h

theorem sound_handleCommand (c : Command) (h : s.Sound log k) :
    (s.handleCommand c).Sound log k := by
  cases c with
  | sessionClose =>
    simp only [handleCommand]
    split
    · exact sound_closeSession h
    · exact sound_closeAllProto ⟨h.pending, h.discarded, h.substreams, h.tasks⟩
  | protocolOpen protoId =>
    simp only [handleCommand]
    split
    · exact h
    · split
      · exact ⟨h.pending, h.discarded, h.substreams, h.tasks⟩
      · exact h
  | protocolClose protoId =>
    simp only [handleCommand]
    split
    · exact sound_pushTo_close .high h
    · exact h
  | streamStart => exact h
  | changeState state error =>
    simp only [handleCommand]
    split
    · split
      · exact ⟨h.pending, h.discarded, h.substreams, h.tasks⟩
      · split <;> exact ⟨h.pending, h.discarded, h.substreams, h.tasks⟩
    · exact h

/-! #### Polling -/

theorem sound_recvSubstreams (h : s.Sound log k) : s.recvSubstreams.1.Sound log k := by
  unfold recvSubstreams
  split
  case _ event events _ =>
    dsimp only
    split
    · exact ⟨h.pending, h.discarded, h.substreams, h.tasks⟩
    · exact sound_handleStreamEvent event ⟨h.pending, h.discarded, h.substreams, h.tasks⟩
  · split <;> exact ⟨h.pending, h.discarded, h.substreams, h.tasks⟩

theorem sound_recvService (h : s.Sound log k) : s.recvService.1.Sound log k := by
  unfold recvService
  split
  case _ priority input receiver hnext =>
    -- The input is out of the channel and not yet anywhere else.
    have htaken : { s with serviceReceiver := receiver }.Sound log (inputSize input + k) := by
      have hweigh := PriorityChannel.weigh_next_item (w := inputSize) hnext
      have hpending := h.pending
      refine ⟨?_, h.discarded, h.substreams, h.tasks⟩
      simp only [queued] at hpending ⊢
      omega
    dsimp only
    cases input with
    | protocolMessage protoId data =>
      split
      · exact sound_handleProtocolMessage priority htaken
      · exact sound_discard htaken
    | command c =>
      simp only [inputSize, Nat.zero_add] at htaken
      split
      · exact sound_handleCommand c htaken
      · exact htaken
  case _ receiver hnext =>
    obtain rfl := PriorityChannel.next_of_not_item hnext (fun _ _ => nofun)
    exact sound_clean ⟨h.pending, h.discarded, h.substreams, h.tasks⟩
  case _ receiver hnext =>
    obtain rfl := PriorityChannel.next_of_not_item hnext (fun _ _ => nofun)
    exact h

theorem sound_conclude (isPending : Bool) (h : s.Sound log k) :
    (s.conclude isPending).1.Sound log k := by
  have hclose : { s with protoStreams := ∅ }.closeSession.Sound log k :=
    sound_closeSession ⟨h.pending, h.discarded, h.substreams, h.tasks⟩
  unfold conclude
  split
  · exact hclose
  · exact hclose
  · split
    · exact sound_closeSession h
    · exact sound_closeAllProto h
  · exact h

theorem sound_pollNext (h : s.Sound log k) : s.pollNext.1.Sound log k := by
  have hflush := sound_flush h
  unfold pollNext
  split
  · exact h
  · dsimp only
    split
    · exact hflush
    · exact sound_conclude _ (sound_recvService (sound_recvSubstreams hflush))

theorem sound_drop (h : s.Sound log k) : s.drop.Sound log k := by
  have hclean := sound_clean h
  refine ⟨?_, hclean.dropped _, hclean.substreams, hclean.tasks⟩
  have hpending := hclean.pending
  simp only [queued, drop, weigh_append, weigh_inputMessages, PriorityChannel.toList,
    weigh_nil] at hpending ⊢
  omega

theorem sound_poll (answers : SessionAnswers) (h : s.Sound log k) :
    (s.poll answers).Sound log k := by
  have hpoll : { s with answers }.pollNext.1.Sound log k :=
    sound_pollNext ⟨h.pending, h.discarded, h.substreams, h.tasks⟩
  unfold poll
  split
  · exact h
  · split
    case _ s' hp =>
      rw [hp] at hpoll
      exact sound_drop hpoll
    case _ s' _ _ hp =>
      rw [hp] at hpoll
      exact hpoll

/-- The task of a substream keeps the accounts of its session. -/
theorem sound_pollTask (id : StreamId) (answers : Answers) (h : s.Sound log k) :
    (s.pollTask id answers).Sound log k := by
  unfold pollTask
  split
  · exact h
  case _ task htask =>
    have hid := h.tasks id (mem_of_lookup_eq_some htask)
    have hpending := h.pending
    have hold := weightAt_of_lookup (w := Substream.queued) htask
    have herase := total_erase Substream.queued s.tasks id
    -- For the task, all the rest of the session is a constant.
    let rest := weigh (fun m => m.2.2.length) s.sending + weigh inputSize s.serviceReceiver.toList +
      total bufferSize s.substreams + total Substream.queued (s.tasks.erase id) +
      weigh List.length s.discarded + k
    have howes : { task with
        context := s.context, discarded := [], answers := answers }.Owes rest := by
      change s.context.pendingDataSize = task.queued + 0 + rest
      simp only [queued] at hpending
      omega
    have hpoll := Substream.owes_pollNext howes
    dsimp only [Substream.poll]
    rcases hp : Substream.pollNext { task with
      context := s.context, discarded := [], answers := answers } with ⟨t, polled⟩
    rw [hp] at hpoll
    simp only [Substream.Owes] at hpoll
    have hinsert := total_insert Substream.queued s.tasks id { t with discarded := [] }
    have hsame : { t with discarded := [] }.queued = t.queued := rfl
    have hsound : { s with
        context := t.context, discarded := s.discarded ++ t.discarded
        tasks := s.tasks.insert id { t with discarded := [] } }.Sound log k := by
      refine ⟨?_, h.dropped _, h.substreams, lt_of_mem_insert h.tasks hid⟩
      simp only [queued, weigh_append] at hpending ⊢
      omega
    cases polled with
    | pending => exact hsound
    | item => exact hsound
    | done =>
      refine ⟨?_, ?_, h.substreams, fun id' hmem => h.tasks id' (AList.mem_erase.mp hmem).2⟩
      · simp only [queued, Substream.queued, weigh_append, weigh_messages] at hpoll hpending ⊢
        omega
      · simp only [List.append_assoc]
        exact h.dropped _

/-! ### Runs -/

theorem sound_handleMessage (target : TargetSession) (priority : Priority) (protoId : ProtocolId)
    (data : Bytes) (h : s.Sound log k) :
    (s.handleMessage target priority protoId data).Sound log k := by
  have hcharge : ∀ s : Session, s.Sound log k → (s.charge priority protoId data).Sound log k := by
    intro s h
    refine ⟨?_, h.discarded, h.substreams, h.tasks⟩
    have hpending := h.pending
    simp only [queued, charge, weigh_append, weigh_cons, weigh_nil] at hpending ⊢
    omega
  unfold handleMessage
  split
  · -- As often as the target names the session.
    generalize target.copies s.context.id = n
    induction n generalizing s with
    | zero => exact h
    | succ n ih =>
      rw [Function.iterate_succ_apply]
      exact ih (hcharge s h) ‹_›
  · exact h

theorem sound_passOn (h : s.Sound log k) : s.passOn.Sound log k := by
  unfold passOn
  split
  · exact h
  case _ priority protoId data sending hsending =>
    have htaken : { s with sending }.Sound log (data.length + k) := by
      refine ⟨?_, h.discarded, h.substreams, h.tasks⟩
      have hpending := h.pending
      simp only [queued, hsending, weigh_cons] at hpending ⊢
      omega
    dsimp only
    split
    · refine ⟨?_, h.discarded, h.substreams, h.tasks⟩
      have hpending := htaken.pending
      simp only [queued, PriorityChannel.weigh_push, inputSize] at hpending ⊢
      omega
    · exact sound_discard htaken

/-- **The counter is what is under way and what was dropped**, whatever happens. -/
theorem sound_step (h : s.Sound log k) (l : Label) : (s.step l).Sound log k := by
  cases l with
  | message target priority protoId data => exact sound_handleMessage target priority protoId data h
  | passOn => exact sound_passOn h
  | command priority c =>
    simp only [step]
    split
    · refine ⟨?_, h.discarded, h.substreams, h.tasks⟩
      have hpending := h.pending
      simp only [queued, PriorityChannel.weigh_push, inputSize] at hpending ⊢
      omega
    · exact h
  | unregister => exact ⟨h.pending, h.discarded, h.substreams, h.tasks⟩
  | arrive event =>
    simp only [step]
    split
    · exact ⟨h.pending, h.discarded, h.substreams, h.tasks⟩
    · exact h
  | session answers => exact sound_poll answers h
  | task id answers => exact sound_pollTask id answers h

/-! ### Exactness -/

/-- The counter is the length of the messages that are still under way. -/
def Exact (s : Session) : Prop := s.context.pendingDataSize = s.queued

/-- The messages a step drops. -/
def discards (s : Session) (l : Label) : List Bytes :=
  (s.step l).discarded.drop s.discarded.length

/-- No message is dropped but empty ones. -/
def Keeps (s : Session) (l : Label) : Prop := ∀ data ∈ s.discards l, data = []

instance (s : Session) : Decidable s.Exact :=
  inferInstanceAs (Decidable (s.context.pendingDataSize = s.queued))

instance (s : Session) (l : Label) : Decidable (s.Keeps l) :=
  inferInstanceAs (Decidable (∀ data ∈ s.discards l, data = []))

theorem weigh_eq_zero {messages : List Bytes} :
    weigh List.length messages = 0 ↔ ∀ data ∈ messages, data = [] := by
  induction messages with
  | nil => simp
  | cons data messages ih =>
    rw [weigh_cons, Nat.add_eq_zero_iff, ih, List.length_eq_zero_iff, List.forall_mem_cons]

/-- Nothing that was dropped is forgotten. -/
theorem discarded_step (h : s.Sound log k) (l : Label) :
    (s.step l).discarded = s.discarded ++ s.discards l := by
  have hsound : s.Sound s.discarded k := ⟨h.pending, List.prefix_rfl, h.substreams, h.tasks⟩
  obtain ⟨more, hmore⟩ := (sound_step hsound l).discarded
  rw [discards, ← hmore, List.drop_left]

/-- A step from an exact state ends in an exact one if and only if it drops nothing. -/
theorem exact_step_iff (h : s.Sound log 0) (hexact : s.Exact) (l : Label) :
    (s.step l).Exact ↔ s.Keeps l := by
  have hpending := h.pending
  have hpending' := (sound_step h l).pending
  rw [discarded_step h l, weigh_append] at hpending'
  rw [Keeps, ← weigh_eq_zero]
  unfold Exact at hexact ⊢
  omega

theorem sound_new (id : SessionId) (protocols : List ProtocolMeta)
    (beforeReceive : ProtocolId → Option (Bytes → Except IoError Bytes))
    (sendBufferSize sendEventSize recvEventSize : ℕ) (keepBuffer : Bool) :
    (new id protocols beforeReceive sendBufferSize sendEventSize recvEventSize keepBuffer).Sound
      [] 0 :=
  ⟨rfl, List.nil_prefix, fun _ hmem => absurd hmem (AList.notMem_empty _),
    fun _ hmem => absurd hmem (AList.notMem_empty _)⟩

/-- **The accounting of a session is exact throughout a run if and only if no step of the run
drops a message that is not empty.** -/
theorem exact_iff_keeps (id : SessionId) (protocols : List ProtocolMeta)
    (beforeReceive : ProtocolId → Option (Bytes → Except IoError Bytes))
    (sendBufferSize sendEventSize recvEventSize : ℕ) (keepBuffer : Bool) (labels : List Label) :
    Throughout step Exact
        (new id protocols beforeReceive sendBufferSize sendEventSize recvEventSize keepBuffer)
        labels ↔
      Guarded step Keeps
        (new id protocols beforeReceive sendBufferSize sendEventSize recvEventSize keepBuffer)
        labels := by
  have hnew := sound_new id protocols beforeReceive sendBufferSize sendEventSize recvEventSize
    keepBuffer
  exact throughout_iff_guarded (I := Sound [] 0) (fun _ l h => sound_step h l)
    (fun _ l h hexact => exact_step_iff h hexact l) hnew rfl labels

/-- A session with one protocol that is not open yet. -/
def oneProtocol : Session :=
  new 1 [.ping false] (fun _ => none) 1024 16 16 false

/-- The user sends three bytes for the protocol. -/
def sendEarly : List Label :=
  [.message (.single 1) .normal 1 [1, 2, 3], .passOn, .session ⟨[], [], [], true, false⟩]

/-- A message for a protocol that is not open stays charged when nothing is under way. -/
theorem exact_notOpen :
    ¬ Throughout step Exact oneProtocol sendEarly ∧
      (runFrom step oneProtocol sendEarly).context.pendingDataSize = 3 ∧
      (runFrom step oneProtocol sendEarly).queued = 0 := by
  refine ⟨fun h => ?_, by decide +kernel, by decide +kernel⟩
  have hlast : ¬ (runFrom step oneProtocol sendEarly).Exact := by decide +kernel
  exact hlast h.last

end Session

end Tentacle
end CkbP2P

import CkbP2P.Lib.Fair
import CkbP2P.Tentacle.ProtocolSelect

/-!
# Both sides select the same version

The two sides are connected by two queues of bytes.  A transfer moves some bytes from a side to
its queue, or from a queue to a side; in which order and in how small pieces is not known.  A
negotiation is in one of three phases: the offer is on its way, the answer is on its way, or it
is over.
-/

namespace CkbP2P
namespace Tentacle

open Lib

/-- The two sides and the bytes under way. -/
structure Negotiation where
  client : ClientSelect
  server : ServerSelect
  toServer : Bytes
  toClient : Bytes

inductive Activity where
  | clientWrites
  | serverReads
  | serverWrites
  | clientReads
  deriving DecidableEq, Repr

/-- A side is active, with at most `more + 1` bytes. -/
structure Transfer where
  activity : Activity
  more : ℕ

namespace Negotiation

def start (limit : ℕ) (info : ProtocolInfo) : Negotiation := ⟨.start limit info, .start, [], []⟩

/-- A side that waits for bytes is not woken while there are none. -/
def step (limit : ℕ) (protoInfos : ProtoInfos) (n : Negotiation) (t : Transfer) : Negotiation :=
  match t.activity with
  | .clientWrites =>
    let (client, chunk) := n.client.writable (t.more + 1)
    { n with client, toServer := n.toServer ++ chunk }
  | .serverReads =>
    if n.server.reads && !n.toServer.isEmpty then
      { n with
        server := n.server.readable limit protoInfos (n.toServer.take (t.more + 1))
        toServer := n.toServer.drop (t.more + 1) }
    else n
  | .serverWrites =>
    let (server, chunk) := n.server.writable (t.more + 1)
    { n with server, toClient := n.toClient ++ chunk }
  | .clientReads =>
    if n.client.reads && !n.toClient.isEmpty then
      { n with
        client := n.client.readable limit (n.toClient.take (t.more + 1))
        toClient := n.toClient.drop (t.more + 1) }
    else n

/-! ### Phases -/

/-- The offer is on its way: some bytes have been received, some are under way, and some are still
to be sent. -/
def asking (received sent unsent : Bytes) : Negotiation :=
  ⟨⟨⟨[], unsent⟩, none⟩, ⟨⟨received, []⟩, none, none⟩, sent, []⟩

/-- The answer is on its way.  The server has finished when it has sent it. -/
def answering (chosen : Selected) (received sent unsent : Bytes) : Negotiation :=
  ⟨⟨⟨received, []⟩, none⟩,
    ⟨⟨[], unsent⟩, some chosen, if unsent.isEmpty then some (.ok chosen) else none⟩, [], sent⟩

def ended (chosen : Selected) : Negotiation :=
  ⟨⟨⟨[], []⟩, some (.ok chosen)⟩, ⟨⟨[], []⟩, some chosen, some (.ok chosen)⟩, [], []⟩

section Phases

variable (protoInfos : ProtoInfos) (info : ProtocolInfo)

/-- What both sides are to get. -/
def chosen : Selected := (info.name, ServerSelect.version protoInfos info)

/-- The bytes of the answer. -/
def answer : Bytes := putFrame (ServerSelect.reply protoInfos info).encode

/-- The phases, with where the bytes are. -/
inductive Phase : Negotiation → Prop
  | asking (received sent unsent : Bytes)
      (hall : received ++ (sent ++ unsent) = putFrame info.encode) (hwait : sent ++ unsent ≠ []) :
    Phase (asking received sent unsent)
  | answering (received sent unsent : Bytes)
      (hall : received ++ (sent ++ unsent) = answer protoInfos info)
      (hwait : sent ++ unsent ≠ []) :
    Phase (answering (chosen protoInfos info) received sent unsent)
  | ended : Phase (ended (chosen protoInfos info))

end Phases

/-- The bytes that are still to be moved; those of the answer count from the beginning. -/
def rank (answer : ℕ) (n : Negotiation) : ℕ :=
  2 * n.client.socket.writeBuf.length + n.toServer.length +
    match n.server.chosen with
    | none => 2 * answer + 1
    | some _ => 2 * n.server.socket.writeBuf.length + n.toClient.length

theorem rank_asking (answer : ℕ) (received sent unsent : Bytes) :
    (asking received sent unsent).rank answer
      = 2 * unsent.length + sent.length + (2 * answer + 1) := rfl

theorem rank_answering (answer : ℕ) (chosen : Selected) (received sent unsent : Bytes) :
    (answering chosen received sent unsent).rank answer = 2 * unsent.length + sent.length :=
  Nat.zero_add _

variable {limit : ℕ} {protoInfos : ProtoInfos} {info : ProtocolInfo} {n : Negotiation}

/-! ### What arrives -/

/-- A message that is not complete is waited for. -/
theorem nextFrame_of_isPrefix {data received more writeBuf : Bytes} (hlimit : limit < 2 ^ 32)
    (hlength : data.length ≤ limit) (hall : received ++ more = putFrame data) (hmore : more ≠ []) :
    nextFrame limit ⟨received, writeBuf⟩ = (none, ⟨received, writeBuf⟩) := by
  rw [nextFrame, takeFrame_of_isPrefix hlimit hlength hall hmore]

/-- A message that is complete is read. -/
theorem nextFrame_of_putFrame {data received writeBuf : Bytes} (hlimit : limit < 2 ^ 32)
    (hlength : data.length ≤ limit) (hall : received = putFrame data) :
    nextFrame limit ⟨received, writeBuf⟩ = (some (some (.ok data)), ⟨[], writeBuf⟩) := by
  have htake : takeFrame limit received = .frame data [] := by
    rw [hall, ← takeFrame_putFrame hlimit hlength [], List.append_nil]
  rw [nextFrame, htake]

theorem remoteInfo_of_decode {data : Bytes} (h : ProtocolInfo.decode data = some info) :
    remoteInfo (some (.ok data)) = .ok info := by
  rw [remoteInfo, h]

theorem startSend_of_le {socket : Framed} {data : Bytes} (h : data.length ≤ limit) :
    socket.startSend limit data
      = some { socket with writeBuf := socket.writeBuf ++ putFrame data } :=
  if_neg (Nat.not_lt.mpr h)

/-- A client takes the name and the last version of whatever it reads. -/
theorem client_readable_of_encode {remote : ProtocolInfo} {received chunk : Bytes}
    (hlimit : limit < 2 ^ 32) (hlength : remote.encode.length ≤ limit)
    (hall : received ++ chunk = putFrame remote.encode) :
    ClientSelect.readable limit ⟨⟨received, []⟩, none⟩ chunk =
      ⟨⟨[], []⟩, some (.ok (remote.name, remote.supportVersions.getLast?))⟩ := by
  have hinfo := remoteInfo_of_decode
    (ProtocolInfo.decode_encode (Nat.lt_of_le_of_lt hlength hlimit))
  rw [ClientSelect.readable, Framed.read, nextFrame_of_putFrame hlimit hlength hall]
  dsimp only
  rw [ClientSelect.receive, hinfo]
  rfl

section Steps

variable (hlimit : limit < 2 ^ 32) (hoffer : info.encode.length ≤ limit)
  (hreply : (ServerSelect.reply protoInfos info).encode.length ≤ limit)

include hlimit hoffer in
/-- The server gets a part of the offer. -/
theorem server_readable_of_isPrefix {received chunk more : Bytes}
    (hall : received ++ chunk ++ more = putFrame info.encode) (hmore : more ≠ []) :
    ServerSelect.readable limit protoInfos ⟨⟨received, []⟩, none, none⟩ chunk
      = ⟨⟨received ++ chunk, []⟩, none, none⟩ := by
  rw [ServerSelect.readable, Framed.read, nextFrame_of_isPrefix hlimit hoffer hall hmore]

include hlimit hoffer hreply in
/-- The server has got the offer, and is to send its answer. -/
theorem server_readable_of_putFrame {received chunk : Bytes}
    (hall : received ++ chunk = putFrame info.encode) :
    ServerSelect.readable limit protoInfos ⟨⟨received, []⟩, none, none⟩ chunk =
      ⟨⟨[], answer protoInfos info⟩, some (chosen protoInfos info), none⟩ := by
  have hinfo := remoteInfo_of_decode
    (ProtocolInfo.decode_encode (Nat.lt_of_le_of_lt hoffer hlimit))
  rw [ServerSelect.readable, Framed.read, nextFrame_of_putFrame hlimit hoffer hall]
  dsimp only
  rw [ServerSelect.receive, hinfo]
  dsimp only
  rw [startSend_of_le hreply]
  rfl

include hlimit hreply in
/-- The client gets a part of the answer. -/
theorem client_readable_of_isPrefix {received chunk more : Bytes}
    (hall : received ++ chunk ++ more = answer protoInfos info) (hmore : more ≠ []) :
    ClientSelect.readable limit ⟨⟨received, []⟩, none⟩ chunk = ⟨⟨received ++ chunk, []⟩, none⟩ := by
  rw [ClientSelect.readable, Framed.read, nextFrame_of_isPrefix hlimit hreply hall hmore]

include hlimit hreply in
/-- The client has got the answer: its only version is the last one. -/
theorem client_readable_of_putFrame {received chunk : Bytes}
    (hall : received ++ chunk = answer protoInfos info) :
    ClientSelect.readable limit ⟨⟨received, []⟩, none⟩ chunk =
      ⟨⟨[], []⟩, some (.ok (chosen protoInfos info))⟩ := by
  have hlast : (ServerSelect.reply protoInfos info).supportVersions.getLast?
      = ServerSelect.version protoInfos info := by
    rw [ServerSelect.reply]
    cases ServerSelect.version protoInfos info <;> rfl
  rw [client_readable_of_encode hlimit hreply hall, hlast]
  rfl

/-! ### Transfers -/

/-- What a transfer does in a phase: it keeps the phase or begins the next one, and it lowers the
rank or changes nothing. -/
structure Moves (protoInfos : ProtoInfos) (info : ProtocolInfo) (n n' : Negotiation) : Prop where
  phase : Phase protoInfos info n'
  lower : n' = n ∨
    n'.rank (answer protoInfos info).length < n.rank (answer protoInfos info).length

theorem Moves.idle {n' : Negotiation} (h : Phase protoInfos info n) (heq : n' = n) :
    Moves protoInfos info n n' := ⟨heq ▸ h, .inl heq⟩

/-- A write moves bytes from those not sent to those sent. -/
theorem append_take_drop (sent unsent : Bytes) (k : ℕ) :
    sent ++ unsent.take k ++ unsent.drop k = sent ++ unsent := by
  rw [List.append_assoc, List.take_append_drop]

/-- A read takes at least one byte of those sent. -/
theorem length_drop_succ_lt (b : UInt8) (sent : Bytes) (k : ℕ) :
    ((b :: sent).drop (k + 1)).length < (b :: sent).length := by
  rw [List.length_drop, List.length_cons]
  omega

include hlimit hoffer hreply in
theorem moves_asking {received sent unsent : Bytes}
    (hall : received ++ (sent ++ unsent) = putFrame info.encode) (hwait : sent ++ unsent ≠ [])
    (t : Transfer) : Moves protoInfos info (asking received sent unsent)
      (step limit protoInfos (asking received sent unsent) t) := by
  have hphase : Phase protoInfos info (asking received sent unsent) :=
    .asking received sent unsent hall hwait
  obtain ⟨activity, more⟩ := t
  cases activity with
  | clientWrites =>
    cases unsent with
    | nil => exact .idle hphase (by simp [step, asking, ClientSelect.writable, Framed.write])
    | cons b unsent =>
      have hmoved := append_take_drop sent (b :: unsent) (more + 1)
      refine ⟨.asking received _ _ (hmoved ▸ hall) (hmoved ▸ hwait), .inr ?_⟩
      change (asking received (sent ++ (b :: unsent).take (more + 1))
        ((b :: unsent).drop (more + 1))).rank _ < _
      simp only [rank_asking, List.length_append, List.length_take, List.length_drop,
        List.length_cons]
      omega
  | serverReads =>
    cases sent with
    | nil => exact .idle hphase rfl
    | cons b sent =>
      have hsplit := List.take_append_drop (more + 1) (b :: sent)
      have hshort := length_drop_succ_lt b sent more
      have hstep : step limit protoInfos (asking received (b :: sent) unsent) ⟨.serverReads, more⟩ =
          ⟨⟨⟨[], unsent⟩, none⟩, ServerSelect.readable limit protoInfos ⟨⟨received, []⟩, none, none⟩
            ((b :: sent).take (more + 1)), (b :: sent).drop (more + 1), []⟩ := rfl
      rw [hstep]
      rw [← hsplit, List.append_assoc, ← List.append_assoc] at hall
      generalize (b :: sent).take (more + 1) = chunk at hall ⊢
      generalize (b :: sent).drop (more + 1) = rest at hall hshort ⊢
      by_cases hrest : rest ++ unsent = []
      · -- the last byte of the offer
        obtain ⟨rfl, rfl⟩ := List.append_eq_nil_iff.mp hrest
        rw [List.append_nil, List.append_nil] at hall
        rw [server_readable_of_putFrame hlimit hoffer hreply hall]
        have hnext : Phase protoInfos info
            (answering (chosen protoInfos info) [] [] (answer protoInfos info)) :=
          .answering [] [] _ rfl (putFrame_ne_nil _)
        refine ⟨hnext, .inr ?_⟩
        change (answering (chosen protoInfos info) [] [] (answer protoInfos info)).rank _ < _
        rw [rank_answering, rank_asking]
        simp only [List.length_nil]
        omega
      · rw [server_readable_of_isPrefix hlimit hoffer hall hrest]
        refine ⟨.asking (received ++ chunk) rest unsent hall hrest, .inr ?_⟩
        change (asking (received ++ chunk) rest unsent).rank _ < _
        rw [rank_asking, rank_asking]
        omega
  | serverWrites => exact .idle hphase rfl
  | clientReads =>
    refine .idle hphase ?_
    simp [step, asking]

include hlimit hreply in
theorem moves_answering {received sent unsent : Bytes}
    (hall : received ++ (sent ++ unsent) = answer protoInfos info) (hwait : sent ++ unsent ≠ [])
    (t : Transfer) :
    Moves protoInfos info (answering (chosen protoInfos info) received sent unsent)
      (step limit protoInfos (answering (chosen protoInfos info) received sent unsent) t) := by
  have hphase : Phase protoInfos info (answering (chosen protoInfos info) received sent unsent) :=
    .answering received sent unsent hall hwait
  obtain ⟨activity, more⟩ := t
  cases activity with
  | clientWrites => exact .idle hphase rfl
  | serverReads =>
    refine .idle hphase ?_
    simp [step, answering, ServerSelect.reads]
  | serverWrites =>
    cases unsent with
    | nil => exact .idle hphase (by simp [step, answering, ServerSelect.writable])
    | cons b unsent =>
      have hmoved := append_take_drop sent (b :: unsent) (more + 1)
      refine ⟨.answering received _ _ (hmoved ▸ hall) (hmoved ▸ hwait), .inr ?_⟩
      change (answering (chosen protoInfos info) received (sent ++ (b :: unsent).take (more + 1))
        ((b :: unsent).drop (more + 1))).rank _ < _
      simp only [rank_answering, List.length_append, List.length_take, List.length_drop,
        List.length_cons]
      omega
  | clientReads =>
    cases sent with
    | nil => exact .idle hphase rfl
    | cons b sent =>
      have hsplit := List.take_append_drop (more + 1) (b :: sent)
      have hshort := length_drop_succ_lt b sent more
      have hstep : step limit protoInfos
          (answering (chosen protoInfos info) received (b :: sent) unsent) ⟨.clientReads, more⟩ =
          ⟨ClientSelect.readable limit ⟨⟨received, []⟩, none⟩ ((b :: sent).take (more + 1)),
            ⟨⟨[], unsent⟩, some (chosen protoInfos info),
              if unsent.isEmpty then some (.ok (chosen protoInfos info)) else none⟩,
            [], (b :: sent).drop (more + 1)⟩ := rfl
      rw [hstep]
      rw [← hsplit, List.append_assoc, ← List.append_assoc] at hall
      generalize (b :: sent).take (more + 1) = chunk at hall ⊢
      generalize (b :: sent).drop (more + 1) = rest at hall hshort ⊢
      by_cases hrest : rest ++ unsent = []
      · -- the last byte of the answer
        obtain ⟨rfl, rfl⟩ := List.append_eq_nil_iff.mp hrest
        rw [List.append_nil, List.append_nil] at hall
        rw [client_readable_of_putFrame hlimit hreply hall]
        refine ⟨.ended, .inr ?_⟩
        change 0 < _
        rw [rank_answering, List.length_cons]
        omega
      · rw [client_readable_of_isPrefix hlimit hreply hall hrest]
        refine ⟨.answering (received ++ chunk) rest unsent hall hrest, .inr ?_⟩
        change (answering (chosen protoInfos info) (received ++ chunk) rest unsent).rank _ < _
        rw [rank_answering, rank_answering]
        omega

include hlimit hoffer hreply in
/-- **A transfer moves bytes on**, and when the last byte of a message arrives, the next phase
begins. -/
theorem moves_step (h : Phase protoInfos info n) (t : Transfer) :
    Moves protoInfos info n (step limit protoInfos n t) := by
  cases h with
  | asking received sent unsent hall hwait => exact moves_asking hlimit hoffer hreply hall hwait t
  | answering received sent unsent hall hwait => exact moves_answering hlimit hreply hall hwait t
  | ended =>
    obtain ⟨activity, more⟩ := t
    cases activity <;> exact .idle .ended rfl

include hlimit hoffer hreply in
/-- Before it is over, there is a transfer to be made: what is under way is read, and if nothing is
under way, there is something to send. -/
theorem lower_of_not_ended (h : Phase protoInfos info n)
    (hended : n ≠ ended (chosen protoInfos info)) :
    ∃ activity, ∀ t : Transfer, t.activity = activity →
      (step limit protoInfos n t).rank (answer protoInfos info).length
        < n.rank (answer protoInfos info).length := by
  -- an activity that changes something lowers the rank
  have hlower : ∀ activity, (∀ more, step limit protoInfos n ⟨activity, more⟩ ≠ n) →
      ∀ t : Transfer, t.activity = activity →
        (step limit protoInfos n t).rank (answer protoInfos info).length
          < n.rank (answer protoInfos info).length := by
    rintro activity hne ⟨_, more⟩ rfl
    exact (moves_step hlimit hoffer hreply h _).lower.resolve_left (hne more)
  cases h with
  | asking received sent unsent hall hwait =>
    cases sent with
    | cons b sent =>
      refine ⟨.serverReads, hlower _ fun more heq => ?_⟩
      have hlength := congrArg (fun n => n.toServer.length) heq
      simp [step, asking, ServerSelect.reads] at hlength
      omega
    | nil =>
      refine ⟨.clientWrites, hlower _ fun more heq => ?_⟩
      have hlength := congrArg (fun n => n.client.socket.writeBuf.length) heq
      have hpos := List.length_pos_iff.mpr hwait
      simp [step, asking, ClientSelect.writable, Framed.write] at hlength hpos
      omega
  | answering received sent unsent hall hwait =>
    cases sent with
    | cons b sent =>
      refine ⟨.clientReads, hlower _ fun more heq => ?_⟩
      have hlength := congrArg (fun n => n.toClient.length) heq
      simp [step, answering, ClientSelect.reads] at hlength
      omega
    | nil =>
      refine ⟨.serverWrites, hlower _ fun more heq => ?_⟩
      have hpos := List.length_pos_iff.mpr hwait
      cases unsent with
      | nil => exact absurd rfl hwait
      | cons b unsent =>
        have hlength := congrArg (fun n => n.server.socket.writeBuf.length) heq
        simp [step, answering, ServerSelect.writable, Framed.write] at hlength
        omega
  | ended => exact absurd rfl hended

end Steps

/-! ### Versions -/

section Default

variable (hdefault : ∀ name entry, protoInfos.lookup name = some entry → entry.2 = none)

include hdefault in
theorem version_of_lookup {entry : ProtocolInfo × Option SelectFn}
    (h : protoInfos.lookup info.name = some entry) :
    ServerSelect.version protoInfos info
      = selectVersion entry.1.supportVersions info.supportVersions := by
  obtain ⟨ours, select⟩ := entry
  obtain rfl : select = none := hdefault _ _ h
  rw [ServerSelect.version, h]
  rfl

include hdefault in
theorem version_eq_none_iff : ServerSelect.version protoInfos info = none ↔
    protoInfos.lookup info.name = none ∨ ∃ entry, protoInfos.lookup info.name = some entry ∧
      selectVersion entry.1.supportVersions info.supportVersions = none := by
  cases hlookup : protoInfos.lookup info.name with
  | none =>
    refine ⟨fun _ => .inl rfl, fun _ => ?_⟩
    rw [ServerSelect.version, hlookup]
    rfl
  | some entry =>
    rw [version_of_lookup hdefault hlookup]
    constructor
    · intro hnone
      exact .inr ⟨entry, rfl, hnone⟩
    · rintro (hnone | ⟨_, heq, hnone⟩)
      · cases hnone
      · cases heq
        exact hnone

include hdefault in
theorem mem_of_version {v : String} (h : ServerSelect.version protoInfos info = some v) :
    ∃ entry, protoInfos.lookup info.name = some entry ∧ v ∈ entry.1.supportVersions ∧
      v ∈ info.supportVersions := by
  cases hlookup : protoInfos.lookup info.name with
  | none =>
    have hnone := (version_eq_none_iff hdefault).mpr (.inl hlookup)
    rw [hnone] at h
    cases h
  | some entry =>
    rw [version_of_lookup hdefault hlookup] at h
    exact ⟨entry, rfl, mem_of_selectVersion h⟩

include hdefault in
/-- The answer is no longer than the offer. -/
theorem length_reply_le :
    (ServerSelect.reply protoInfos info).encode.length ≤ info.encode.length := by
  refine ProtocolInfo.length_encode_reply fun v hv => ?_
  obtain ⟨entry, -, -, hmem⟩ := mem_of_version hdefault hv
  exact hmem

end Default

/-! ### Agreement -/

theorem phase_start (hoffer : info.encode.length ≤ limit) :
    Phase protoInfos info (start limit info) := by
  rw [start, ClientSelect.start, startSend_of_le hoffer]
  exact .asking [] [] (putFrame info.encode) rfl (putFrame_ne_nil _)

/-- A side that has finished has got what it is to get. -/
theorem result_of_phase (h : Phase protoInfos info n) {result : Except SelectError Selected}
    (hresult : n.client.result = some result ∨ n.server.result = some result) :
    result = .ok (chosen protoInfos info) := by
  cases h with
  | asking =>
    rcases hresult with hresult | hresult
    · cases hresult
    · cases hresult
  | answering received sent unsent =>
    rcases hresult with hresult | hresult
    · cases hresult
    · simp only [answering] at hresult
      split at hresult
      · exact (Option.some.inj hresult).symm
      · cases hresult
  | ended =>
    rcases hresult with hresult | hresult
    · exact (Option.some.inj hresult).symm
    · exact (Option.some.inj hresult).symm

/-- **Both sides select the same version.**  However the bytes are cut, a side that has finished
has the name and the version; if each activity occurs again and again, both finish. -/
theorem select_agree (info : ProtocolInfo) (protoInfos : ProtoInfos)
    (hdefault : ∀ name entry, protoInfos.lookup name = some entry → entry.2 = none)
    (hlimit : info.encode.length ≤ selectFrameLimit) (transfers : ℕ → Transfer) :
    ∃ version : Option String,
      (∀ m result,
        (stateAt (step selectFrameLimit protoInfos) (start selectFrameLimit info) transfers
          m).client.result = some result ∨
        (stateAt (step selectFrameLimit protoInfos) (start selectFrameLimit info) transfers
          m).server.result = some result → result = .ok (info.name, version)) ∧
      (Fair Transfer.activity transfers → ∃ finish, ∀ m, finish ≤ m →
        (stateAt (step selectFrameLimit protoInfos) (start selectFrameLimit info) transfers
          m).client.result = some (.ok (info.name, version)) ∧
        (stateAt (step selectFrameLimit protoInfos) (start selectFrameLimit info) transfers
          m).server.result = some (.ok (info.name, version))) ∧
      (version = none ↔ protoInfos.lookup info.name = none ∨
        ∃ entry, protoInfos.lookup info.name = some entry ∧
          selectVersion entry.1.supportVersions info.supportVersions = none) ∧
      ∀ v, version = some v → ∃ entry, protoInfos.lookup info.name = some entry ∧
        v ∈ entry.1.supportVersions ∧ v ∈ info.supportVersions := by
  have hsmall : selectFrameLimit < 2 ^ 32 := by decide
  generalize selectFrameLimit = limit at hlimit hsmall ⊢
  have hreply : (ServerSelect.reply protoInfos info).encode.length ≤ limit :=
    (length_reply_le hdefault).trans hlimit
  have hstep : ∀ n t, Phase protoInfos info n → Phase protoInfos info (step limit protoInfos n t) :=
    fun n t h => (moves_step hsmall hlimit hreply h t).phase
  have hstart : Phase protoInfos info (start limit info) := phase_start hlimit
  refine ⟨ServerSelect.version protoInfos info, ?_, ?_, version_eq_none_iff hdefault, ?_⟩
  · intro m result hresult
    exact result_of_phase (inv_stateAt hstep hstart transfers m) hresult
  · intro hfair
    obtain ⟨finish, hended⟩ := eventually_always_of_fair
      (Q := fun n => n = ended (chosen protoInfos info)) hstep
      (fun n t h => (moves_step hsmall hlimit hreply h t).lower)
      (fun n h hended => lower_of_not_ended hsmall hlimit hreply h hended)
      (fun n t h hended => by
        obtain ⟨activity, more⟩ := t
        rw [hended]
        cases activity <;> rfl) hstart hfair
    refine ⟨finish, fun m hle => ?_⟩
    rw [hended m hle]
    exact ⟨rfl, rfl⟩
  · intro v hv
    exact mem_of_version hdefault hv

/-- The activities in turn, one byte at a time. -/
def byteByByte (m : ℕ) : Transfer :=
  match m % 4 with
  | 0 => ⟨.clientWrites, 0⟩
  | 1 => ⟨.serverReads, 0⟩
  | 2 => ⟨.serverWrites, 0⟩
  | _ => ⟨.clientReads, 0⟩

theorem fair_byteByByte : Fair Transfer.activity byteByByte := by
  intro activity n
  cases activity with
  | clientWrites => exact ⟨4 * n, by omega, by simp [byteByByte]⟩
  | serverReads => exact ⟨4 * n + 1, by omega, by simp [byteByByte, Nat.add_mod]⟩
  | serverWrites => exact ⟨4 * n + 2, by omega, by simp [byteByByte, Nat.add_mod]⟩
  | clientReads => exact ⟨4 * n + 3, by omega, by simp [byteByByte, Nat.add_mod]⟩

/-- What a client offers for a protocol with three versions. -/
def pingOffer : ProtocolInfo := ⟨"ping", ["0.0.1", "0.0.2", "0.1.0"]⟩

/-- A server that knows two of the versions. -/
def pingServer : ProtoInfos :=
  AList.singleton "ping" (⟨"ping", ["0.0.1", "0.0.2"]⟩, none)

/-- The sides agree on a version that both know. -/
theorem select_agree_ping : ∃ version finish, ∀ m, finish ≤ m →
    (stateAt (step selectFrameLimit pingServer) (start selectFrameLimit pingOffer) byteByByte
      m).client.result = some (.ok ("ping", some version)) ∧
    (stateAt (step selectFrameLimit pingServer) (start selectFrameLimit pingOffer) byteByByte
      m).server.result = some (.ok ("ping", some version)) := by
  have hdefault : ∀ name entry, pingServer.lookup name = some entry → entry.2 = none := by
    intro name entry hentry
    have hmem : (⟨name, entry⟩ : Sigma fun _ : String => ProtocolInfo × Option SelectFn)
        ∈ pingServer.entries := AList.mem_lookup_iff.mp hentry
    cases List.mem_singleton.mp hmem
    rfl
  have hlimit : pingOffer.encode.length ≤ selectFrameLimit := by
    rw [ProtocolInfo.length_encode]
    decide
  have hsome : selectVersion ["0.0.1", "0.0.2"] pingOffer.supportVersions ≠ none := by
    have hless : compare "0.0.2" "0.1.0" = .lt := by decide +kernel
    simp [selectVersion, pingOffer, selectLoop, hless]
  obtain ⟨version, -, hfinish, hnone, -⟩ :=
    select_agree pingOffer pingServer hdefault hlimit byteByByte
  obtain ⟨finish, hboth⟩ := hfinish fair_byteByByte
  cases version with
  | some version => exact ⟨version, finish, hboth⟩
  | none =>
    exfalso
    rcases hnone.mp rfl with hlookup | ⟨entry, hlookup, hnone⟩
    · cases hlookup
    · cases hlookup
      exact hsome hnone

end Negotiation

end Tentacle
end CkbP2P

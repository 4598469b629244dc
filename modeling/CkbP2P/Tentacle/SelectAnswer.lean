import CkbP2P.Lib.Run
import CkbP2P.Tentacle.Session
import CkbP2P.Tentacle.SelectAgreement

/-!
# What a client makes of an answer

The side that opens a substream offers a protocol with its versions and waits for an answer.
Nothing says that the other side runs `server_select`: the answer may be any bytes.
`client_select` returns the name and the last version of whatever it can decode, and the session
opens the protocol of this name.  It does not compare the answer with its offer.  What it gets
is therefore in the offer exactly when the answer is.
-/

namespace CkbP2P
namespace Tentacle

open Lib

/-- What happens to a client: its stream takes bytes, has bytes, has ended, or fails. -/
inductive ClientEvent where
  | writable (amount : ℕ)
  | readable (chunk : Bytes)
  | ended
  | failed (error : SelectError)

/-- A client does one thing after the other. -/
def ClientSelect.step (limit : ℕ) (c : ClientSelect) : ClientEvent → ClientSelect
  | .writable amount => (c.writable amount).1
  | .readable chunk => if c.reads then c.readable limit chunk else c
  | .ended => if c.reads then { c with result := some (receive none) } else c
  | .failed error =>
    if c.result.isNone then { c with result := some (receive (some (.error error))) } else c

/-- An answer keeps to an offer: if it chooses a version, then of the protocol and among the
versions that were offered. -/
def ProtocolInfo.Answered (info : ProtocolInfo) (data : Bytes) : Prop :=
  ∀ remote, decode data = some remote → ∀ version, remote.supportVersions.getLast? = some version →
    remote.name = info.name ∧ version ∈ info.supportVersions

/-! ### Runs of a client -/

/-- A client, and the bytes it has received. -/
structure Heard where
  client : ClientSelect
  received : Bytes

namespace Heard

def start (limit : ℕ) (info : ProtocolInfo) : Heard := ⟨.start limit info, []⟩

def step (limit : ℕ) (x : Heard) (event : ClientEvent) : Heard :=
  { client := x.client.step limit event
    received := match event with
      | .readable chunk => if x.client.reads then x.received ++ chunk else x.received
      | _ => x.received }

/-- What a client has made of the bytes it has received. -/
structure Inv (limit : ℕ) (x : Heard) : Prop where
  /-- It waits for the first frame. -/
  waits : x.client.result = none →
    x.client.socket.readBuf = x.received ∧ takeFrame limit x.received = .pending
  /-- If the first frame is there, the result is what is in it. -/
  taken : ∀ result data rest, x.client.result = some result →
    takeFrame limit x.received = .frame data rest → result = ClientSelect.receive (some (.ok data))
  /-- Without it there is no choice. -/
  chosen : ∀ selected, x.client.result = some (.ok selected) →
    ∃ data rest, takeFrame limit x.received = .frame data rest

theorem inv_start (limit : ℕ) (info : ProtocolInfo) : (start limit info).Inv limit := by
  by_cases hlength : limit < info.encode.length
  · have hstart : start limit info = ⟨⟨Framed.new, some (.error .invalidInput)⟩, []⟩ := by
      rw [start, ClientSelect.start, Framed.startSend, if_pos hlength]
    rw [hstart]
    exact ⟨fun h => (by cases h), fun _ _ _ _ htake => (by cases htake), fun _ h => (by cases h)⟩
  · have hstart : start limit info = ⟨⟨⟨[], [] ++ putFrame info.encode⟩, none⟩, []⟩ := by
      rw [start, ClientSelect.start, Framed.startSend, if_neg hlength]
      rfl
    rw [hstart]
    exact ⟨fun _ => ⟨rfl, rfl⟩, fun _ _ _ h => (by cases h), fun _ h => (by cases h)⟩

/-- A client that stops before the first frame is complete has chosen nothing. -/
theorem Inv.stop {limit : ℕ} {x : Heard} (h : x.Inv limit) (hwaits : x.client.result = none)
    (error : SelectError) :
    Inv limit { x with client := { x.client with result := some (.error error) } } := by
  have hpending := (h.waits hwaits).2
  refine ⟨fun h => (by cases h), fun _ _ _ _ htake => ?_, fun _ h => (by cases h)⟩
  rw [hpending] at htake
  cases htake

/-- More bytes arrive. -/
theorem Inv.read {limit : ℕ} {x : Heard} (h : x.Inv limit) (hwaits : x.client.result = none)
    (chunk : Bytes) :
    Inv limit { client := x.client.readable limit chunk, received := x.received ++ chunk } := by
  obtain ⟨hbuf, -⟩ := h.waits hwaits
  have hread : (x.client.socket.read chunk).readBuf = x.received ++ chunk := by
    rw [Framed.read, hbuf]
  simp only [ClientSelect.readable, nextFrame, hread]
  cases htake : takeFrame limit (x.received ++ chunk) with
  | pending => exact ⟨fun _ => ⟨hread, htake⟩, by simp [hwaits], by simp [hwaits]⟩
  | tooBig =>
    refine ⟨fun h => (by cases h), fun _ _ _ _ htake' => ?_, fun _ h => (by cases h)⟩
    rw [htake] at htake'
    cases htake'
  | frame data rest =>
    refine ⟨fun h => (by cases h), fun result data' rest' hresult htake' => ?_,
      fun _ _ => ⟨data, rest, htake⟩⟩
    rw [htake] at htake'
    cases htake'
    exact (Option.some.inj hresult).symm

theorem result_of_reads {c : ClientSelect} (h : c.reads = true) : c.result = none := by
  rw [ClientSelect.reads, Bool.and_eq_true] at h
  exact Option.isNone_iff_eq_none.mp h.1

theorem Inv.step {limit : ℕ} {x : Heard} (h : x.Inv limit) (event : ClientEvent) :
    (x.step limit event).Inv limit := by
  cases event with
  | writable amount =>
    -- what is sent has nothing to do with what is received
    simp only [Heard.step, ClientSelect.step, ClientSelect.writable]
    cases hresult : x.client.result with
    | none =>
      exact ⟨fun _ => h.waits hresult, fun _ _ _ h => (by cases h), fun _ h => (by cases h)⟩
    | some result => exact h
  | readable chunk =>
    simp only [Heard.step, ClientSelect.step]
    split
    · next hreads => exact h.read (result_of_reads hreads) chunk
    · exact h
  | ended =>
    simp only [Heard.step, ClientSelect.step]
    split
    · next hreads => exact h.stop (result_of_reads hreads) .unexpectedEof
    · exact h
  | failed error =>
    simp only [Heard.step, ClientSelect.step]
    split
    · next hnone => exact h.stop (Option.isNone_iff_eq_none.mp hnone) error
    · exact h

theorem inv_run (limit : ℕ) (info : ProtocolInfo) (events : List ClientEvent) :
    (runFrom (step limit) (start limit info) events).Inv limit :=
  inv_runFrom (fun _ event h => h.step event) (inv_start limit info) events

end Heard

theorem ClientSelect.receive_eq_ok_iff (data : Bytes) (name : String) (version : Option String) :
    receive (some (.ok data)) = .ok (name, version) ↔ ∃ remote,
      ProtocolInfo.decode data = some remote ∧ remote.name = name ∧
        remote.supportVersions.getLast? = version := by
  rw [receive, remoteInfo]
  cases ProtocolInfo.decode data with
  | none =>
    constructor
    · intro hok
      cases hok
    · rintro ⟨_, heq, -⟩
      cases heq
  | some remote =>
    constructor
    · intro hok
      cases hok
      exact ⟨remote, rfl, rfl, rfl⟩
    · rintro ⟨_, heq, rfl, rfl⟩
      cases heq
      rfl

/-- **The choice is in the offer exactly when the answer keeps to it.** -/
theorem choice_offered_iff {limit : ℕ} {x : Heard} (h : x.Inv limit) (info : ProtocolInfo) :
    (∀ name version, x.client.result = some (.ok (name, some version)) →
      name = info.name ∧ version ∈ info.supportVersions) ↔
    ∀ data rest, takeFrame limit x.received = .frame data rest → info.Answered data := by
  constructor
  · intro hchoice data rest htake remote hdecode version hversion
    have hok : ClientSelect.receive (some (.ok data)) = .ok (remote.name, some version) :=
      (ClientSelect.receive_eq_ok_iff _ _ _).mpr ⟨remote, hdecode, rfl, hversion⟩
    cases hresult : x.client.result with
    | none =>
      rw [(h.waits hresult).2] at htake
      cases htake
    | some result =>
      obtain rfl := h.taken result data rest hresult htake
      exact hchoice remote.name version (hresult.trans (congrArg some hok))
  · intro hanswer name version hresult
    obtain ⟨data, rest, htake⟩ := h.chosen _ hresult
    have hok := (h.taken _ data rest hresult htake).symm
    obtain ⟨remote, hdecode, rfl, hversion⟩ := (ClientSelect.receive_eq_ok_iff _ _ _).mp hok
    exact hanswer data rest htake remote hdecode version hversion

/-! ### An honest server -/

/-- The answer of `server_select` keeps to the offer, if the function a protocol brings for the
selection does. -/
theorem answered_reply {protoInfos : ProtoInfos} {info : ProtocolInfo}
    (hselect : ∀ ours select, protoInfos.lookup info.name = some (ours, some select) →
      ∀ version, select ours.supportVersions info.supportVersions = some version →
        version ∈ info.supportVersions)
    (hlength : (ServerSelect.reply protoInfos info).encode.length < 2 ^ 32) :
    info.Answered (ServerSelect.reply protoInfos info).encode := by
  intro remote hdecode version hversion
  rw [ProtocolInfo.decode_encode hlength] at hdecode
  cases hdecode
  have hlast : ServerSelect.version protoInfos info = some version := by
    simp only [ServerSelect.reply] at hversion
    cases hchosen : ServerSelect.version protoInfos info with
    | none =>
      rw [hchosen] at hversion
      cases hversion
    | some v =>
      rw [hchosen] at hversion
      exact hversion
  refine ⟨rfl, ?_⟩
  rw [ServerSelect.version] at hlast
  cases hlookup : protoInfos.lookup info.name with
  | none =>
    rw [hlookup] at hlast
    cases hlast
  | some entry =>
    obtain ⟨ours, select⟩ := entry
    rw [hlookup] at hlast
    cases select with
    | none => exact (mem_of_selectVersion hlast).2
    | some select => exact hselect ours select hlookup version hlast

/-! ### The session -/

/-- The event a session gets at the end of a selection, or when it has taken too long. -/
def selectProcedure : Option (Except SelectError Selected) → ProtocolEvent
  | some (.ok (name, some version)) => .opened name version
  | some (.ok (name, none)) => .selectError (some name)
  | some (.error _) => .selectError none
  | none => .selectError none

/-- What a session opens at the end of a selection. -/
inductive Session.Opens (s : Session) (s' : Session) (chosen : ProtocolMeta → String → Prop) : Prop
  | nothing (hroutes : s'.protoStreams = s.protoStreams) (htasks : s'.tasks = s.tasks)
  | substream (proto : ProtocolMeta) (version : String) (hproto : proto ∈ s.protocols)
      (hchosen : chosen proto version)
      (hroutes : s'.protoStreams = s.protoStreams.insert proto.id s.nextStream)
      (htasks : s'.tasks = s.tasks.insert s.nextStream (s.newSubstream proto version))

/-- A session opens the protocol of the name it is told, with the version it is told. -/
theorem Session.opens_selectProcedure (s : Session)
    (result : Option (Except SelectError Selected)) :
    s.Opens (s.handleStreamEvent (selectProcedure result)) fun proto version =>
      result = some (.ok (proto.name, some version)) := by
  match result with
  | none | some (.error _) | some (.ok (_, none)) => exact .nothing rfl rfl
  | some (.ok (name, some version)) =>
    simp only [selectProcedure, handleStreamEvent, openProtocol]
    cases hfind : s.protocols.find? fun proto => proto.name == name with
    | none => exact .nothing rfl rfl
    | some proto =>
      dsimp only
      split
      · exact .nothing rfl rfl
      · have hfound : (proto.name == name) = true :=
          List.find?_some (p := fun proto : ProtocolMeta => proto.name == name) hfind
        have hname : proto.name = name := eq_of_beq hfound
        refine .substream proto version (List.mem_of_find?_eq_some hfind) ?_ rfl rfl
        rw [hname]

theorem Session.Opens.mono {s s' : Session} {chosen chosen' : ProtocolMeta → String → Prop}
    (h : s.Opens s' chosen) (himp : ∀ proto version, chosen proto version → chosen' proto version) :
    s.Opens s' chosen' := by
  cases h with
  | nothing hroutes htasks => exact .nothing hroutes htasks
  | substream proto version hproto hchosen hroutes htasks =>
    exact .substream proto version hproto (himp proto version hchosen) hroutes htasks

/-- **What is asked for is what is opened**, if the answer keeps to the offer.  Whatever the remote
sends and however it is cut: a client that finishes with a version has the name it asked for and
one of the versions it offered, and a session that learns of it opens nothing else. -/
theorem opens_offered (limit : ℕ) (info : ProtocolInfo) (events : List ClientEvent) (s : Session) :
    let heard := runFrom (Heard.step limit) (Heard.start limit info) events
    let result := heard.client.result
    ((∀ name version, result = some (.ok (name, some version)) →
        name = info.name ∧ version ∈ info.supportVersions) ↔
      ∀ data rest, takeFrame limit heard.received = .frame data rest → info.Answered data) ∧
    ((∀ data rest, takeFrame limit heard.received = .frame data rest → info.Answered data) →
      s.Opens (s.handleStreamEvent (selectProcedure result)) fun proto version =>
        proto.name = info.name ∧ version ∈ info.supportVersions) := by
  intro heard result
  have hiff := choice_offered_iff (Heard.inv_run limit info events) info
  refine ⟨hiff, fun hanswer => ?_⟩
  have hchoice := hiff.mpr hanswer
  exact (s.opens_selectProcedure result).mono fun proto version => hchoice proto.name version

/-! ### Any answer is taken -/

/-- The client sends its offer and gets an answer. -/
def exchange (info : ProtocolInfo) (answer : Bytes) : List ClientEvent :=
  [.writable (putFrame info.encode).length, .readable answer]

theorem run_exchange {limit : ℕ} {info remote : ProtocolInfo} (hlimit : limit < 2 ^ 32)
    (hoffer : info.encode.length ≤ limit) (hanswer : remote.encode.length ≤ limit) :
    runFrom (Heard.step limit) (Heard.start limit info)
        (exchange info (putFrame remote.encode)) =
      ⟨⟨⟨[], []⟩, some (.ok (remote.name, remote.supportVersions.getLast?))⟩,
        putFrame remote.encode⟩ := by
  have hstart : Heard.start limit info = ⟨⟨⟨[], putFrame info.encode⟩, none⟩, []⟩ := by
    rw [Heard.start, ClientSelect.start, Negotiation.startSend_of_le hoffer]
    rfl
  have hsent : Heard.step limit ⟨⟨⟨[], putFrame info.encode⟩, none⟩, []⟩
      (.writable (putFrame info.encode).length) = ⟨⟨⟨[], []⟩, none⟩, []⟩ := by
    simp only [Heard.step, ClientSelect.step, ClientSelect.writable, Framed.write, List.drop_length]
  have hread : ClientSelect.readable limit ⟨⟨[], []⟩, none⟩ (putFrame remote.encode) =
      ⟨⟨[], []⟩, some (.ok (remote.name, remote.supportVersions.getLast?))⟩ :=
    Negotiation.client_readable_of_encode hlimit hanswer (List.nil_append _)
  have hreads : ∀ answer, Heard.step limit ⟨⟨⟨[], []⟩, none⟩, []⟩ (.readable answer) =
      ⟨ClientSelect.readable limit ⟨⟨[], []⟩, none⟩ answer, answer⟩ := fun _ => rfl
  rw [exchange, hstart, runFrom, hsent, runFrom, runFrom, hreads, hread]

/-- A session that knows two protocols. -/
def pingAndSync : Session :=
  Session.new 1 [⟨1, "/ping", true, false⟩, ⟨2, "/sync", true, false⟩] (fun _ => none) 1024 16 16
    false

/-- The first of them is asked for. -/
def askPing : ProtocolInfo := ⟨"/ping", ["0.0.1"]⟩

/-- A version of the other one that nobody knows. -/
def answerSync : ProtocolInfo := ⟨"/sync", ["9.9.9"]⟩

/-- **A protocol that was not asked for is opened**, with a version that was not offered. -/
theorem opens_foreign :
    let result := (runFrom (Heard.step selectFrameLimit) (Heard.start selectFrameLimit askPing)
      (exchange askPing (putFrame answerSync.encode))).client.result
    let s := pingAndSync.handleStreamEvent (selectProcedure result)
    result = some (.ok ("/sync", some "9.9.9")) ∧
      s.protoStreams.lookup 2 = some 0 ∧ s.protoStreams.lookup 1 = none ∧
      (s.tasks.lookup 0).map (fun task => task.serviceProtoSender)
        = some (some [.connected 1 "9.9.9"]) := by
  have hoffer : askPing.encode.length ≤ selectFrameLimit := by
    rw [ProtocolInfo.length_encode]
    decide
  have hanswer : answerSync.encode.length ≤ selectFrameLimit := by
    rw [ProtocolInfo.length_encode]
    decide
  rw [run_exchange (by decide) hoffer hanswer]
  exact ⟨rfl, by decide +kernel, by decide +kernel, by decide +kernel⟩

/-- A server that knows the protocol opens it. -/
theorem opens_offered_ping :
    let answer := ServerSelect.reply (AList.singleton "/ping" (askPing, none)) askPing
    let result := (runFrom (Heard.step selectFrameLimit) (Heard.start selectFrameLimit askPing)
      (exchange askPing (putFrame answer.encode))).client.result
    pingAndSync.Opens (pingAndSync.handleStreamEvent (selectProcedure result))
      fun proto version => proto.name = "/ping" ∧ version ∈ ["0.0.1"] := by
  intro answer result
  have hoffer : askPing.encode.length ≤ selectFrameLimit := by
    rw [ProtocolInfo.length_encode]
    decide
  have hdefault : ∀ ours select,
      (AList.singleton "/ping" (askPing, none) : ProtoInfos).lookup askPing.name
        ≠ some (ours, some select) := by
    intro ours select hlookup
    cases hlookup
  have hlength : answer.encode.length ≤ selectFrameLimit := by
    rw [ProtocolInfo.length_encode]
    decide +kernel
  refine (opens_offered selectFrameLimit askPing _ pingAndSync).2 fun data rest htake => ?_
  have hsmall : selectFrameLimit < 2 ^ 32 := by decide
  rw [run_exchange hsmall hoffer hlength] at htake
  have hframe := takeFrame_putFrame hsmall hlength []
  rw [List.append_nil] at hframe
  rw [hframe] at htake
  cases htake
  exact answered_reply (fun ours select hlookup => absurd hlookup (hdefault ours select))
    (Nat.lt_of_le_of_lt hlength hsmall)

end Tentacle
end CkbP2P

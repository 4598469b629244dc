import CkbP2P.Lib.Lockstep
import CkbP2P.Secio.SecureStream
import CkbP2P.Secio.Transcript

/-!
# The handshake, frame by frame

A side sends its proposition, then its exchange, and then, as the first message of the encrypted
stream, the nonce of the other side; of the other side it waits for the same three.  Each frame
that it takes from its socket brings it to the next stage, or ends the handshake with an error.

A frame that is sent is flushed before the next one is waited for, so what a side sends is given
by the frame that it has got.

## Main definitions

* `Primitives`, `Party` — what the handshake is given.
* `Stage`, `Party.start`, `Party.get`, `Party.receive` — `handshake`, cut where it waits for a
  frame.
* `Compatible` — two parties whose handshake can succeed.
* `Party.Secured` — what stands behind a stream.
-/

namespace CkbP2P
namespace Secio

open Lib

/-! ### The procedure -/

/-- What the handshake takes from libraries. -/
structure Primitives where
  sha256 : Sha256
  hmac : Hmac
  secp : Secp256k1
  aead : Aead
  /-- `EphemeralPrivateKey`. -/
  Private : Type
  /-- `agree`, with our private key and the public key of the other side. -/
  agree : KeyAgreement → Private → Bytes → Option Bytes

/-- A side, with what it draws. -/
structure Party (prim : Primitives) where
  config : Config
  maxFrameLength : ℕ
  /-- The length of a frame is written with four bytes. -/
  length_lt : maxFrameLength < 2 ^ 32
  library : Library
  nonce : Vector UInt8 16
  sign : Vector UInt8 32 → Bytes
  /-- `generate_agreement`: a private key, and its public key. -/
  generate : KeyAgreement → Option (prim.Private × Bytes)

/-- How a handshake ends without a stream. -/
inductive HandshakeError where
  | negotiation (e : SecioError)
  | exchange (e : ExchangeError)
  | ephemeralKeyGenerationFailed
  | secretGenerationFailed
  | stream (e : StreamError)
  | unexpectedEof
  | nonceVerificationFailed
  deriving DecidableEq, Repr

/-- Where a handshake is. -/
inductive Stage (Private : Type) where
  /-- The proposition has been sent. -/
  | proposed
  /-- The exchange has been sent. -/
  | exchanged (r : Remote) (key : Private) (epubkey : Bytes)
  /-- The other side's nonce has been sent, and `got` has been read of ours. -/
  | verifying (stream : SecureStream) (r : Remote) (epubkey got : Bytes)
  | done (stream : SecureStream) (publicKey : PublicKey) (epubkey : Bytes)
  | failed (e : HandshakeError)

/-- `write_all` and `flush`. -/
def SecureStream.writeAll (aead : Aead) (stream : SecureStream) (buf : Bytes) :
    Except StreamError SecureStream :=
  if buf = [] then .ok stream
  else
    match stream.pollWrite aead buf true with
    | (_, .ready (.error e)) => .error e
    | (stream, _) => .ok stream

namespace Party

variable {prim : Primitives} (p : Party prim)

/-- `HandshakeContext<Local>`. -/
def context : Local := p.config.withLocal p.nonce

/-- `socket.send`; the codec refuses a frame that is too long. -/
def send (frame : Bytes) (next : Stage prim.Private) : Stage prim.Private × List Bytes :=
  if p.maxFrameLength < frame.length then (.failed (.stream .frameTooBig), []) else (next, [frame])

/-- Up to the first `socket.next`. -/
def start : Stage prim.Private × List Bytes := p.send p.context.propositionBytes .proposed

/-- From the proposition of the other side to the next `socket.next`. -/
def onPropose (frame : Bytes) : Stage prim.Private × List Bytes :=
  match p.context.withRemote prim.sha256 frame with
  | .error e => (.failed (.negotiation e), [])
  | .ok r =>
    match p.generate r.chosenExchange with
    | none => (.failed .ephemeralKeyGenerationFailed, [])
    | some (key, epubkey) =>
      p.send (r.exchange prim.sha256 p.sign epubkey).encode (.exchanged r key epubkey)

/-- `SecureStream::new` with its two ciphers. -/
def stream (keys : Keys) : SecureStream :=
  .new p.maxFrameLength (.newStream p.library keys.decodeCipher)
    (.newStream p.library keys.encodeCipher)

/-- From the exchange of the other side to `verify_nonce`. -/
def onExchange (r : Remote) (key : prim.Private) (epubkey frame : Bytes) :
    Stage prim.Private × List Bytes :=
  match r.receiveExchange prim.sha256 prim.secp frame with
  | .error e => (.failed (.exchange e), [])
  | .ok remoteKey =>
    match prim.agree r.chosenExchange key remoteKey with
    | none => (.failed .secretGenerationFailed, [])
    | some keyMaterial =>
      match r.deriveKeys prim.hmac keyMaterial with
      | .error e => (.failed (.negotiation e), [])
      | .ok keys =>
        match (p.stream keys).writeAll prim.aead r.nonce with
        | .error e => (.failed (.stream e), [])
        | .ok stream => (.verifying { stream with outgoing := [] } r epubkey [], stream.outgoing)

/-- `verify_nonce`, where `read_exact` has got some bytes and polls the stream once more. -/
def verifyNonce (stream : SecureStream) (r : Remote) (epubkey got : Bytes) : Stage prim.Private :=
  match stream.pollRead prim.aead (p.nonce.toList.length - got.length) with
  | (stream, .pending) => .verifying stream r epubkey got
  | (_, .ready (.error e)) => .failed (.stream e)
  | (_, .ready (.ok [])) => .failed .unexpectedEof
  | (stream, .ready (.ok (byte :: bytes))) =>
    let got := got ++ byte :: bytes
    if got.length < p.nonce.toList.length then .verifying stream r epubkey got
    else if got ≠ p.nonce.toList then .failed .nonceVerificationFailed
    else .done stream r.publicKey epubkey

/-- The codec has a frame. -/
def get (stage : Stage prim.Private) (frame : Bytes) : Stage prim.Private × List Bytes :=
  match stage with
  | .failed e => (.failed e, [])
  | .done stream publicKey epubkey =>
    (.done { stream with incoming := stream.incoming ++ [frame] } publicKey epubkey, [])
  | .proposed =>
    if p.maxFrameLength < frame.length then (.failed (.stream .frameTooBig), [])
    else p.onPropose frame
  | .exchanged r key epubkey =>
    if p.maxFrameLength < frame.length then (.failed (.stream .frameTooBig), [])
    else p.onExchange r key epubkey frame
  | .verifying stream r epubkey got =>
    if p.maxFrameLength < frame.length then (.failed (.stream .frameTooBig), [])
    else (p.verifyNonce { stream with incoming := stream.incoming ++ [frame] } r epubkey got, [])

/-- The connection has ended. -/
def ended : Stage prim.Private → Stage prim.Private
  | .proposed | .exchanged _ _ _ => .failed .unexpectedEof
  | .verifying stream r epubkey got => p.verifyNonce { stream with ended := true } r epubkey got
  | .done stream publicKey epubkey => .done { stream with ended := true } publicKey epubkey
  | .failed e => .failed e

/-- What `socket.next` gives. -/
def receive (stage : Stage prim.Private) : Option Bytes → Stage prim.Private × List Bytes
  | some frame => p.get stage frame
  | none => (p.ended stage, [])

end Party

/-! ### Streams at rest -/

/-- A stream for which nothing is on its way, after `n` messages sent and `m` received. -/
structure Rests (t : CipherType) (sends receives : Bytes) (limit n m : ℕ) (s : SecureStream) :
    Prop where
  encode : Keyed t sends .encrypt s.encodeCipher
  encode_iv : s.encodeCipher.iv = nonceAdvance^[n] (List.replicate t.ivSize 0)
  decode : Keyed t receives .decrypt s.decodeCipher
  decode_iv : s.decodeCipher.iv = nonceAdvance^[m] (List.replicate t.ivSize 0)
  limit : s.maxFrameLength = limit
  incoming : s.incoming = []
  outgoing : s.outgoing = []
  kept : s.recvBuf.bytes = []

section Streams

variable {aead : Aead} {t : CipherType} {sends receives chunk frame : Bytes} {limit n m : ℕ}
  {s : SecureStream}

theorem Rests.writeAll (h : Rests t sends receives limit n m s) (haead : aead.Inverts t sends limit)
    (hchunk : chunk ≠ []) (hfits : chunk.length + t.tagSize ≤ limit) :
    ∃ frame s', s.writeAll aead chunk = .ok s' ∧ s'.outgoing = [frame] ∧
      Holds aead t sends (nonceAdvance^[n + 1] (List.replicate t.ivSize 0)) chunk frame ∧
      Rests t sends receives limit (n + 1) m { s' with outgoing := [] } := by
  obtain ⟨rfl⟩ := h.limit
  obtain ⟨frame, hholds, heq⟩ := SecureStream.pollWrite_ready haead h.encode hfits
  obtain ⟨hkeyed, hiv⟩ := encrypt_keyed aead h.encode chunk
  rw [h.encode_iv, ← Function.iterate_succ_apply' nonceAdvance] at hholds hiv
  refine ⟨frame,
    { s with
      encodeCipher := (s.encodeCipher.encrypt aead chunk).1
      outgoing := s.outgoing ++ [frame] }, ?_, congrArg (· ++ [frame]) h.outgoing, hholds, ?_⟩
  · rw [SecureStream.writeAll, if_neg hchunk, heq]
  · exact { h with encode := hkeyed, encode_iv := hiv, limit := rfl, outgoing := rfl }

/-- A frame that holds no more than there is room for is handed out as a whole. -/
theorem Rests.pollRead (h : Rests t sends receives limit n m s)
    (hholds : Holds aead t receives (nonceAdvance^[m + 1] (List.replicate t.ivSize 0)) chunk frame)
    {remaining : ℕ} (hroom : chunk.length ≤ remaining) :
    ∃ s', { s with incoming := s.incoming ++ [frame] }.pollRead aead remaining
        = (s', .ready (.ok chunk)) ∧
      Rests t sends receives limit n (m + 1) s' := by
  rw [Function.iterate_succ_apply', ← h.decode_iv] at hholds
  obtain ⟨hkeyed, hiv⟩ := receive_keyed h.decode hholds true
  rw [h.decode_iv, ← Function.iterate_succ_apply' nonceAdvance] at hiv
  obtain ⟨kind, hkind, hdecode⟩ := SecureStream.decodeBuffer_eq aead s frame
  rw [receive_of_holds h.decode hholds true] at hdecode
  have hdrain : ({ s with incoming := [frame] } : SecureStream).drain remaining
      = ({ s with incoming := [frame] }, []) := by
    rw [SecureStream.drain, RecvBuf.isEmpty, RecvBuf.len, h.kept]
    rfl
  have hs : { s with incoming := [] } = s := by rw [← h.incoming]
  have hfits : (kind chunk).len ≤ remaining := by rwa [RecvBuf.len, hkind]
  refine ⟨{ s with decodeCipher := (s.decodeCipher.receive aead true frame).1 }, ?_,
    { h with decode := hkeyed, decode_iv := hiv }⟩
  rw [h.incoming, List.nil_append, SecureStream.pollRead, hdrain]
  dsimp only
  rw [if_neg (not_not.mpr rfl), hs, hdecode]
  simp only [Except.map]
  rw [if_pos hfits, hkind, h.incoming]

/-- **What is written to one is read from the other**, when the two have the keys of each other
and the messages sent are as many as those received. -/
theorem Rests.link {w r : SecureStream} {receives' sends' : Bytes} {limit' m' n' : ℕ}
    (hw : Rests t sends receives' limit n m' w) (hr : Rests t sends' sends limit' n' n r)
    (haead : aead.Inverts t sends limit) {events : List LinkEvent}
    (hfits : ∀ e ∈ events, e.Fits t limit) :
    let l := runFrom (Link.step aead) (Link.start w r) events
    l.obtained <+: l.written ∧ l.failed = false := by
  intro l
  have hiv : r.decodeCipher.iv = w.encodeCipher.iv := hr.decode_iv.trans hw.encode_iv.symm
  have hstart : Link.Inv aead t sends limit (Link.start w r) :=
    { writer := hw.encode, reader := hr.decode, limit := hw.limit, sound := rfl
      carries := ⟨[],
        by rw [Link.inFlight, Link.start, hr.incoming, hw.outgoing, hiv]; exact .nil _,
        by simp [Link.start, hr.kept]⟩ }
  have hinv : Link.Inv aead t sends limit l :=
    (throughout_of_guarded (Link.inv_step haead) hstart (guarded_of_forall_mem hfits _)).last
  obtain ⟨chunks, -, hwritten⟩ := hinv.carries
  exact ⟨⟨_, (List.append_assoc ..).symm.trans hwritten⟩, hinv.sound⟩

end Streams

/-! ### Honest parties -/

section Honest

variable {prim : Primitives} {a b : Party prim}

/-- `hashes_ordering`, when the other party is honest. -/
def Party.ordering (a b : Party prim) : Ordering :=
  a.context.hashesOrdering prim.sha256 b.config.publicKey b.nonce.toList

/-- What both choose, as one of them computes it. -/
def Party.choose (a b : Party prim) : Except SecioError (KeyAgreement × CipherType × Digest) :=
  a.config.choose (a.ordering b) b.config

/-- `HandshakeContext<Remote>`, when the other party is honest. -/
def Party.remote (a b : Party prim) (chosen : KeyAgreement × CipherType × Digest) : Remote :=
  a.config.remote b.config a.nonce b.nonce (a.ordering b) chosen

/-- The second frame. -/
def Party.exchange (a b : Party prim) (chosen : KeyAgreement × CipherType × Digest)
    (epubkey : Bytes) : Bytes :=
  ((a.remote b chosen).exchange prim.sha256 a.sign epubkey).encode

/-- The signature in the second frame verifies. -/
def Party.Signs (a b : Party prim) (chosen : KeyAgreement × CipherType × Digest)
    (epubkey : Bytes) : Prop :=
  let message := prim.sha256 ((a.remote b chosen).dataToSign epubkey)
  ∃ signature key, prim.secp.signatureFromDer (a.sign message) = some signature ∧
    prim.secp.pubkeyFromSlice a.config.publicKey.inner = some key ∧
    prim.secp.verify message signature key = true

/-- What the first party has to send can be sent, and the second can take it; the algorithms are
those that the two choose. -/
structure Party.Reaches (a b : Party prim) : Prop where
  propose : a.context.propositionBytes.length ≤ min a.maxFrameLength b.maxFrameLength
  exchange : ∀ chosen, a.choose b = .ok chosen → ∃ key epubkey,
    a.generate chosen.1 = some (key, epubkey) ∧ a.Signs b chosen epubkey ∧
    (a.exchange b chosen epubkey).length ≤ min a.maxFrameLength b.maxFrameLength
  nonce : 32 ≤ min a.maxFrameLength b.maxFrameLength
  aead : ∀ chosen key, a.choose b = .ok chosen → key.length = chosen.2.1.keySize →
    prim.aead.Inverts chosen.2.1 key a.maxFrameLength

/-- Two parties whose handshake can succeed: the libraries do what they are for, and no frame is
too long. -/
structure Compatible (a b : Party prim) : Prop where
  keys : a.config.publicKey ≠ b.config.publicKey
  ordering : a.ordering b ≠ .eq
  there : a.Reaches b
  back : b.Reaches a
  agree : ∀ chosen key epubkey key' epubkey', a.choose b = .ok chosen →
    a.generate chosen.1 = some (key, epubkey) → b.generate chosen.1 = some (key', epubkey') →
    ∃ secret, prim.agree chosen.1 key epubkey' = some secret ∧
      prim.agree chosen.1 key' epubkey = some secret

theorem ordering_swap (a b : Party prim) : b.ordering a = (a.ordering b).swap :=
  hashesOrdering_swap prim.sha256 a.config b.config a.nonce b.nonce

theorem Compatible.choose_swap (h : Compatible a b) : b.choose a = a.choose b := by
  rw [Party.choose, ordering_swap]
  exact Config.choose_swap h.ordering ..

theorem Compatible.symm (h : Compatible a b) : Compatible b a where
  keys := h.keys.symm
  ordering := by
    rw [ordering_swap, Ne, Ordering.swap_eq_iff_eq_swap]
    exact h.ordering
  there := h.back
  back := h.there
  agree chosen key epubkey key' epubkey' hchoose hb ha := by
    obtain ⟨secret, hsecret, hsecret'⟩ :=
      h.agree chosen key' epubkey' key epubkey (h.choose_swap.symm.trans hchoose) ha hb
    exact ⟨secret, hsecret', hsecret⟩

theorem Compatible.withRemote (h : Compatible a b) :
    a.context.withRemote prim.sha256 b.context.propositionBytes = (a.choose b).map (a.remote b) :=
  withRemote_withLocal prim.sha256 a.nonce b.nonce h.keys
    ((h.back.propose.trans (min_le_left _ _)).trans_lt b.length_lt) rfl

theorem Party.Reaches.start (h : a.Reaches b) :
    a.start = (.proposed, [a.context.propositionBytes]) :=
  if_neg (not_lt.mpr (h.propose.trans (min_le_left _ _)))

variable {chosen : KeyAgreement × CipherType × Digest} {key : prim.Private}
  {epubkey epubkey' secret : Bytes} {keys : Keys}

theorem get_propose_error (h : Compatible a b) {e : SecioError} (hchoose : a.choose b = .error e) :
    a.get .proposed b.context.propositionBytes = (.failed (.negotiation e), []) := by
  rw [Party.get, if_neg (not_lt.mpr (h.back.propose.trans (min_le_right _ _))), Party.onPropose,
    h.withRemote, hchoose]
  rfl

/-- **The first frame**: the algorithms are chosen, and the exchange is sent. -/
theorem get_propose (h : Compatible a b) (hchoose : a.choose b = .ok chosen)
    (hgenerate : a.generate chosen.1 = some (key, epubkey))
    (hlength : (a.exchange b chosen epubkey).length ≤ min a.maxFrameLength b.maxFrameLength) :
    a.get .proposed b.context.propositionBytes
      = (.exchanged (a.remote b chosen) key epubkey, [a.exchange b chosen epubkey]) := by
  rw [Party.get, if_neg (not_lt.mpr (h.back.propose.trans (min_le_right _ _))), Party.onPropose,
    h.withRemote, hchoose]
  dsimp only [Except.map]
  rw [show (a.remote b chosen).chosenExchange = chosen.1 from rfl, hgenerate]
  exact if_neg (not_lt.mpr (hlength.trans (min_le_left _ _)))

/-- The ciphers are of the type that was chosen, one for each direction. -/
theorem deriveKeys_ciphers {hmac : Hmac} {r : Remote} {keyMaterial : Bytes}
    (h : r.deriveKeys hmac keyMaterial = .ok keys) :
    keys.encodeCipher = ⟨r.chosenCipher, keys.encodeCipher.key, .encrypt⟩ ∧
      keys.decodeCipher = ⟨r.chosenCipher, keys.decodeCipher.key, .decrypt⟩ := by
  unfold Remote.deriveKeys at h
  cases hr : r.hashesOrdering <;> rw [hr] at h <;> cases h <;> exact ⟨rfl, rfl⟩

theorem rests_stream {r : Remote} (h : r.deriveKeys prim.hmac secret = .ok keys) :
    Rests r.chosenCipher keys.encodeCipher.key keys.decodeCipher.key a.maxFrameLength 0 0
      (a.stream keys) := by
  obtain ⟨hencode, hdecode⟩ := deriveKeys_ciphers h
  rw [Party.stream, hencode, hdecode]
  refine ⟨⟨rfl, rfl, rfl⟩, rfl, ⟨rfl, rfl, rfl⟩, rfl, rfl, rfl, rfl, ?_⟩
  cases hlibrary : a.library <;> rfl

/-- **The second frame**: the signature verifies, and the other's nonce is sent. -/
theorem get_exchange (h : Compatible a b) (hchoose : a.choose b = .ok chosen) (epubkey : Bytes)
    (hsigns : b.Signs a chosen epubkey')
    (hlength : (b.exchange a chosen epubkey').length ≤ min b.maxFrameLength a.maxFrameLength)
    (hagree : prim.agree chosen.1 key epubkey' = some secret)
    (hkeys : (a.remote b chosen).deriveKeys prim.hmac secret = .ok keys) :
    ∃ stream frame,
      a.get (.exchanged (a.remote b chosen) key epubkey) (b.exchange a chosen epubkey')
        = (.verifying stream (a.remote b chosen) epubkey [], [frame]) ∧
      Holds prim.aead chosen.2.1 keys.encodeCipher.key
        (nonceAdvance^[1] (List.replicate chosen.2.1.ivSize 0)) b.nonce.toList frame ∧
      Rests chosen.2.1 keys.encodeCipher.key keys.decodeCipher.key a.maxFrameLength 1 0 stream := by
  have hfits := hlength.trans (min_le_right _ _)
  obtain ⟨signature, secpKey, hder, hkey, hverify⟩ := hsigns
  have hexchange : (a.remote b chosen).receiveExchange prim.sha256 prim.secp
      (b.exchange a chosen epubkey') = .ok epubkey' :=
    -- what is checked is, byte for byte, what the other side has signed
    Remote.receiveExchange_of_decode
      (Exchange.decode_encode (hfits.trans_lt a.length_lt)) hder hkey hverify
  have haead := h.there.aead chosen _ hchoose (length_encode_key prim.hmac hkeys)
  have hroom : b.nonce.toList.length + chosen.2.1.tagSize ≤ a.maxFrameLength := by
    have hnonce := h.there.nonce.trans (min_le_left _ _)
    rw [Vector.length_toList]
    cases chosen.2.1 <;> exact hnonce
  obtain ⟨frame, stream, hwrite, hout, hholds, hrests⟩ :=
    (rests_stream (a := a) hkeys).writeAll haead
      (List.ne_nil_of_length_eq_add_one b.nonce.length_toList) hroom
  refine ⟨{ stream with outgoing := [] }, frame, ?_, hholds, hrests⟩
  rw [Party.get, if_neg (not_lt.mpr hfits), Party.onExchange, hexchange]
  dsimp only
  rw [show (a.remote b chosen).chosenExchange = chosen.1 from rfl, hagree]
  dsimp only
  rw [hkeys]
  dsimp only
  rw [show (a.remote b chosen).nonce = b.nonce.toList from rfl, hwrite]
  dsimp only
  rw [hout]

/-- **The third frame**: it is our nonce. -/
theorem get_nonce (epubkey : Bytes) (r : Remote) {t : CipherType} {sends receives frame : Bytes}
    {n : ℕ} {stream : SecureStream} (h : Rests t sends receives a.maxFrameLength n 0 stream)
    (hholds : Holds prim.aead t receives (nonceAdvance^[1] (List.replicate t.ivSize 0))
      a.nonce.toList frame) (hlimit : 32 ≤ a.maxFrameLength) :
    ∃ stream', a.get (.verifying stream r epubkey []) frame
        = (.done stream' r.publicKey epubkey, []) ∧
      Rests t sends receives a.maxFrameLength n 1 stream' := by
  have hlength : ¬ a.maxFrameLength < frame.length := by
    rw [hholds.length, Vector.length_toList]
    cases t <;> exact not_lt.mpr hlimit
  obtain ⟨stream', hread, hrests⟩ := h.pollRead hholds le_rfl
  obtain ⟨byte, bytes, hnonce⟩ :=
    List.exists_cons_of_ne_nil (List.ne_nil_of_length_eq_add_one a.nonce.length_toList)
  refine ⟨stream', ?_, hrests⟩
  rw [Party.get, if_neg hlength, Party.verifyNonce, List.length_nil, Nat.sub_zero, hread, hnonce]
  simp

/-- What is written to the first stream is read from the second. -/
def Reads (aead : Aead) (t : CipherType) (limit : ℕ) (w r : SecureStream) : Prop :=
  ∀ events : List LinkEvent, (∀ e ∈ events, e.Fits t limit) →
    let l := runFrom (Link.step aead) (Link.start w r) events
    l.obtained <+: l.written ∧ l.failed = false

/-- Both have the key of the other and a stream, and each reads what the other writes. -/
def Connected (a b : Party prim) (x y : Stage prim.Private) : Prop :=
  ∃ t stream stream' epubkey epubkey', x = .done stream b.config.publicKey epubkey ∧
    y = .done stream' a.config.publicKey epubkey' ∧
    Reads prim.aead t a.maxFrameLength stream stream' ∧
    Reads prim.aead t b.maxFrameLength stream' stream

/-- The stages of a handshake that succeeds. -/
def script (exchanged verifying done : Stage prim.Private) : ℕ → Stage prim.Private
  | 0 => .proposed
  | 1 => exchanged
  | 2 => verifying
  | _ => done

theorem mem_of_script {x₁ x₂ x₃ : Stage prim.Private} {e : HandshakeError} {i : ℕ}
    (h : script x₁ x₂ x₃ i = .failed e) : .failed e ∈ [x₁, x₂, x₃] := by
  rw [← h]
  match i, h with
  | 1, _ | 2, _ | _ + 3, _ => simp [script]

theorem answers_script {exchanged verifying done : Stage prim.Private} {x n x' n' : Bytes}
    (hpropose : a.get .proposed b.context.propositionBytes = (exchanged, [x]))
    (hexchange : a.get exchanged x' = (verifying, [n])) (hnonce : a.get verifying n' = (done, [])) :
    Answers a.get (script exchanged verifying done) [a.context.propositionBytes, x, n]
      [b.context.propositionBytes, x', n'] where
  length := rfl
  get
    | 0, _ => hpropose
    | 1, _ => hexchange
    | 2, _ => hnonce

/-- One frame ends it. -/
theorem answers_last {last : Stage prim.Private} {p q : Bytes}
    (h : a.get .proposed q = (last, [])) : Answers a.get (script last last last) [p] [q] where
  length := rfl
  get
    | 0, _ => h

/-- **The handshake of two parties that have an algorithm of each kind in common.** -/
theorem answers_of_choose (h : Compatible a b) (hchoose : a.choose b = .ok chosen) :
    ∃ x₁ x₂ x₃ y₁ y₂ y₃ ours theirs,
      Answers a.get (script x₁ x₂ x₃) (a.context.propositionBytes :: ours)
        (b.context.propositionBytes :: theirs) ∧
      Answers b.get (script y₁ y₂ y₃) (b.context.propositionBytes :: theirs)
        (a.context.propositionBytes :: ours) ∧
      theirs.length = 2 ∧ (∀ e, .failed e ∉ [x₁, x₂, x₃] ∧ .failed e ∉ [y₁, y₂, y₃]) ∧
      Connected a b x₃ y₃ := by
  have hchoose' := h.choose_swap.trans hchoose
  obtain ⟨key, epubkey, hgenerate, hsigns, hlength⟩ := h.there.exchange chosen hchoose
  obtain ⟨key', epubkey', hgenerate', hsigns', hlength'⟩ := h.back.exchange chosen hchoose'
  obtain ⟨secret, hagree, hagree'⟩ := h.agree _ _ _ _ _ hchoose hgenerate hgenerate'
  obtain ⟨keys, keys', hkeys, hkeys', hmirror⟩ := deriveKeys_mirror prim.hmac
    (a := a.remote b chosen) (b := b.remote a chosen) rfl rfl (ordering_swap a b) h.ordering secret
  have hpropose := get_propose h hchoose hgenerate hlength
  have hpropose' := get_propose h.symm hchoose' hgenerate' hlength'
  obtain ⟨stream, frame, hexchange, hholds, hrests⟩ :=
    get_exchange h hchoose epubkey hsigns' hlength' hagree hkeys
  obtain ⟨stream', frame', hexchange', hholds', hrests'⟩ :=
    get_exchange h.symm hchoose' epubkey' hsigns hlength hagree' hkeys'
  -- each side receives with the key that the other sends with
  rw [hmirror.encode_key] at hholds hrests
  rw [← hmirror.decode_key] at hholds' hrests'
  obtain ⟨last, hnonce, hlast⟩ := get_nonce epubkey (a.remote b chosen) hrests hholds'
    (h.there.nonce.trans (min_le_left _ _))
  obtain ⟨last', hnonce', hlast'⟩ := get_nonce epubkey' (b.remote a chosen) hrests' hholds
    (h.back.nonce.trans (min_le_left _ _))
  have haead := h.there.aead chosen _ hchoose (length_encode_key prim.hmac hkeys)
  have haead' := h.back.aead chosen _ hchoose' (length_encode_key prim.hmac hkeys')
  rw [hmirror.encode_key] at haead
  rw [← hmirror.decode_key] at haead'
  refine ⟨_, _, _, _, _, _, _, _, answers_script hpropose hexchange hnonce,
    answers_script hpropose' hexchange' hnonce', rfl, by simp, chosen.2.1, last, last', _, _, rfl,
    rfl, ?_, ?_⟩
  · exact fun _ hfits => hlast.link hlast' haead hfits
  · exact fun _ hfits => hlast'.link hlast haead' hfits

theorem Compatible.run (h : Compatible a b) {x₁ x₂ x₃ y₁ y₂ y₃ : Stage prim.Private}
    {ours theirs : List Bytes}
    (hours : Answers a.get (script x₁ x₂ x₃) (a.context.propositionBytes :: ours)
      (b.context.propositionBytes :: theirs))
    (htheirs : Answers b.get (script y₁ y₂ y₃) (b.context.propositionBytes :: theirs)
      (a.context.propositionBytes :: ours)) (deliveries : List Delivery) :
    let s := runFrom (Duplex.step a.get b.get) ⟨a.start.1, b.start.1, b.start.2, a.start.2⟩
      deliveries
    ∃ i j, s.left = script x₁ x₂ x₃ i ∧ s.right = script y₁ y₂ y₃ j ∧
      (s.toLeft = [] → s.toRight = [] → i = theirs.length + 1 ∧ j = theirs.length + 1) := by
  rw [h.there.start, h.back.start]
  exact duplex_run hours htheirs deliveries

end Honest

/-! ### A handshake with X25519 and ChaCha20-Poly1305 -/

/-- Bytes, written as a number. -/
def hex (len n : ℕ) : Bytes := (ChaCha.leBytes len n).reverse

/-- A signature of two numbers below `2 ^ 255`, in DER. -/
def der (r s : ℕ) : Bytes := [0x30, 68, 2, 32] ++ hex 32 r ++ [2, 32] ++ hex 32 s

/-- The private key, the public key, the digest that is signed and its signature, of one side. -/
structure Sample where
  config : Config
  nonce : Vector UInt8 16
  scalar : Bytes
  point : Bytes
  digest : Vector UInt8 32
  signature : Bytes

/-- The owner of the generator, with the default propositions. -/
def sampleOurs : Sample where
  config := ⟨.generator, none, none, none⟩
  nonce := Vector.replicate 16 0
  scalar := List.replicate 32 1
  point := hex 32 0xa4e09292b651c278b9772c569f5fa9bb13d906b46ab68c9df9dc2b4409f8a209
  digest := ⟨(hex 32
    0xc29bb10078c18feae868fc86a0435d77e113eced8eec2dd5d3b70174f9f90b0a).toArray, rfl⟩
  signature := der 0x5648d669165b1a036d7cbfd64797ca2ba22cdacb699fa250938b6a1d3b7e19e0
    0x2e9f6991ff17683baf4e7dfc845da330d62041b0ca63a4e9bf79831631fb37a5

/-- The owner of twice the generator, with one key agreement and one cipher. -/
def sampleTheirs : Sample where
  config := ⟨twiceGenerator, some "X25519", some "CHACHA20_POLY1305", none⟩
  nonce := Vector.replicate 16 1
  scalar := List.replicate 32 2
  point := hex 32 0xce8d3ad1ccb633ec7b70c17814a5c76ecd029685050d344745ba05870e587d59
  digest := ⟨(hex 32
    0xa27f64f5d7098840452b3dcca25f352a470f8c795dd5d6ea7e43cda52aea98af).toArray, rfl⟩
  signature := der 0x1ed2744f35ec2805857f70fd556d9bd5ab562c98afd7090dc9167def49dc9286
    0x18be58adeb8a63a5a12aeaf31f9b1fb280bfc315b3e4165657e4ddf344f3b7da

/-- The secret of the two. -/
def sampleSecret : Bytes :=
  hex 32 0x2ed76ab549b1e73c031eb49c9448f0798aea81b698279a0c3dc3e49fbfc4b953

/-- The chaining values of the stretched key, under HMAC-SHA256 with the secret. -/
def sampleChain : List Bytes :=
  [0xd6f5fff4aa42ae5dc44b6a6c08c382dc67bc0052ff308bd6c80775714d9f2cc9,
    0x071db86b73a96e558aed0b672c62c922ea66e6295bd75af41943a45886ec0dd2,
    0xb5e077abf8b10db06abc787ffb7b17a3739e62c8e8bd5867e1afafe72c255b67,
    0xe48a42629cc5410fcf9176cb40a012391d1dbc2c677fbca9703b49a14ad8b2ac,
    0x470ea2fe14b94831261f7344ae585d4e5d80a7157b04a429aaf3cfb6fb6cc79c].map (hex 32)

/-- The blocks of the stretched key. -/
def sampleBlocks : List Bytes :=
  [0x12ac3fb8af72309ac7b50dd290f4266f75f6d412ce04a1e690026ad6ffeb6daa,
    0xa1ec74169e0a34a6413b7317a2731b6c0fab8655664081eda354130441e7bfd2,
    0x239e7746e6bec33250c0be18e5b4e6dfc1989fcd639f35f8e97870b07a2b4ef5,
    0xb945608268f93719ea81b8412a9a04b7275a8ebd78acb6d6011a48abc47e30f7].map (hex 32)

/-- HMAC-SHA256 at what the two sides compute with their secret. -/
def sampleHmac : Hmac
  | .sha256, key, message =>
    let found := if key = sampleSecret then
        ((seed :: sampleChain).zip sampleChain ++
          (sampleChain.map (· ++ seed)).zip sampleBlocks).lookup message
      else none
    Vector.ofFn fun i => (found.getD []).getD i 0
  | .sha512, _, _ => Vector.replicate 64 0

/-- What a side signs. -/
def Sample.data (x y : Sample) : Bytes :=
  (x.config.withLocal x.nonce).propositionBytes ++ (y.config.withLocal y.nonce).propositionBytes ++
    x.point

/-- The libraries: ChaCha20-Poly1305, and at what the two sides compute SHA-256, HMAC-SHA256,
signatures over secp256k1 and X25519. -/
def samplePrimitives : Primitives where
  sha256 data :=
    if data = sampleOurs.data sampleTheirs then sampleOurs.digest
    else if data = sampleTheirs.data sampleOurs then sampleTheirs.digest
    else twoKeysSha256 data
  hmac := sampleHmac
  secp :=
    { Signature := Bytes
      Key := Bytes
      signatureFromDer := some
      pubkeyFromSlice := some
      verify := fun message signature key => [sampleOurs, sampleTheirs].any fun x =>
        message = x.digest ∧ signature = x.signature ∧ key = x.config.publicKey.inner }
  aead := .chaCha
  Private := Bytes
  agree t scalar point :=
    if t = .x25519 ∧ ((scalar, point) = (sampleOurs.scalar, sampleTheirs.point) ∨
        (scalar, point) = (sampleTheirs.scalar, sampleOurs.point)) then some sampleSecret
    else none

def Sample.party (x : Sample) (library : Library) : Party samplePrimitives where
  config := x.config
  maxFrameLength := 1024 * 1024 * 8
  length_lt := by decide
  library
  nonce := x.nonce
  sign message := if message = x.digest then x.signature else []
  generate t := if t = .x25519 then some (x.scalar, x.point) else none

theorem reaches_sample {x y : Sample} {library library' : Library}
    (hchoose : (x.party library).choose (y.party library')
      = .ok (.x25519, .chaCha20Poly1305, .sha256))
    (hpropose : (x.party library).context.propositionBytes.length ≤ 8388608)
    (hdigest : samplePrimitives.sha256 (x.data y) = x.digest)
    (hverify : samplePrimitives.secp.verify x.digest x.signature x.config.publicKey.inner = true)
    (hlength : ((x.party library).exchange (y.party library')
      (.x25519, .chaCha20Poly1305, .sha256) x.point).length ≤ 8388608) :
    (x.party library).Reaches (y.party library') := by
  refine ⟨hpropose, fun chosen h => ?_, show 32 ≤ min 8388608 8388608 by decide,
    fun chosen key h _ => ?_⟩
  · obtain rfl := Except.ok.inj (hchoose.symm.trans h)
    refine ⟨x.scalar, x.point, rfl, ⟨x.signature, x.config.publicKey.inner, ?_, rfl, ?_⟩, hlength⟩
    · exact congrArg some (if_pos hdigest)
    · exact hdigest.symm ▸ hverify
  · obtain rfl := Except.ok.inj (hchoose.symm.trans h)
    exact Aead.inverts_chaCha key _

theorem compatible_sample :
    Compatible (sampleOurs.party .openssl) (sampleTheirs.party .ring) := by
  have hchoose : (sampleOurs.party .openssl).choose (sampleTheirs.party .ring)
      = .ok (.x25519, .chaCha20Poly1305, .sha256) := by decide +kernel
  refine ⟨by decide, by decide +kernel,
    reaches_sample hchoose (by decide +kernel) (by decide +kernel) (by decide +kernel)
      (by decide +kernel),
    reaches_sample (by decide +kernel) (by decide +kernel) (by decide +kernel) (by decide +kernel)
      (by decide +kernel), ?_⟩
  intro chosen key epubkey key' epubkey' h ha hb
  obtain rfl := Except.ok.inj (hchoose.symm.trans h)
  cases ha
  cases hb
  exact ⟨sampleSecret, by decide +kernel, by decide +kernel⟩

section Attacker

variable {prim : Primitives} {p : Party prim} {aead : Aead} {t : CipherType} {key : Bytes}

/-- Whatever is decrypted, the cipher keeps its type, its key and its direction. -/
theorem Keyed.receive (aead : Aead) {c : AeadCipher} (h : Keyed t key .decrypt c) (inPlace : Bool)
    (frame : Bytes) : Keyed t key .decrypt (c.receive aead inPlace frame).1 := by
  by_cases hlong : c.cipherType.tagSize ≤ frame.length
  · rw [AeadCipher.receive_fst aead h.mode inPlace hlong]
    exact ⟨h.cipherType, h.key, h.mode⟩
  · have hshort : frame.length < c.cipherType.tagSize := not_le.mp hlong
    unfold AeadCipher.receive AeadCipher.decryptInPlace AeadCipher.decrypt AeadCipher.plainDecrypt
      AeadCipher.ringDecrypt
    cases c.library <;> split_ifs <;> exact ⟨h.cipherType, h.key, h.mode⟩

theorem pollRead_ciphers (aead : Aead) {s : SecureStream} (h : Keyed t key .decrypt s.decodeCipher)
    (remaining : ℕ) :
    Keyed t key .decrypt (s.pollRead aead remaining).1.decodeCipher ∧
      (s.pollRead aead remaining).1.encodeCipher = s.encodeCipher := by
  obtain ⟨buf, hdrain, -⟩ := s.drain_eq remaining
  unfold SecureStream.pollRead
  rcases hd : s.drain remaining with ⟨s', copied⟩
  rw [hd] at hdrain
  subst hdrain
  dsimp only
  by_cases hcopied : copied ≠ []
  · rw [if_pos hcopied]
    exact ⟨h, rfl⟩
  rw [if_neg hcopied]
  cases hin : s.incoming with
  | nil => exact ⟨h, rfl⟩
  | cons frame rest =>
    obtain ⟨kind, -, hdecode⟩ :=
      SecureStream.decodeBuffer_eq aead { s with incoming := rest, recvBuf := buf } frame
    have hkeyed := h.receive aead true frame
    dsimp only at hdecode ⊢
    rw [hdecode]
    cases (s.decodeCipher.receive aead true frame).2 with
    | error e => exact ⟨hkeyed, rfl⟩
    | ok decoded =>
      simp only [Except.map]
      split_ifs
      · exact ⟨hkeyed, rfl⟩
      · obtain ⟨buf', hrest, -⟩ := SecureStream.drain_eq
          { s with
            incoming := rest
            recvBuf := kind decoded
            decodeCipher := (s.decodeCipher.receive aead true frame).1 } remaining
        rw [hrest]
        exact ⟨hkeyed, rfl⟩

theorem writeAll_ciphers {s s' : SecureStream} {buf : Bytes}
    (h : Keyed t key .encrypt s.encodeCipher)
    (hwrite : s.writeAll aead buf = .ok s') :
    Keyed t key .encrypt s'.encodeCipher ∧ s'.decodeCipher = s.decodeCipher := by
  have hkeyed := (encrypt_keyed aead h buf).1
  unfold SecureStream.writeAll SecureStream.pollWrite SecureStream.encodeBuffer at hwrite
  rcases henc : s.encodeCipher.encrypt aead buf with ⟨c, e | frame⟩
  all_goals
    simp only [henc, Bool.not_true, Bool.false_eq_true, if_false] at hwrite hkeyed
    split_ifs at hwrite
    all_goals cases hwrite
    all_goals first | exact ⟨h, rfl⟩ | exact ⟨hkeyed, rfl⟩

/-- **What stands behind a stream**: a proposition and an exchange that were accepted, and two
ciphers with the keys that come from our ephemeral key and the other's. -/
structure Party.Secured (p : Party prim) (r : Remote) (epubkey remoteKey : Bytes) (keys : Keys)
    (stream : SecureStream) : Prop where
  fits : p.context.propositionBytes.length < 2 ^ 32
  accepted : p.context.withRemote prim.sha256 r.propositionBytes = .ok r
  exchange : ∃ raw, r.receiveExchange prim.sha256 prim.secp raw = .ok remoteKey
  agreed : ∃ key keyMaterial, p.generate r.chosenExchange = some (key, epubkey) ∧
    prim.agree r.chosenExchange key remoteKey = some keyMaterial ∧
    r.deriveKeys prim.hmac keyMaterial = .ok keys
  encode : Keyed r.chosenCipher keys.encodeCipher.key .encrypt stream.encodeCipher
  decode : Keyed r.chosenCipher keys.decodeCipher.key .decrypt stream.decodeCipher

/-- What is behind a stage. -/
def Party.Sound (p : Party prim) : Stage prim.Private → Prop
  | .proposed => p.context.propositionBytes.length < 2 ^ 32
  | .exchanged r key epubkey => p.context.propositionBytes.length < 2 ^ 32 ∧
    p.context.withRemote prim.sha256 r.propositionBytes = .ok r ∧
    p.generate r.chosenExchange = some (key, epubkey)
  | .verifying stream r epubkey _ => ∃ remoteKey keys, p.Secured r epubkey remoteKey keys stream
  | .done stream publicKey epubkey =>
    ∃ r remoteKey keys, r.publicKey = publicKey ∧ p.Secured r epubkey remoteKey keys stream
  | .failed _ => True

theorem sound_send {frame : Bytes} {next : Stage prim.Private} (h : p.Sound next) :
    p.Sound (p.send frame next).1 := by
  unfold Party.send
  split_ifs
  · trivial
  · exact h

theorem sound_start (p : Party prim) : p.Sound p.start.1 := by
  unfold Party.start Party.send
  split_ifs with hlong
  · trivial
  · exact (not_lt.mp hlong).trans_lt p.length_lt

theorem sound_onPropose (h : p.Sound .proposed) (frame : Bytes) :
    p.Sound (p.onPropose frame).1 := by
  unfold Party.onPropose
  split
  · trivial
  · next r hremote =>
    split
    · trivial
    · next key epubkey hgenerate =>
      obtain rfl := (withRemote_ok hremote).2.2
      exact sound_send ⟨h, hremote, hgenerate⟩

theorem sound_onExchange {r : Remote} {key : prim.Private} {epubkey : Bytes}
    (h : p.Sound (.exchanged r key epubkey)) (frame : Bytes) :
    p.Sound (p.onExchange r key epubkey frame).1 := by
  unfold Party.onExchange
  split
  · trivial
  · next remoteKey hexchange =>
    split
    · trivial
    · next keyMaterial hagree =>
      split
      · trivial
      · next keys hkeys =>
        split
        · trivial
        · next stream hwrite =>
          have hrests := rests_stream (a := p) hkeys
          obtain ⟨hencode, hdecode⟩ := writeAll_ciphers hrests.encode hwrite
          exact ⟨remoteKey, keys, h.1, h.2.1, ⟨frame, hexchange⟩, ⟨key, _, h.2.2, hagree, hkeys⟩,
            hencode, hdecode ▸ hrests.decode⟩

theorem sound_verifyNonce {r : Remote} {epubkey got : Bytes} {stream : SecureStream}
    (h : ∃ remoteKey keys, p.Secured r epubkey remoteKey keys stream) :
    p.Sound (p.verifyNonce stream r epubkey got) := by
  obtain ⟨remoteKey, keys, h⟩ := h
  obtain ⟨hdecode, hencode⟩ := pollRead_ciphers prim.aead h.decode
    (p.nonce.toList.length - got.length)
  unfold Party.verifyNonce
  rcases hread : stream.pollRead prim.aead (p.nonce.toList.length - got.length) with ⟨stream', out⟩
  rw [hread] at hdecode hencode
  have hsecured : p.Secured r epubkey remoteKey keys stream' :=
    { h with encode := hencode ▸ h.encode, decode := hdecode }
  dsimp only
  split
  · next heq =>
    cases heq
    exact ⟨remoteKey, keys, hsecured⟩
  · trivial
  · trivial
  · next heq =>
    cases heq
    split_ifs
    · exact ⟨remoteKey, keys, hsecured⟩
    · trivial
    · exact ⟨r, remoteKey, keys, rfl, hsecured⟩

/-- **Every stage of a handshake is sound**, whatever is received. -/
theorem sound_receive (stage : Stage prim.Private) (frame : Option Bytes) (h : p.Sound stage) :
    p.Sound (p.receive stage frame).1 := by
  cases stage with
  | failed e => cases frame <;> trivial
  | done stream publicKey epubkey =>
    obtain ⟨r, remoteKey, keys, hkey, hsecured⟩ := h
    cases frame <;> exact ⟨r, remoteKey, keys, hkey, { hsecured with }⟩
  | proposed =>
    cases frame with
    | none => trivial
    | some frame =>
      rw [Party.receive, Party.get]
      split_ifs
      · trivial
      · exact sound_onPropose h frame
  | exchanged r key epubkey =>
    cases frame with
    | none => trivial
    | some frame =>
      rw [Party.receive, Party.get]
      split_ifs
      · trivial
      · exact sound_onExchange h frame
  | verifying stream r epubkey got =>
    obtain ⟨remoteKey, keys, hsecured⟩ := h
    cases frame with
    | none => exact sound_verifyNonce ⟨remoteKey, keys, { hsecured with }⟩
    | some frame =>
      rw [Party.receive, Party.get]
      split_ifs
      · trivial
      · exact sound_verifyNonce ⟨remoteKey, keys, { hsecured with }⟩

/-- A side does not accept its own key. -/
theorem withRemote_self {sha256 : Sha256} {l : Local} {bytes : Bytes} {propose : Propose}
    {publicKey : PublicKey} (hpropose : Propose.decode bytes = some propose)
    (hkey : PublicKey.decode propose.pubkey = some publicKey)
    (hself : publicKey.inner = l.publicKey) : l.withRemote sha256 bytes = .error .connectSelf := by
  simp only [Local.withRemote, hpropose, hkey, if_pos hself]

namespace Negotiated

variable {sha256 : Sha256}

/-- A side that has accepted the proposition of another has chosen as the two configurations
say. -/
theorem remote_eq (a b : Negotiated sha256) (h : b.ours = a.theirs) :
    let r := (a.config.withLocal a.nonce).hashesOrdering sha256 b.config.publicKey b.nonce.toList
    ∃ chosen, a.config.choose r b.config = .ok chosen ∧
      a.remote = a.config.remote b.config a.nonce b.nonce r chosen := by
  intro r
  have hbytes : a.remoteBytes = (b.config.withLocal b.nonce).propositionBytes := by
    rw [← (withRemote_ok a.accepted).2.2, ← (withRemote_ok b.accepted).2.1]
    exact h.symm
  have haccepted := hbytes ▸ a.accepted
  have hkeys : a.config.publicKey ≠ b.config.publicKey := by
    intro heq
    obtain ⟨hpropose, hkey⟩ := decode_propose b.fits
    cases haccepted.symm.trans
      (withRemote_self hpropose hkey (congrArg PublicKey.inner heq.symm))
  rw [withRemote_withLocal sha256 a.nonce b.nonce hkeys b.fits rfl] at haccepted
  cases hchoose : a.config.choose r b.config with
  | error e => rw [hchoose] at haccepted; cases haccepted
  | ok chosen =>
    rw [hchoose] at haccepted
    exact ⟨chosen, rfl, (Except.ok.inj haccepted).symm⟩

/-- The two sides of one handshake: each has the key of the other, they have chosen alike, and the
same secret gives them mirrored keys. -/
structure Matches (hmac : Hmac) (a b : Negotiated sha256) : Prop where
  publicKey : a.remote.publicKey = b.config.publicKey
  publicKey' : b.remote.publicKey = a.config.publicKey
  chosenExchange : a.remote.chosenExchange = b.remote.chosenExchange
  chosenCipher : a.remote.chosenCipher = b.remote.chosenCipher
  chosenHash : a.remote.chosenHash = b.remote.chosenHash
  keys : ∀ keyMaterial, ∃ ka kb, a.remote.deriveKeys hmac keyMaterial = .ok ka ∧
    b.remote.deriveKeys hmac keyMaterial = .ok kb ∧ ka.Mirror kb

/-- **Two sides that have seen each other's propositions match.** -/
theorem matches_of_propositions (hmac : Hmac) {a b : Negotiated sha256} (hours : b.ours = a.theirs)
    (htheirs : b.theirs = a.ours) (hne : a.remote.hashesOrdering ≠ .eq) : a.Matches hmac b := by
  obtain ⟨chosen, hchoose, ha⟩ := a.remote_eq b hours
  obtain ⟨chosen', hchoose', hb⟩ := b.remote_eq a htheirs.symm
  rw [ha] at hne
  have hswap := Config.choose_swap hne a.config b.config
  rw [hashesOrdering_swap] at hchoose'
  obtain rfl := Except.ok.inj (hchoose.symm.trans (hswap.symm.trans hchoose'))
  refine ⟨by rw [ha]; rfl, by rw [hb]; rfl, by rw [ha, hb]; rfl, by rw [ha, hb]; rfl,
    by rw [ha, hb]; rfl, ?_⟩
  rw [ha, hb]
  exact deriveKeys_mirror hmac rfl rfl (hashesOrdering_swap sha256 ..) hne

end Negotiated

/-- A stream that is handed out has a handshake of ours behind it.  When no collision of the hash
function is met and the signatures of the owner of the key that is handed out cannot be forged, that
owner has a handshake that matches it, with the ephemeral key that our secret comes from. -/
def Party.Authentic (p : Party prim) : Stage prim.Private → Prop
  | .done stream publicKey epubkey =>
    ∃ (a : Negotiated prim.sha256) (remoteKey : Bytes) (keys : Keys),
      a.config = p.config ∧ a.nonce = p.nonce ∧ a.remote.publicKey = publicKey ∧
      p.Secured a.remote epubkey remoteKey keys stream ∧
      ∀ signed : Set (Negotiated.Signed prim.sha256),
        Set.InjOn prim.sha256 (insert (a.remote.dataToVerify remoteKey)
          (Set.image Negotiated.signedData signed)) →
        Negotiated.Unforgeable prim.secp publicKey signed →
        ∃ b ∈ signed, b.2 = remoteKey ∧ a.Matches prim.hmac b.1
  | _ => True

theorem ordering_of_deriveKeys {hmac : Hmac} {r : Remote} {keyMaterial : Bytes} {keys : Keys}
    (h : r.deriveKeys hmac keyMaterial = .ok keys) : r.hashesOrdering ≠ .eq := by
  intro hr
  rw [Remote.deriveKeys, hr] at h
  cases h

/-- A stream is handed out indeed, when the frames are those of an honest party. -/
theorem done_of_compatible {a b : Party prim} {chosen : KeyAgreement × CipherType × Digest}
    (h : Compatible a b) (hchoose : a.choose b = .ok chosen) :
    ∃ frames stream epubkey, runFrom (fun stage frame => (a.receive stage frame).1) a.start.1 frames
      = .done stream b.config.publicKey epubkey := by
  obtain ⟨x₁, x₂, x₃, _, _, _, ours, theirs, hours, -, hlength, -, hconnected⟩ :=
    answers_of_choose h hchoose
  obtain ⟨_, stream, _, epubkey, _, rfl, -⟩ := hconnected
  obtain ⟨exchange, nonce, rfl⟩ := List.length_eq_two.mp hlength
  refine ⟨[some b.context.propositionBytes, some exchange, some nonce], stream, epubkey, ?_⟩
  have hget := fun i hi => congrArg Prod.fst (hours.get i hi)
  rw [h.there.start]
  calc (a.get (a.get (a.get .proposed _).1 _).1 _).1 = (a.get (a.get x₁ exchange).1 nonce).1 := by
        rw [show (a.get .proposed b.context.propositionBytes).1 = x₁ from hget 0 (by simp)]
    _ = (a.get x₂ nonce).1 := by rw [show (a.get x₁ exchange).1 = x₂ from hget 1 (by simp)]
    _ = _ := hget 2 (by simp)

example : ∃ frames stream epubkey,
    runFrom (fun stage frame => ((sampleOurs.party .openssl).receive stage frame).1)
      (sampleOurs.party .openssl).start.1 frames = .done stream twiceGenerator epubkey :=
  done_of_compatible compatible_sample
    (show _ = Except.ok (.x25519, .chaCha20Poly1305, .sha256) by decide +kernel)

end Attacker

end Secio
end CkbP2P

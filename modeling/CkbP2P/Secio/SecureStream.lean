import CkbP2P.Lib.ChaCha
import CkbP2P.Lib.Channel
import CkbP2P.Lib.Run
import CkbP2P.Secio.Cipher

/-!
# Encrypted streams

Every chunk that is written becomes one frame: the chunk encrypted, with its tag.  A frame
that is read is decrypted; what does not fit the reader's buffer is kept for the following
reads.

The socket is a queue of frames for each direction.  Frames of the length-delimited codec
are carried over in order and as they are.
-/

namespace CkbP2P
namespace Secio

open Lib

/-! ### The stream -/

/-- The two kinds of buffers for what has been decrypted. -/
inductive RecvBuf where
  | vec (b : Bytes)
  | byte (b : Bytes)
  deriving DecidableEq, Repr

namespace RecvBuf

/-- `as_ref`. -/
def bytes : RecvBuf → Bytes
  | vec b => b
  | byte b => b

/-- `len`. -/
def len (buf : RecvBuf) : ℕ := buf.bytes.length

/-- `is_empty`. -/
def isEmpty (buf : RecvBuf) : Bool := buf.len == 0

/-- `drain_to`: what is left, and what goes into the reader's buffer. -/
def drainTo (size : ℕ) : RecvBuf → RecvBuf × Bytes
  | vec b => (vec (b.drop size), b.take size)
  | byte b => (byte (b.drop size), b.take size)

theorem drainTo_snd (size : ℕ) (buf : RecvBuf) : (buf.drainTo size).2 = buf.bytes.take size := by
  cases buf <;> rfl

theorem bytes_drainTo (size : ℕ) (buf : RecvBuf) :
    (buf.drainTo size).2 ++ (buf.drainTo size).1.bytes = buf.bytes := by
  cases buf <;> exact List.take_append_drop size _

end RecvBuf

/-- What a stream reports to its owner. -/
inductive StreamError where
  | decrypt (e : CipherError)
  /-- The connection has ended. -/
  | brokenPipe
  /-- The codec refuses a frame that is too long. -/
  | frameTooBig
  /-- An encryption has failed: the source does not return. -/
  | encrypt (e : CipherError)
  deriving DecidableEq, Repr

/-- An encrypted stream. -/
structure SecureStream where
  /-- Frames the socket has ready. -/
  incoming : List Bytes
  /-- No more frames will come. -/
  ended : Bool
  /-- Frames put into the socket. -/
  outgoing : List Bytes
  maxFrameLength : ℕ
  decodeCipher : AeadCipher
  encodeCipher : AeadCipher
  recvBuf : RecvBuf

namespace SecureStream

variable (aead : Aead)

/-- `new`. -/
def new (maxFrameLength : ℕ) (decodeCipher encodeCipher : AeadCipher) : SecureStream :=
  { incoming := [], ended := false, outgoing := [], maxFrameLength, decodeCipher, encodeCipher
    recvBuf := if decodeCipher.isInPlace then .byte [] else .vec [] }

/-- `decode_buffer`. -/
def decodeBuffer (s : SecureStream) (frame : Bytes) : SecureStream × Except CipherError RecvBuf :=
  if s.decodeCipher.isInPlace then
    let (c, r) := s.decodeCipher.decryptInPlace aead frame
    ({ s with decodeCipher := c }, r.map .byte)
  else
    let (c, r) := s.decodeCipher.decrypt aead frame
    ({ s with decodeCipher := c }, r.map .vec)

/-- `drain` into a buffer with `remaining` free bytes. -/
def drain (s : SecureStream) (remaining : ℕ) : SecureStream × Bytes :=
  if s.recvBuf.isEmpty then (s, [])
  else
    let (buf, out) := s.recvBuf.drainTo (min remaining s.recvBuf.len)
    ({ s with recvBuf := buf }, out)

/-- `encode_buffer`. -/
def encodeBuffer (s : SecureStream) (buf : Bytes) : SecureStream × Except CipherError Bytes :=
  let (c, r) := s.encodeCipher.encrypt aead buf
  ({ s with encodeCipher := c }, r)

/-- `poll_read` into a buffer with `remaining` free bytes. -/
def pollRead (s : SecureStream) (remaining : ℕ) :
    SecureStream × Poll (Except StreamError Bytes) :=
  let (s, copied) := s.drain remaining
  if copied ≠ [] then (s, .ready (.ok copied))
  else
    match s.incoming with
    | [] => (s, if s.ended then .ready (.error .brokenPipe) else .pending)
    | frame :: rest =>
      match { s with incoming := rest }.decodeBuffer aead frame with
      | (s, .error e) => (s, .ready (.error (.decrypt e)))
      | (s, .ok decoded) =>
        if decoded.len ≤ remaining then (s, .ready (.ok decoded.bytes))
        else
          -- what is left in the old buffer, if anything, is gone
          let (s, out) := { s with recvBuf := decoded }.drain remaining
          (s, .ready (.ok out))

/-- `poll_write`, where `ready` says whether the socket takes a frame. -/
def pollWrite (s : SecureStream) (buf : Bytes) (ready : Bool) :
    SecureStream × Poll (Except StreamError ℕ) :=
  if !ready then (s, .pending)
  else
    match s.encodeBuffer aead buf with
    | (s, .error e) => (s, .ready (.error (.encrypt e)))
    | (s, .ok frame) =>
      if s.maxFrameLength < frame.length then (s, .ready (.error .frameTooBig))
      else ({ s with outgoing := s.outgoing ++ [frame] }, .ready (.ok buf.length))

end SecureStream

/-! ### One message -/

/-- What is assumed of the encryption, for one key and for frames up to a length: it
succeeds, and decryption under the same key and nonce inverts it. -/
def Aead.Inverts (aead : Aead) (t : CipherType) (key : Bytes) (limit : ℕ) : Prop :=
  ∀ nonce chunk : Bytes, nonce.length = t.ivSize → chunk.length + t.tagSize ≤ limit →
    ∃ text tag, aead.encrypt t key nonce chunk = some (text, tag) ∧
      text.length = chunk.length ∧ tag.length = t.tagSize ∧
      aead.decrypt t key nonce text tag = some chunk

/-- `ChaCha20-Poly1305`, as the libraries have it; the other ciphers are left out. -/
def Aead.chaCha : Aead where
  encrypt t key nonce input :=
    if t = .chaCha20Poly1305 then some (ChaCha.encrypt key nonce input) else none
  decrypt t key nonce text tag :=
    if t = .chaCha20Poly1305 then ChaCha.decrypt key nonce text tag else none

theorem Aead.encrypt_chaCha (key nonce input : Bytes) :
    Aead.chaCha.encrypt .chaCha20Poly1305 key nonce input
      = some (ChaCha.encrypt key nonce input) := by
  simp only [Aead.chaCha, if_true]

theorem Aead.inverts_chaCha (key : Bytes) (limit : ℕ) :
    Aead.chaCha.Inverts .chaCha20Poly1305 key limit := by
  intro nonce chunk _ _
  refine ⟨_, _, Aead.encrypt_chaCha key nonce chunk, ChaCha.length_crypt key nonce chunk,
    ChaCha.length_tag key nonce _, ?_⟩
  simp only [Aead.chaCha, if_true]
  exact ChaCha.decrypt_encrypt key nonce chunk

/-- The frame decrypts to the chunk under the nonce. -/
def Holds (aead : Aead) (t : CipherType) (key nonce chunk frame : Bytes) : Prop :=
  ∃ text tag, frame = text ++ tag ∧ text.length = chunk.length ∧ tag.length = t.tagSize ∧
    aead.decrypt t key nonce text tag = some chunk

/-- A cipher of the given type, with the given key, made for the given direction. -/
structure Keyed (t : CipherType) (key : Bytes) (mode : CryptoMode) (c : AeadCipher) : Prop where
  cipherType : c.cipherType = t
  key : c.key = key
  mode : c.mode = mode

section OneMessage

variable {aead : Aead} {t : CipherType} {key nonce : Bytes} {c : AeadCipher} {chunk frame : Bytes}

theorem Holds.length (h : Holds aead t key nonce chunk frame) :
    frame.length = chunk.length + t.tagSize := by
  obtain ⟨text, tag, rfl, htext, htag, -⟩ := h
  rw [List.length_append, htext, htag]

/-- The two parts of a frame are found by its length. -/
theorem openWith_of_holds (hc : Keyed t key .decrypt c)
    (h : Holds aead t key c.iv chunk frame) : (c.openWith aead frame).2 = .ok chunk := by
  have hlen := h.length
  obtain ⟨text, tag, rfl, htext, htag, hdecrypt⟩ := h
  have hcut : (text ++ tag).length - t.tagSize = text.length := by omega
  simp only [AeadCipher.openWith, hc.cipherType, hc.key, hcut, List.take_left, List.drop_left,
    hdecrypt]

/-- A buffer that is decrypted in place holds the chunk, once it is truncated. -/
theorem truncated_of_holds (hc : Keyed t key .decrypt c)
    (h : Holds aead t key nonce chunk frame) : c.truncated frame chunk = chunk := by
  have hcut : frame.length - t.tagSize = chunk.length := by
    have hlen := h.length
    omega
  rw [AeadCipher.truncated, hc.cipherType, hcut, List.take_left]

/-- **A frame is decrypted to its chunk**, whatever the library, in place or not. -/
theorem receive_of_holds (hc : Keyed t key .decrypt c)
    (h : Holds aead t key (nonceAdvance c.iv) chunk frame) (inPlace : Bool) :
    (c.receive aead inPlace frame).2 = .ok chunk := by
  have hlong : ¬ frame.length < c.cipherType.tagSize := by
    have hlen := h.length
    rw [hc.cipherType]
    omega
  have hadv : Keyed t key .decrypt c.advance := ⟨hc.cipherType, hc.key, hc.mode⟩
  have hopen := openWith_of_holds hadv h
  have hplain (tooShort : CipherError) : (c.plainDecrypt aead tooShort frame).2 = .ok chunk := by
    rw [AeadCipher.plainDecrypt, if_neg hlong]
    exact hopen
  have hring : (c.ringDecrypt aead frame).2 = .ok chunk := by
    rw [AeadCipher.ringDecrypt, if_neg hlong, hc.mode]
    rcases hx : c.advance.openWith aead frame with ⟨c', r⟩
    rw [hx] at hopen
    cases hopen
    exact congrArg Except.ok (truncated_of_holds hc h)
  unfold AeadCipher.receive AeadCipher.decryptInPlace AeadCipher.decrypt AeadCipher.isInPlace
  cases c.library with
  | openssl =>
    -- in place or not, the frame is decrypted into a buffer of its own
    simp only [Bool.and_false, Bool.false_eq_true, if_false]
    exact hplain _
  | ring =>
    dsimp only
    split_ifs <;> exact hring
  | wasm =>
    dsimp only
    split_ifs <;> exact hplain _

/-- The cipher after a frame has been decrypted: the nonce is the next one. -/
theorem receive_keyed (hc : Keyed t key .decrypt c)
    (h : Holds aead t key nonce chunk frame) (inPlace : Bool) :
    Keyed t key .decrypt (c.receive aead inPlace frame).1 ∧
      (c.receive aead inPlace frame).1.iv = nonceAdvance c.iv := by
  have hlong : c.cipherType.tagSize ≤ frame.length := by
    have hlen := h.length
    rw [hc.cipherType]
    omega
  rw [AeadCipher.receive_fst aead hc.mode inPlace hlong]
  exact ⟨⟨hc.cipherType, hc.key, hc.mode⟩, rfl⟩

/-- **An encryption makes a frame that holds the chunk.** -/
theorem encrypt_holds {limit : ℕ} (haead : aead.Inverts t key limit) (hc : Keyed t key .encrypt c)
    (hfits : chunk.length + t.tagSize ≤ limit) :
    ∃ frame, (c.encrypt aead chunk).2 = .ok frame ∧
      Holds aead t key (nonceAdvance c.iv) chunk frame := by
  have hnonce : (nonceAdvance c.iv).length = t.ivSize := by
    rw [length_nonceAdvance, c.iv_length, hc.cipherType]
  obtain ⟨text, tag, hencrypt, htext, htag, hdecrypt⟩ := haead _ chunk hnonce hfits
  refine ⟨text ++ tag, ?_, text, tag, rfl, htext, htag, hdecrypt⟩
  have hseal : (c.advance.sealWith aead chunk).2 = .ok (text ++ tag) := by
    simp only [AeadCipher.sealWith, AeadCipher.advance, hc.cipherType, hc.key, hencrypt]
  unfold AeadCipher.encrypt
  rw [hc.mode]
  cases c.library <;> exact hseal

theorem encrypt_keyed (aead : Aead) (hc : Keyed t key .encrypt c) (chunk : Bytes) :
    Keyed t key .encrypt (c.encrypt aead chunk).1 ∧
      (c.encrypt aead chunk).1.iv = nonceAdvance c.iv := by
  rw [AeadCipher.encrypt_fst aead hc.mode chunk]
  exact ⟨⟨hc.cipherType, hc.key, hc.mode⟩, rfl⟩

end OneMessage

/-! ### One poll -/

namespace SecureStream

variable {aead : Aead} {t : CipherType} {key : Bytes} {s : SecureStream} {chunk frame : Bytes}

/-- `decode_buffer` is one decryption, in place where the cipher can. -/
theorem decodeBuffer_eq (aead : Aead) (s : SecureStream) (frame : Bytes) :
    ∃ kind : Bytes → RecvBuf, (∀ b, (kind b).bytes = b) ∧ s.decodeBuffer aead frame
      = ({ s with decodeCipher := (s.decodeCipher.receive aead true frame).1 },
          (s.decodeCipher.receive aead true frame).2.map kind) := by
  unfold decodeBuffer AeadCipher.receive
  cases s.decodeCipher.isInPlace with
  | true => exact ⟨.byte, fun _ => rfl, rfl⟩
  | false => exact ⟨.vec, fun _ => rfl, rfl⟩

/-- A drain moves bytes out of the buffer and touches nothing else. -/
theorem drain_eq (s : SecureStream) (remaining : ℕ) :
    ∃ buf, (s.drain remaining).1 = { s with recvBuf := buf } ∧
      (s.drain remaining).2 ++ buf.bytes = s.recvBuf.bytes := by
  unfold drain
  split_ifs
  · exact ⟨s.recvBuf, rfl, rfl⟩
  · exact ⟨_, rfl, RecvBuf.bytes_drainTo _ _⟩

/-- With room for a byte, a drain that moves nothing had nothing to move. -/
theorem bytes_of_drain_nil {remaining : ℕ} (hroom : remaining ≠ 0)
    (h : (s.drain remaining).2 = []) : s.recvBuf.bytes = [] := by
  by_contra hne
  have hlen : s.recvBuf.len ≠ 0 := fun h0 => hne (List.length_eq_zero_iff.mp h0)
  have hsome : s.recvBuf.bytes.take (min remaining s.recvBuf.len) = [] := by
    rw [drain, RecvBuf.isEmpty, if_neg (by simpa using hlen)] at h
    rw [← RecvBuf.drainTo_snd]
    exact h
  rcases List.take_eq_nil_iff.mp hsome with h0 | hnil
  · omega
  · exact hne hnil

/-- The bytes a read has put into the reader's buffer. -/
def obtained : Poll (Except StreamError Bytes) → Bytes
  | .ready (.ok b) => b
  | _ => []

/-- A read has reported that a frame cannot be decrypted. -/
def decryptFails : Poll (Except StreamError Bytes) → Bool
  | .ready (.error (.decrypt _)) => true
  | _ => false

/-- A read that takes no frame hands out what is kept. -/
theorem pollRead_idle (aead : Aead) {remaining : ℕ} (hroom : remaining ≠ 0)
    (hidle : s.recvBuf.bytes ≠ [] ∨ s.incoming = []) :
    ∃ buf, (s.pollRead aead remaining).1 = { s with recvBuf := buf } ∧
      obtained (s.pollRead aead remaining).2 ++ buf.bytes = s.recvBuf.bytes ∧
      decryptFails (s.pollRead aead remaining).2 = false := by
  obtain ⟨buf, hfst, hbytes⟩ := s.drain_eq remaining
  have hnil : (s.drain remaining).2 = [] → s.incoming = [] := by
    intro h
    exact hidle.resolve_left fun hne => hne (bytes_of_drain_nil hroom h)
  unfold pollRead
  rcases hd : s.drain remaining with ⟨s', copied⟩
  rw [hd] at hfst hbytes hnil
  subst hfst
  refine ⟨buf, ?_⟩
  dsimp only at hbytes hnil ⊢
  by_cases hcopied : copied = []
  · -- nothing was kept and no frame is there: the read waits, or reports the end
    rw [if_neg (not_not.mpr hcopied), hnil hcopied]
    rw [hcopied] at hbytes
    cases s.ended <;> exact ⟨rfl, hbytes, rfl⟩
  · rw [if_pos hcopied]
    exact ⟨rfl, hbytes, rfl⟩

/-- A read that takes a frame hands out its chunk, up to what is kept of it. -/
theorem pollRead_frame (hc : Keyed t key .decrypt s.decodeCipher)
    (h : Holds aead t key (nonceAdvance s.decodeCipher.iv) chunk frame) {rest : List Bytes}
    (hin : s.incoming = frame :: rest) (hbuf : s.recvBuf.bytes = []) (remaining : ℕ) :
    ∃ buf, (s.pollRead aead remaining).1
        = { s with incoming := rest, recvBuf := buf,
                   decodeCipher := (s.decodeCipher.receive aead true frame).1 } ∧
      obtained (s.pollRead aead remaining).2 ++ buf.bytes = chunk ∧
      decryptFails (s.pollRead aead remaining).2 = false := by
  have hdrain : s.drain remaining = (s, []) := by
    rw [drain, RecvBuf.isEmpty, RecvBuf.len, hbuf]
    rfl
  obtain ⟨kind, hkind, hdecode⟩ := decodeBuffer_eq aead { s with incoming := rest } frame
  have hok := receive_of_holds hc h true
  dsimp only at hdecode
  rw [hok] at hdecode
  unfold pollRead
  rw [hdrain]
  dsimp only
  rw [if_neg (not_not.mpr rfl), hin]
  dsimp only
  rw [hdecode]
  simp only [Except.map]
  split_ifs with hfits
  · -- the whole chunk is handed out
    exact ⟨s.recvBuf, rfl, by rw [hbuf]; exact (List.append_nil _).trans (hkind chunk), rfl⟩
  · -- the rest of the chunk is kept
    obtain ⟨buf, hfst, hbytes⟩ := drain_eq
      { s with incoming := rest, recvBuf := kind chunk,
               decodeCipher := (s.decodeCipher.receive aead true frame).1 } remaining
    exact ⟨buf, hfst, hbytes.trans (hkind chunk), rfl⟩

/-- A write that the socket takes puts a frame that holds the chunk into the socket. -/
theorem pollWrite_ready (haead : aead.Inverts t key s.maxFrameLength)
    (hc : Keyed t key .encrypt s.encodeCipher)
    (hfits : chunk.length + t.tagSize ≤ s.maxFrameLength) :
    ∃ frame, Holds aead t key (nonceAdvance s.encodeCipher.iv) chunk frame ∧
      s.pollWrite aead chunk true
        = ({ s with encodeCipher := (s.encodeCipher.encrypt aead chunk).1,
                    outgoing := s.outgoing ++ [frame] }, .ready (.ok chunk.length)) := by
  obtain ⟨frame, hok, hholds⟩ := encrypt_holds haead hc hfits
  refine ⟨frame, hholds, ?_⟩
  have hshort : ¬ s.maxFrameLength < frame.length := by
    rw [hholds.length]
    omega
  unfold pollWrite encodeBuffer
  rcases henc : s.encodeCipher.encrypt aead chunk with ⟨c, r⟩
  rw [henc] at hok
  cases hok
  exact if_neg hshort

end SecureStream

/-! ### A link -/

/-- Two streams joined by a reliable transport, one of which writes and the other reads. -/
structure Link where
  writer : SecureStream
  reader : SecureStream
  /-- The bytes the writer's stream has accepted. -/
  written : Bytes
  /-- The bytes the reader has got. -/
  obtained : Bytes
  /-- A write has failed, or a frame could not be decrypted. -/
  failed : Bool

/-- What happens next on a link. -/
inductive LinkEvent where
  /-- A chunk is written; the socket takes it or not. -/
  | write (chunk : Bytes) (ready : Bool)
  /-- The transport carries one frame over. -/
  | carry
  /-- The writer's side shuts down. -/
  | shut
  /-- The reader reads into a buffer with `remaining` free bytes. -/
  | read (remaining : ℕ)
  deriving DecidableEq, Repr

/-- A chunk fits the frame limit, and a reader has room for a byte. -/
def LinkEvent.Fits (t : CipherType) (limit : ℕ) : LinkEvent → Prop
  | write chunk _ => chunk.length + t.tagSize ≤ limit
  | read remaining => remaining ≠ 0
  | carry | shut => True

namespace Link

variable (aead : Aead)

/-- The link before anything is written. -/
def start (writer reader : SecureStream) : Link :=
  { writer, reader, written := [], obtained := [], failed := false }

/-- One step of a link. -/
def step (l : Link) : LinkEvent → Link
  | .write chunk ready =>
    match l.writer.pollWrite aead chunk ready with
    | (w, .pending) => { l with writer := w }
    | (w, .ready (.ok n)) => { l with writer := w, written := l.written ++ chunk.take n }
    | (w, .ready (.error _)) => { l with writer := w, failed := true }
  | .carry =>
    match l.writer.outgoing with
    | [] => l
    | frame :: rest =>
      { l with writer := { l.writer with outgoing := rest }
               reader := { l.reader with incoming := l.reader.incoming ++ [frame] } }
  | .shut => { l with reader := { l.reader with ended := true } }
  | .read remaining =>
    let (r, out) := l.reader.pollRead aead remaining
    { l with reader := r, obtained := l.obtained ++ SecureStream.obtained out
             failed := l.failed || SecureStream.decryptFails out }

/-- The frames on their way. -/
def inFlight (l : Link) : List Bytes := l.reader.incoming ++ l.writer.outgoing

end Link

/-- The frames hold the chunks, under the nonces that follow the first one; the last one
that is used is the second. -/
inductive Carries (aead : Aead) (t : CipherType) (key : Bytes) :
    Bytes → List Bytes → List Bytes → Bytes → Prop
  | nil (iv : Bytes) : Carries aead t key iv [] [] iv
  | cons {iv iv' chunk frame : Bytes} {chunks frames : List Bytes}
      (head : Holds aead t key (nonceAdvance iv) chunk frame)
      (tail : Carries aead t key (nonceAdvance iv) chunks frames iv') :
      Carries aead t key iv (chunk :: chunks) (frame :: frames) iv'

/-- A frame is put behind the others. -/
theorem Carries.snoc {aead : Aead} {t : CipherType} {key iv iv' chunk frame : Bytes}
    {chunks frames : List Bytes} (h : Carries aead t key iv chunks frames iv')
    (hlast : Holds aead t key (nonceAdvance iv') chunk frame) :
    Carries aead t key iv (chunks ++ [chunk]) (frames ++ [frame]) (nonceAdvance iv') := by
  induction h with
  | nil iv => exact .cons hlast (.nil _)
  | cons head _ ih => exact .cons head (ih hlast)

namespace Link

variable {aead : Aead} {t : CipherType} {key : Bytes} {limit : ℕ} {l : Link}

/-- **The invariant of a link**: the two ciphers are keyed alike; what was obtained, what is
kept and the chunks on their way make up what was written. -/
structure Inv (aead : Aead) (t : CipherType) (key : Bytes) (limit : ℕ) (l : Link) : Prop where
  writer : Keyed t key .encrypt l.writer.encodeCipher
  reader : Keyed t key .decrypt l.reader.decodeCipher
  limit : l.writer.maxFrameLength = limit
  carries : ∃ chunks, Carries aead t key l.reader.decodeCipher.iv chunks l.inFlight
      l.writer.encodeCipher.iv ∧
    l.obtained ++ l.reader.recvBuf.bytes ++ chunks.flatten = l.written
  sound : l.failed = false

theorem inv_write (haead : aead.Inverts t key limit) (h : Inv aead t key limit l) {chunk : Bytes}
    (hfits : chunk.length + t.tagSize ≤ limit) (ready : Bool) :
    Inv aead t key limit (l.step aead (.write chunk ready)) := by
  cases ready with
  | false => exact { h with }
  | true =>
    obtain ⟨chunks, hcarries, hwritten⟩ := h.carries
    have hlimit := h.limit
    obtain ⟨frame, hholds, heq⟩ := SecureStream.pollWrite_ready (hlimit ▸ haead) h.writer
      (hlimit.symm ▸ hfits)
    obtain ⟨hkeyed, hiv⟩ := encrypt_keyed aead h.writer chunk
    rw [step, heq]
    refine { h with writer := hkeyed, carries := ⟨chunks ++ [chunk], ?_, ?_⟩ }
    · have hsnoc := hcarries.snoc hholds
      rw [inFlight, List.append_assoc, ← hiv] at hsnoc
      exact hsnoc
    · dsimp only
      rw [List.flatten_append, ← List.append_assoc, hwritten, List.take_length,
        List.flatten_singleton]

theorem inv_carry (h : Inv aead t key limit l) : Inv aead t key limit (l.step aead .carry) := by
  unfold step
  dsimp only
  split
  · exact h
  · next frame rest hout =>
    obtain ⟨chunks, hcarries, hwritten⟩ := h.carries
    -- the frame moves from one queue to the other: what is on its way stays the same
    rw [inFlight, hout, List.append_cons] at hcarries
    exact { h with carries := ⟨chunks, hcarries, hwritten⟩ }

theorem step_read (aead : Aead) (l : Link) (remaining : ℕ) :
    l.step aead (.read remaining) =
      { l with reader := (l.reader.pollRead aead remaining).1
               obtained := l.obtained ++ SecureStream.obtained (l.reader.pollRead aead remaining).2
               failed := l.failed ||
                 SecureStream.decryptFails (l.reader.pollRead aead remaining).2 } :=
  rfl

theorem inv_read (h : Inv aead t key limit l) {remaining : ℕ} (hroom : remaining ≠ 0) :
    Inv aead t key limit (l.step aead (.read remaining)) := by
  obtain ⟨chunks, hcarries, hwritten⟩ := h.carries
  by_cases hidle : l.reader.recvBuf.bytes ≠ [] ∨ l.reader.incoming = []
  · obtain ⟨buf, hfst, hbytes, hfails⟩ := SecureStream.pollRead_idle aead hroom hidle
    rw [step_read, hfst, hfails, Bool.or_false]
    refine { h with carries := ⟨chunks, hcarries, ?_⟩ }
    dsimp only
    rw [List.append_assoc l.obtained, hbytes]
    exact hwritten
  · obtain ⟨hbuf, hin⟩ := not_or.mp hidle
    obtain ⟨frame, rest, hin⟩ := List.exists_cons_of_ne_nil hin
    have hbuf := not_not.mp hbuf
    -- the first chunk on its way is the one the frame holds
    rw [inFlight, hin, List.cons_append] at hcarries
    generalize hiv' : l.writer.encodeCipher.iv = iv' at hcarries
    cases hcarries with
    | @cons _ _ chunk _ chunks _ head tail =>
      obtain ⟨buf, hfst, hbytes, hfails⟩ :=
        SecureStream.pollRead_frame h.reader head hin hbuf remaining
      obtain ⟨hkeyed, hiv⟩ := receive_keyed h.reader head true
      rw [step_read, hfst, hfails, Bool.or_false]
      refine { h with reader := hkeyed, carries := ⟨chunks, ?_, ?_⟩ }
      · rw [← hiv, ← hiv'] at tail
        exact tail
      · dsimp only
        rw [List.append_assoc l.obtained, hbytes, ← hwritten, hbuf, List.flatten_cons,
          List.append_nil, List.append_assoc]

/-- **Every step of a link keeps its invariant.** -/
theorem inv_step (haead : aead.Inverts t key limit) (l : Link) (e : LinkEvent)
    (h : Inv aead t key limit l) (hfits : e.Fits t limit) :
    Inv aead t key limit (l.step aead e) := by
  cases e with
  | write chunk ready => exact inv_write haead h hfits ready
  | carry => exact inv_carry h
  | shut => exact { h with }
  | read remaining => exact inv_read h hfits

/-- **Encrypted channels are faithful.**  The ciphers of the two sides are of the same type,
have the same key and start from the same nonce; each is of any library, so that frames are
decrypted in place or not.  After any run, what the reader has obtained is a prefix of what has
been written, and neither a write nor a decryption has failed; once no frame is on its way and
no byte is kept, the reader has obtained everything. -/
theorem obtained_isPrefix_written (aead : Aead) (library library' : Library) (t : CipherType)
    (key : Bytes) (iv : Vector UInt8 t.ivSize) (limit limit' : ℕ)
    (decodeCipher encodeCipher : AeadCipher) (haead : aead.Inverts t key limit)
    (events : List LinkEvent) (hfits : ∀ e ∈ events, e.Fits t limit) :
    let cipher := fun library mode =>
      AeadCipher.start library ⟨t, key, mode⟩ iv.toList iv.length_toList
    let writer := SecureStream.new limit decodeCipher (cipher library .encrypt)
    let reader := SecureStream.new limit' (cipher library' .decrypt) encodeCipher
    let l := runFrom (Link.step aead) (Link.start writer reader) events
    l.obtained <+: l.written ∧ l.failed = false ∧
      (l.inFlight = [] → l.reader.recvBuf.isEmpty → l.obtained = l.written) := by
  intro cipher writer reader l
  have hempty : reader.recvBuf.bytes = [] := by cases library' <;> rfl
  have hstart : Inv aead t key limit (Link.start writer reader) :=
    { writer := ⟨rfl, rfl, rfl⟩, reader := ⟨rfl, rfl, rfl⟩, limit := rfl
      carries := ⟨[], .nil _, by simp [Link.start, hempty]⟩, sound := rfl }
  have hinv : Inv aead t key limit l :=
    (throughout_of_guarded (inv_step haead) hstart (guarded_of_forall_mem hfits _)).last
  obtain ⟨chunks, hcarries, hwritten⟩ := hinv.carries
  refine ⟨⟨_, (List.append_assoc ..).symm.trans hwritten⟩, hinv.sound, ?_⟩
  intro hflight hkept
  have hbuf : l.reader.recvBuf.bytes = [] := by
    simpa [RecvBuf.isEmpty, RecvBuf.len] using hkept
  rw [hflight] at hcarries
  generalize l.writer.encodeCipher.iv = iv' at hcarries
  cases hcarries
  simpa [hbuf] using hwritten

/-- Three bytes are written, and the reader has room for two. -/
theorem obtained_isPrefix_written_sample :
    let iv : Vector UInt8 (CipherType.ivSize .chaCha20Poly1305) := Vector.replicate _ 0
    let key : Bytes := List.replicate 32 0
    let cipher := fun library mode =>
      AeadCipher.start library ⟨.chaCha20Poly1305, key, mode⟩ iv.toList iv.length_toList
    let writer := SecureStream.new 100 (cipher .ring .decrypt) (cipher .openssl .encrypt)
    let reader := SecureStream.new 100 (cipher .ring .decrypt) (cipher .ring .encrypt)
    let l := runFrom (Link.step .chaCha) (Link.start writer reader)
      [.write [1, 2, 3] true, .carry, .read 2]
    l.written = [1, 2, 3] ∧ l.obtained = [1, 2] ∧ l.obtained <+: l.written ∧
      l.failed = false := by
  intro iv key cipher writer reader l
  have hfits : ∀ e ∈ [LinkEvent.write [1, 2, 3] true, .carry, .read 2],
      e.Fits .chaCha20Poly1305 100 := by
    simp [LinkEvent.Fits, CipherType.tagSize]
  have hfaithful := obtained_isPrefix_written .chaCha .openssl .ring .chaCha20Poly1305 key iv
    100 100 (cipher .ring .decrypt) (cipher .ring .encrypt) (Aead.inverts_chaCha key 100) _ hfits
  exact ⟨by decide +kernel, by decide +kernel, hfaithful.1, hfaithful.2.1⟩

end Link

end Secio
end CkbP2P

import CkbP2P.Lib.Reader
import CkbP2P.Secio.SecureStream

/-!
# Reading an encrypted stream

Whatever frames arrive, and whatever the cipher makes of them: what one call of `poll_read` does,
and with it the stream as a `Reader`.  A frame without a payload is handed out as it is.
-/

namespace CkbP2P
namespace Secio

open Lib

/-- What happens to a stream besides reading: the socket gets a frame or comes to its end, and
something is written. -/
inductive SocketEvent where
  | frame (frame : Bytes)
  | ended
  | write (buf : Bytes) (ready : Bool)

theorem RecvBuf.drainTo_min (remaining : ℕ) (buf : RecvBuf) :
    (buf.drainTo (min remaining buf.len)).2 = buf.bytes.take remaining ∧
      (buf.drainTo (min remaining buf.len)).1.bytes = buf.bytes.drop remaining := by
  cases buf <;> exact ⟨List.take_eq_take_min.symm, List.drop_eq_drop_min.symm⟩

namespace SecureStream

variable (aead : Aead) (s : SecureStream) (remaining : ℕ)

def happen : SocketEvent → SecureStream
  | .frame frame => { s with incoming := s.incoming ++ [frame] }
  | .ended => { s with ended := true }
  | .write buf ready => (s.pollWrite aead buf ready).1

/-- The payload of the next frame, if there is one and it can be decrypted. -/
def payload : Option Bytes :=
  match s.incoming with
  | [] => none
  | frame :: _ => (s.decodeBuffer aead frame).2.toOption.map RecvBuf.bytes

/-- The payload that a call takes from the socket: the next one, when none of the bytes that are
kept can be handed out. -/
def taken : Bytes :=
  if s.recvBuf.bytes.take remaining = [] then (s.payload aead).getD [] else []

/-- The call takes a frame without a payload. -/
def takesNothing : Bool := s.recvBuf.isEmpty && (s.payload aead).any List.isEmpty

/-- **What a call of `poll_read` does.** -/
inductive Outcome : SecureStream × Poll (Except StreamError Bytes) → Prop
  | drained {s' : SecureStream} (h : s.recvBuf.bytes.take remaining ≠ [])
    (hbuf : s'.recvBuf.bytes = s.recvBuf.bytes.drop remaining) :
    Outcome (s', .ready (.ok (s.recvBuf.bytes.take remaining)))
  /-- There is no frame. -/
  | idle {s' : SecureStream} {r : Poll (Except StreamError Bytes)}
    (hnone : s.payload aead = none) (hbuf : s'.recvBuf.bytes = s.recvBuf.bytes)
    (hr : r = .pending ∨ r = .ready (.error .brokenPipe)) : Outcome (s', r)
  /-- The frame cannot be decrypted. -/
  | failed {s' : SecureStream} {e : CipherError} (hnone : s.payload aead = none)
    (hbuf : s'.recvBuf.bytes = s.recvBuf.bytes) :
    Outcome (s', .ready (.error (.decrypt e)))
  | whole {s' : SecureStream} {chunk : Bytes} (h : s.recvBuf.bytes.take remaining = [])
    (hsome : s.payload aead = some chunk)
    (hbuf : s'.recvBuf.bytes = s.recvBuf.bytes) (hfits : chunk.length ≤ remaining) :
    Outcome (s', .ready (.ok chunk))
  | part {s' : SecureStream} {chunk : Bytes} (h : s.recvBuf.bytes.take remaining = [])
    (hsome : s.payload aead = some chunk)
    (hbuf : s'.recvBuf.bytes = chunk.drop remaining) (hlong : remaining < chunk.length) :
    Outcome (s', .ready (.ok (chunk.take remaining)))

theorem drain_bytes : (s.drain remaining).2 = s.recvBuf.bytes.take remaining ∧
    ∃ buf, (s.drain remaining).1 = { s with recvBuf := buf } ∧
      buf.bytes = s.recvBuf.bytes.drop remaining := by
  unfold drain
  split
  case isTrue hempty =>
    have hnil : s.recvBuf.bytes = [] := List.length_eq_zero_iff.mp (beq_iff_eq.mp hempty)
    rw [hnil, List.take_nil, List.drop_nil]
    exact ⟨rfl, s.recvBuf, rfl, hnil⟩
  case isFalse =>
    obtain ⟨hout, hbuf⟩ := RecvBuf.drainTo_min remaining s.recvBuf
    exact ⟨hout, _, rfl, hbuf⟩

/-- The payload of a frame is what its decryption gives. -/
theorem payload_eq {frame : Bytes} {rest : List Bytes} (hin : s.incoming = frame :: rest) :
    s.payload aead = (s.decodeCipher.receive aead true frame).2.toOption := by
  obtain ⟨kind, hkind, hdecode⟩ := s.decodeBuffer_eq aead frame
  unfold payload
  rw [hin]
  dsimp only
  rw [hdecode]
  cases (s.decodeCipher.receive aead true frame).2 with
  | error e => rfl
  | ok chunk => exact congrArg some (hkind chunk)

/-- A frame is decrypted, and its payload is handed out or kept.  `t` is the stream without the
frame. -/
theorem outcome_frame {t : SecureStream} {frame : Bytes} {rest : List Bytes}
    (h : s.recvBuf.bytes.take remaining = []) (hin : s.incoming = frame :: rest)
    (hcipher : t.decodeCipher = s.decodeCipher)
    (hbuf : t.recvBuf.bytes = s.recvBuf.bytes) :
    Outcome aead s remaining (match t.decodeBuffer aead frame with
      | (u, .error e) => (u, .ready (.error (.decrypt e)))
      | (u, .ok decoded) =>
        if decoded.len ≤ remaining then (u, .ready (.ok decoded.bytes))
        else
          let (u, out) := { u with recvBuf := decoded }.drain remaining
          (u, .ready (.ok out))) := by
  have hpayload := s.payload_eq aead hin
  obtain ⟨kind, hkind, hdecode⟩ := decodeBuffer_eq aead t frame
  rw [hdecode, hcipher]
  cases hreceive : (s.decodeCipher.receive aead true frame).2 with
  | error e =>
    rw [hreceive] at hpayload
    exact .failed hpayload hbuf
  | ok chunk =>
    rw [hreceive] at hpayload
    simp only [Except.map]
    have hlen : (kind chunk).len = chunk.length := congrArg List.length (hkind chunk)
    rw [hlen, hkind]
    split
    case isTrue hfits => exact .whole h hpayload hbuf hfits
    case isFalse hlong =>
      -- The frame is drained like one that was kept.
      obtain ⟨hout, buf, hdrain, hleft⟩ := drain_bytes
        { t with recvBuf := kind chunk,
                 decodeCipher := (s.decodeCipher.receive aead true frame).1 } remaining
      rw [hdrain, hout]
      dsimp only at hleft ⊢
      rw [hkind] at hleft ⊢
      exact .part h hpayload hleft (Nat.lt_of_not_le hlong)

theorem outcome_pollRead : Outcome aead s remaining (s.pollRead aead remaining) := by
  obtain ⟨hout, buf, hdrain, hbuf⟩ := s.drain_bytes remaining
  unfold pollRead
  rcases hd : s.drain remaining with ⟨s', copied⟩
  rw [hd] at hout hdrain
  subst hdrain hout
  dsimp only
  by_cases hcopied : s.recvBuf.bytes.take remaining = []
  case neg =>
    rw [if_pos hcopied]
    exact .drained hcopied hbuf
  case pos =>
    rw [if_neg (not_not.mpr hcopied)]
    have hkept : buf.bytes = s.recvBuf.bytes := by
      have happend := List.take_append_drop remaining s.recvBuf.bytes
      rwa [hcopied, ← hbuf] at happend
    rcases hin : s.incoming with _ | ⟨frame, rest⟩
    · have hnone : s.payload aead = none := by
        unfold payload
        rw [hin]
      dsimp only
      cases s.ended with
      | false => exact .idle hnone hkept (.inl rfl)
      | true => exact .idle hnone hkept (.inr rfl)
    · exact outcome_frame aead s remaining hcopied hin rfl hkept

theorem recvBuf_happen (i : SocketEvent) : (s.happen aead i).recvBuf = s.recvBuf := by
  cases i with
  | frame frame => rfl
  | ended => rfl
  | write buf ready =>
    simp only [happen, pollWrite, encodeBuffer]
    split
    · rfl
    · rcases s.encodeCipher.encrypt aead buf with ⟨c, e | frame⟩
      · rfl
      · dsimp only
        split <;> rfl

theorem reads_pollRead : Reads remaining s.recvBuf.bytes (s.taken aead remaining)
    (s.pollRead aead remaining).2 (s.pollRead aead remaining).1.recvBuf.bytes := by
  have h := s.outcome_pollRead aead remaining
  unfold taken
  generalize s.pollRead aead remaining = call at h ⊢
  cases h with
  | drained h hbuf =>
    rw [if_neg h, hbuf]
    exact .drained h
  | idle hnone hbuf hr =>
    rw [hnone, Option.getD_none, ite_self, hbuf]
    refine .idle ?_
    rcases hr with rfl | rfl <;> rfl
  | failed hnone hbuf =>
    rw [hnone, Option.getD_none, ite_self, hbuf]
    exact .idle rfl
  | whole h hsome hbuf hfits =>
    rw [if_pos h, hsome, hbuf]
    exact .whole h hfits
  | part h hsome hbuf hlong =>
    rw [if_pos h, hsome, hbuf]
    exact .part h hlong

/-- A call with room succeeds without a byte exactly when it takes a frame without a payload. -/
theorem isBlank_pollRead (hroom : remaining ≠ 0) :
    isBlank (s.pollRead aead remaining).2 = s.takesNothing aead := by
  have h := s.outcome_pollRead aead remaining
  have hempty : s.recvBuf.isEmpty = s.recvBuf.bytes.isEmpty := by
    unfold RecvBuf.isEmpty RecvBuf.len
    cases s.recvBuf.bytes <;> rfl
  have hkept (htake : s.recvBuf.bytes.take remaining = []) : s.recvBuf.bytes = [] :=
    (List.take_eq_nil_iff.mp htake).resolve_left hroom
  unfold takesNothing
  rw [hempty]
  generalize s.pollRead aead remaining = call at h ⊢
  cases h with
  | drained h hbuf =>
    have hne : s.recvBuf.bytes ≠ [] := fun hnil => h (by rw [hnil, List.take_nil])
    rw [isBlank_ok, List.isEmpty_eq_false_iff.mpr h, List.isEmpty_eq_false_iff.mpr hne]
    rfl
  | idle hnone hbuf hr =>
    rw [hnone, Option.any_none, Bool.and_false]
    rcases hr with rfl | rfl <;> rfl
  | failed hnone hbuf =>
    rw [hnone, Option.any_none, Bool.and_false]
    rfl
  | whole h hsome hbuf hfits =>
    rw [isBlank_ok, hkept h, hsome]
    rfl
  | part h hsome hbuf hlong =>
    rename_i chunk
    have hne : chunk ≠ [] := List.ne_nil_of_length_pos (by omega)
    have htake : chunk.take remaining ≠ [] := fun hnil =>
      (List.take_eq_nil_iff.mp hnil).elim hroom hne
    rw [isBlank_ok, hsome, Option.any_some, List.isEmpty_eq_false_iff.mpr htake,
      List.isEmpty_eq_false_iff.mpr hne, Bool.and_false]

/-- An encrypted stream as a reader. -/
def reader : Reader SecureStream UInt8 StreamError SocketEvent ℕ where
  kept s := s.recvBuf.bytes
  happen := happen aead
  room := id
  read := pollRead aead
  taken := taken aead
  takesNothing s _ := s.takesNothing aead
  kept_happen s i := congrArg RecvBuf.bytes (s.recvBuf_happen aead i)
  reads s remaining := s.reads_pollRead aead remaining
  isBlank_read s remaining hroom := s.isBlank_pollRead aead remaining hroom

end SecureStream

end Secio
end CkbP2P

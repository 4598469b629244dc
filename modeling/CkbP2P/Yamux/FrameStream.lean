import CkbP2P.Lib.Run
import CkbP2P.Yamux.Frame

/-!
# Streams of frames

Bytes come in chunks, which end anywhere.  The reader keeps what it cannot use yet in its
buffer, and calls `FrameCodec.decode` on the buffer again and again; the codec itself keeps a
header that it has taken out of the buffer while the body is missing.

To speak of the bytes a frame was read from, a reader is kept together with a history that no
function of the source looks at: what was taken out of the buffer, up to each answer.
-/

namespace CkbP2P
namespace Yamux

open Lib

/-! ### Headers -/

theorem FrameType.toByte_of_tryFrom {value : UInt8} {ty : FrameType}
    (h : FrameType.tryFrom value = some ty) : ty.toByte = value := by
  unfold FrameType.tryFrom at h
  split_ifs at h with h0 h1 h2 h3 <;> cases h
  · exact h0.symm
  · exact h1.symm
  · exact h2.symm
  · exact h3.symm

namespace FrameCodec

@[simp] theorem length_encodeHeader (h : Header) : (encodeHeader h).length = 12 := rfl

/-- The header is one `decode` accepts. -/
structure AcceptsHeader (maxFrameSize : UInt32) (h : Header) : Prop where
  version : h.version = protocolVersion
  length : h.ty = .data → h.length ≤ maxFrameSize

/-- **What `decodeHeader` takes**: nothing when there are not twelve bytes, and otherwise
twelve bytes, which are those of the header it returns. -/
theorem decodeHeader_cases (maxFrameSize : UInt32) (src : Bytes) :
    (src.length < 12 ∧ decodeHeader maxFrameSize src = (src, .ok none)) ∨
    (∃ header rest, src = encodeHeader header ++ rest ∧ AcceptsHeader maxFrameSize header ∧
      decodeHeader maxFrameSize src = (rest, .ok (some header))) ∨
    (∃ refused rest e, refused.length = 12 ∧ src = refused ++ rest ∧
      decodeHeader maxFrameSize src = (rest, .error e)) := by
  unfold decodeHeader
  split
  · next v t f0 f1 s0 s1 s2 s3 l0 l1 l2 l3 rest =>
    have herror (e : DecodeError) : ∃ refused rest' e', refused.length = 12 ∧
        v :: t :: f0 :: f1 :: s0 :: s1 :: s2 :: s3 :: l0 :: l1 :: l2 :: l3 :: rest
          = refused ++ rest' ∧
        ((rest, Except.error e) : Bytes × Except DecodeError (Option Header))
          = (rest', .error e') :=
      ⟨[v, t, f0, f1, s0, s1, s2, s3, l0, l1, l2, l3], rest, e, rfl, rfl, rfl⟩
    split_ifs with hversion
    · exact .inr (.inr (herror _))
    · cases hty : FrameType.tryFrom t with
      | none => exact .inr (.inr (herror _))
      | some ty =>
        dsimp only
        split_ifs with hlong
        · exact .inr (.inr (herror _))
        · refine .inr (.inl ⟨_, rest, ?_, ⟨not_not.mp hversion, ?_⟩, rfl⟩)
          · simp [encodeHeader, putU16_getU16, putU32_getU32, FrameType.toByte_of_tryFrom hty]
          · intro hdata
            exact UInt32.not_lt.mp fun hlt => hlong ⟨hdata, hlt⟩
  · next hshort =>
    refine .inl ⟨?_, rfl⟩
    by_contra hlong
    rcases src with _ | ⟨v, _ | ⟨t, _ | ⟨f0, _ | ⟨f1, _ | ⟨s0, _ | ⟨s1, _ | ⟨s2, _ | ⟨s3, _ | ⟨l0,
      _ | ⟨l1, _ | ⟨l2, _ | ⟨l3, rest⟩⟩⟩⟩⟩⟩⟩⟩⟩⟩⟩⟩
    case cons.cons.cons.cons.cons.cons.cons.cons.cons.cons.cons.cons =>
      exact hshort _ _ _ _ _ _ _ _ _ _ _ _ _ rfl
    all_goals exact hlong (by simp)

theorem Accepts.acceptsHeader {maxFrameSize : UInt32} {f : Frame} (h : Accepts maxFrameSize f) :
    AcceptsHeader maxFrameSize f.header :=
  ⟨h.1.1, h.2⟩

/-- Headers in front of anything can be told apart. -/
theorem encodeHeader_append_inj {maxFrameSize : UInt32} {g h : Header} {a b : Bytes}
    (hg : AcceptsHeader maxFrameSize g) (hh : AcceptsHeader maxFrameSize h)
    (heq : encodeHeader g ++ a = encodeHeader h ++ b) : g = h ∧ a = b := by
  have hdecode := decodeHeader_encodeHeader a hg.version hg.length
  rw [heq, decodeHeader_encodeHeader b hh.version hh.length] at hdecode
  cases hdecode
  exact ⟨rfl, rfl⟩

/-- Frames in front of anything can be told apart. -/
theorem encode_append_inj {maxFrameSize : UInt32} {f g : Frame} {a b : Bytes}
    (hf : Accepts maxFrameSize f) (hg : Accepts maxFrameSize g)
    (heq : encode f ++ a = encode g ++ b) : f = g ∧ a = b := by
  have hdecode := decode_encode hf a
  rw [heq, decode_encode hg b] at hdecode
  cases hdecode
  exact ⟨rfl, rfl⟩

/-! ### One call -/

/-- A frame is there in full. -/
def Whole (maxFrameSize : UInt32) (bytes : Bytes) : Prop :=
  ∃ f rest, Accepts maxFrameSize f ∧ bytes = encode f ++ rest

theorem not_whole_of_short {maxFrameSize : UInt32} {bytes : Bytes} (h : bytes.length < 12) :
    ¬ Whole maxFrameSize bytes := by
  rintro ⟨f, rest, -, rfl⟩
  simp only [encode, List.length_append, length_encodeHeader] at h
  omega

theorem not_whole_of_body {maxFrameSize : UInt32} {header : Header} {src : Bytes}
    (hheader : AcceptsHeader maxFrameSize header) (hdata : header.ty = .data)
    (hshort : src.length < header.length.toNat) :
    ¬ Whole maxFrameSize (encodeHeader header ++ src) := by
  rintro ⟨⟨header', body⟩, rest, hf, heq⟩
  rw [encode, List.append_assoc] at heq
  obtain ⟨rfl, rfl⟩ := encodeHeader_append_inj hheader hf.acceptsHeader heq
  have hbody := hf.1.2
  simp only [Frame.ty, hdata, Frame.length] at hbody
  obtain ⟨b, rfl, hb⟩ := hbody
  rw [List.length_append, Option.getD_some] at hshort
  omega

/-- A header that is kept: its body is not empty. -/
structure Keeps (maxFrameSize : UInt32) (h : Header) : Prop extends
    AcceptsHeader maxFrameSize h where
  ty : h.ty = .data
  body : 0 < h.length.toNat

/-- What a codec keeps between two calls. -/
def Valid (codec : FrameCodec) : Prop :=
  ∀ header ∈ codec.unusedDataHeader, Keeps codec.maxFrameSize header

/-- The bytes that have not been used for a frame: those of the header that is kept, and
those in the buffer. -/
def pending (codec : FrameCodec) (src : Bytes) : Bytes :=
  (codec.unusedDataHeader.map encodeHeader).getD [] ++ src

/-- **What one call can do**: it returns a frame whose encoding it has taken; or, as long as
there is no whole frame, it returns nothing, and takes nothing but perhaps a header to keep;
or it refuses twelve bytes that are not a header. -/
inductive Call (codec : FrameCodec) (src : Bytes) :
    FrameCodec → Bytes → Except DecodeError (Option Frame) → Prop
  | frame {f : Frame} {rest : Bytes} (taken : pending codec src = encode f ++ rest)
      (accepts : Accepts codec.maxFrameSize f) :
      Call codec src { codec with unusedDataHeader := none } rest (.ok (some f))
  | waits {codec' : FrameCodec} {src' : Bytes} (same : pending codec' src' = pending codec src)
      (valid : Valid codec') (size : codec'.maxFrameSize = codec.maxFrameSize)
      (short : ¬ Whole codec.maxFrameSize (pending codec src)) :
      Call codec src codec' src' (.ok none)
  | refuses {refused rest : Bytes} {e : DecodeError} (length : refused.length = 12)
      (taken : pending codec src = refused ++ rest)
      (bad : ∀ h, AcceptsHeader codec.maxFrameSize h → refused ≠ encodeHeader h) :
      Call codec src { codec with unusedDataHeader := none } rest (.error e)

theorem decodeBody_call {codec : FrameCodec} {header : Header} {before src : Bytes}
    (hpending : pending codec before = encodeHeader header ++ src)
    (hheader : AcceptsHeader codec.maxFrameSize header) :
    Call codec before (decodeBody codec header src).1 (decodeBody codec header src).2.1
      (decodeBody codec header src).2.2 := by
  unfold decodeBody
  split_ifs with hdata hshort
  · -- the body is not there yet: the header is kept
    refine .waits hpending.symm ?_ rfl (hpending ▸ not_whole_of_body hheader hdata hshort)
    intro kept hkept
    cases hkept
    exact { hheader with ty := hdata, body := by omega }
  · refine .frame ?_ ⟨⟨hheader.version, ?_⟩, hheader.length⟩
    · rw [encode, hpending, List.append_assoc]
      exact congrArg _ (List.take_append_drop _ src).symm
    · simp only [Frame.ty, Frame.length, hdata]
      exact ⟨_, rfl, by rw [List.length_take]; omega⟩
  · refine .frame ?_ ⟨⟨hheader.version, ?_⟩, hheader.length⟩
    · rw [encode, hpending]
      exact congrArg (· ++ src) (List.append_nil _).symm
    · cases hty : header.ty with
      | data => exact absurd hty hdata
      | windowUpdate | ping | goAway => simp only [Frame.ty, hty]

/-- **The cases of a call**: too few bytes for a header; a header, just read or kept from an
earlier call, and what follows it; twelve bytes that are not a header. -/
theorem decode_cases (codec : FrameCodec) (src : Bytes) :
    ((src = [] ∨ codec.unusedDataHeader = none ∧ src.length < 12) ∧
      decode codec src = (codec, src, .ok none)) ∨
    (∃ header rest, pending codec src = encodeHeader header ++ rest ∧ rest <:+ src ∧
      (codec.unusedDataHeader = some header ∨ AcceptsHeader codec.maxFrameSize header) ∧
      decode codec src = decodeBody codec header rest) ∨
    (∃ refused rest e, codec.unusedDataHeader = none ∧ refused.length = 12 ∧
      src = refused ++ rest ∧
      (∀ h, AcceptsHeader codec.maxFrameSize h → refused ≠ encodeHeader h) ∧
      decode codec src = (codec, rest, .error e)) := by
  obtain ⟨kept, maxFrameSize⟩ := codec
  unfold decode
  split_ifs with hempty
  · exact .inl ⟨.inl (List.isEmpty_iff.mp hempty), rfl⟩
  · cases kept with
    | some header => exact .inr (.inl ⟨header, src, rfl, List.suffix_refl src, .inl rfl, rfl⟩)
    | none =>
      dsimp only
      rcases decodeHeader_cases maxFrameSize src with
        ⟨hshort, heq⟩ | ⟨header, rest, rfl, hheader, heq⟩ | ⟨refused, rest, e, hlength, rfl, heq⟩
      · rw [heq]
        exact .inl ⟨.inr ⟨rfl, hshort⟩, rfl⟩
      · rw [heq]
        exact .inr (.inl ⟨header, rest, rfl, List.suffix_append _ rest, .inr hheader, rfl⟩)
      · have hbad : ∀ h, AcceptsHeader maxFrameSize h → refused ≠ encodeHeader h := by
          rintro h hh rfl
          rw [decodeHeader_encodeHeader rest hh.version hh.length] at heq
          cases heq
        rw [heq]
        exact .inr (.inr ⟨refused, rest, e, rfl, hlength, rfl, hbad, rfl⟩)

/-- One call does what a call can do, whatever the bytes. -/
theorem decode_call {codec : FrameCodec} (hvalid : codec.Valid) (src : Bytes) :
    Call codec src (decode codec src).1 (decode codec src).2.1 (decode codec src).2.2 := by
  rcases decode_cases codec src with ⟨hfew, heq⟩ | ⟨header, rest, hpending, -, hheader, heq⟩ |
    ⟨refused, rest, e, hkept, hlength, rfl, hbad, heq⟩
  · rw [heq]
    refine .waits rfl hvalid rfl ?_
    rcases hfew with rfl | ⟨hkept, hshort⟩
    · cases hkept : codec.unusedDataHeader with
      | none => exact not_whole_of_short (by simp [pending, hkept])
      | some header =>
        -- without a byte of its body, the header stays where it is
        have hkeeps := hvalid header hkept
        rw [pending, hkept]
        exact not_whole_of_body hkeeps.toAcceptsHeader hkeeps.ty hkeeps.body
    · exact not_whole_of_short (by simpa [pending, hkept] using hshort)
  · rw [heq]
    exact decodeBody_call hpending
      (hheader.elim (fun hkept => (hvalid header hkept).toAcceptsHeader) id)
  · rw [heq]
    obtain ⟨kept, maxFrameSize⟩ := codec
    subst hkept
    exact .refuses hlength rfl hbad

theorem decodeBody_suffix (codec : FrameCodec) (header : Header) (src : Bytes) :
    (decodeBody codec header src).2.1 <:+ src := by
  unfold decodeBody
  split_ifs
  · exact List.suffix_refl src
  · exact List.drop_suffix _ src
  · exact List.suffix_refl src

/-- A call takes a part of the buffer off its front. -/
theorem decode_suffix (codec : FrameCodec) (src : Bytes) : (decode codec src).2.1 <:+ src := by
  rcases decode_cases codec src with ⟨-, heq⟩ | ⟨header, rest, -, hrest, -, heq⟩ |
    ⟨refused, rest, e, -, -, rfl, -, heq⟩
  · exact ⟨[], congrArg (·.2.1) heq⟩
  · rw [heq]
    exact (decodeBody_suffix codec header rest).trans hrest
  · rw [heq]
    exact List.suffix_append _ rest

/-- A call that returns a frame uses up a header. -/
theorem length_pending_decode {codec : FrameCodec} {src : Bytes} {f : Frame}
    (h : (decode codec src).2.2 = .ok (some f)) :
    (pending (decode codec src).1 (decode codec src).2.1).length < (pending codec src).length := by
  rcases decode_cases codec src with ⟨-, heq⟩ | ⟨header, rest, hpending, -, -, heq⟩ |
    ⟨refused, rest, e, -, -, rfl, -, heq⟩
  · rw [heq] at h
    cases h
  · have hkept : (decodeBody codec header rest).1.unusedDataHeader = none := by
      rw [heq] at h
      unfold decodeBody at h ⊢
      split_ifs at h ⊢
      · cases h
      · rfl
      · rfl
    have hle := (decodeBody_suffix codec header rest).length_le
    rw [hpending, heq, pending, hkept, List.length_append, List.length_append,
      length_encodeHeader]
    simp only [Option.map_none, Option.getD_none, List.length_nil]
    omega
  · rw [heq] at h
    cases h

end FrameCodec

/-! ### Readers -/

/-- A codec, the buffer it decodes from and the history of what was taken out of it. -/
structure FrameReader where
  codec : FrameCodec
  buffer : Bytes
  /-- What was taken since the last answer. -/
  held : Bytes
  /-- The answers, each with what was taken for it. -/
  log : List (Bytes × Except DecodeError Frame)

/-- Bytes arrive, or the decoder is called. -/
inductive ReadEvent where
  | arrive (bytes : Bytes)
  | decode
  deriving DecidableEq, Repr

/-- All bytes that arrive. -/
def arrived : List ReadEvent → Bytes
  | [] => []
  | .arrive bytes :: events => bytes ++ arrived events
  | .decode :: events => arrived events

namespace FrameReader

/-- A reader before anything has arrived. -/
def start (maxFrameSize : UInt32) : FrameReader :=
  { codec := .withMaxFrameSize maxFrameSize, buffer := [], held := [], log := [] }

/-- What has been taken since the last answer, once the buffer is `rest`. -/
def taken (r : FrameReader) (rest : Bytes) : Bytes :=
  r.held ++ r.buffer.take (r.buffer.length - rest.length)

/-- One call of the decoder. -/
def decode (r : FrameReader) : FrameReader × Except DecodeError (Option Frame) :=
  match r.codec.decode r.buffer with
  | (codec, buffer, .ok none) =>
    ({ r with codec, buffer, held := r.taken buffer }, .ok none)
  | (codec, buffer, .ok (some f)) =>
    ({ codec, buffer, held := [], log := r.log ++ [(r.taken buffer, .ok f)] }, .ok (some f))
  | (codec, buffer, .error e) =>
    ({ codec, buffer, held := [], log := r.log ++ [(r.taken buffer, .error e)] }, .error e)

/-- One event. -/
def step (r : FrameReader) : ReadEvent → FrameReader
  | .arrive bytes => { r with buffer := r.buffer ++ bytes }
  | .decode => r.decode.1

/-- The bytes no frame has been returned for. -/
def pending (r : FrameReader) : Bytes := r.codec.pending r.buffer

theorem length_pending_lt {r r' : FrameReader} {f : Frame} (h : r.decode = (r', .ok (some f))) :
    r'.pending.length < r.pending.length := by
  unfold decode at h
  split at h
  · cases h
  · next codec buffer g heq =>
    cases h
    have hlt := FrameCodec.length_pending_decode (congrArg (·.2.2) heq)
    rw [heq] at hlt
    exact hlt
  · cases h

/-- The decoder is called until it returns nothing, or refuses. -/
def drain (r : FrameReader) : FrameReader :=
  match _h : r.decode with
  | (r', .ok (some _)) => r'.drain
  | (r', .ok none) => r'
  | (r', .error _) => r'
termination_by r.pending.length
decreasing_by exact length_pending_lt _h

/-- A chunk arrives, and what can be decoded is decoded. -/
def feed (r : FrameReader) (chunk : Bytes) : FrameReader := (r.step (.arrive chunk)).drain

/-! ### What was taken -/

/-- **The invariant of a reader**: what is held is the header the codec keeps, and every frame
was decoded from its encoding. -/
structure Inv (maxFrameSize : UInt32) (r : FrameReader) : Prop where
  size : r.codec.maxFrameSize = maxFrameSize
  valid : r.codec.Valid
  held : r.held = (r.codec.unusedDataHeader.map FrameCodec.encodeHeader).getD []
  log : ∀ raw f, (raw, .ok f) ∈ r.log → FrameCodec.encode f = raw

/-- All bytes a reader has seen. -/
def seen (r : FrameReader) : Bytes := (r.log.map Prod.fst).flatten ++ r.held ++ r.buffer

theorem pending_eq {maxFrameSize : UInt32} {r : FrameReader} (h : Inv maxFrameSize r) :
    r.pending = r.held ++ r.buffer := by
  rw [h.held]
  rfl

/-- What is taken and what is left make up what was there. -/
theorem taken_append {r : FrameReader} {rest : Bytes} (h : rest <:+ r.buffer) :
    r.taken rest ++ rest = r.held ++ r.buffer := by
  obtain ⟨front, hfront⟩ := h
  have hlength : r.buffer.length - rest.length = front.length := by
    rw [← hfront, List.length_append]
    omega
  rw [taken, hlength, ← hfront, List.take_left, List.append_assoc]

/-- **What a call of the decoder does to a reader.** -/
inductive Decodes (maxFrameSize : UInt32) (r : FrameReader) :
    FrameReader × Except DecodeError (Option Frame) → Prop
  | frame {f : Frame} {r' : FrameReader} (inv : Inv maxFrameSize r')
      (taken : r.pending = FrameCodec.encode f ++ r'.pending)
      (accepts : FrameCodec.Accepts maxFrameSize f)
      (log : r'.log = r.log ++ [(FrameCodec.encode f, .ok f)]) (seen : r'.seen = r.seen) :
      Decodes maxFrameSize r (r', .ok (some f))
  | waits {r' : FrameReader} (inv : Inv maxFrameSize r') (same : r'.pending = r.pending)
      (short : ¬ FrameCodec.Whole maxFrameSize r.pending) (log : r'.log = r.log)
      (seen : r'.seen = r.seen) : Decodes maxFrameSize r (r', .ok none)
  | refuses {r' : FrameReader} {refused rest : Bytes} {e : DecodeError} (inv : Inv maxFrameSize r')
      (length : refused.length = 12) (taken : r.pending = refused ++ rest)
      (bad : ∀ h, FrameCodec.AcceptsHeader maxFrameSize h → refused ≠ FrameCodec.encodeHeader h)
      (seen : r'.seen = r.seen) : Decodes maxFrameSize r (r', .error e)

theorem decode_decodes {maxFrameSize : UInt32} {r : FrameReader} (h : Inv maxFrameSize r) :
    Decodes maxFrameSize r r.decode := by
  have hcall := FrameCodec.decode_call h.valid r.buffer
  have htaken := taken_append (FrameCodec.decode_suffix r.codec r.buffer)
  have hpending := pending_eq h
  have hsize := h.size
  unfold decode
  generalize r.codec.decode r.buffer = c at hcall htaken ⊢
  obtain ⟨codec, buffer, answer⟩ := c
  dsimp only at hcall htaken
  cases hcall with
  | @frame f rest htook haccepts =>
    have hraw : r.taken buffer = FrameCodec.encode f := by
      rw [← hpending] at htaken
      exact List.append_cancel_right (htaken.trans htook)
    refine .frame ⟨hsize, by rintro _ ⟨⟩, rfl, ?_⟩ htook (hsize ▸ haccepts) (by rw [hraw]) ?_
    · intro raw g hmem
      rcases List.mem_append.mp hmem with hold | hnew
      · exact h.log raw g hold
      · cases List.mem_singleton.mp hnew
        exact hraw.symm
    · simp [seen, ← htaken]
  | waits hsame hvalid hmax hshort =>
    have hheld : r.taken buffer = (codec.unusedDataHeader.map FrameCodec.encodeHeader).getD [] := by
      rw [← hpending] at htaken
      exact List.append_cancel_right (htaken.trans hsame.symm)
    refine .waits ⟨hmax.trans hsize, hvalid, hheld, h.log⟩ hsame (hsize ▸ hshort) rfl ?_
    simp [seen, ← htaken]
  | refuses hlength htook hbad =>
    refine .refuses ⟨hsize, by rintro _ ⟨⟩, rfl, ?_⟩ hlength htook (hsize ▸ hbad) ?_
    · intro raw g hmem
      rcases List.mem_append.mp hmem with hold | hnew
      · exact h.log raw g hold
      · cases List.mem_singleton.mp hnew
    · simp [seen, ← htaken]

theorem inv_start (maxFrameSize : UInt32) : Inv maxFrameSize (start maxFrameSize) :=
  ⟨rfl, by rintro _ ⟨⟩, rfl, by rintro _ _ ⟨⟩⟩

theorem inv_decode {maxFrameSize : UInt32} {r : FrameReader} (h : Inv maxFrameSize r) :
    Inv maxFrameSize r.decode.1 ∧ r.decode.1.seen = r.seen := by
  have hdecodes := decode_decodes h
  generalize r.decode = d at hdecodes
  cases hdecodes with
  | frame inv _ _ _ seen => exact ⟨inv, seen⟩
  | waits inv _ _ _ seen => exact ⟨inv, seen⟩
  | refuses inv _ _ _ seen => exact ⟨inv, seen⟩

/-- A run keeps the invariant, and takes account of every byte. -/
theorem inv_run {maxFrameSize : UInt32} (events : List ReadEvent) :
    ∀ r, Inv maxFrameSize r → Inv maxFrameSize (runFrom step r events) ∧
      (runFrom step r events).seen = r.seen ++ arrived events := by
  induction events with
  | nil =>
    intro r h
    exact ⟨h, (List.append_nil _).symm⟩
  | cons e events ih =>
    intro r h
    cases e with
    | arrive bytes =>
      obtain ⟨hinv, hseen⟩ := ih (r.step (.arrive bytes)) { h with }
      refine ⟨hinv, hseen.trans ?_⟩
      simp only [seen, step, arrived, List.append_assoc]
    | decode =>
      obtain ⟨hinv, hsame⟩ := inv_decode h
      obtain ⟨hinv, hseen⟩ := ih r.decode.1 hinv
      exact ⟨hinv, hseen.trans (congrArg (· ++ arrived events) hsame)⟩

/-! ### Whole frames -/

theorem drain_of_frame {r r' : FrameReader} {f : Frame} (h : r.decode = (r', .ok (some f))) :
    r.drain = r'.drain := by
  rw [drain]
  split
  · next heq =>
    rw [h] at heq
    cases heq
    rfl
  · next heq =>
    rw [h] at heq
    cases heq
  · next heq =>
    rw [h] at heq
    cases heq

theorem drain_of_none {r r' : FrameReader} (h : r.decode = (r', .ok none)) : r.drain = r' := by
  rw [drain]
  split
  · next heq =>
    rw [h] at heq
    cases heq
  · next heq =>
    rw [h] at heq
    cases heq
    rfl
  · next heq =>
    rw [h] at heq
    cases heq

/-- The bytes of some frames. -/
def encodeAll (fs : List Frame) : Bytes := (fs.map FrameCodec.encode).flatten

/-- The answers of a decoder that returns the frames, each from its encoding. -/
def answers (fs : List Frame) : List (Bytes × Except DecodeError Frame) :=
  fs.map fun f => (FrameCodec.encode f, .ok f)

/-- **The calls after a chunk** return the frames that are there in full; what is pending then
is the beginning of the next one. -/
theorem drain_reads {maxFrameSize : UInt32} {rest : Bytes} (fs : List Frame)
    (hfs : ∀ f ∈ fs, FrameCodec.Accepts maxFrameSize f) :
    ∀ r, Inv maxFrameSize r → r.pending ++ rest = encodeAll fs →
      ∃ gs hs, fs = gs ++ hs ∧ Inv maxFrameSize r.drain ∧ r.drain.log = r.log ++ answers gs ∧
        r.drain.pending ++ rest = encodeAll hs ∧
        ¬ FrameCodec.Whole maxFrameSize r.drain.pending := by
  induction fs with
  | nil =>
    intro r hinv hbytes
    have hnone : r.pending = [] := (List.append_eq_nil_iff.mp hbytes).1
    have hdecodes := decode_decodes hinv
    generalize hd : r.decode = d at hdecodes
    cases hdecodes with
    | frame _ htaken _ _ _ =>
      rw [hnone] at htaken
      cases htaken
    | waits inv same short log _ =>
      rw [drain_of_none hd]
      exact ⟨[], [], rfl, inv, by rw [log]; exact (List.append_nil _).symm, by rw [same, hbytes],
        by rwa [same]⟩
    | refuses _ hlength htaken _ _ =>
      rw [hnone] at htaken
      rw [(List.append_eq_nil_iff.mp htaken.symm).1] at hlength
      cases hlength
  | cons f fs ih =>
    intro r hinv hbytes
    have hf := hfs f List.mem_cons_self
    have hnext : r.pending ++ rest = FrameCodec.encode f ++ encodeAll fs := hbytes
    have hdecodes := decode_decodes hinv
    generalize hd : r.decode = d at hdecodes
    cases hdecodes with
    | @frame g r' inv htaken haccepts hlog _ =>
      -- the frame that is returned is the first one
      rw [htaken, List.append_assoc] at hnext
      obtain ⟨rfl, hrest⟩ := FrameCodec.encode_append_inj haccepts hf hnext
      obtain ⟨gs, hs, rfl, hdrain⟩ := ih (fun f h => hfs f (List.mem_cons_of_mem _ h)) r' inv hrest
      rw [drain_of_frame hd]
      refine ⟨g :: gs, hs, rfl, hdrain.1, ?_, hdrain.2.2⟩
      rw [hdrain.2.1, hlog, List.append_assoc]
      rfl
    | waits inv same short log _ =>
      rw [drain_of_none hd]
      exact ⟨[], f :: fs, rfl, inv, by rw [log]; exact (List.append_nil _).symm,
        by rw [same, hbytes], by rwa [same]⟩
    | refuses _ hlength htaken hbad _ =>
      rw [htaken, FrameCodec.encode, List.append_assoc, List.append_assoc] at hnext
      exact absurd (List.append_inj hnext hlength).1 (hbad _ hf.acceptsHeader)

/-- **Chunks**: the frames are returned in order, however their encoding is cut. -/
theorem feed_reads {maxFrameSize : UInt32} (chunks : List Bytes) :
    ∀ r fs, Inv maxFrameSize r → (∀ f ∈ fs, FrameCodec.Accepts maxFrameSize f) →
      r.pending ++ chunks.flatten = encodeAll fs → ¬ FrameCodec.Whole maxFrameSize r.pending →
      Inv maxFrameSize (runFrom feed r chunks) ∧
        (runFrom feed r chunks).log = r.log ++ answers fs ∧
        (runFrom feed r chunks).pending = [] := by
  induction chunks with
  | nil =>
    intro r fs hinv hfs hbytes hshort
    rw [List.flatten_nil, List.append_nil] at hbytes
    cases fs with
    | nil => exact ⟨hinv, (List.append_nil _).symm, hbytes⟩
    | cons f fs => exact absurd ⟨f, encodeAll fs, hfs f List.mem_cons_self, hbytes⟩ hshort
  | cons chunk chunks ih =>
    intro r fs hinv hfs hbytes _
    have harrive : (r.step (.arrive chunk)).pending ++ chunks.flatten = encodeAll fs := by
      rw [← hbytes, List.flatten_cons]
      simp only [pending, FrameCodec.pending, step, List.append_assoc]
    obtain ⟨gs, hs, rfl, hinv, hlog, hrest, hshort⟩ :=
      drain_reads fs hfs (r.step (.arrive chunk)) { hinv with } harrive
    obtain ⟨hinv, hlog', hnone⟩ :=
      ih (r.feed chunk) hs hinv (fun f h => hfs f (List.mem_append_right gs h)) hrest hshort
    refine ⟨hinv, hlog'.trans ?_, hnone⟩
    change (r.step (.arrive chunk)).drain.log ++ answers hs = _
    rw [hlog, List.append_assoc]
    exact congrArg (r.log ++ ·) List.map_append.symm

/-- When nothing is pending, the reader is as it was at the start. -/
theorem fresh_of_pending {maxFrameSize : UInt32} {r : FrameReader} (h : Inv maxFrameSize r)
    (hnone : r.pending = []) :
    r.codec = .withMaxFrameSize maxFrameSize ∧ r.buffer = [] ∧ r.held = [] := by
  obtain ⟨hheld, hbuffer⟩ := List.append_eq_nil_iff.mp ((pending_eq h).symm.trans hnone)
  refine ⟨?_, hbuffer, hheld⟩
  have hkept := h.held
  have hsize := h.size
  rcases hcodec : r.codec with ⟨kept, size⟩
  rw [hcodec] at hkept hsize
  cases kept with
  | none => exact congrArg _ hsize
  | some header =>
    rw [hheld] at hkept
    cases hkept

/-- **The codec on streams.**  However the encoding of frames that the decoder accepts is cut
into chunks, when the decoder is called after each chunk until it returns nothing, it returns
those frames, each from its encoding, and keeps nothing.  And whatever bytes arrive, however
the calls are interleaved with them: no byte is lost or made up between the answers, what is
held and the buffer, and the encoding of a returned frame is what was taken for it. -/
theorem frames_of_chunks_and_back (maxFrameSize : UInt32) :
    (∀ (fs : List Frame) (chunks : List Bytes), (∀ f ∈ fs, FrameCodec.Accepts maxFrameSize f) →
      chunks.flatten = (fs.map FrameCodec.encode).flatten →
      let r := runFrom feed (start maxFrameSize) chunks
      r.log = fs.map (fun f => (FrameCodec.encode f, .ok f)) ∧
        r.codec = .withMaxFrameSize maxFrameSize ∧ r.buffer = [] ∧ r.held = []) ∧
    ∀ events : List ReadEvent,
      let r := runFrom step (start maxFrameSize) events
      (r.log.map Prod.fst).flatten ++ r.held ++ r.buffer = arrived events ∧
        ∀ raw f, (raw, .ok f) ∈ r.log → FrameCodec.encode f = raw := by
  constructor
  · intro fs chunks hfs hbytes r
    have hshort : ¬ FrameCodec.Whole maxFrameSize (start maxFrameSize).pending :=
      FrameCodec.not_whole_of_short (Nat.zero_lt_succ _)
    obtain ⟨hinv, hlog, hnone⟩ :=
      feed_reads chunks (start maxFrameSize) fs (inv_start maxFrameSize) hfs hbytes hshort
    exact ⟨hlog, fresh_of_pending hinv hnone⟩
  · intro events r
    obtain ⟨hinv, hseen⟩ := inv_run events (start maxFrameSize) (inv_start maxFrameSize)
    exact ⟨hseen, hinv.log⟩

end FrameReader

end Yamux
end CkbP2P

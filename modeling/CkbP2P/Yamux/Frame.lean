import CkbP2P.Lib.Bytes

/-!
# Yamux frames and their codec

The unit two yamux sessions exchange: a twelve byte header, followed by a body
when the frame is a data frame.
-/

namespace CkbP2P
namespace Yamux

open Lib

/-- Stream ids. -/
abbrev StreamId := UInt32

/-- `INITIAL_STREAM_WINDOW`: the window both sides assume before any update. -/
def initialStreamWindow : UInt32 := 262144

/-- `PROTOCOL_VERSION`. -/
def protocolVersion : UInt8 := 0

/-- `RESERVED_STREAM_ID`: the id that stands for the session itself. -/
def reservedStreamId : StreamId := 0

/-- The type field, which switches the meaning of a frame. -/
inductive FrameType where
  | data
  | windowUpdate
  | ping
  | goAway
  deriving DecidableEq, Repr, Inhabited

/-- The byte that stands for a type. -/
def FrameType.toByte : FrameType → UInt8
  | .data => 0
  | .windowUpdate => 1
  | .ping => 2
  | .goAway => 3

/-- `Type::try_from`. -/
def FrameType.tryFrom (value : UInt8) : Option FrameType :=
  if value = 0 then some .data
  else if value = 1 then some .windowUpdate
  else if value = 2 then some .ping
  else if value = 3 then some .goAway
  else none

@[simp] theorem FrameType.tryFrom_toByte (t : FrameType) : tryFrom t.toByte = some t := by
  cases t <;> rfl

/-- The frame flags. -/
inductive Flag where
  | syn
  | ack
  | fin
  | rst
  deriving DecidableEq, Repr

/-- The bit of a flag. -/
def Flag.bit : Flag → UInt16
  | .syn => 1
  | .ack => 2
  | .fin => 4
  | .rst => 8

/-- All flags of a frame, as the bit set the wire carries. -/
structure Flags where
  /-- The bits. -/
  value : UInt16
  deriving DecidableEq, Repr, Inhabited

namespace Flags

/-- No flag. -/
def empty : Flags := ⟨0⟩

/-- `Flags::from`. -/
def ofFlag (flag : Flag) : Flags := ⟨flag.bit⟩

/-- Add a flag. -/
def add (fs : Flags) (flag : Flag) : Flags := ⟨fs.value ||| flag.bit⟩

/-- Check if the set contains a flag. -/
def contains (fs : Flags) (flag : Flag) : Bool := fs.value &&& flag.bit == flag.bit

end Flags

/-- The frame header. -/
structure Header where
  version : UInt8
  ty : FrameType
  flags : Flags
  streamId : StreamId
  /-- Body length, window delta, ping id or go-away code, depending on the type. -/
  length : UInt32
  deriving DecidableEq, Repr

/-- The base message type. -/
structure Frame where
  header : Header
  body : Option Bytes
  deriving DecidableEq, Repr

/-- The code a go-away frame carries. -/
inductive GoAwayCode where
  | normal
  | protocolError
  | internalError
  deriving DecidableEq, Repr

/-- The number that stands for a go-away code. -/
def GoAwayCode.toU32 : GoAwayCode → UInt32
  | .normal => 0
  | .protocolError => 1
  | .internalError => 2

/-- `GoAwayCode::from`: an unknown number is a protocol error. -/
def GoAwayCode.ofU32 (value : UInt32) : GoAwayCode :=
  if value = 0 then .normal
  else if value = 1 then .protocolError
  else if value = 2 then .internalError
  else .protocolError

namespace Frame

/-- Create a data frame. -/
def newData (flags : Flags) (streamId : StreamId) (body : Bytes) : Frame :=
  { header := ⟨protocolVersion, .data, flags, streamId, UInt32.ofNat body.length⟩
    body := some body }

/-- Create a window update frame. -/
def newWindowUpdate (flags : Flags) (streamId : StreamId) (delta : UInt32) : Frame :=
  { header := ⟨protocolVersion, .windowUpdate, flags, streamId, delta⟩, body := none }

/-- Create a ping frame. -/
def newPing (flags : Flags) (pingId : UInt32) : Frame :=
  { header := ⟨protocolVersion, .ping, flags, reservedStreamId, pingId⟩, body := none }

/-- Create a go away frame. -/
def newGoAway (reason : GoAwayCode) : Frame :=
  { header := ⟨protocolVersion, .goAway, .empty, reservedStreamId, reason.toU32⟩, body := none }

/-- The type of the frame. -/
def ty (f : Frame) : FrameType := f.header.ty

/-- The stream id of the frame. -/
def streamId (f : Frame) : StreamId := f.header.streamId

/-- The flags of the frame. -/
def flags (f : Frame) : Flags := f.header.flags

/-- The length field of the frame. -/
def length (f : Frame) : UInt32 := f.header.length

/-- The shape of every frame the constructors build from a body that a 32-bit
length can count. -/
def WellFormed (f : Frame) : Prop :=
  f.header.version = protocolVersion ∧
    match f.ty with
    | .data => ∃ b, f.body = some b ∧ f.length.toNat = b.length
    | _ => f.body = none

theorem wellFormed_newData {flags : Flags} {id : StreamId} {b : Bytes} (hb : b.length < 2 ^ 32) :
    (newData flags id b).WellFormed := by
  refine ⟨rfl, b, rfl, ?_⟩
  exact UInt32.toNat_ofNat_of_lt' hb

theorem wellFormed_newWindowUpdate (flags : Flags) (id : StreamId) (delta : UInt32) :
    (newWindowUpdate flags id delta).WellFormed := ⟨rfl, rfl⟩

theorem wellFormed_newPing (flags : Flags) (id : UInt32) : (newPing flags id).WellFormed :=
  ⟨rfl, rfl⟩

theorem wellFormed_newGoAway (c : GoAwayCode) : (newGoAway c).WellFormed := ⟨rfl, rfl⟩

end Frame

/-! ### The codec -/

/-- Why the decoder refuses a header. -/
inductive DecodeError where
  | version (v : UInt8)
  | type (t : UInt8)
  | length (n : UInt32)
  deriving DecidableEq, Repr

/-- The text of the `InvalidData` error. -/
def DecodeError.message : DecodeError → String
  | .version v => "yamux.version=" ++ toString v.toNat
  | .type t => "yamux.type=" ++ toString t.toNat
  | .length n => "yamux.length=" ++ toString n.toNat

/-- The frame decoder/encoder. -/
structure FrameCodec where
  /-- A data header that has been read while its body had not arrived. -/
  unusedDataHeader : Option Header
  maxFrameSize : UInt32
  deriving Repr

namespace FrameCodec

/-- `FrameCodec::default().max_frame_size(size)`. -/
def withMaxFrameSize (size : UInt32) : FrameCodec := ⟨none, size⟩

/-- The bytes of a header. -/
def encodeHeader (h : Header) : Bytes :=
  h.version :: h.ty.toByte :: (putU16 h.flags.value ++ putU32 h.streamId ++ putU32 h.length)

/-- `Encoder::encode`. -/
def encode (item : Frame) : Bytes := encodeHeader item.header ++ item.body.getD []

/-- The header at the front of `src`, when all its twelve bytes are there. -/
def decodeHeader (maxFrameSize : UInt32) (src : Bytes) :
    Bytes × Except DecodeError (Option Header) :=
  match src with
  | v :: t :: f0 :: f1 :: s0 :: s1 :: s2 :: s3 :: l0 :: l1 :: l2 :: l3 :: rest =>
    if v ≠ protocolVersion then (rest, .error (.version v))
    else match FrameType.tryFrom t with
      | none => (rest, .error (.type t))
      | some ty =>
        let length := getU32 l0 l1 l2 l3
        if ty = .data ∧ maxFrameSize < length then (rest, .error (.length length))
        else (rest, .ok (some ⟨v, ty, ⟨getU16 f0 f1⟩, getU32 s0 s1 s2 s3, length⟩))
  | _ => (src, .ok none)

/-- What follows a header: the body of a data frame, once it is there. -/
def decodeBody (codec : FrameCodec) (header : Header) (src : Bytes) :
    FrameCodec × Bytes × Except DecodeError (Option Frame) :=
  if header.ty = .data then
    if src.length < header.length.toNat then
      ({ codec with unusedDataHeader := some header }, src, .ok none)
    else
      ({ codec with unusedDataHeader := none }, src.drop header.length.toNat,
        .ok (some ⟨header, some (src.take header.length.toNat)⟩))
  else ({ codec with unusedDataHeader := none }, src, .ok (some ⟨header, none⟩))

/-- `Decoder::decode`: the codec, the buffer left and what was read. -/
def decode (codec : FrameCodec) (src : Bytes) :
    FrameCodec × Bytes × Except DecodeError (Option Frame) :=
  if src.isEmpty then (codec, src, .ok none)
  else match codec.unusedDataHeader with
    | some header => decodeBody codec header src
    | none => match decodeHeader codec.maxFrameSize src with
      | (src, .error e) => (codec, src, .error e)
      | (src, .ok none) => (codec, src, .ok none)
      | (src, .ok (some header)) => decodeBody codec header src

/-- The frame is one `decode` accepts: it is well formed and, when it is a data
frame, not longer than `maxFrameSize`. -/
def Accepts (maxFrameSize : UInt32) (f : Frame) : Prop :=
  f.WellFormed ∧ (f.ty = .data → f.length ≤ maxFrameSize)

/-- The header is read back, and the buffer is left at the body. -/
theorem decodeHeader_encodeHeader {maxFrameSize : UInt32} {h : Header} (rest : Bytes)
    (hv : h.version = protocolVersion) (hl : h.ty = .data → h.length ≤ maxFrameSize) :
    decodeHeader maxFrameSize (encodeHeader h ++ rest) = (rest, .ok (some h)) := by
  have hfit : ¬ (h.ty = .data ∧ maxFrameSize < h.length) := by
    rintro ⟨hd, hlt⟩
    exact absurd (hl hd) (UInt32.not_le.mpr hlt)
  obtain ⟨v, ty, fs, sid, len⟩ := h
  subst hv
  simp only [encodeHeader, putU16, putU32, List.cons_append, List.nil_append, decodeHeader,
    getU16_putU16, getU32_putU32, FrameType.tryFrom_toByte, ne_eq, not_true_eq_false, if_false]
  exact if_neg hfit

/-- **The codec round trip.**  A frame the decoder accepts is read back from its
encoding, whatever follows it on the wire. -/
theorem decode_encode {maxFrameSize : UInt32} {f : Frame} (hf : Accepts maxFrameSize f)
    (rest : Bytes) :
    decode (withMaxFrameSize maxFrameSize) (encode f ++ rest)
      = (withMaxFrameSize maxFrameSize, rest, .ok (some f)) := by
  obtain ⟨⟨hv, hbody⟩, hlen⟩ := hf
  have hne : (encode f ++ rest).isEmpty = false := rfl
  have hhead := decodeHeader_encodeHeader (f.body.getD [] ++ rest) hv hlen
  simp only [decode, hne, Bool.false_eq_true, if_false, withMaxFrameSize]
  rw [encode, List.append_assoc, hhead]
  obtain ⟨header, body⟩ := f
  simp only [Frame.ty, Frame.length] at hbody
  simp only [decodeBody]
  cases hty : header.ty with
  | data =>
    simp only [hty] at hbody
    obtain ⟨b, rfl, hb⟩ := hbody
    simp [hb]
  | windowUpdate | ping | goAway =>
    simp only [hty] at hbody
    subst hbody
    simp

end FrameCodec

end Yamux
end CkbP2P

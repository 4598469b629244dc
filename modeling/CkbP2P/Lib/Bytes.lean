import Mathlib.Algebra.Ring.Nat
import Mathlib.Data.List.Basic

/-!
# Byte strings

The numbers a wire format stores in a fixed number of bytes, most significant
byte first.  Both directions are written on the underlying naturals, so that the
round trip is a statement about division with remainder.  Texts are stored in UTF-8.
-/

namespace CkbP2P
namespace Lib

/-- A byte string. -/
abbrev Bytes := List UInt8

/-- The two bytes of a 16-bit number, most significant first. -/
def putU16 (n : UInt16) : Bytes := [UInt8.ofNat (n.toNat / 256), UInt8.ofNat n.toNat]

/-- The 16-bit number two bytes stand for. -/
def getU16 (a b : UInt8) : UInt16 := UInt16.ofNat (a.toNat * 256 + b.toNat)

/-- The four bytes of a 32-bit number, most significant first. -/
def putU32 (n : UInt32) : Bytes :=
  [UInt8.ofNat (n.toNat / 2 ^ 24), UInt8.ofNat (n.toNat / 2 ^ 16),
    UInt8.ofNat (n.toNat / 2 ^ 8), UInt8.ofNat n.toNat]

/-- The 32-bit number four bytes stand for. -/
def getU32 (a b c d : UInt8) : UInt32 :=
  UInt32.ofNat (a.toNat * 2 ^ 24 + b.toNat * 2 ^ 16 + c.toNat * 2 ^ 8 + d.toNat)

/-- The eight bytes of a 64-bit number, most significant first. -/
def putU64 (n : UInt64) : Bytes :=
  putU32 (UInt32.ofNat (n.toNat / 2 ^ 32)) ++ putU32 (UInt32.ofNat n.toNat)

/-- The 64-bit number eight bytes stand for. -/
def getU64 (a b c d e f g h : UInt8) : UInt64 :=
  UInt64.ofNat ((getU32 a b c d).toNat * 2 ^ 32 + (getU32 e f g h).toNat)

/-- Reading back a written 16-bit number. -/
theorem getU16_putU16 (n : UInt16) :
    getU16 (UInt8.ofNat (n.toNat / 256)) (UInt8.ofNat n.toNat) = n := by
  have hn : n.toNat < 2 ^ 16 := n.toNat_lt
  apply UInt16.toNat_inj.mp
  simp only [getU16, UInt16.toNat_ofNat', UInt8.toNat_ofNat']
  omega

/-- Reading back a written 32-bit number. -/
theorem getU32_putU32 (n : UInt32) :
    getU32 (UInt8.ofNat (n.toNat / 2 ^ 24)) (UInt8.ofNat (n.toNat / 2 ^ 16))
      (UInt8.ofNat (n.toNat / 2 ^ 8)) (UInt8.ofNat n.toNat) = n := by
  have hn : n.toNat < 2 ^ 32 := n.toNat_lt
  apply UInt32.toNat_inj.mp
  simp only [getU32, UInt32.toNat_ofNat', UInt8.toNat_ofNat']
  omega

/-- Writing a 16-bit number that was read. -/
theorem putU16_getU16 (a b : UInt8) : putU16 (getU16 a b) = [a, b] := by
  have ha := a.toNat_lt
  have hb := b.toNat_lt
  have hn : (getU16 a b).toNat = a.toNat * 256 + b.toNat := by
    rw [getU16, UInt16.toNat_ofNat']
    omega
  rw [putU16, hn]
  simp only [List.cons.injEq, and_true]
  refine ⟨?_, ?_⟩ <;> apply UInt8.toNat_inj.mp <;> rw [UInt8.toNat_ofNat'] <;> omega

/-- Writing a 32-bit number that was read. -/
theorem putU32_getU32 (a b c d : UInt8) : putU32 (getU32 a b c d) = [a, b, c, d] := by
  have ha := a.toNat_lt
  have hb := b.toNat_lt
  have hc := c.toNat_lt
  have hd := d.toNat_lt
  have hn : (getU32 a b c d).toNat
      = a.toNat * 2 ^ 24 + b.toNat * 2 ^ 16 + c.toNat * 2 ^ 8 + d.toNat := by
    rw [getU32, UInt32.toNat_ofNat']
    omega
  rw [putU32, hn]
  simp only [List.cons.injEq, and_true]
  refine ⟨?_, ?_, ?_, ?_⟩ <;> apply UInt8.toNat_inj.mp <;> rw [UInt8.toNat_ofNat'] <;> omega

/-- The two halves of a 64-bit number. -/
theorem ofNat_halves (n : UInt64) :
    UInt64.ofNat ((UInt32.ofNat (n.toNat / 2 ^ 32)).toNat * 2 ^ 32 + (UInt32.ofNat n.toNat).toNat)
      = n := by
  have hn : n.toNat < 2 ^ 64 := n.toNat_lt
  apply UInt64.toNat_inj.mp
  simp only [UInt64.toNat_ofNat', UInt32.toNat_ofNat']
  omega

/-- Writing a 64-bit number that was read. -/
theorem putU64_getU64 (a b c d e f g h : UInt8) :
    putU64 (getU64 a b c d e f g h) = [a, b, c, d, e, f, g, h] := by
  have hhigh := (getU32 a b c d).toNat_lt
  have hlow := (getU32 e f g h).toNat_lt
  have hn : (getU64 a b c d e f g h).toNat
      = (getU32 a b c d).toNat * 2 ^ 32 + (getU32 e f g h).toNat := by
    rw [getU64, UInt64.toNat_ofNat']
    omega
  have hfirst : UInt32.ofNat ((getU64 a b c d e f g h).toNat / 2 ^ 32) = getU32 a b c d := by
    apply UInt32.toNat_inj.mp
    rw [hn, UInt32.toNat_ofNat']
    omega
  have hsecond : UInt32.ofNat (getU64 a b c d e f g h).toNat = getU32 e f g h := by
    apply UInt32.toNat_inj.mp
    rw [hn, UInt32.toNat_ofNat']
    omega
  rw [putU64, hfirst, hsecond, putU32_getU32, putU32_getU32]
  rfl

/-- The bytes of a text. -/
def strBytes (s : String) : Bytes := s.toByteArray.data.toList

/-- The text some bytes stand for. -/
def strFromUtf8 (data : Bytes) : Option String := String.fromUTF8? ⟨data.toArray⟩

/-- Reading back a written text. -/
theorem strFromUtf8_strBytes (s : String) : strFromUtf8 (strBytes s) = some s := by
  have h : (⟨(strBytes s).toArray⟩ : ByteArray) = s.toByteArray := by
    simp [strBytes]
  rw [strFromUtf8, h, String.fromUTF8?, dif_pos s.isValidUTF8]
  rfl

/-- A text that is read has the bytes it was read from. -/
theorem strBytes_of_strFromUtf8 {data : Bytes} {s : String} (h : strFromUtf8 data = some s) :
    strBytes s = data := by
  rw [strFromUtf8, String.fromUTF8?] at h
  split at h
  · cases h
    rfl
  · cases h

end Lib
end CkbP2P

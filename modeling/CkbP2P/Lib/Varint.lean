import Mathlib.Tactic.Ring
import CkbP2P.Lib.Parser

/-!
# Unsigned varints

Base-128 little-endian integers: seven bits in each byte, and the high bit set on every
byte but the last.  The encoder fills a buffer of fixed size; the decoder reads at most
`more + 1` bytes, rejects a longer encoding that ends in a zero byte, and keeps the low
`width` bits of what it has read.
-/

namespace CkbP2P
namespace Lib
namespace Varint

/-- Why a varint is rejected. -/
inductive Error where
  | insufficient
  | overflow
  | notMinimal
  deriving DecidableEq, Repr

/-- The encoding of `n` in a buffer of `size` bytes. -/
def encode : ℕ → ℕ → Bytes
  | 0, _ => []
  | size + 1, n =>
    if n / 128 = 0 then [UInt8.ofNat (n % 128)]
    else UInt8.ofNat (n % 128 + 128) :: encode size (n / 128)

theorem length_encode_le (size n : ℕ) : (encode size n).length ≤ size := by
  induction size generalizing n with
  | zero => exact Nat.le_refl 0
  | succ size ih =>
    rw [encode]
    split
    · exact Nat.succ_le_succ (Nat.zero_le size)
    · exact Nat.succ_le_succ (ih _)

/-- The loop of the decoder at byte `i`, with the value `acc` read so far and `more` bytes
allowed after this one. -/
def decodeLoop (width : ℕ) : ℕ → ℕ → ℕ → Bytes → Except Error (ℕ × Bytes)
  | _, _, _, [] => .error .insufficient
  | more, i, acc, b :: rest =>
    let acc := acc + b.toNat % 128 * 2 ^ (7 * i)
    if b.toNat < 128 then
      if b.toNat = 0 ∧ 0 < i then .error .notMinimal else .ok (acc % 2 ^ width, rest)
    else
      match more with
      | 0 => .error .overflow
      | more + 1 => decodeLoop width more (i + 1) acc rest

/-- Read a number of `width` bits from at most `more + 1` bytes. -/
def decode (width more : ℕ) (input : Bytes) : Except Error (ℕ × Bytes) :=
  decodeLoop width more 0 0 input

/-- One round of the loop. -/
theorem decodeLoop_cons (width more i acc : ℕ) (b : UInt8) (rest : Bytes) :
    decodeLoop width more i acc (b :: rest) =
      if b.toNat < 128 then
        if b.toNat = 0 ∧ 0 < i then .error .notMinimal
        else .ok ((acc + b.toNat % 128 * 2 ^ (7 * i)) % 2 ^ width, rest)
      else match more with
        | 0 => .error .overflow
        | more + 1 => decodeLoop width more (i + 1) (acc + b.toNat % 128 * 2 ^ (7 * i)) rest := by
  cases more <;> rfl

/-- The last byte of an encoding. -/
theorem decodeLoop_last {i n : ℕ} (hlt : n < 128) (hpos : 0 < i → 0 < n) (width more acc : ℕ)
    (rest : Bytes) : decodeLoop width more i acc (UInt8.ofNat (n % 128) :: rest)
      = .ok ((acc + n * 2 ^ (7 * i)) % 2 ^ width, rest) := by
  have hbyte : (UInt8.ofNat (n % 128)).toNat = n := by
    rw [UInt8.toNat_ofNat']
    omega
  rw [decodeLoop_cons, hbyte, if_pos hlt, if_neg (by omega), Nat.mod_eq_of_lt hlt]

/-- Reading on after `i` bytes of an encoding. -/
theorem decodeLoop_encode (width : ℕ) (rest : Bytes) (more : ℕ) :
    ∀ (i acc n : ℕ), n < 128 ^ (more + 1) → (0 < i → 0 < n) →
      decodeLoop width more i acc (encode (more + 1) n ++ rest)
        = .ok ((acc + n * 2 ^ (7 * i)) % 2 ^ width, rest) := by
  induction more with
  | zero =>
    intro i acc n hn hpos
    have hlt : n < 128 := by simpa using hn
    rw [encode, if_pos (by omega)]
    exact decodeLoop_last hlt hpos width 0 acc rest
  | succ more ih =>
    intro i acc n hn hpos
    rw [encode]
    split_ifs with hdiv
    · exact decodeLoop_last (by omega) hpos width _ acc rest
    · have hbyte : (UInt8.ofNat (n % 128 + 128)).toNat = n % 128 + 128 := by
        rw [UInt8.toNat_ofNat']
        omega
      have hrest : n / 128 < 128 ^ (more + 1) := by
        rw [Nat.div_lt_iff_lt_mul (by decide)]
        exact hn
      have hlow : (n % 128 + 128) % 128 = n % 128 := by omega
      -- the seven bits of this byte and the rest of the number
      have hsplit : n % 128 * 2 ^ (7 * i) + n / 128 * 2 ^ (7 * (i + 1)) = n * 2 ^ (7 * i) := by
        rw [Nat.mul_add, Nat.pow_add]
        calc n % 128 * 2 ^ (7 * i) + n / 128 * (2 ^ (7 * i) * 2 ^ (7 * 1))
            = (n % 128 + 128 * (n / 128)) * 2 ^ (7 * i) := by ring
          _ = n * 2 ^ (7 * i) := by rw [Nat.mod_add_div]
      rw [List.cons_append, decodeLoop_cons, hbyte, if_neg (by omega), hlow]
      show decodeLoop width more (i + 1) _ _ = _
      rw [ih (i + 1) _ (n / 128) hrest (by omega), Nat.add_assoc, hsplit]

/-- **The round trip**: a number that fits is read back, whatever follows. -/
theorem decode_encode {width more n : ℕ} (hw : n < 2 ^ width) (hn : n < 128 ^ (more + 1))
    (rest : Bytes) : decode width more (encode (more + 1) n ++ rest) = .ok (n, rest) := by
  rw [decode, decodeLoop_encode width rest more 0 0 n hn (by simp)]
  simp [Nat.mod_eq_of_lt hw]

/-- The last byte of what is accepted. -/
theorem encode_last {b : UInt8} (hb : b.toNat < 128) (size : ℕ) :
    encode (size + 1) b.toNat = [b] := by
  rw [encode, if_pos (by omega), Nat.mod_eq_of_lt hb, UInt8.ofNat_toNat]

/-- A byte that is not the last one, and the number the following ones stand for. -/
theorem encode_more {b : UInt8} (hb : ¬ b.toNat < 128) {v : ℕ} (hv : 0 < v) (size : ℕ) :
    encode (size + 1) (b.toNat % 128 + 128 * v) = b :: encode size v := by
  have hlt := b.toNat_lt
  have hlow : (b.toNat % 128 + 128 * v) % 128 + 128 = b.toNat := by omega
  have hhigh : (b.toNat % 128 + 128 * v) / 128 = v := by omega
  rw [encode, hhigh, if_neg (by omega), hlow, UInt8.ofNat_toNat]

/-- What is accepted at byte `i` is an encoding; only the value is cut. -/
theorem decodeLoop_inv {width : ℕ} {input : Bytes} :
    ∀ {more i acc n : ℕ} {rest : Bytes}, decodeLoop width more i acc input = .ok (n, rest) →
      ∃ v, v < 128 ^ (more + 1) ∧ (0 < i → 0 < v) ∧ input = encode (more + 1) v ++ rest ∧
        n = (acc + v * 2 ^ (7 * i)) % 2 ^ width := by
  induction input with
  | nil =>
    intro more i acc n rest h
    simp [decodeLoop] at h
  | cons b input ih =>
    intro more i acc n rest h
    rw [decodeLoop_cons] at h
    split_ifs at h with hlast hzero
    · cases h
      refine ⟨b.toNat, ?_, by omega, by rw [encode_last hlast]; rfl, by rw [Nat.mod_eq_of_lt hlast]⟩
      exact hlast.trans_le (Nat.le_self_pow (by omega) 128)
    · cases more with
      | zero => cases h
      | succ more =>
        obtain ⟨v, hv, hpos, hinput, hn⟩ := ih h
        refine ⟨b.toNat % 128 + 128 * v, ?_, by omega, ?_, ?_⟩
        · rw [Nat.pow_succ]
          omega
        · rw [encode_more hlast (hpos (by omega)), hinput]
          rfl
        · rw [hn, Nat.add_assoc, Nat.mul_add, Nat.pow_add]
          congr 2
          ring

/-- **What is accepted is an encoding**, of a number whose low bits are kept. -/
theorem decode_inv {width more n : ℕ} {input rest : Bytes}
    (h : decode width more input = .ok (n, rest)) :
    ∃ v, v < 128 ^ (more + 1) ∧ input = encode (more + 1) v ++ rest ∧ n = v % 2 ^ width := by
  obtain ⟨v, hv, -, hinput, hn⟩ := decodeLoop_inv h
  refine ⟨v, hv, hinput, ?_⟩
  rw [hn, Nat.mul_zero, Nat.pow_zero, Nat.mul_one, Nat.zero_add]

/-- No bits are dropped: the number is the one that is read with room for all bits. -/
def exact (width more : ℕ) (input : Bytes) : Bool :=
  match decode width more input, decode (7 * (more + 1)) more input with
  | .ok (n, _), .ok (v, _) => n == v
  | _, _ => false

/-- **Without dropped bits, what is accepted is the encoding of the number.** -/
theorem decode_eq_ok_of_exact {width more n : ℕ} {input rest : Bytes}
    (hexact : exact width more input = true) (h : decode width more input = .ok (n, rest)) :
    n < 2 ^ width ∧ input = encode (more + 1) n ++ rest := by
  obtain ⟨v, hv, hinput, hn⟩ := decode_inv h
  have hfull : decode (7 * (more + 1)) more input = .ok (v, rest) := by
    rw [hinput]
    refine decode_encode ?_ hv rest
    rwa [Nat.pow_mul]
  have hlt : n < 2 ^ width := hn ▸ Nat.mod_lt _ (Nat.two_pow_pos width)
  simp only [exact, h, hfull, beq_iff_eq] at hexact
  exact ⟨hlt, hexact ▸ hinput⟩

theorem exact_encode {width more n : ℕ} (hw : n < 2 ^ width) (hn : n < 128 ^ (more + 1))
    (rest : Bytes) : exact width more (encode (more + 1) n ++ rest) = true := by
  have hfull : n < 2 ^ (7 * (more + 1)) := by
    rwa [Nat.pow_mul]
  simp only [exact, decode_encode hw hn, decode_encode hfull hn, beq_self_eq_true]

/-- A decoder that accepts has read at least one byte. -/
theorem length_lt_of_decodeLoop {width : ℕ} {input : Bytes} :
    ∀ {more i acc n : ℕ} {rest : Bytes},
      decodeLoop width more i acc input = .ok (n, rest) → rest.length < input.length := by
  induction input with
  | nil =>
    intro more i acc n rest h
    simp [decodeLoop] at h
  | cons b input ih =>
    intro more i acc n rest h
    rw [decodeLoop_cons] at h
    split_ifs at h with hlast hzero
    · cases h
      exact Nat.lt_succ_self _
    · cases more with
      | zero => cases h
      | succ more => exact (ih h).trans (Nat.lt_succ_self _)

/-! ### As a parser -/

variable {ε : Type}

/-- The decoder as a parser, with its errors wrapped. -/
def parse (width more : ℕ) (wrap : Error → ε) : Parser ε ℕ := fun input =>
  match decode width more input with
  | .error e => .error (wrap e)
  | .ok r => .ok r

theorem parse_eq_ok {width more : ℕ} {wrap : Error → ε} {input rest : Bytes} {n : ℕ} :
    parse width more wrap input = .ok (n, rest) ↔ decode width more input = .ok (n, rest) := by
  unfold parse
  cases decode width more input with
  | error e => simp
  | ok r => simp

theorem parse_reads {width more n : ℕ} (hw : n < 2 ^ width) (hn : n < 128 ^ (more + 1))
    (wrap : Error → ε) : (parse width more wrap).Reads (encode (more + 1) n) n := fun rest =>
  parse_eq_ok.mpr (decode_encode hw hn rest)

theorem parse_local (width more : ℕ) (wrap : Error → ε) : (parse width more wrap).Local := by
  intro input n rest h
  obtain ⟨v, hv, hinput, hn⟩ := decode_inv (parse_eq_ok.mp h)
  refine ⟨encode (more + 1) v, hinput, fun rest' => parse_eq_ok.mpr ?_⟩
  rw [hn, decode, decodeLoop_encode width rest' more 0 0 v hv (by simp)]
  simp

theorem parse_progress (width more : ℕ) (wrap : Error → ε) : (parse width more wrap).Progress :=
  fun _ _ _ h => length_lt_of_decodeLoop (parse_eq_ok.mp h)

end Varint
end Lib
end CkbP2P

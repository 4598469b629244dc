import CkbP2P.Lib.Bytes

/-!
# Byte parsers

A parser reads a value from the front of a byte string and returns the rest.  A few
properties of parsers compose along `bind` and carry the proofs about a self-delimiting
format:

* `Reads p enc a` — `p` reads `a` from the bytes `enc`, whatever follows.
* `Local p` — what `p` reads, it reads whatever follows.
* `Progress p` — `p` reads at least one byte.
* `Yields p Q` — every value `p` reads satisfies `Q`.

`many p` reads values until nothing is left.  Inputs can be put in a row (`many_append`).  The
encodings of some values are read as these values (`many_flatMap`).
-/

namespace CkbP2P
namespace Lib

/-- A parser with errors in `ε`. -/
def Parser (ε α : Type) := Bytes → Except ε (α × Bytes)

namespace Parser

variable {ε α β : Type}

/-- Read nothing. -/
protected def pure (a : α) : Parser ε α := fun input => .ok (a, input)

/-- Read with `p`, and go on with `f`. -/
protected def bind (p : Parser ε α) (f : α → Parser ε β) : Parser ε β := fun input =>
  match p input with
  | .error e => .error e
  | .ok (a, rest) => f a rest

instance : Monad (Parser ε) where
  pure := Parser.pure
  bind := Parser.bind

/-- Reject the input. -/
def fail (e : ε) : Parser ε α := fun _ => .error e

/-- Read `n` bytes. -/
def take (n : ℕ) (e : ε) : Parser ε Bytes := fun input =>
  if input.length < n then .error e else .ok (input.take n, input.drop n)

/-- Continue with a result computed from what was read. -/
def lift (r : Except ε α) : Parser ε α := fun input =>
  match r with
  | .error e => .error e
  | .ok a => .ok (a, input)

/-! ### Properties of parsers -/

/-- The parser reads `a` from `enc`, whatever follows. -/
def Reads (p : Parser ε α) (enc : Bytes) (a : α) : Prop := ∀ rest, p (enc ++ rest) = .ok (a, rest)

/-- What the parser reads, it reads whatever follows. -/
def Local (p : Parser ε α) : Prop :=
  ∀ ⦃input a rest⦄, p input = .ok (a, rest) → ∃ chunk, input = chunk ++ rest ∧ Reads p chunk a

/-- The parser reads at least one byte. -/
def Progress (p : Parser ε α) : Prop :=
  ∀ ⦃input a rest⦄, p input = .ok (a, rest) → rest.length < input.length

/-- Every value the parser reads satisfies `Q`. -/
def Yields (p : Parser ε α) (Q : α → Prop) : Prop :=
  ∀ ⦃input a rest⦄, p input = .ok (a, rest) → Q a

theorem bind_ok {p : Parser ε α} {f : α → Parser ε β} {input rest : Bytes} {b : β}
    (h : (p >>= f) input = .ok (b, rest)) :
    ∃ a mid, p input = .ok (a, mid) ∧ f a mid = .ok (b, rest) := by
  change Parser.bind p f input = _ at h
  unfold Parser.bind at h
  cases hp : p input with
  | error e => simp [hp] at h
  | ok r => exact ⟨r.1, r.2, rfl, by simpa [hp] using h⟩

theorem bind_of_ok {p : Parser ε α} {f : α → Parser ε β} {input mid : Bytes} {a : α}
    (h : p input = .ok (a, mid)) : (p >>= f) input = f a mid := by
  change Parser.bind p f input = _
  unfold Parser.bind
  rw [h]

theorem ite_ok {c : Prop} [Decidable c] {p q : Parser ε α} {input : Bytes}
    {r : Except ε (α × Bytes)} (h : (if c then p else q) input = r) :
    c ∧ p input = r ∨ q input = r := by
  split at h
  · next hc => exact .inl ⟨hc, h⟩
  · exact .inr h

theorem Reads.pure (a : α) : Reads (pure a : Parser ε α) [] a := fun _ => rfl

theorem Reads.bind {p : Parser ε α} {f : α → Parser ε β} {e₁ e₂ : Bytes} {a : α} {b : β}
    (h₁ : Reads p e₁ a) (h₂ : Reads (f a) e₂ b) : Reads (p >>= f) (e₁ ++ e₂) b := by
  intro rest
  rw [List.append_assoc, bind_of_ok (h₁ _)]
  exact h₂ rest

/-- The last step of a parser computes its result. -/
theorem Reads.bind_pure {p : Parser ε α} {f : α → Parser ε β} {enc : Bytes} {a : α} {b : β}
    (h : Reads p enc a) (hf : ∀ rest, f a rest = .ok (b, rest)) : Reads (p >>= f) enc b := by
  intro rest
  rw [bind_of_ok (h _)]
  exact hf rest

theorem Reads.take (enc : Bytes) (e : ε) : Reads (take enc.length e) enc enc := by
  intro rest
  rw [Parser.take, if_neg (by simp), List.take_left, List.drop_left]

theorem Local.pure (a : α) : Local (pure a : Parser ε α) := by
  rintro input b rest h
  cases h
  exact ⟨[], rfl, .pure a⟩

theorem Local.fail (e : ε) : Local (fail e : Parser ε α) := by
  rintro input b rest h
  cases h

theorem Local.lift (r : Except ε α) : Local (lift r) := by
  rintro input a rest h
  cases r with
  | error e => cases h
  | ok a =>
    cases h
    exact ⟨[], rfl, fun _ => rfl⟩

theorem Local.take (n : ℕ) (e : ε) : Local (take n e) := by
  rintro input a rest h
  unfold Parser.take at h
  split_ifs at h with hlt
  cases h
  have hlength : (input.take n).length = n := List.length_take_of_le (Nat.not_lt.mp hlt)
  have hreads := Reads.take (input.take n) e
  rw [hlength] at hreads
  exact ⟨input.take n, (List.take_append_drop n input).symm, hreads⟩

theorem Local.bind {p : Parser ε α} {f : α → Parser ε β} (hp : Local p)
    (hf : ∀ a, Local (f a)) : Local (p >>= f) := by
  intro input b rest h
  obtain ⟨a, mid, h₁, h₂⟩ := bind_ok h
  obtain ⟨chunk, rfl, hreads⟩ := hp h₁
  obtain ⟨chunk', rfl, hreads'⟩ := hf a h₂
  exact ⟨chunk ++ chunk', (List.append_assoc ..).symm, hreads.bind hreads'⟩

theorem Local.ite {c : Prop} [Decidable c] {p q : Parser ε α} (hp : Local p) (hq : Local q) :
    Local (if c then p else q) := by
  split_ifs
  · exact hp
  · exact hq

theorem Progress.bind {p : Parser ε α} {f : α → Parser ε β} (hp : Progress p)
    (hf : ∀ a, Local (f a)) : Progress (p >>= f) := by
  intro input b rest h
  obtain ⟨a, mid, h₁, h₂⟩ := bind_ok h
  have hlt := hp h₁
  obtain ⟨chunk, rfl, -⟩ := hf a h₂
  rw [List.length_append] at hlt
  omega

variable {Q : β → Prop}

/-! ### Reading to the end -/

/-- Read values with `p` until nothing is left, at most `n` of them. -/
def manyLoop (p : Parser ε α) : ℕ → Bytes → Except ε (List α)
  | _, [] => .ok []
  | 0, _ :: _ => .ok []
  | n + 1, b :: input =>
    match p (b :: input) with
    | .error e => .error e
    | .ok (a, rest) =>
      match manyLoop p n rest with
      | .error e => .error e
      | .ok as => .ok (a :: as)

/-- Read values with `p` until nothing is left. -/
def many (p : Parser ε α) (input : Bytes) : Except ε (List α) := manyLoop p input.length input

/-- One round. -/
theorem manyLoop_of_ok {p : Parser ε α} {n : ℕ} {input rest : Bytes} {a : α}
    (hne : input ≠ []) (h : p input = .ok (a, rest)) :
    manyLoop p (n + 1) input = (manyLoop p n rest).map (a :: ·) := by
  obtain ⟨b, input, rfl⟩ := List.exists_cons_of_ne_nil hne
  simp only [manyLoop, h]
  cases manyLoop p n rest <;> rfl

theorem manyLoop_ok {p : Parser ε α} {n : ℕ} {input : Bytes} {as : List α} (hne : input ≠ [])
    (h : manyLoop p (n + 1) input = .ok as) :
    ∃ a rest as', p input = .ok (a, rest) ∧ manyLoop p n rest = .ok as' ∧ as = a :: as' := by
  obtain ⟨b, input, rfl⟩ := List.exists_cons_of_ne_nil hne
  simp only [manyLoop] at h
  cases hp : p (b :: input) with
  | error e => simp [hp] at h
  | ok r =>
    simp only [hp] at h
    cases hm : manyLoop p n r.2 with
    | error e => simp [hm] at h
    | ok as' =>
      simp only [hm] at h
      cases h
      exact ⟨r.1, r.2, as', rfl, hm, rfl⟩

/-- More rounds than bytes change nothing. -/
theorem manyLoop_eq_many {p : Parser ε α} (hp : Progress p) :
    ∀ {n : ℕ} {input : Bytes}, input.length ≤ n → manyLoop p n input = many p input := by
  intro n
  induction n using Nat.strongRecOn with
  | _ n ih =>
    intro input hle
    cases input with
    | nil => cases n <;> rfl
    | cons b input =>
      cases n with
      | zero => simp at hle
      | succ n =>
        simp only [List.length_cons, Nat.succ_le_succ_iff] at hle
        unfold many
        simp only [manyLoop, List.length_cons]
        cases hpb : p (b :: input) with
        | error e => rfl
        | ok r =>
          have hlt := hp hpb
          simp only [List.length_cons] at hlt
          simp only []
          rw [ih n (by omega) (by omega), ih input.length (by omega) (by omega)]

theorem many_of_ok {p : Parser ε α} (hp : Progress p) {input rest : Bytes} {a : α}
    (hne : input ≠ []) (h : p input = .ok (a, rest)) :
    many p input = (many p rest).map (a :: ·) := by
  have hlt := hp h
  obtain ⟨n, hn⟩ : ∃ n, input.length = n + 1 := Nat.exists_eq_succ_of_ne_zero (by omega)
  rw [many, hn, manyLoop_of_ok hne h, manyLoop_eq_many hp (by omega)]

theorem many_ok {p : Parser ε α} (hp : Progress p) {input : Bytes} {as : List α}
    (hne : input ≠ []) (h : many p input = .ok as) :
    ∃ a rest as', p input = .ok (a, rest) ∧ many p rest = .ok as' ∧ as = a :: as' := by
  obtain ⟨n, hn⟩ : ∃ n, input.length = n + 1 :=
    Nat.exists_eq_succ_of_ne_zero (by simpa using hne)
  rw [many, hn] at h
  obtain ⟨a, rest, as', h₁, h₂, h₃⟩ := manyLoop_ok hne h
  have hlt := hp h₁
  have hmany : manyLoop p n rest = many p rest := manyLoop_eq_many hp (by omega)
  exact ⟨a, rest, as', h₁, hmany ▸ h₂, h₃⟩

/-- What holds of every value read holds of all of them. -/
theorem Yields.many {p : Parser ε β} (hy : Yields p Q) (hp : Progress p) :
    ∀ {input : Bytes} {bs : List β}, many p input = .ok bs → ∀ b ∈ bs, Q b := by
  intro input
  induction hlen : input.length using Nat.strongRecOn generalizing input with
  | _ n ih =>
    intro bs h
    by_cases hin : input = []
    · subst hin
      cases h
      simp
    · obtain ⟨b, rest, bs', h₁, h₂, rfl⟩ := many_ok hp hin h
      have hlt := hp h₁
      have hrest := ih rest.length (by omega) rfl h₂
      intro b' hb'
      rcases List.mem_cons.mp hb' with rfl | hb'
      · exact hy h₁
      · exact hrest b' hb'

/-- **What is read from two inputs is read from both in a row.** -/
theorem many_append {p : Parser ε α} (hl : Local p) (hp : Progress p) {input' : Bytes}
    {as' : List α} (h' : many p input' = .ok as') :
    ∀ {input : Bytes} {as : List α}, many p input = .ok as →
      many p (input ++ input') = .ok (as ++ as') := by
  intro input
  -- by induction on the length, as each value read makes the input shorter
  induction hlen : input.length using Nat.strongRecOn generalizing input with
  | _ n ih =>
    intro as h
    by_cases hin : input = []
    · subst hin
      cases h
      exact h'
    · obtain ⟨a, rest, as, h₁, h₂, rfl⟩ := many_ok hp hin h
      have hlt := hp h₁
      obtain ⟨chunk, rfl, hreads⟩ := hl h₁
      have hfirst : p (chunk ++ rest ++ input') = .ok (a, rest ++ input') := by
        rw [List.append_assoc]
        exact hreads _
      have hne : chunk ++ rest ++ input' ≠ [] := List.append_ne_nil_of_left_ne_nil hin _
      rw [many_of_ok hp hne hfirst, ih rest.length (by omega) rfl h₂]
      rfl

theorem many_flatMap {p : Parser ε α} (hp : Progress p) {enc : α → Bytes} {as : List α}
    (hr : ∀ a ∈ as, Reads p (enc a) a) (hne : ∀ a ∈ as, enc a ≠ []) :
    many p (as.flatMap enc) = .ok as := by
  induction as with
  | nil => rfl
  | cons a as ih =>
    have hrest := ih (fun b hb => hr b (List.mem_cons_of_mem a hb))
      (fun b hb => hne b (List.mem_cons_of_mem a hb))
    have hcons : enc a ++ as.flatMap enc ≠ [] :=
      List.append_ne_nil_of_left_ne_nil (hne a List.mem_cons_self) _
    rw [List.flatMap_cons, many_of_ok hp hcons (hr a List.mem_cons_self _), hrest]
    rfl

end Parser

end Lib
end CkbP2P

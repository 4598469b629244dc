import CkbP2P.Multiaddr.Basic

/-!
# Operations on addresses

The operations as they work on the bytes of an address.  `iter`, `pop` and `replace` decode the
bytes as they go, and panic when they meet bytes that are no component; a panic is an outcome of
its own here.
-/

namespace CkbP2P

open Lib

namespace Multiaddr

namespace Raw

/-- The calls of `expect` that may fail. -/
inductive Panic where
  /-- The bytes are no component. -/
  | invalid (e : Protocol.Error)
  /-- The function of a replacement has been used already. -/
  | taken

/-- `next`, until there is no component left. -/
def iter (bytes : Bytes) : Except Panic (List Protocol) :=
  (Protocol.fromBytes.many bytes).mapError .invalid

/-- `push`. -/
def push (bytes : Bytes) (p : Protocol) : Bytes := bytes ++ p.writeToBytes

/-- The loop of `pop`: the last component, and where it starts. -/
def popLoop (slice : Bytes) : Except Panic (Protocol × Bytes) :=
  match _h : Protocol.fromBytes slice with
  | .error e => .error (.invalid e)
  | .ok (p, s) => if s.isEmpty then .ok (p, slice) else popLoop s
termination_by slice.length
decreasing_by exact Protocol.fromBytes_progress _h

/-- `pop`. -/
def pop (bytes : Bytes) : Except Panic (Option Protocol × Bytes) :=
  if bytes.isEmpty then .ok (none, bytes)
  else match popLoop bytes with
    | .error e => .error e
    | .ok (p, slice) => .ok (some p, bytes.take (bytes.length - slice.length))

/-- The loop of `replace` at component `i`, with what is left of the function, whether the
component has been replaced, what has been written, and what is to be read. -/
def replaceLoop (pos : ℕ) (i : ℕ) (function : Option (Protocol → Option Protocol))
    (replaced : Bool) (address slice : Bytes) : Except Panic (Option Bytes) :=
  if slice.isEmpty then .ok (if replaced then some address else none)
  else match _h : Protocol.fromBytes slice with
    | .error e => .error (.invalid e)
    | .ok (p, s) =>
      if i = pos then
        match function with
        | none => .error .taken
        | some f =>
          match f p with
          | some q => replaceLoop pos (i + 1) none true (address ++ q.writeToBytes) s
          | none => .ok none
      else replaceLoop pos (i + 1) function replaced (address ++ p.writeToBytes) s
termination_by slice.length
decreasing_by all_goals exact Protocol.fromBytes_progress _h

/-- `replace`. -/
def replace (bytes : Bytes) (pos : ℕ) (f : Protocol → Option Protocol) :
    Except Panic (Option Bytes) := replaceLoop pos 0 (some f) false [] bytes

/-- `from_iter`. -/
def fromIter (ps : List Protocol) : Bytes := ps.flatMap Protocol.writeToBytes

/-! ### What is read -/

variable {bytes : Bytes} {ps : List Protocol} {p : Protocol}

theorem iter_eq_ok_iff : iter bytes = .ok ps ↔ Protocol.fromBytes.many bytes = .ok ps := by
  unfold iter
  cases Protocol.fromBytes.many bytes with
  | error e => simp [Except.mapError]
  | ok qs => simp [Except.mapError]

/-- The bytes of an address are read as its components. -/
theorem iter_bytes (a : Multiaddr) : iter a.bytes = .ok a.iter := iter_eq_ok_iff.mpr a.many_bytes

theorem iter_fromIter (h : ∀ p ∈ ps, p.Valid) : iter (fromIter ps) = .ok ps :=
  iter_eq_ok_iff.mpr <| Parser.many_flatMap Protocol.fromBytes_progress
    (fun p hp => Protocol.fromBytes_reads (h p hp))
    (fun p hp => Protocol.writeToBytes_ne_nil (h p hp))

theorem valid_of_iter (h : iter bytes = .ok ps) (hp : p ∈ ps) : p.Valid :=
  Protocol.fromBytes_yields.many Protocol.fromBytes_progress (iter_eq_ok_iff.mp h) p hp

theorem iter_push (h : iter bytes = .ok ps) (hp : p.Valid) :
    iter (push bytes p) = .ok (ps ++ [p]) :=
  iter_eq_ok_iff.mpr <| Parser.many_append Protocol.fromBytes_local Protocol.fromBytes_progress
    (many_writeToBytes hp) (iter_eq_ok_iff.mp h)

/-- There are components unless there are no bytes. -/
theorem iter_cons (hne : bytes ≠ []) (h : iter bytes = .ok ps) : ∃ p rest ps',
    Protocol.fromBytes bytes = .ok (p, rest) ∧ iter rest = .ok ps' ∧ ps = p :: ps' := by
  obtain ⟨p, rest, ps', hread, hrest, heq⟩ :=
    Parser.many_ok Protocol.fromBytes_progress hne (iter_eq_ok_iff.mp h)
  exact ⟨p, rest, ps', hread, iter_eq_ok_iff.mpr hrest, heq⟩

/-- The loops of `pop` and `replace` read one component after the other. -/
theorem popLoop_cons {rest : Bytes} (h : Protocol.fromBytes bytes = .ok (p, rest)) :
    popLoop bytes = if rest.isEmpty then .ok (p, bytes) else popLoop rest := by
  rw [popLoop]
  split
  · next e herr =>
    rw [h] at herr
    cases herr
  · next p' s hok =>
    rw [h] at hok
    cases hok
    rfl

theorem replaceLoop_nil (pos i : ℕ) (function : Option (Protocol → Option Protocol))
    (replaced : Bool) (address : Bytes) : replaceLoop pos i function replaced address []
      = .ok (if replaced then some address else none) := by
  rw [replaceLoop]
  rfl

theorem replaceLoop_cons {rest : Bytes} (hne : bytes ≠ [])
    (h : Protocol.fromBytes bytes = .ok (p, rest)) (pos i : ℕ)
    (function : Option (Protocol → Option Protocol)) (replaced : Bool) (address : Bytes) :
    replaceLoop pos i function replaced address bytes =
      if i = pos then
        match function with
        | none => .error .taken
        | some f =>
          match f p with
          | some q => replaceLoop pos (i + 1) none true (address ++ q.writeToBytes) rest
          | none => .ok none
      else replaceLoop pos (i + 1) function replaced (address ++ p.writeToBytes) rest := by
  rw [replaceLoop, if_neg (by simpa using hne)]
  split
  · next e herr =>
    rw [h] at herr
    cases herr
  · next p' s hok =>
    rw [h] at hok
    cases hok
    rfl

theorem eq_nil_of_iter (h : iter [] = .ok ps) : ps = [] := by
  cases h
  rfl

/-! ### `pop` -/

/-- The loop of `pop` stops at the last component. -/
theorem popLoop_eq (hne : bytes ≠ []) (h : iter bytes = .ok ps) : ∃ front back p,
    bytes = front ++ back ∧ iter front = .ok ps.dropLast ∧ ps.getLast? = some p ∧
      popLoop bytes = .ok (p, back) := by
  induction hlen : bytes.length using Nat.strongRecOn generalizing bytes ps with
  | _ n ih =>
    obtain ⟨p, rest, ps', hread, hrest, rfl⟩ := iter_cons hne h
    have hlt := Protocol.fromBytes_progress hread
    rw [popLoop_cons hread]
    cases rest with
    | nil =>
      -- this is the last component
      obtain rfl := eq_nil_of_iter hrest
      exact ⟨[], bytes, p, rfl, rfl, rfl, rfl⟩
    | cons b rest =>
      obtain ⟨front, back, q, hsplit, hfront, hlast, hloop⟩ :=
        ih _ (by omega) (List.cons_ne_nil b rest) hrest rfl
      obtain ⟨chunk, hchunk, hreads⟩ := Protocol.fromBytes_local hread
      have hps' : ps' ≠ [] := by
        rintro rfl
        cases hlast
      refine ⟨chunk ++ front, back, q, ?_, ?_, ?_, hloop⟩
      · rw [hchunk, hsplit, List.append_assoc]
      · -- what is left are the first component and those before the last one
        have hne' : chunk ++ front ≠ [] := by
          intro hnil
          have hempty := (List.append_eq_nil_iff.mp hnil).1
          rw [hchunk, hempty, List.nil_append] at hlt
          exact Nat.lt_irrefl _ hlt
        rw [iter_eq_ok_iff] at hfront ⊢
        rw [Parser.many_of_ok Protocol.fromBytes_progress hne' (hreads front), hfront,
          List.dropLast_cons_of_ne_nil hps']
        rfl
      · rw [List.getLast?_cons_of_ne_nil hps']
        exact hlast

/-- **`pop` takes the last component off.** -/
theorem pop_eq (h : iter bytes = .ok ps) :
    ∃ bytes', pop bytes = .ok (ps.getLast?, bytes') ∧ iter bytes' = .ok ps.dropLast := by
  cases bytes with
  | nil =>
    obtain rfl := eq_nil_of_iter h
    exact ⟨[], rfl, rfl⟩
  | cons b bytes =>
    obtain ⟨front, back, p, hsplit, hfront, hlast, hloop⟩ := popLoop_eq (List.cons_ne_nil b bytes) h
    have htake : (b :: bytes).take ((b :: bytes).length - back.length) = front := by
      rw [hsplit, List.length_append, Nat.add_sub_cancel, List.take_left' rfl]
    refine ⟨front, ?_, hfront⟩
    rw [pop, if_neg (by simp), hloop, hlast]
    exact congrArg (fun front => Except.ok (some p, front)) htake

/-! ### `replace` -/

variable {pos i : ℕ} {f : Protocol → Option Protocol} {address : Bytes}

/-- After the position, the components are copied. -/
theorem replaceLoop_of_lt (h : iter bytes = .ok ps) (hlt : pos < i)
    (function : Option (Protocol → Option Protocol)) (replaced : Bool) :
    replaceLoop pos i function replaced address bytes
      = .ok (if replaced then some (address ++ fromIter ps) else none) := by
  induction hlen : bytes.length using Nat.strongRecOn generalizing bytes ps i address with
  | _ n ih =>
    by_cases hne : bytes = []
    · subst hne
      obtain rfl := eq_nil_of_iter h
      rw [replaceLoop_nil, fromIter, List.flatMap_nil, List.append_nil]
    · obtain ⟨p, rest, ps', hread, hrest, rfl⟩ := iter_cons hne h
      have hshort := Protocol.fromBytes_progress hread
      rw [replaceLoop_cons hne hread, if_neg (by omega), ih _ (by omega) hrest (by omega) rfl,
        List.append_assoc]
      rfl

/-- Up to the position, the components are copied; the one at the position is replaced. -/
theorem replaceLoop_of_le (h : iter bytes = .ok ps) (hle : i ≤ pos) :
    replaceLoop pos i (some f) false address bytes
      = .ok ((ps[pos - i]?.bind f).map fun q => address ++ fromIter (ps.set (pos - i) q)) := by
  induction hlen : bytes.length using Nat.strongRecOn generalizing bytes ps i address with
  | _ n ih =>
    by_cases hne : bytes = []
    · subst hne
      obtain rfl := eq_nil_of_iter h
      rw [replaceLoop_nil]
      rfl
    · obtain ⟨p, rest, ps', hread, hrest, rfl⟩ := iter_cons hne h
      have hshort := Protocol.fromBytes_progress hread
      rw [replaceLoop_cons hne hread]
      by_cases hpos : i = pos
      · subst hpos
        rw [if_pos rfl, Nat.sub_self, List.getElem?_cons_zero, Option.bind_some]
        dsimp only
        cases f p with
        | none => rfl
        | some q =>
          simp only [replaceLoop_of_lt hrest (Nat.lt_succ_self i), if_true, Option.map_some,
            List.set_cons_zero, List.append_assoc]
          rfl
      · obtain ⟨k, hk⟩ : ∃ k, pos - i = k + 1 := ⟨pos - i - 1, by omega⟩
        have hk' : pos - (i + 1) = k := by omega
        rw [if_neg hpos, ih _ (by omega) hrest (by omega) rfl, hk, hk', List.getElem?_cons_succ]
        simp only [List.set_cons_succ, List.append_assoc]
        rfl

/-- **`replace` writes the components again, with one of them changed.** -/
theorem replace_eq (h : iter bytes = .ok ps) (pos : ℕ) (f : Protocol → Option Protocol) :
    replace bytes pos f = .ok ((ps[pos]?.bind f).map fun q => fromIter (ps.set pos q)) :=
  replaceLoop_of_le h (Nat.zero_le pos)

/-- What `replace` returns is read as the components with one of them changed. -/
theorem iter_replace (h : iter bytes = .ok ps) {q : Protocol} (hq : q.Valid) (pos : ℕ) :
    iter (fromIter (ps.set pos q)) = .ok (ps.set pos q) := by
  refine iter_fromIter fun p hp => ?_
  rcases List.mem_or_eq_of_mem_set hp with hmem | rfl
  · exact valid_of_iter h hmem
  · exact hq

end Raw

end Multiaddr

end CkbP2P

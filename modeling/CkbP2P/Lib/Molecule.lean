import Mathlib.Data.Nat.Basic
import Mathlib.Order.Basic
import CkbP2P.Lib.Bytes

/-!
# Molecule tables

A serialisation of records of byte strings.  Numbers have four bytes, least significant
first.  A byte vector is its length followed by its bytes.  A table is its total size, the
offset of each field and the fields; a reader finds a field between its offset and the
next one, and passes over fields it does not know.

* `packNumber`, `unpackNumber` — numbers.
* `packVec`, `unpackVec` — byte vectors.
* `packTable`, `splitTable`, `splitExact`, `splitItems`, `unpackItems` — tables, and vectors of
  items of different lengths.
* `packMessage`, `unpackMessage` — tables whose only field is one of several items.
* `unpackVec_packVec`, `splitTable_packTable`, `splitItems_packTable`,
  `unpackMessage_packMessage` — what was packed can be unpacked, as long as the total size is a
  number of four bytes.
* `Sized` — a table starts with its length, `Sized.append_inj` — so that it can be told where
  it ends in what follows it.
-/

namespace CkbP2P
namespace Lib
namespace Molecule

/-! ### Numbers -/

/-- The four bytes of a number; a greater number is truncated. -/
def packNumber (n : ℕ) : Bytes := (putU32 (UInt32.ofNat n)).reverse

/-- The number the first four bytes stand for. -/
def unpackNumber : Bytes → ℕ
  | a :: b :: c :: d :: _ => (getU32 d c b a).toNat
  | _ => 0

@[simp] theorem length_packNumber (n : ℕ) : (packNumber n).length = 4 := rfl

theorem unpackNumber_packNumber {n : ℕ} (hn : n < 2 ^ 32) (rest : Bytes) :
    unpackNumber (packNumber n ++ rest) = n := by
  change (getU32 _ _ _ _).toNat = n
  rw [getU32_putU32, UInt32.toNat_ofNat', Nat.mod_eq_of_lt hn]

theorem unpackNumber_lt (data : Bytes) : unpackNumber data < 2 ^ 32 := by
  unfold unpackNumber
  split
  · exact UInt32.toNat_lt _
  · exact Nat.two_pow_pos 32

/-- An array of four bytes, as a number. -/
def unpackU32 (slice : Bytes) : Option UInt32 :=
  if slice.length = 4 then some (UInt32.ofNat (unpackNumber slice)) else none

theorem unpackU32_packNumber (n : UInt32) : unpackU32 (packNumber n.toNat) = some n := by
  have hread : unpackNumber (packNumber n.toNat) = n.toNat := by
    have hrest := unpackNumber_packNumber n.toNat_lt []
    rwa [List.append_nil] at hrest
  rw [unpackU32, if_pos (length_packNumber _), hread, UInt32.ofNat_toNat]

/-- The first numbers of a byte string. -/
def unpackNumbers : ℕ → Bytes → List ℕ
  | 0, _ => []
  | n + 1, data => unpackNumber data :: unpackNumbers n (data.drop 4)

theorem unpackNumbers_flatMap {ns : List ℕ} (h : ∀ n ∈ ns, n < 2 ^ 32) (rest : Bytes) :
    unpackNumbers ns.length (ns.flatMap packNumber ++ rest) = ns := by
  induction ns with
  | nil => rfl
  | cons n ns ih =>
    rw [List.flatMap_cons, List.append_assoc, List.length_cons, unpackNumbers,
      unpackNumber_packNumber (h n List.mem_cons_self)]
    rw [List.drop_left' (length_packNumber n), ih fun m hm => h m (List.mem_cons_of_mem n hm)]

theorem length_flatMap_packNumber (ns : List ℕ) :
    (ns.flatMap packNumber).length = 4 * ns.length := by
  induction ns with
  | nil => rfl
  | cons n ns ih =>
    rw [List.flatMap_cons, List.length_append, length_packNumber, ih, List.length_cons]
    omega

/-! ### Byte vectors -/

def packVec (data : Bytes) : Bytes := packNumber data.length ++ data

/-- The check of a byte vector. -/
def verifyVec (slice : Bytes) : Bool :=
  if slice.length < 4 then false
  else if unpackNumber slice = 0 then slice.length == 4
  else slice.length == 4 + unpackNumber slice

/-- The bytes of a byte vector. -/
def unpackVec (slice : Bytes) : Option Bytes :=
  if verifyVec slice then some (slice.drop 4) else none

@[simp] theorem length_packVec (data : Bytes) : (packVec data).length = 4 + data.length := by
  rw [packVec, List.length_append, length_packNumber]

theorem unpackVec_packVec {data : Bytes} (h : data.length < 2 ^ 32) :
    unpackVec (packVec data) = some data := by
  have hread : unpackNumber (packVec data) = data.length := unpackNumber_packNumber h data
  have hverify : verifyVec (packVec data) = true := by
    rw [verifyVec, hread, length_packVec, if_neg (by omega)]
    split
    case isTrue hzero => rw [hzero]; rfl
    case isFalse => exact beq_self_eq_true _
  rw [unpackVec, if_pos hverify, packVec, List.drop_left' (length_packNumber _)]

/-- What is unpacked has a length of four bytes. -/
theorem length_lt_of_unpackVec {slice data : Bytes} (h : unpackVec slice = some data) :
    data.length < 2 ^ 32 := by
  have hnumber := unpackNumber_lt slice
  unfold unpackVec at h
  split at h
  · next hverify =>
    have hlength : slice.length ≤ 4 + unpackNumber slice := by
      unfold verifyVec at hverify
      split_ifs at hverify <;> simp only [beq_iff_eq] at hverify <;> omega
    rw [← Option.some.inj h, List.length_drop]
    omega
  · cases h

/-- Items that can be unpacked one by one. -/
theorem mapM_map {α β : Type*} {pack : α → β} {unpack : β → Option α} {items : List α}
    (h : ∀ item ∈ items, unpack (pack item) = some item) :
    (items.map pack).mapM unpack = some items := by
  induction items with
  | nil => rfl
  | cons item items ih =>
    rw [List.map_cons, List.mapM_cons, h item List.mem_cons_self,
      ih fun i hi => h i (List.mem_cons_of_mem item hi)]
    rfl

theorem mapM_unpackVec {fields : List Bytes} (h : ∀ field ∈ fields, field.length < 2 ^ 32) :
    (fields.map packVec).mapM unpackVec = some fields :=
  mapM_map fun field hfield => unpackVec_packVec (h field hfield)

/-! ### Tables -/

/-- The offsets of the fields, the first of which starts at `start`. -/
def offsetsFrom : ℕ → List Bytes → List ℕ
  | _, [] => []
  | start, field :: fields => start :: offsetsFrom (start + field.length) fields

/-- The bounds of the fields, the first of which starts at `start`. -/
def boundsFrom : ℕ → List Bytes → List (ℕ × ℕ)
  | _, [] => []
  | start, field :: fields =>
    (start, start + field.length) :: boundsFrom (start + field.length) fields

def packTable (fields : List Bytes) : Bytes :=
  let header := 4 * (fields.length + 1)
  packNumber (header + fields.flatten.length) ++
    (offsetsFrom header fields).flatMap packNumber ++ fields.flatten

/-- The check of a table, and its first `fieldCount` fields.  There may be more. -/
def splitTable (fieldCount : ℕ) (slice : Bytes) : Option (List Bytes) :=
  let total := unpackNumber slice
  let first := unpackNumber (slice.drop 4)
  if slice.length < 4 then none
  else if slice.length ≠ total then none
  else if slice.length = 4 ∧ fieldCount = 0 then some []
  else if slice.length < 8 then none
  else if first % 4 ≠ 0 ∨ first < 8 then none
  else if slice.length < first then none
  else if first / 4 - 1 < fieldCount then none
  else
    let offsets := unpackNumbers (first / 4 - 1) (slice.drop 4) ++ [total]
    let bounds := offsets.zip offsets.tail
    if bounds.any fun w => decide (w.2 < w.1) then none
    else some ((bounds.take fieldCount).map fun w => (slice.take w.2).drop w.1)

@[simp] theorem length_offsetsFrom (start : ℕ) (fields : List Bytes) :
    (offsetsFrom start fields).length = fields.length := by
  induction fields generalizing start with
  | nil => rfl
  | cons field fields ih => rw [offsetsFrom, List.length_cons, ih, List.length_cons]

theorem offsetsFrom_le {start : ℕ} {fields : List Bytes} :
    ∀ n ∈ offsetsFrom start fields, n ≤ start + fields.flatten.length := by
  induction fields generalizing start with
  | nil => simp [offsetsFrom]
  | cons field fields ih =>
    rw [offsetsFrom, List.flatten_cons, List.length_append]
    rintro n (_ | ⟨_, hn⟩)
    · omega
    · have := ih n hn
      omega

@[simp] theorem length_boundsFrom (start : ℕ) (fields : List Bytes) :
    (boundsFrom start fields).length = fields.length := by
  induction fields generalizing start with
  | nil => rfl
  | cons field fields ih => rw [boundsFrom, List.length_cons, ih, List.length_cons]

/-- The bounds of a field are its offset and the next one, the last of which is the end. -/
theorem zip_tail_offsetsFrom (start : ℕ) (fields : List Bytes) :
    let offsets := offsetsFrom start fields ++ [start + fields.flatten.length]
    offsets.zip offsets.tail = boundsFrom start fields := by
  induction fields generalizing start with
  | nil => rfl
  | cons field fields ih =>
    have hrest := ih (start + field.length)
    rw [Nat.add_assoc, ← List.length_append, ← List.flatten_cons] at hrest
    cases fields with
    | nil => simp [offsetsFrom, boundsFrom]
    | cons field' fields =>
      rw [boundsFrom, ← hrest]
      rfl

theorem any_boundsFrom (start : ℕ) (fields : List Bytes) :
    ((boundsFrom start fields).any fun w => decide (w.2 < w.1)) = false := by
  induction fields generalizing start with
  | nil => rfl
  | cons field fields ih => simp [boundsFrom, ih]

/-- Between its bounds is the field. -/
theorem map_boundsFrom (header : Bytes) (fields : List Bytes) :
    (boundsFrom header.length fields).map
        (fun w => ((header ++ fields.flatten).take w.2).drop w.1) = fields := by
  induction fields generalizing header with
  | nil => rfl
  | cons field fields ih =>
    have hrest := ih (header ++ field)
    rw [List.length_append, List.append_assoc] at hrest
    rw [boundsFrom, List.map_cons, List.flatten_cons, hrest, ← List.append_assoc,
      List.take_left' (List.length_append), List.drop_left' rfl]

theorem length_packTable (fields : List Bytes) :
    (packTable fields).length = 4 * (fields.length + 1) + fields.flatten.length := by
  rw [packTable, List.length_append, List.length_append, length_packNumber,
    length_flatMap_packNumber, length_offsetsFrom]
  omega

/-- A field is shorter than the table. -/
theorem length_lt_of_mem {fields : List Bytes} {field : Bytes} (h : field ∈ fields) :
    field.length < (packTable fields).length := by
  have hle := (List.sublist_flatten_of_mem h).length_le
  rw [length_packTable]
  omega

/-- **What was packed can be split.** -/
theorem splitTable_packTable {fields : List Bytes} (hne : fields ≠ [])
    (hsize : (packTable fields).length < 2 ^ 32) :
    splitTable fields.length (packTable fields) = some fields := by
  obtain ⟨n, hn⟩ : ∃ n, fields.length = n + 1 :=
    ⟨fields.length - 1, by have := List.length_pos_iff.mpr hne; omega⟩
  let header := 4 * (fields.length + 1)
  let head := packNumber (header + fields.flatten.length) ++
    (offsetsFrom header fields).flatMap packNumber
  have htable : packTable fields = head ++ fields.flatten := rfl
  have hhead : head.length = header := by
    rw [List.length_append, length_packNumber, length_flatMap_packNumber, length_offsetsFrom]
    omega
  have hlength : (packTable fields).length = header + fields.flatten.length := by
    rw [htable, List.length_append, hhead]
  rw [hlength] at hsize
  have hrest : (packTable fields).drop 4
      = (offsetsFrom header fields).flatMap packNumber ++ fields.flatten := by
    rw [packTable, List.append_assoc, List.drop_left' (length_packNumber _)]
  have htotal : unpackNumber (packTable fields) = header + fields.flatten.length := by
    rw [packTable, List.append_assoc, unpackNumber_packNumber hsize]
  have hfirst : unpackNumber ((packTable fields).drop 4) = header := by
    rw [hrest]
    cases fields with
    | nil => exact absurd rfl hne
    | cons field fields =>
      rw [offsetsFrom, List.flatMap_cons, List.append_assoc]
      exact unpackNumber_packNumber (by omega) _
  have hcount : header / 4 - 1 = (offsetsFrom header fields).length := by
    rw [length_offsetsFrom]
    omega
  have hoffsets : unpackNumbers (header / 4 - 1) ((packTable fields).drop 4)
      = offsetsFrom header fields := by
    rw [hrest, hcount]
    exact unpackNumbers_flatMap (fun m hm => Nat.lt_of_le_of_lt (offsetsFrom_le m hm) hsize) _
  simp only [splitTable, htotal, hfirst, hoffsets, hlength, zip_tail_offsetsFrom, any_boundsFrom]
  have hheader : header = 4 * (n + 2) := by omega
  rw [if_neg (by omega), if_neg (by simp), if_neg (by omega), if_neg (by omega), if_neg (by omega),
    if_neg (by omega), if_neg (by omega), if_neg (by simp)]
  rw [List.take_of_length_le (Nat.le_of_eq (length_boundsFrom _ _)), htable, ← hhead,
    map_boundsFrom]

/-- The same for a known number of fields. -/
theorem splitTable_of_length {fields : List Bytes} {fieldCount : ℕ}
    (hcount : fields.length = fieldCount + 1) (hsize : (packTable fields).length < 2 ^ 32) :
    splitTable (fieldCount + 1) (packTable fields) = some fields := by
  rw [← hcount]
  exact splitTable_packTable (List.ne_nil_of_length_eq_add_one hcount) hsize

/-- The check of a table that has no other fields. -/
def splitExact (fieldCount : ℕ) (slice : Bytes) : Option (List Bytes) :=
  if unpackNumber (slice.drop 4) / 4 - 1 = fieldCount then splitTable fieldCount slice else none

/-- What the check of a table has found. -/
structure Table (fieldCount : ℕ) (slice : Bytes) (fields : List Bytes) : Prop where
  total : slice.length = unpackNumber slice
  header : 8 ≤ slice.length
  aligned : unpackNumber (slice.drop 4) % 4 = 0
  fields_eq : fields = (((unpackNumbers (unpackNumber (slice.drop 4) / 4 - 1) (slice.drop 4) ++
    [unpackNumber slice]).zip (unpackNumbers (unpackNumber (slice.drop 4) / 4 - 1) (slice.drop 4) ++
    [unpackNumber slice]).tail).take fieldCount).map fun w => (slice.take w.2).drop w.1

theorem table_of_splitTable {fieldCount : ℕ} {slice : Bytes} {fields : List Bytes}
    (h : splitTable (fieldCount + 1) slice = some fields) :
    Table (fieldCount + 1) slice fields := by
  unfold splitTable at h
  by_cases hshort : slice.length < 4
  · rw [if_pos hshort] at h
    cases h
  rw [if_neg hshort] at h
  by_cases htotal : slice.length ≠ unpackNumber slice
  · rw [if_pos htotal] at h
    cases h
  rw [if_neg htotal, if_neg fun hnone => absurd hnone.2 (Nat.succ_ne_zero _)] at h
  by_cases hheader : slice.length < 8
  · rw [if_pos hheader] at h
    cases h
  rw [if_neg hheader] at h
  by_cases hfirst : unpackNumber (slice.drop 4) % 4 ≠ 0 ∨ unpackNumber (slice.drop 4) < 8
  · rw [if_pos hfirst] at h
    cases h
  rw [if_neg hfirst] at h
  refine ⟨not_not.mp htotal, Nat.not_lt.mp hheader, by omega, ?_⟩
  -- the fields, after the checks of the other offsets
  split_ifs at h
  dsimp only at h
  split_ifs at h
  exact (Option.some.inj h).symm

/-- A table with one field is its header, and the field. -/
theorem splitExact_one {slice : Bytes} {fields : List Bytes}
    (h : splitExact 1 slice = some fields) :
    splitTable 1 slice = some fields ∧ fields = [slice.drop 8] ∧ 8 ≤ slice.length := by
  unfold splitExact at h
  split at h
  · next hcount =>
    have htable := table_of_splitTable h
    -- the one offset is that of the end of the header
    have hoffset : unpackNumber (slice.drop 4) = 8 := by
      have haligned := htable.aligned
      omega
    have hfields := htable.fields_eq
    rw [hoffset, ← htable.total] at hfields
    refine ⟨h, hfields.trans ?_, htable.header⟩
    simp only [unpackNumbers, hoffset, List.cons_append, List.nil_append, List.tail_cons,
      List.zip_cons_cons, List.zip_nil_right, List.take_succ_cons, List.take_nil, List.map_cons,
      List.map_nil, List.take_length]
  · cases h

/-! ### Vectors of items of different lengths -/

/-- The check of a vector of items, packed as the fields of a table, and its items. -/
def splitItems (slice : Bytes) : Option (List Bytes) :=
  if slice.length = 4 then if unpackNumber slice = 4 then some [] else none
  else splitTable (unpackNumber (slice.drop 4) / 4 - 1) slice

/-- The items of a vector that was packed. -/
theorem splitItems_packTable {items : List Bytes} (hsize : (packTable items).length < 2 ^ 32) :
    splitItems (packTable items) = some items := by
  cases items with
  | nil => rfl
  | cons item items =>
    have hlength := length_packTable (item :: items)
    rw [List.length_cons] at hlength
    have hfirst : unpackNumber ((packTable (item :: items)).drop 4) / 4 - 1
        = (item :: items).length := by
      rw [packTable, List.append_assoc, List.drop_left' (length_packNumber _), offsetsFrom,
        List.flatMap_cons, List.append_assoc,
          unpackNumber_packNumber (by simp only [List.length_cons]; omega)]
      omega
    rw [splitItems, if_neg (by omega), hfirst, splitTable_packTable (List.cons_ne_nil _ _) hsize]

/-- A vector of items, each unpacked. -/
def unpackItems {α : Type} (unpack : Bytes → Option α) (slice : Bytes) : Option (List α) := do
  let items ← splitItems slice
  items.mapM unpack

theorem unpackItems_packTable {α : Type} {pack : α → Bytes} {unpack : Bytes → Option α}
    {items : List α} (hsize : (packTable (items.map pack)).length < 2 ^ 32)
    (hitem : ∀ item ∈ items, (pack item).length < 2 ^ 32 → unpack (pack item) = some item) :
    unpackItems unpack (packTable (items.map pack)) = some items := by
  have hmap : (items.map pack).mapM unpack = some items := by
    refine mapM_map ?_
    intro item hmem
    exact hitem item hmem ((length_lt_of_mem (List.mem_map_of_mem hmem)).trans hsize)
  rw [unpackItems, splitItems_packTable hsize]
  exact hmap

/-! ### Unions -/

/-- One of several items: its number and its bytes. -/
def packUnion (item : ℕ) (value : Bytes) : Bytes := packNumber item ++ value

def unpackUnion (slice : Bytes) : Option (ℕ × Bytes) :=
  if slice.length < 4 then none else some (unpackNumber slice, slice.drop 4)

theorem unpackUnion_packUnion {item : ℕ} (hitem : item < 2 ^ 32) (value : Bytes) :
    unpackUnion (packUnion item value) = some (item, value) := by
  unfold unpackUnion packUnion
  rw [if_neg (by simp), unpackNumber_packNumber hitem, List.drop_left' (length_packNumber item)]

/-- A table whose only field is a union. -/
def packMessage (item : ℕ) (value : Bytes) : Bytes := packTable [packUnion item value]

def unpackMessage (data : Bytes) : Option (ℕ × Bytes) :=
  match splitTable 1 data with
  | some [payload] => unpackUnion payload
  | _ => none

theorem length_packMessage (item : ℕ) (value : Bytes) :
    (packMessage item value).length = 12 + value.length := by
  rw [packMessage, length_packTable]
  simp [packUnion]
  omega

theorem unpackMessage_packMessage {item : ℕ} (hitem : item < 2 ^ 32) {value : Bytes}
    (hsize : (packMessage item value).length < 2 ^ 32) :
    unpackMessage (packMessage item value) = some (item, value) := by
  rw [packMessage] at hsize ⊢
  have hsplit : splitTable 1 (packTable [packUnion item value]) = some [packUnion item value] :=
    splitTable_of_length rfl hsize
  rw [unpackMessage, hsplit]
  exact unpackUnion_packUnion hitem value

/-! ### Tables in a row -/

theorem unpackNumber_append {slice : Bytes} (h : 4 ≤ slice.length) (rest : Bytes) :
    unpackNumber (slice ++ rest) = unpackNumber slice := by
  match slice, h with
  | _ :: _ :: _ :: _ :: _, _ => rfl

/-- The slice starts with its own length. -/
structure Sized (slice : Bytes) : Prop where
  header : 4 ≤ slice.length
  total : unpackNumber slice = slice.length

theorem Sized.length_lt {slice : Bytes} (h : Sized slice) : slice.length < 2 ^ 32 := by
  rw [← h.total]
  exact unpackNumber_lt slice

/-- A table of any number of fields is checked for its size. -/
theorem sized_of_splitTable {fieldCount : ℕ} {slice : Bytes} {fields : List Bytes}
    (h : splitTable fieldCount slice = some fields) : Sized slice := by
  unfold splitTable at h
  by_cases hheader : slice.length < 4
  · rw [if_pos hheader] at h
    cases h
  rw [if_neg hheader] at h
  by_cases htotal : slice.length ≠ unpackNumber slice
  · rw [if_pos htotal] at h
    cases h
  exact ⟨Nat.not_lt.mp hheader, (not_not.mp htotal).symm⟩

/-- **Where a sized slice ends is determined by how it starts.** -/
theorem Sized.append_inj {slice slice' rest rest' : Bytes} (hs : Sized slice) (hs' : Sized slice')
    (h : slice ++ rest = slice' ++ rest') : slice = slice' ∧ rest = rest' := by
  refine List.append_inj h ?_
  calc slice.length = unpackNumber slice := hs.total.symm
    _ = unpackNumber (slice ++ rest) := (unpackNumber_append hs.header rest).symm
    _ = unpackNumber (slice' ++ rest') := by rw [h]
    _ = unpackNumber slice' := unpackNumber_append hs'.header rest'
    _ = slice'.length := hs'.total

end Molecule
end Lib
end CkbP2P

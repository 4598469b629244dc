import CkbP2P.Lib.Entries
import CkbP2P.Lib.Run
import CkbP2P.Tentacle.ServiceSpec

/-!
# What the user is told about sessions

The user of a service is told when a session is open and when it is closed.  A session is put into
the table and reported in one place, and there is one place where it is taken out of the table and
reported, whoever asks for it and however often.  Ids are given out one after the other, so none is
used twice before they wrap around.
-/

namespace CkbP2P
namespace Tentacle

open Lib

/-- What the user may be told about a session that is in the table or not. -/
inductive Told : Bool → List Bool → Prop
  | never : Told false []
  | opened : Told true [true]
  | closed : Told false [true, false]

theorem Told.of_ne_nil {inTable : Bool} {row : List Bool} (h : Told inTable row) (hne : row ≠ []) :
    row = [true] ∨ row = [true, false] := by
  cases h with
  | never => exact absurd rfl hne
  | opened => exact .inl rfl
  | closed => exact .inr rfl

theorem Told.inTable_iff {inTable : Bool} {row : List Bool} (h : Told inTable row) :
    inTable = true ↔ row = [true] := by
  cases h <;> decide

namespace Roster

variable {r r' : Roster}

/-- What the user was told about a session: `true` when it was open, `false` when it was closed. -/
def newsAbout (r : Roster) (id : SessionId) : List Bool :=
  r.news.filterMap fun n => if n.1 = id then some n.2 else none

/-- The news about a session, after one more message about one. -/
theorem newsAbout_append (id id' : SessionId) (b : Bool) (h : r'.news = r.news ++ [(id', b)]) :
    r'.newsAbout id = if id' = id then r.newsAbout id ++ [b] else r.newsAbout id := by
  unfold newsAbout
  rw [h, List.filterMap_append]
  by_cases hid : id' = id
  · simp [hid]
  · simp [hid]

/-- Ids are given out in order, and each session has its news. -/
structure Disciplined (r : Roster) : Prop where
  next : r.nextSession.toNat = r.opened.length
  bounded : ∀ id ∈ r.opened, 0 < id.toNat ∧ id.toNat ≤ r.opened.length
  nodup : r.opened.Nodup
  context : ∀ id context, r.sessions.lookup id = some context → context.id = id
  told : ∀ id, Told (decide (id ∈ r.sessions)) (r.newsAbout id)
  reported : ∀ id, id ∈ r.opened ↔ r.newsAbout id ≠ []

theorem disciplined_empty : empty.Disciplined where
  next := rfl
  bounded := nofun
  nodup := List.nodup_nil
  context := nofun
  told _ := .never
  reported id := by simp [empty, newsAbout]

/-- **A session is closed**: it was open, and this is the first time. -/
theorem Disciplined.erase (h : r.Disciplined) {id : SessionId} {context : SessionContext}
    (hlookup : r.sessions.lookup id = some context) : (r.erase id context).Disciplined := by
  have hcontext := h.context id context hlookup
  have hmem : id ∈ r.sessions := mem_of_lookup_eq_some hlookup
  have hopen : r.newsAbout id = [true] := (h.told id).inTable_iff.mp (decide_eq_true hmem)
  have hnews : ∀ id', (r.erase id context).newsAbout id'
      = if id = id' then [true, false] else r.newsAbout id' := by
    intro id'
    rw [newsAbout_append (r := r) id' context.id false rfl, hcontext]
    split
    · next heq => rw [← heq, hopen]; rfl
    · rfl
  have hsessions : ∀ id', id' ∈ (r.erase id context).sessions ↔ id' ≠ id ∧ id' ∈ r.sessions :=
    fun id' => AList.mem_erase
  refine ⟨h.next, h.bounded, h.nodup, ?_, ?_, ?_⟩
  · intro id' context' hlookup'
    exact h.context id' context' (lookup_erase_eq_some_iff.mp hlookup').2
  · intro id'
    rw [hnews id']
    by_cases heq : id = id'
    · rw [if_pos heq, decide_eq_false (fun hin => ((hsessions id').mp hin).1 heq.symm)]
      exact .closed
    · have hsame : id' ∈ (r.erase id context).sessions ↔ id' ∈ r.sessions := by
        rw [hsessions]
        exact and_iff_right (Ne.symm heq)
      rw [if_neg heq, decide_eq_decide.mpr hsame]
      exact h.told id'
  · intro id'
    rw [hnews id']
    by_cases heq : id = id'
    · rw [if_pos heq, ← heq]
      refine iff_of_true ((h.reported id).mpr ?_) (List.cons_ne_nil _ _)
      rw [hopen]
      exact List.cons_ne_nil _ _
    · rw [if_neg heq]
      exact h.reported id'

theorem Disciplined.closes (h : r.Disciplined) (hcloses : r.Closes r') : r'.Disciplined := by
  induction hcloses with
  | refl => exact h
  | tail _ hclose ih =>
    obtain ⟨hlookup⟩ := hclose
    exact ih.erase hlookup

/-- As long as the ids do not wrap around, the next one was never given out. -/
theorem Disciplined.nextId_eq (h : r.Disciplined) (hroom : r.opened.length + 1 < 2 ^ 64) :
    r.nextId = r.nextSession + 1 ∧ r.nextId.toNat = r.opened.length + 1 := by
  have hvalue : (r.nextSession + 1).toNat = r.opened.length + 1 := by
    rw [UInt64.toNat_add, h.next]
    exact Nat.mod_eq_of_lt hroom
  have hunused : r.nextSession + 1 ∉ r.opened := by
    intro hmem
    have hle := (h.bounded _ hmem).2
    omega
  have hfree : r.nextSession + 1 ∉ r.sessions := by
    intro hmem
    have htold := h.told (r.nextSession + 1)
    have hnone := not_not.mp fun hne => hunused ((h.reported _).mpr hne)
    rw [decide_eq_true hmem, hnone] at htold
    cases htold
  have hnext : r.nextId = r.nextSession + 1 := by
    rw [nextId, InnerService.nextLoop, if_neg hfree]
  exact ⟨hnext, hnext ▸ hvalue⟩

/-- **A session is opened**: nothing was reported about its id before. -/
theorem Disciplined.insert (h : r.Disciplined) (hroom : r.opened.length + 1 < 2 ^ 64)
    {context : SessionContext} (hid : context.id = r.nextId) : (r.insert context).Disciplined := by
  obtain ⟨-, hvalue⟩ := h.nextId_eq hroom
  -- ids are handed out in ascending order, so this one is new to the user too
  have hunused : r.nextId ∉ r.opened := by
    intro hmem
    have hle := (h.bounded _ hmem).2
    omega
  have hnone : r.newsAbout r.nextId = [] :=
    not_not.mp fun hne => hunused ((h.reported _).mpr hne)
  have hnews : ∀ id, (r.insert context).newsAbout id
      = if r.nextId = id then [true] else r.newsAbout id := by
    intro id
    rw [newsAbout_append (r := r) id context.id true rfl, hid]
    split
    · next heq => rw [← heq, hnone]; rfl
    · rfl
  have hsessions : ∀ id, id ∈ (r.insert context).sessions ↔ id = r.nextId ∨ id ∈ r.sessions :=
    fun id => AList.mem_insert r.sessions
  have hlength : (r.insert context).opened.length = r.opened.length + 1 := by
    simp [Roster.insert]
  refine ⟨?_, ?_, ?_, ?_, ?_, ?_⟩
  · rw [hlength]
    exact hvalue
  · intro id hmem
    rw [hlength]
    rcases List.mem_append.mp hmem with hmem | hmem
    · have hbound := h.bounded id hmem
      omega
    · rw [List.mem_singleton.mp hmem, hvalue]
      omega
  · exact List.nodup_append.mpr ⟨h.nodup, List.nodup_singleton _, fun a ha b hb heq =>
      hunused (List.mem_singleton.mp hb ▸ heq ▸ ha)⟩
  · intro id context' hlookup
    rcases lookup_insert_eq_some_iff.mp hlookup with ⟨rfl, rfl⟩ | ⟨-, hlookup⟩
    · exact hid
    · exact h.context id context' hlookup
  · intro id
    rw [hnews id]
    by_cases heq : r.nextId = id
    · rw [if_pos heq, decide_eq_true ((hsessions id).mpr (.inl heq.symm))]
      exact .opened
    · have hsame : id ∈ (r.insert context).sessions ↔ id ∈ r.sessions := by
        rw [hsessions]
        exact or_iff_right (Ne.symm heq)
      rw [if_neg heq, decide_eq_decide.mpr hsame]
      exact h.told id
  · intro id
    rw [hnews id]
    by_cases heq : r.nextId = id
    · rw [if_pos heq, ← heq]
      exact iff_of_true (List.mem_append_right _ (List.mem_singleton_self _))
        (List.cons_ne_nil _ _)
    · rw [if_neg heq, ← h.reported id, Roster.insert, List.mem_append, List.mem_singleton]
      exact or_iff_left (Ne.symm heq)

/-- There are at most as many sessions as ids were given out. -/
theorem Disciplined.length_sessions_le (h : r.Disciplined) :
    r.sessions.keys.length ≤ r.opened.length := by
  refine (List.subperm_of_subset (AList.keys_nodup r.sessions) ?_).length_le
  intro id hid
  have hopen := (h.told id).inTable_iff.mp (decide_eq_true (AList.mem_keys.mpr hid))
  rw [h.reported id, hopen]
  exact List.cons_ne_nil _ _

/-- Ids are only given out. -/
theorem Closes.opened_eq (h : r.Closes r') : r'.opened = r.opened := by
  induction h with
  | refl => rfl
  | tail _ hclose ih =>
    obtain ⟨-⟩ := hclose
    exact ih

end Roster

namespace InnerService

/-- While the ids have not wrapped around, they are given out in order and each session has its
news. -/
def Reports (s : InnerService) : Prop := s.started.length < 2 ^ 64 → s.roster.Disciplined

theorem length_opened (s : InnerService) : s.roster.opened.length = s.started.length :=
  List.length_map ..

theorem reports_step (sha256 : Sha256) :
    ∀ (s : InnerService) (input : Input), s.Reports → (s.step sha256 input).Reports := by
  intro s input h hroom
  rw [← length_opened] at hroom
  rcases s.step_roster sha256 input with hcloses | ⟨_, _, _, _, _, -, -, -, -, hroster⟩
  · rw [hcloses.opened_eq, length_opened] at hroom
    exact (h hroom).closes hcloses
  · -- there are ids left for one more session
    rw [hroster, Roster.insert, List.length_append, List.length_singleton] at hroom
    have hbefore : s.started.length < 2 ^ 64 := by
      rw [← length_opened]
      omega
    rw [hroster]
    exact (h hbefore).insert hroom rfl

/-- What the user was told about a session. -/
def newsAbout (s : InnerService) (id : SessionId) : List Bool := s.roster.newsAbout id

/-- **The discipline of session events.**  In every run in which fewer than `2 ^ 64` sessions are
opened, no id in use is given out again; each id is given out once; the user is told that the
session is open, once, and then at most once that it is closed; and the session is in the table
exactly in between. -/
theorem session_events (sha256 : Sha256) (protocolConfigs : List ProtocolMeta)
    (multiTransport : MultiTransport) (maxConnectionNumber : ℕ) (forever : Bool)
    (preparations : List Preparation) (inputs : List Input) :
    let s := runFrom (step sha256)
      ((new protocolConfigs multiTransport maxConnectionNumber forever).start preparations) inputs
    s.started.length < 2 ^ 64 →
      s.generateNextSession.nextSession ∉ s.sessions ∧
      (s.started.map Prod.fst).Nodup ∧
      (∀ id, id ∈ s.started.map Prod.fst →
        s.newsAbout id = [true] ∨ s.newsAbout id = [true, false]) ∧
      (∀ id, id ∉ s.started.map Prod.fst → s.newsAbout id = []) ∧
      ∀ id, id ∈ s.sessions ↔ s.newsAbout id = [true] := by
  intro s hroom
  have hstart : ((new protocolConfigs multiTransport maxConnectionNumber forever).start
      preparations).Reports := by
    intro _
    rw [roster_start]
    exact Roster.disciplined_empty
  have h : s.roster.Disciplined := inv_runFrom (reports_step sha256) hstart inputs hroom
  have htold : ∀ id, Told (decide (id ∈ s.sessions)) (s.newsAbout id) := h.told
  refine ⟨?_, h.nodup, ?_, ?_, ?_⟩
  · exact s.nextId_not_mem (h.length_sessions_le.trans_lt (s.length_opened ▸ hroom))
  · intro id hmem
    exact (htold id).of_ne_nil ((h.reported id).mp hmem)
  · intro id hmem
    exact not_not.mp fun hne => hmem ((h.reported id).mpr hne)
  · intro id
    rw [← (htold id).inTable_iff, decide_eq_true_iff]

/-- A connection comes in, and its session reports its end twice. -/
def closedTwice : List Input :=
  [.event (.handshakeSuccess none loopback .inbound (some loopbackWss)),
    .event (.sessionClose 1), .event (.sessionClose 1)]

theorem session_events_closedTwice :
    let s := runFrom (step generatorSha256) ((new [] ⟨false, false, false⟩ 1 true).start [])
      closedTwice
    s.started.map Prod.fst = [1] ∧ s.newsAbout 1 = [true, false] := by
  intro s
  have hstarted : s.started.map Prod.fst = [1] := by decide +kernel
  have hempty : (1 : SessionId) ∉ s.sessions := by decide +kernel
  have hroom : s.started.length < 2 ^ 64 := by
    rw [← List.length_map (f := Prod.fst), hstarted]
    decide
  obtain ⟨-, -, hnews, -, htable⟩ := session_events generatorSha256 [] ⟨false, false, false⟩ 1 true
    [] closedTwice hroom
  refine ⟨hstarted, ?_⟩
  have hone : (1 : SessionId) ∈ s.started.map Prod.fst := by
    rw [hstarted]
    exact List.mem_singleton_self 1
  exact (hnews 1 hone).resolve_left fun hopen => hempty ((htable 1).mpr hopen)

end InnerService

end Tentacle
end CkbP2P

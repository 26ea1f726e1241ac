import Mathlib.Data.Finset.Card
import Rekey.Migration.Columns
import Rekey.Proofs.Columns.Index
import Rekey.Proofs.Rehearsal.Session

/-!
# Entering mappings

An index is filled in two ways. Of a list the first mapping of an identifier counts, of entries made
one after another the last. So a list fills an index as its mappings do that are entered from the
last to the first. The index that is loaded from a store answers what the table of mappings holds,
in whatever order the table is listed, until a later entry says otherwise.
-/

namespace Rekey

/-- What a mapping enters into an index. -/
def Mapping.entry (m : Mapping) : String × String := (m.legacyId, m.newId)

namespace MappingIndex

variable {index : MappingIndex} {id newId : String} {ms : List Mapping}
  {entries : List (String × String)}

/-- Enters identifiers one after another. -/
def insertAll (index : MappingIndex) (entries : List (String × String)) : MappingIndex :=
  entries.foldl (fun index entry => index.insert entry.1 entry.2) index

/-- What an index knows of a list of mappings. -/
structure Indexes (index : MappingIndex) (ms : List Mapping) : Prop where
  /-- It is filled as by entering the mappings from the last to the first. -/
  reversed : index = empty.insertAll (ms.reverse.map Mapping.entry)
  /-- It knows as many identifiers as the mappings have different ones. -/
  size : index.size = (ms.map Mapping.legacyId).toFinset.card
  /-- It answers the new identifier of the first mapping of an identifier of the old shape. -/
  first : ∀ id newId, index.lookup id = some newId ↔ isLegacyId id = true ∧
    ∃ before m after, ms = before ++ m :: after ∧ (∀ b ∈ before, b.legacyId ≠ id) ∧
      m.legacyId = id ∧ m.newId = newId

/-- How an index answers that holds the mappings of a store and some later entries. -/
structure Reflects (index : MappingIndex) (s : MemoryTables) (later : List (String × String)) :
    Prop where
  /-- An identifier of another shape has no answer. -/
  shape : ∀ id, isLegacyId id = false → index.lookup id = none
  /-- The last of the later entries for an identifier is answered. -/
  entered : ∀ id, isLegacyId id = true → ∀ before newId after,
    later = before ++ (id, newId) :: after → (∀ entry ∈ after, entry.1 ≠ id) →
      index.lookup id = some newId
  /-- Without a later entry it is the mapping that is stored under the identifier. -/
  stored : ∀ id, isLegacyId id = true → (∀ entry ∈ later, entry.1 ≠ id) →
    index.lookup id = (s.mappings[id]?).map Mapping.newId

/-! ## Entries -/

theorem lookup_of_legacyId (h : isLegacyId id = true) : index.lookup id = index.get? id :=
  if_pos h

theorem lookup_of_other (h : isLegacyId id = false) : index.lookup id = none :=
  if_neg (Bool.eq_false_iff.mp h)

/-- Indexes that have entered the same are the same. -/
theorem ext_get? {index' : MappingIndex} (h : ∀ id, index.get? id = index'.get? id) :
    index = index' :=
  congrArg MappingIndex.mk (Std.ExtTreeMap.ext_getElem? h)

theorem insertAll_append (index : MappingIndex) (entries entries' : List (String × String)) :
    index.insertAll (entries ++ entries') = (index.insertAll entries).insertAll entries' :=
  List.foldl_append

/-- Entries for others leave an identifier as it is. -/
theorem get?_insertAll_of_others (h : ∀ entry ∈ entries, entry.1 ≠ id) :
    (index.insertAll entries).get? id = index.get? id := by
  induction entries generalizing index with
  | nil => rfl
  | cons entry rest ih =>
    obtain ⟨hentry, hrest⟩ := List.forall_mem_cons.mp h
    show ((index.insert entry.1 entry.2).insertAll rest).get? id = _
    rw [ih hrest, get?_insert, if_neg hentry]

/-- The last entry for an identifier counts. -/
theorem get?_insertAll_of_last {before after : List (String × String)}
    (h : ∀ entry ∈ after, entry.1 ≠ id) :
    (index.insertAll (before ++ (id, newId) :: after)).get? id = some newId := by
  rw [insertAll_append]
  -- the entry replaces what those before it entered, and those behind it leave it alone
  show (((index.insertAll before).insert id newId).insertAll after).get? id = _
  rw [get?_insertAll_of_others h, get?_insert, if_pos rfl]

/-! ## Lists of mappings -/

/-- A mapping in front of others counts before them, so it is entered after them. -/
theorem ofMappings_cons (m : Mapping) (ms : List Mapping) :
    ofMappings (m :: ms) = (ofMappings ms).insert m.legacyId m.newId := by
  refine ext_get? fun id => ?_
  rw [get?_insert, get?_ofMappings, get?_ofMappings, List.find?_cons]
  by_cases hid : m.legacyId = id
  · simp [hid]
  · simp [hid, beq_eq_false_iff_ne.mpr hid]

theorem ofMappings_eq_insertAll (ms : List Mapping) :
    ofMappings ms = empty.insertAll (ms.reverse.map Mapping.entry) := by
  induction ms with
  | nil => rfl
  | cons m rest ih =>
    rw [ofMappings_cons, ih, List.reverse_cons, List.map_append, insertAll_append]
    rfl

theorem mem_ofMappings : id ∈ (ofMappings ms).entries ↔ id ∈ ms.map Mapping.legacyId := by
  induction ms with
  | nil => simp [ofMappings, empty]
  | cons m rest ih =>
    rw [ofMappings_cons, List.map_cons, List.mem_cons, ← ih, insert, Std.ExtTreeMap.mem_insert,
      Std.LawfulEqCmp.compare_eq_iff_eq, eq_comm]

/-- Mappings of one identifier are counted once. -/
theorem size_ofMappings (ms : List Mapping) :
    (ofMappings ms).size = (ms.map Mapping.legacyId).toFinset.card := by
  have hkeys : (ofMappings ms).entries.keys.toFinset = (ms.map Mapping.legacyId).toFinset := by
    ext id
    rw [List.mem_toFinset, List.mem_toFinset, Std.ExtTreeMap.mem_keys, mem_ofMappings]
  calc (ofMappings ms).size
    _ = (ofMappings ms).entries.keys.length := Std.ExtTreeMap.length_keys.symm
    _ = (ofMappings ms).entries.keys.toFinset.card :=
        (List.toFinset_card_of_nodup Std.ExtTreeMap.nodup_keys).symm
    _ = (ms.map Mapping.legacyId).toFinset.card := by rw [hkeys]

theorem get?_ofMappings_eq_some_iff :
    (ofMappings ms).get? id = some newId ↔
      ∃ before m after, ms = before ++ m :: after ∧ (∀ b ∈ before, b.legacyId ≠ id) ∧
        m.legacyId = id ∧ m.newId = newId := by
  rw [get?_ofMappings, Option.map_eq_some_iff]
  constructor
  · rintro ⟨m, hfind, rfl⟩
    obtain ⟨hid, before, after, rfl, hbefore⟩ := List.find?_eq_some_iff_append.mp hfind
    exact ⟨before, m, after, rfl, by simpa using hbefore, by simpa using hid, rfl⟩
  · rintro ⟨before, m, after, rfl, hbefore, rfl, rfl⟩
    have hfirst : ∀ b ∈ before, (!(b.legacyId == m.legacyId)) = true := by simpa using hbefore
    exact ⟨m, List.find?_eq_some_iff_append.mpr ⟨by simp, before, after, rfl, hfirst⟩, rfl⟩

theorem indexes_ofMappings (ms : List Mapping) : (ofMappings ms).Indexes ms where
  reversed := ofMappings_eq_insertAll ms
  size := size_ofMappings ms
  first id newId := by
    rw [← get?_ofMappings_eq_some_iff]
    cases hshape : isLegacyId id with
    | true => simp [lookup_of_legacyId hshape]
    | false => simp [lookup_of_other hshape]

end MappingIndex

/-! ## The index of a store -/

/-- The index of a store reflects its mappings, whatever is entered later. -/
theorem MemoryTables.Filed.reflects {s : MemoryTables} (h : s.Filed)
    (later : List (String × String)) : (s.index.insertAll later).Reflects s later where
  shape id hshape := MappingIndex.lookup_of_other hshape
  entered id hshape before newId after hlater hafter := by
    rw [MappingIndex.lookup_of_legacyId hshape, hlater, MappingIndex.get?_insertAll_of_last hafter]
  stored id hshape hothers := by
    rw [MappingIndex.lookup_of_legacyId hshape, MappingIndex.get?_insertAll_of_others hothers,
      h.get?_index]

variable {φ : Type} {i : Interference φ} {r : Run (World φ)}

/-- Loading that is not made to fail gives the index of all mappings and leaves the store alone. -/
theorem loadIndex_ends (hpass : (i.fails .mappingsByAge none r.world.mind).1 = false) :
    Ends (loadIndex (Rehearsal.store i)) r fun loaded r' =>
      r'.world.store = r.world.store ∧ loaded = .ok r.world.store.index := by
  unfold loadIndex
  rw [ends_bind, ends_call]
  refine (Rehearsal.ends_query_of_passes hpass).mono ?_
  rintro _ _ ⟨rfl, rfl⟩
  exact ⟨rfl, rfl⟩

/-- The index of a list knows the first mapping of each identifier, as if the mappings were entered
from the last to the first. The index that is loaded from a store therefore answers what the table
of mappings holds, except where a later entry says otherwise. -/
theorem index_agrees_with_mappings (i : Interference φ) :
    (∀ ms, (MappingIndex.ofMappings ms).Indexes ms) ∧
    ∀ r : Run (World φ), r.world.store.Committed →
      (i.fails .mappingsByAge none r.world.mind).1 = false →
      Ends (loadIndex (Rehearsal.store i)) r fun loaded r' =>
        r'.world.store = r.world.store ∧ ∃ index, loaded = .ok index ∧
          ∀ later, (index.insertAll later).Reflects r.world.store later := by
  refine ⟨MappingIndex.indexes_ofMappings, fun r hcommitted hpass => ?_⟩
  refine (loadIndex_ends hpass).mono ?_
  rintro _ r' ⟨hkept, rfl⟩
  exact ⟨hkept, _, rfl, hcommitted.filed.reflects⟩

open Rehearsal in
/-- A mapping is written twice, and an identifier of another shape has one too. -/
theorem index_agrees_with_mappings_stage :
    let ada := Stage.ada.legacyId
    let first := MemoryTables.empty.commit (fun _ => ⟨1, 0⟩) [.mapping ada "ada" "u1"]
    let s := first.commit (fun _ => ⟨2, 0⟩) [.mapping "grace" "grace" "u2", .mapping ada "ada" "u3"]
    let w : Stage := { Stage.start with store := s }
    let later := [(ada, "u4"), ("grace", "u5"), (ada, "u6"), (Stage.adaAgain.legacyId, "u7")]
    w.store.Committed ∧ (Script.interference.fails .mappingsByAge none w.mind).1 = false ∧
      Ends (loadIndex stageStore) (.start w) fun loaded _ => ∃ index, loaded = .ok index ∧
        (index.insertAll []).lookup ada = some "u3" ∧
        (index.insertAll later).lookup "grace" = none ∧
        (index.insertAll later).lookup ada = some "u6" := by
  intro ada first s w later
  have hcommitted : w.store.Committed := .commit _ _ (.commit _ _ (.blank rfl))
  obtain ⟨hpass, hada, hgrace, hstored⟩ :
      (Script.interference.fails .mappingsByAge none w.mind).1 = false ∧
      isLegacyId ada = true ∧ isLegacyId "grace" = false ∧
      (s.mappings[ada]?).map Mapping.newId = some "u3" := by decide +kernel
  obtain ⟨-, hload⟩ := index_agrees_with_mappings Script.interference
  refine ⟨hcommitted, hpass, (hload (.start w) hcommitted hpass).mono ?_⟩
  rintro _ _ ⟨-, index, rfl, hreflects⟩
  refine ⟨index, rfl, ?_, (hreflects later).shape _ hgrace, ?_⟩
  · exact ((hreflects []).stored ada hada nofun).trans hstored
  · exact (hreflects later).entered ada hada [_, _] "u6" [_] rfl (by decide)

/-- Of two mappings of one identifier the first counts, and they are counted once. -/
example :
    let id := "aB3dE5gH7jK9mN1pQ3sT5vW7yZ01"
    let index := MappingIndex.ofMappings
      [⟨id, "a@x.com", "user_new", ⟨60, 0⟩, ⟨60, 0⟩⟩, ⟨id, "a@x.com", "user_old", ⟨0, 0⟩, ⟨0, 0⟩⟩]
    index.lookup id = some "user_new" ∧ index.size = 1 := by
  decide +kernel

end Rekey

import Rekey.Column.Replacement
import Rekey.Proofs.Memory.Commit
import Rekey.Proofs.Users.Consistency

/-!
# The index of stored mappings

The index of a list answers the first mapping of an identifier. Where mappings stand under their
legacy identifiers, as in a consistent store, each identifier has one mapping and the order of the
list does not matter: the index of all stored mappings answers what the table of mappings holds.
-/

namespace Rekey

/-- The values of a map are those of its entries, in order. -/
theorem values_eq_map_toList {κ ν : Type} {cmp : κ → κ → Ordering} [Std.TransCmp cmp]
    (t : Std.ExtTreeMap κ ν cmp) : t.values = t.toList.map Prod.snd := by
  obtain ⟨t⟩ := t
  induction t using Std.ExtDTreeMap.inductionOn with
  | mk a =>
    change a.inner.values = (Std.DTreeMap.Internal.Impl.Const.toList a.inner).map Prod.snd
    rw [Std.DTreeMap.Internal.Impl.values_eq_map_snd,
      Std.DTreeMap.Internal.Impl.Const.toList_eq_toListModel_map, List.map_map]
    rfl

theorem mem_values_iff {κ ν : Type} [Ord κ] [Std.TransOrd κ] [Std.LawfulEqOrd κ]
    {t : Std.ExtTreeMap κ ν} {v : ν} : v ∈ t.values ↔ ∃ k : κ, t[k]? = some v := by
  rw [values_eq_map_toList, List.mem_map]
  constructor
  · rintro ⟨⟨k, _⟩, hmem, rfl⟩
    exact ⟨k, Std.ExtTreeMap.mem_toList_iff_getElem?_eq_some.mp hmem⟩
  · rintro ⟨k, hk⟩
    exact ⟨(k, v), Std.ExtTreeMap.mem_toList_iff_getElem?_eq_some.mpr hk, rfl⟩

namespace MappingIndex

theorem get?_foldl_insertIfNew (ms : List Mapping) (index : MappingIndex) (id : String) :
    (ms.foldl (fun index m => index.insertIfNew m.legacyId m.newId) index).get? id =
      (index.get? id).or ((ms.find? (·.legacyId == id)).map Mapping.newId) := by
  induction ms generalizing index with
  | nil => simp
  | cons m rest ih =>
    rw [List.foldl_cons, ih, get?_insertIfNew, List.find?_cons]
    by_cases hid : m.legacyId = id
    · subst hid
      cases index.get? m.legacyId <;> simp
    · have hbeq : (m.legacyId == id) = false := beq_eq_false_iff_ne.mpr hid
      simp [hid, hbeq]

/-- The first mapping of an identifier counts. -/
theorem get?_ofMappings (ms : List Mapping) (id : String) :
    (ofMappings ms).get? id = (ms.find? (·.legacyId == id)).map Mapping.newId := by
  rw [ofMappings, get?_foldl_insertIfNew, get?_empty, Option.none_or]

end MappingIndex

namespace MemoryTables

variable {s : MemoryTables}

theorem mem_mappingsByAge {m : Mapping} :
    m ∈ s.mappingsByAge ↔ ∃ k : String, s.mappings[k]? = some m := by
  rw [mappingsByAge, List.mem_mergeSort, mem_values_iff]

/-- The index of all mappings of a store. -/
abbrev index (s : MemoryTables) : MappingIndex := .ofMappings s.mappingsByAge

/-- The index of all mappings has entered what the table of mappings holds. -/
theorem Filed.get?_index (h : s.Filed) (id : String) :
    s.index.get? id = (s.mappings[id]?).map Mapping.newId := by
  rw [MappingIndex.get?_ofMappings]
  cases hfind : s.mappingsByAge.find? (·.legacyId == id) with
  | none =>
    -- a mapping that stands in the table is listed
    have habsent : s.mappings[id]? = none := by
      refine Option.eq_none_iff_forall_ne_some.mpr fun m hm => ?_
      have hmiss := List.find?_eq_none.mp hfind m (mem_mappingsByAge.mpr ⟨id, hm⟩)
      exact hmiss (beq_iff_eq.mpr (h id m hm))
    rw [habsent]
  | some m =>
    -- a mapping that is listed stands under its legacy identifier
    obtain ⟨k, hk⟩ := mem_mappingsByAge.mp (List.mem_of_find?_eq_some hfind)
    have hid : m.legacyId = id := by simpa using List.find?_some hfind
    rw [← hid, h k m hk, hk]

theorem Consistent.filed (h : s.Consistent) : s.Filed :=
  fun k m hm => (h.mapping k m hm).1

/-- The index of a consistent store answers what the table of mappings holds. -/
theorem Consistent.lookup_index (h : s.Consistent) (id : String) :
    s.index.lookup id = (s.mappings[id]?).map Mapping.newId := by
  unfold MappingIndex.lookup
  split
  · exact h.filed.get?_index id
  · rename_i hshape
    cases hid : s.mappings[id]? with
    | none => rfl
    | some m => exact absurd (h.mapping id m hid).2.1 hshape

end MemoryTables

end Rekey

import Rekey.Column.Basic
import Rekey.LegacyId
import Rekey.Record.Basic
import Std.Data.ExtTreeMap

/-!
# Replacing identifiers in cells

A mapping index answers which new identifier an old one has. A cell has a replacement exactly when
it holds an identifier that the index knows. The main statements say what an index answers after
each way of filling it.
-/

namespace Rekey

/-- New identifiers by old ones. -/
structure MappingIndex where
  entries : Std.ExtTreeMap String String

namespace MappingIndex

/-- An index without entries. -/
def empty : MappingIndex := ⟨∅⟩

instance : Inhabited MappingIndex := ⟨empty⟩

/-- The new identifier entered for `id`, whatever its shape. -/
def get? (index : MappingIndex) (id : String) : Option String :=
  index.entries[id]?

/-- How many identifiers the index knows. -/
def size (index : MappingIndex) : Nat :=
  index.entries.size

/-- An index that knows nothing. -/
def isEmpty (index : MappingIndex) : Bool :=
  index.entries.isEmpty

/-- Enters an identifier; an earlier entry for it is replaced. -/
def insert (index : MappingIndex) (legacyId newId : String) : MappingIndex :=
  ⟨index.entries.insert legacyId newId⟩

/-- Enters an identifier unless it is entered already. -/
def insertIfNew (index : MappingIndex) (legacyId newId : String) : MappingIndex :=
  ⟨index.entries.insertIfNew legacyId newId⟩

/-- The index of a list of mappings: the first mapping of an identifier counts. -/
def ofMappings (ms : List Mapping) : MappingIndex :=
  ms.foldl (fun index m => index.insertIfNew m.legacyId m.newId) empty

/-- The new identifier for an identifier of the old shape. -/
def lookup (index : MappingIndex) (id : String) : Option String :=
  if isLegacyId id then index.get? id else none

@[simp] theorem get?_empty (id : String) : empty.get? id = none := by
  simp [empty, get?]

theorem get?_insert (index : MappingIndex) (k v id : String) :
    (index.insert k v).get? id = if k = id then some v else index.get? id := by
  simp [get?, insert, Std.ExtTreeMap.getElem?_insert]

theorem get?_insertIfNew (index : MappingIndex) (k v id : String) :
    (index.insertIfNew k v).get? id =
      if k = id ∧ (index.get? k).isNone then some v else index.get? id := by
  simp [get?, insertIfNew, Std.ExtTreeMap.getElem?_insertIfNew]

end MappingIndex

/-- The replacement for an identifier that may be null, if there is one. -/
def replaceId (index : MappingIndex) (value : Option String) : Option String :=
  value.bind index.lookup

/-- An element of an array after replacement. -/
def replaceElement (index : MappingIndex) (value : Option String) : Option String :=
  match replaceId index value with
  | some id => some id
  | none => value

/-- The replacement for an array that may be null, if one of its elements has one. -/
def replaceIds (index : MappingIndex) (items : Option (List (Option String))) :
    Option (List (Option String)) :=
  match items with
  | none => none
  | some xs =>
    if xs.any fun x => (replaceId index x).isSome then some (xs.map (replaceElement index))
    else none

/-- The replacement for a cell, if it has one. -/
def replaceCell (index : MappingIndex) : Cell → Option Cell
  | .scalar value => (replaceId index value).map fun id => .scalar (some id)
  | .array items => (replaceIds index items).map fun xs => .array (some xs)

end Rekey

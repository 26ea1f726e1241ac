import Rekey.Memory.Tables
import Rekey.Proofs.Columns.Cells
import Std.Data.String.ToNat

/-!
# Rows of tables

Rows are numbered over all tables as they are added, so no two rows of a table stand at the same
place. A descriptor without a key addresses rows by their places; an update then writes the cell of
the row that the scan has shown, and of no other.
-/

namespace Rekey

/-- The row with another cell in the column. -/
def StoredRow.put (row : StoredRow) (column : String) (cell : Cell) : StoredRow :=
  { row with cells := row.cells.insert column cell }

theorem put_cells {row : StoredRow} {column : String} {cell : Cell} (k : String) :
    (row.put column cell).cells[k]? = if column = k then some cell else row.cells[k]? := by
  simp [StoredRow.put, Std.ExtTreeMap.getElem?_insert]

namespace MemoryTables

variable {s s' : MemoryTables} {d : Descriptor} {index : MappingIndex} {row : StoredRow}
  {before rest rows : List StoredRow} {table : String}

/-! ## Places -/

/-- Stores whose tables were filled row by row. Anything else in them may be as it is. -/
inductive Filled : MemoryTables → Prop
  | blank {s : MemoryTables} (h : s.tables = ∅) : Filled s
  | row {s : MemoryTables} (table : String) (values : List (String × Cell)) (h : Filled s) :
      Filled (s.addRow table values).2
  | elsewhere {s s' : MemoryTables} (htables : s'.tables = s.tables)
      (hcount : s'.rowCount = s.rowCount) (h : Filled s) : Filled s'

/-- No two rows of a table stand at the same place. -/
def Located (s : MemoryTables) : Prop :=
  ∀ (table : String) (rows : List StoredRow), s.tables[table]? = some rows →
    (rows.map StoredRow.locator).Nodup

theorem rowAddress_injective {m n : Nat} (h : rowAddress m = rowAddress n) : m = n := by
  have hlist := congrArg String.toList h
  simp only [rowAddress, String.toList_append, List.append_cancel_left_eq,
    List.append_cancel_right_eq, String.toList_inj] at hlist
  exact Nat.repr_injective hlist

/-- The rows of a table stand at different places, with numbers given out already. -/
def Numbered (s : MemoryTables) : Prop :=
  ∀ (table : String) (rows : List StoredRow), s.tables[table]? = some rows →
    (rows.map StoredRow.locator).Nodup ∧
      ∀ row ∈ rows, ∃ n, n ≤ s.rowCount ∧ row.locator = rowAddress n

theorem Numbered.addRow (h : s.Numbered) (table : String) (values : List (String × Cell)) :
    (s.addRow table values).2.Numbered := by
  -- the rows that are there already, also when the table is new
  have hold : ∀ table : String, (((s.tables[table]?).getD []).map StoredRow.locator).Nodup ∧
      ∀ row ∈ (s.tables[table]?).getD [], ∃ n, n ≤ s.rowCount ∧ row.locator = rowAddress n := by
    intro table
    cases hrows : s.tables[table]? with
    | none => exact ⟨.nil, fun _ hrow => nomatch hrow⟩
    | some rows => exact h table rows hrows
  intro table' rows hrows
  simp only [MemoryTables.addRow, Std.ExtTreeMap.getElem?_insert] at hrows ⊢
  split at hrows
  · obtain rfl := Option.some.inj hrows
    obtain ⟨hnodup, hnumbers⟩ := hold table
    refine ⟨?_, fun row hrow => ?_⟩
    · rw [List.map_append, List.nodup_append]
      refine ⟨hnodup, by simp, fun locator hmem new hnew => ?_⟩
      obtain ⟨row, hrow, rfl⟩ := List.mem_map.mp hmem
      obtain ⟨n, hn, hat⟩ := hnumbers row hrow
      rw [hat, List.mem_singleton.mp hnew]
      intro hsame
      have := rowAddress_injective hsame
      omega
    · rcases List.mem_append.mp hrow with hmem | hmem
      · obtain ⟨n, hn, hat⟩ := hnumbers row hmem
        exact ⟨n, Nat.le_succ_of_le hn, hat⟩
      · obtain rfl := List.mem_singleton.mp hmem
        exact ⟨s.rowCount + 1, Nat.le_refl _, rfl⟩
  · obtain ⟨hnodup, hnumbers⟩ := h table' rows hrows
    refine ⟨hnodup, fun row hrow => ?_⟩
    obtain ⟨n, hn, hat⟩ := hnumbers row hrow
    exact ⟨n, Nat.le_succ_of_le hn, hat⟩

theorem Filled.numbered (h : s.Filled) : s.Numbered := by
  induction h with
  | blank h =>
    intro table rows hrows
    simp [h] at hrows
  | row table values _ ih => exact ih.addRow table values
  | elsewhere htables hcount _ ih =>
    intro table rows hrows
    rw [hcount]
    exact ih table rows (htables ▸ hrows)

theorem Filled.located (h : s.Filled) : s.Located :=
  fun table rows hrows => (h.numbered table rows hrows).1

/-! ## Scans and updates without a key -/

/-- A row as a scan without a key shows it. -/
def shown (d : Descriptor) (row : StoredRow) : ScannedRow :=
  ⟨row.locator, (row.cells[d.column]?).getD (.null d.kind)⟩

theorem scanRows_of_keyless (hkey : d.key = none) (rows : List StoredRow) :
    scanRows d rows = .ok (rows.map (shown d)) := by
  induction rows with
  | nil => rfl
  | cons row rest ih =>
    rw [scanRows, ih]
    simp [scanRow, addressOf, hkey, shown, Except.map]

/-- A missing cell shows as null, which has no replacement. -/
theorem replaceCell_shown :
    replaceCell index (shown d row).cell = (row.cells[d.column]?).bind (replaceCell index) := by
  unfold shown
  cases row.cells[d.column]? with
  | none => cases d.kind <;> rfl
  | some c => rfl

/-- The store with other rows in a table. -/
def withRows (s : MemoryTables) (table : String) (rows : List StoredRow) : MemoryTables :=
  { s with tables := s.tables.insert table rows }

theorem withRows_tables (table' : String) :
    (s.withRows table rows).tables[table']? =
      if table = table' then some rows else s.tables[table']? := by
  simp [withRows, Std.ExtTreeMap.getElem?_insert]

theorem withRows_same (h : s.tables[table]? = some rows) : s.withRows table rows = s := by
  have htables : s.tables.insert table rows = s.tables := by
    refine Std.ExtTreeMap.ext_getElem? fun table' => ?_
    rw [Std.ExtTreeMap.getElem?_insert]
    split
    · rename_i htable
      rw [← Std.LawfulEqCmp.eq_of_compare htable, h]
    · rfl
  rw [withRows, htables]

theorem withRows_withRows {rows' : List StoredRow} :
    (s.withRows table rows).withRows table rows' = s.withRows table rows' := by
  have htables : (s.tables.insert table rows).insert table rows' = s.tables.insert table rows' := by
    refine Std.ExtTreeMap.ext_getElem? fun table' => ?_
    simp only [Std.ExtTreeMap.getElem?_insert]
    split <;> rfl
  rw [withRows, withRows, htables]
  rfl

/-- Other rows at the same places are at different places still. -/
theorem Located.withRows {rows' : List StoredRow} (h : s.Located)
    (hrows : s.tables[table]? = some rows)
    (hplaces : rows'.map StoredRow.locator = rows.map StoredRow.locator) :
    (s.withRows table rows').Located := by
  intro table' rows₁ hrows₁
  rw [withRows_tables] at hrows₁
  split at hrows₁
  · obtain rfl := Option.some.inj hrows₁
    rw [hplaces]
    exact h table rows hrows
  · exact h table' rows₁ hrows₁

/-- An update without a key writes the row that stands at the place. -/
theorem updateRows_of_keyless (hkey : d.key = none) {cell : Cell}
    (hbefore : ∀ r ∈ before, r.locator ≠ row.locator) :
    updateRows d row.locator cell (before ++ row :: rest) =
      some (before ++ row.put d.column cell :: rest) := by
  induction before with
  | nil => simp [updateRows, isLocated, addressOf, hkey, StoredRow.put]
  | cons r others ih =>
    have hother : isLocated d row.locator r = false := by
      simpa [isLocated, addressOf, hkey] using hbefore r List.mem_cons_self
    rw [List.cons_append, updateRows, hother,
      ih fun r hr => hbefore r (List.mem_cons_of_mem _ hr)]
    rfl

end MemoryTables

end Rekey

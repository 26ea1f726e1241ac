import Mathlib.Algebra.GroupWithZero.Nat
import Rekey.Proofs.Columns.Change
import Rekey.Proofs.Rehearsal.Session

/-!
# The exact effect of replacing identifiers

What replacing identifiers makes of the tables and reports on them, said on the tables as they are
at the beginning. No two descriptors name one column, so the sweep over a column finds it as it was
(`SweepsColumn.exact`), and the counts of its report are those of the first tables.
-/

namespace Rekey

variable {index : MappingIndex} {c : Cell} {row : StoredRow} {s s' : MemoryTables}
  {d : Descriptor} {ds done : List Descriptor}

/-! ## Identifiers in cells -/

/-- The index has a new identifier for this one. -/
def MappingIndex.renames (index : MappingIndex) (id : String) : Bool :=
  isLegacyId id && (index.get? id).isSome

/-- The identifier that stands for this one after the migration. -/
def MappingIndex.renamed (index : MappingIndex) (id : String) : String :=
  if isLegacyId id then (index.get? id).getD id else id

namespace Cell

/-- The identifiers in a cell. -/
def ids : Cell → List String
  | .scalar value => value.toList
  | .array items => (items.getD []).filterMap id

/-- A cell with each identifier in it replaced. -/
def mapIds (f : String → String) : Cell → Cell
  | .scalar value => .scalar (value.map f)
  | .array items => .array (items.map fun xs => xs.map (Option.map f))

/-- An identifier in the cell has a new one. -/
def isAffected (index : MappingIndex) (c : Cell) : Bool :=
  c.ids.any index.renames

end Cell

theorem renames_eq_isSome (index : MappingIndex) (id : String) :
    index.renames id = (index.lookup id).isSome := by
  unfold MappingIndex.renames MappingIndex.lookup
  cases isLegacyId id <;> rfl

theorem renamed_eq_getD (index : MappingIndex) (id : String) :
    index.renamed id = (index.lookup id).getD id := by
  unfold MappingIndex.renamed MappingIndex.lookup
  cases isLegacyId id <;> rfl

theorem replaceElement_eq_map (index : MappingIndex) (x : Option String) :
    replaceElement index x = x.map index.renamed := by
  cases x with
  | none => rfl
  | some id => rw [replaceElement_some, Option.map_some, renamed_eq_getD]

/-- A cell is rewritten identifier by identifier. -/
theorem rewriteCell_eq_mapIds (index : MappingIndex) (c : Cell) :
    rewriteCell index c = c.mapIds index.renamed := by
  rcases c with x | _ | xs
  · rw [rewriteCell_scalar, replaceElement_eq_map, Cell.mapIds]
  · rfl
  · have helements : xs.map (replaceElement index) = xs.map (Option.map index.renamed) :=
      List.map_congr_left fun x _ => replaceElement_eq_map index x
    rw [rewriteCell_array, helements, Cell.mapIds, Option.map_some]

/-- When no new identifier is itself replaced, replacing twice is replacing once. -/
theorem mapIds_mapIds (hstable : index.Stable) (c : Cell) :
    (c.mapIds index.renamed).mapIds index.renamed = c.mapIds index.renamed := by
  rw [← rewriteCell_eq_mapIds, ← rewriteCell_eq_mapIds]
  exact rewriteCell_of_settled (settled_rewriteCell hstable c)

/-- A cell has a replacement when an identifier in it has a new one. -/
theorem isSome_replaceCell (index : MappingIndex) (c : Cell) :
    (replaceCell index c).isSome = c.isAffected index := by
  rcases c with x | _ | xs
  · cases x with
    | none => rfl
    | some id => simp [replaceCell, replaceId, Cell.isAffected, Cell.ids, renames_eq_isSome]
  · rfl
  · have hany : (xs.any fun x => (replaceId index x).isSome) =
        (xs.filterMap id).any index.renames := by
      rw [List.any_filterMap]
      refine List.any_congr rfl fun x => ?_
      cases x with
      | none => rfl
      | some id => exact (renames_eq_isSome index id).symm
    have harray : (replaceCell index (.array (some xs))).isSome =
        xs.any fun x => (replaceId index x).isSome := by
      simp only [replaceCell, replaceIds, Option.isSome_map]
      split <;> simp_all
    rw [harray, hany, Cell.isAffected, Cell.ids, Option.getD_some]

/-! ## Rows and tables -/

/-- The cell of the row in the column has an identifier with a new one. -/
def StoredRow.isAffected (index : MappingIndex) (column : String) (row : StoredRow) : Bool :=
  (row.cells[column]?).any (·.isAffected index)

instance (ds : List Descriptor) (table column : String) : Decidable (Described ds table column) :=
  inferInstanceAs (Decidable (∃ d ∈ ds, d.table = table ∧ d.column = column))

namespace MemoryTables

/-- A migration of the described columns writes to the cell: the column is described, and neither
the scan of the table nor the update of the row is set to fail. -/
def Writes (s : MemoryTables) (ds : List Descriptor) (table : String) (locator : Locator)
    (column : String) : Prop :=
  Described ds table column ∧ table ∉ s.failingScans ∧ (table, locator) ∉ s.failingRows

instance (ds : List Descriptor) (table : String) (locator : Locator) (column : String) :
    Decidable (s.Writes ds table locator column) :=
  inferInstanceAs (Decidable (_ ∧ _ ∧ _))

/-- A row of a table with the identifiers replaced in the cells that are written to. -/
def renamedRow (s : MemoryTables) (index : MappingIndex) (ds : List Descriptor) (table : String)
    (row : StoredRow) : StoredRow :=
  { row with cells := row.cells.map fun column c =>
      if s.Writes ds table row.locator column then c.mapIds index.renamed else c }

/-- The store with the identifiers replaced in all cells that are written to. -/
def renamed (s : MemoryTables) (index : MappingIndex) (ds : List Descriptor) : MemoryTables :=
  { s with tables := s.tables.map fun table rows => rows.map (s.renamedRow index ds table) }

/-- The rows of a described column, unless they cannot be scanned. -/
def scannedRows (s : MemoryTables) (d : Descriptor) : Option (List StoredRow) :=
  if d.table ∈ s.failingScans then none else s.tables[d.table]?

/-- The report on a described column: how many rows it has, and how many of them are updated, fail
and have nothing to replace. -/
def columnReport (s : MemoryTables) (index : MappingIndex) (d : Descriptor) : ColumnReport :=
  let refused (row : StoredRow) : Bool := s.failingRows.contains (d.table, row.locator)
  match s.scannedRows d with
  | none => ⟨d.table, d.column, d.kind, 0, 0, 0, 0, true⟩
  | some rows => ⟨d.table, d.column, d.kind, rows.length,
      rows.countP fun row => row.isAffected index d.column && !refused row,
      rows.countP fun row => row.isAffected index d.column && refused row,
      rows.countP fun row => !row.isAffected index d.column, false⟩

end MemoryTables

/-- The report on columns: its summary counts the updates, the rows with nothing to replace, and the
rows and scans that failed. -/
def ReplacementReport.ofColumns (rs : List ColumnReport) : ReplacementReport where
  summary := ⟨.foreignKeys, (rs.map (·.updated)).sum, (rs.map (·.unchanged)).sum,
    (rs.map fun r => r.errors + if r.scanFailed then 1 else 0).sum, false⟩
  columns := rs

/-! ## One row -/

theorem StoredRow.ext_cells {row row' : StoredRow} (hlocator : row.locator = row'.locator)
    (hcells : ∀ k : String, row.cells[k]? = row'.cells[k]?) : row = row' := by
  obtain ⟨locator, cells⟩ := row
  obtain ⟨locator', cells'⟩ := row'
  obtain rfl : locator = locator' := hlocator
  obtain rfl : cells = cells' := Std.ExtTreeMap.ext_getElem? hcells
  rfl

theorem isSome_replacement (index : MappingIndex) (column : String) (row : StoredRow) :
    (row.replacement index column).isSome = row.isAffected index column := by
  unfold StoredRow.replacement StoredRow.isAffected
  cases row.cells[column]? with
  | none => rfl
  | some c => exact isSome_replaceCell index c

theorem renamedRow_cells {table : String} (k : String) :
    (s.renamedRow index ds table row).cells[k]? = (row.cells[k]?).map fun c =>
      if s.Writes ds table row.locator k then c.mapIds index.renamed else c := by
  rw [MemoryTables.renamedRow, Std.ExtTreeMap.getElem?_map]

/-- A cell that is not written to stays. -/
theorem renamedRow_cells_of_not {table k : String} (h : ¬ s.Writes ds table row.locator k) :
    (s.renamedRow index ds table row).cells[k]? = row.cells[k]? := by
  rw [renamedRow_cells]
  simp only [if_neg h, Option.map_id']

/-- The sweep over one more column of a row. If a sweep has written to the column before, nothing
is left there to replace. -/
theorem sweptRow_renamedRow (hagain : Described done d.table d.column → index.Stable)
    (hscan : d.table ∉ s.failingScans) :
    sweptRow s.failingRows index d (s.renamedRow index done d.table row) =
      s.renamedRow index (done ++ [d]) d.table row := by
  by_cases hfails : s.failingRows.contains (d.table, row.locator) = true
  · -- the row is not written to at all
    have hmem : (d.table, row.locator) ∈ s.failingRows := List.contains_iff_mem.mp hfails
    have hswept : sweptRow s.failingRows index d (s.renamedRow index done d.table row) =
        s.renamedRow index done d.table row := sweptRow_of_failing hfails
    rw [hswept]
    refine StoredRow.ext_cells rfl fun k => ?_
    rw [renamedRow_cells_of_not fun h => h.2.2 hmem, renamedRow_cells_of_not fun h => h.2.2 hmem]
  · have hpass : (d.table, row.locator) ∉ s.failingRows := fun h =>
      hfails (List.contains_iff_mem.mpr h)
    have hswept : sweptRow s.failingRows index d (s.renamedRow index done d.table row) =
        (s.renamedRow index done d.table row).rewrite index d.column := if_neg hfails
    rw [hswept]
    refine StoredRow.ext_cells rewrite_locator fun k => ?_
    rw [rewrite_cells]
    by_cases hk : d.column = k
    · subst hk
      have hwritten : s.Writes (done ++ [d]) d.table row.locator d.column :=
        ⟨described_append.mpr (.inr ⟨rfl, rfl⟩), hscan, hpass⟩
      rw [if_pos rfl, funext (rewriteCell_eq_mapIds index)]
      conv_rhs => rw [renamedRow_cells]
      by_cases hdone : Described done d.table d.column
      · -- the cell was rewritten already
        have hbefore : s.Writes done d.table row.locator d.column := ⟨hdone, hscan, hpass⟩
        rw [renamedRow_cells]
        simp only [if_pos hwritten, if_pos hbefore, Option.map_map, Function.comp_def,
          mapIds_mapIds (hagain hdone)]
      · -- the cell is still as it was at first
        rw [renamedRow_cells_of_not fun h => hdone h.1]
        simp only [if_pos hwritten]
    · have hsame : s.Writes (done ++ [d]) d.table row.locator k ↔
          s.Writes done d.table row.locator k := by
        unfold MemoryTables.Writes
        rw [described_append]
        simp [hk]
      rw [if_neg hk, renamedRow_cells, renamedRow_cells]
      simp only [hsame]

/-! ## Counts -/

/-- A sweep that nothing stops sweeps over all rows and counts all of them. -/
theorem SweepsRows.eq_fold {failing : List (String × Locator)} {r r' : ColumnReport}
    {rows rows' : List StoredRow} (h : SweepsRows False failing index d r rows r' rows') :
    rows' = rows.map (sweptRow failing index d) ∧
      r' = rows.foldl (countRow failing index d) r := by
  induction h with
  | finished => exact ⟨rfl, rfl⟩
  | stopped h => exact h.elim
  | next _ ih =>
    obtain ⟨hrows, hreport⟩ := ih
    rw [hrows, hreport]
    exact ⟨rfl, rfl⟩

/-- A row counts as unchanged, as failed or as updated. -/
theorem countRow_eq (failing : List (String × Locator)) (r : ColumnReport) (row : StoredRow) :
    countRow failing index d r row = { r with
      updated := r.updated + if row.isAffected index d.column &&
        !failing.contains (d.table, row.locator) then 1 else 0
      errors := r.errors + if row.isAffected index d.column &&
        failing.contains (d.table, row.locator) then 1 else 0
      unchanged := r.unchanged + if !row.isAffected index d.column then 1 else 0 } := by
  have haffected := isSome_replacement index d.column row
  cases hcell : row.replacement index d.column with
  | none =>
    rw [countRow_of_none hcell, ← haffected, hcell]
    rfl
  | some cell =>
    rw [← haffected, hcell]
    cases hfails : failing.contains (d.table, row.locator) with
    | true =>
      rw [countRow_of_failing hfails hcell]
      rfl
    | false =>
      have hpass : ¬ failing.contains (d.table, row.locator) = true := by
        rw [hfails]
        exact Bool.false_ne_true
      rw [countRow_of_some hpass hcell]
      rfl

theorem foldl_countRow (failing : List (String × Locator)) (r : ColumnReport)
    (rows : List StoredRow) :
    rows.foldl (countRow failing index d) r = { r with
      updated := r.updated + rows.countP fun row =>
        row.isAffected index d.column && !failing.contains (d.table, row.locator)
      errors := r.errors + rows.countP fun row =>
        row.isAffected index d.column && failing.contains (d.table, row.locator)
      unchanged := r.unchanged + rows.countP fun row => !row.isAffected index d.column } := by
  induction rows generalizing r with
  | nil => rfl
  | cons row rest ih =>
    rw [List.foldl_cons, ih, countRow_eq]
    simp only [List.countP_cons, Nat.add_assoc, Nat.add_comm (List.countP _ _)]

/-! ## One column -/

theorem renamed_tables (table : String) :
    (s.renamed index ds).tables[table]? =
      (s.tables[table]?).map (List.map (s.renamedRow index ds table)) := by
  rw [MemoryTables.renamed, Std.ExtTreeMap.getElem?_map]

/-- Stores that differ from one store in their tables only are the same if those are. -/
theorem renamed_eq_of_tables (s : MemoryTables)
    (tables : Std.ExtTreeMap String (List StoredRow))
    (h : ∀ table : String, tables[table]? =
      (s.tables[table]?).map (List.map (s.renamedRow index ds table))) :
    { s with tables := tables } = s.renamed index ds := by
  have htables : tables = (s.renamed index ds).tables :=
    Std.ExtTreeMap.ext_getElem? fun table => by rw [h, renamed_tables]
  rw [htables]
  rfl

theorem renamed_nil : s.renamed index [] = s := by
  refine (renamed_eq_of_tables s s.tables fun table => ?_).symm
  have hrow : ∀ row, s.renamedRow index [] table row = row := by
    intro row
    refine StoredRow.ext_cells rfl fun k => renamedRow_cells_of_not ?_
    rintro ⟨⟨d, hd, -⟩, -⟩
    exact List.not_mem_nil hd
  rw [funext hrow]
  simp

/-- The rows of other tables are as before, and so are all rows if nothing can be scanned. -/
theorem renamedRow_append {table : String} (h : d.table = table → d.table ∈ s.failingScans) :
    s.renamedRow index (done ++ [d]) table = s.renamedRow index done table := by
  refine funext fun row => StoredRow.ext_cells rfl fun k => ?_
  have hsame : s.Writes (done ++ [d]) table row.locator k ↔ s.Writes done table row.locator k := by
    unfold MemoryTables.Writes
    rw [described_append]
    constructor
    · rintro ⟨hold | ⟨htable, -⟩, hscan, hrow⟩
      · exact ⟨hold, hscan, hrow⟩
      · exact absurd (htable ▸ h htable) hscan
    · rintro ⟨hold, hscan, hrow⟩
      exact ⟨.inl hold, hscan, hrow⟩
  rw [renamedRow_cells, renamedRow_cells]
  simp only [hsame]

/-- Earlier sweeps over other columns do not change what a sweep over a column counts. -/
theorem isAffected_renamedRow {table : String} (hnew : ¬ Described done table d.column) :
    (s.renamedRow index done table row).isAffected index d.column =
      row.isAffected index d.column := by
  rw [StoredRow.isAffected, StoredRow.isAffected, renamedRow_cells_of_not fun h => hnew h.1]

theorem scannedRows_eq_none_iff :
    s.scannedRows d = none ↔ d.table ∈ s.failingScans ∨ s.tables[d.table]? = none := by
  by_cases hscan : d.table ∈ s.failingScans <;> simp [MemoryTables.scannedRows, hscan]

theorem scannedRows_eq_some_iff {rows : List StoredRow} :
    s.scannedRows d = some rows ↔ d.table ∉ s.failingScans ∧ s.tables[d.table]? = some rows := by
  by_cases hscan : d.table ∈ s.failingScans <;> simp [MemoryTables.scannedRows, hscan]

/-- Describing a column that cannot be scanned changes nothing. -/
theorem renamed_append_of_unscanned (h : s.scannedRows d = none) :
    s.renamed index done = s.renamed index (done ++ [d]) := by
  refine renamed_eq_of_tables s (s.renamed index done).tables fun table => ?_
  rw [renamed_tables]
  cases hrows : s.tables[table]? with
  | none => rfl
  | some rows =>
    have hunscanned : d.table = table → d.table ∈ s.failingScans := by
      rintro rfl
      refine (scannedRows_eq_none_iff.mp h).resolve_right ?_
      rw [hrows]
      exact Option.some_ne_none rows
    rw [renamedRow_append hunscanned]

/-- A sweep over one more column that can be scanned. -/
theorem renamed_append_of_scanned {rows : List StoredRow}
    (hagain : Described done d.table d.column → index.Stable) (h : s.scannedRows d = some rows) :
    (s.renamed index done).withRows d.table
        ((rows.map (s.renamedRow index done d.table)).map (sweptRow s.failingRows index d)) =
      s.renamed index (done ++ [d]) := by
  obtain ⟨hscan, hrows⟩ := scannedRows_eq_some_iff.mp h
  refine renamed_eq_of_tables s ((s.renamed index done).withRows d.table _).tables fun table => ?_
  rw [MemoryTables.withRows_tables]
  split
  · rename_i htable
    subst htable
    rw [hrows, Option.map_some, List.map_map]
    exact congrArg some (List.map_congr_left fun row _ => sweptRow_renamedRow hagain hscan)
  · rename_i htable
    rw [renamed_tables, renamedRow_append fun h => absurd h htable]

/-- The sweep over one more column writes to its cells. -/
theorem SweepsColumn.renamed {r : ColumnReport}
    (hagain : Described done d.table d.column → index.Stable)
    (h : SweepsColumn False index (s.renamed index done) d r s') :
    s' = s.renamed index (done ++ [d]) := by
  cases h with
  | unscanned hnone =>
    rw [renamed_tables, Option.map_eq_none_iff] at hnone
    exact renamed_append_of_unscanned (scannedRows_eq_none_iff.mpr hnone)
  | scanned hscan hfound hsweep =>
    rw [renamed_tables] at hfound
    obtain ⟨rows, hrows, rfl⟩ := Option.map_eq_some_iff.mp hfound
    rw [hsweep.eq_fold.1]
    exact renamed_append_of_scanned hagain (scannedRows_eq_some_iff.mpr ⟨hscan, hrows⟩)

/-- The sweep over a column that no descriptor before has named writes to its cells and reports on
it as it was at first. -/
theorem SweepsColumn.exact {r : ColumnReport} (hnew : ¬ Described done d.table d.column)
    (h : SweepsColumn False index (s.renamed index done) d r s') :
    s' = s.renamed index (done ++ [d]) ∧ r = s.columnReport index d := by
  refine ⟨h.renamed fun hdone => absurd hdone hnew, ?_⟩
  cases h with
  | unscanned hnone =>
    rw [renamed_tables, Option.map_eq_none_iff] at hnone
    rw [MemoryTables.columnReport, scannedRows_eq_none_iff.mpr hnone]
    rfl
  | scanned hscan hfound hsweep =>
    rw [renamed_tables] at hfound
    obtain ⟨rows, hrows, rfl⟩ := Option.map_eq_some_iff.mp hfound
    have hscanned : s.scannedRows d = some rows := scannedRows_eq_some_iff.mpr ⟨hscan, hrows⟩
    rw [hsweep.eq_fold.2, foldl_countRow, MemoryTables.columnReport, hscanned]
    simp only [List.countP_map, List.length_map, Function.comp_def, isAffected_renamedRow hnew]
    simp [ColumnReport.start, MemoryTables.renamedRow, MemoryTables.renamed]

/-! ## All columns -/

theorem ofColumns_add (rs : List ColumnReport) (r : ColumnReport) :
    (ReplacementReport.ofColumns rs).add r = .ofColumns (rs ++ [r]) := by
  simp [ReplacementReport.ofColumns, ReplacementReport.add, Summary.countColumn, Nat.add_assoc]

/-- Sweeps over columns that nothing stops, each over another column. -/
theorem SweepsAll.exact (done : List Descriptor) {s₁ : MemoryTables} {rest : List Descriptor}
    {report report' : ReplacementReport} (h : SweepsAll False index s₁ report rest report' s')
    (hs : s₁ = s.renamed index done) (hreport : report = .ofColumns (done.map (s.columnReport index)))
    (hdistinct : ((done ++ rest).map fun d => (d.table, d.column)).Nodup) :
    s' = s.renamed index (done ++ rest) ∧
      report' = .ofColumns ((done ++ rest).map (s.columnReport index)) := by
  induction h generalizing done with
  | finished =>
    rw [List.append_nil]
    exact ⟨hs, hreport⟩
  | stopped h => exact h.elim
  | broken h _ => exact h.elim
  | @next _ _ _ _ _ d rest _ hcolumn _ ih =>
    subst hs hreport
    -- the columns swept so far are other ones, so this sweep finds its own as it was at first
    obtain ⟨hs', hr⟩ := hcolumn.exact (not_described_of_nodup hdistinct)
    have hnext := ih (done ++ [d]) hs' (by rw [hr, ofColumns_add, List.map_append]; rfl)
      (by rwa [List.append_assoc])
    rwa [List.append_assoc] at hnext

section Run

variable {φ : Type} {i : Interference φ} {w : World φ}

/-- Replacing identifiers without a stop in tables that were filled row by row, by descriptors that
name no key and no column twice: exactly the cells that are described, whose table can be scanned
and whose row can be updated have their identifiers replaced, nothing else changes, and the report
counts what was done. -/
theorem replaceInColumns_exact (index : MappingIndex) (journal : List Event)
    (hstop : i.Unstopped w.mind) (hfilled : w.store.Filled) (hkeys : ∀ d ∈ ds, d.key = none)
    (hdistinct : (ds.map fun d => (d.table, d.column)).Nodup) :
    Ends (replaceInColumns (Rehearsal.store i) (Rehearsal.stopRequested i) false index ds)
        ⟨w, journal⟩ fun report run =>
      report = .ofColumns (ds.map (w.store.columnReport index)) ∧
        ∃ m, run.world = { w with mind := m, store := w.store.renamed index ds } := by
  obtain ⟨P, hm, hkeeps⟩ := hstop
  refine (replaceInColumns_ends hkeeps hkeys hm hfilled.located).mono ?_
  rintro report ⟨_, journal'⟩ ⟨-, m, s, hsweep, rfl⟩
  obtain ⟨rfl, rfl⟩ := hsweep.exact [] renamed_nil.symm rfl hdistinct
  exact ⟨rfl, m, rfl⟩

open Rehearsal in
/-- A table with two described columns, of whose two rows one cannot be updated, a table that cannot
be scanned, and one that is missing. -/
theorem replaceInColumns_exact_stage :
    let id := Stage.ada.legacyId
    let index := MappingIndex.empty.insert id "u1"
    let first := (MemoryTables.empty.addRow "orders"
      [("owner", .scalar (some id)), ("watchers", .array (some [none, some id, some "x"]))]).2
    let store := (first.addRow "orders" [("owner", .scalar (some id))]).2
    let failing := { store with failingRows := [("orders", "(0,2)")], failingScans := ["logs"] }
    let w := { Stage.start with store := failing }
    let ds : List Descriptor := [⟨"orders", "owner", .scalar, none⟩,
      ⟨"logs", "actor", .scalar, none⟩, ⟨"gone", "actor", .scalar, none⟩,
      ⟨"orders", "watchers", .array, none⟩]
    let ended := replaceInColumns stageStore (Rehearsal.stopRequested Script.interference) false
      index ds (.start w)
    Script.interference.Unstopped w.mind ∧ w.store.Filled ∧ (∀ d ∈ ds, d.key = none) ∧
      (ds.map fun d => (d.table, d.column)).Nodup ∧
      ended.1 = ⟨⟨.foreignKeys, 2, 1, 3, false⟩, [⟨"orders", "owner", .scalar, 2, 1, 1, 0, false⟩,
        ⟨"logs", "actor", .scalar, 0, 0, 0, 0, true⟩,
        ⟨"gone", "actor", .scalar, 0, 0, 0, 0, true⟩,
        ⟨"orders", "watchers", .array, 2, 1, 0, 1, false⟩]⟩ ∧
      ended.2.world.store = w.store.renamed index ds ∧
      ended.2.world.store.cellAt "orders" "(0,1)" "watchers" =
        some (.array (some [none, some "u1", some "x"])) ∧
      ended.2.world.store.cellAt "orders" "(0,2)" "owner" = some (.scalar (some id)) ∧
      ended.2.world.store.cellAt "orders" "(0,2)" "watchers" = none := by
  intro id index first store failing w ds ended
  have hstop : Script.interference.Unstopped w.mind := Script.calm_quiet.unstopped
  have hrows : store.Filled := .row _ _ (.row _ _ (.blank rfl))
  have hfilled : w.store.Filled := .elsewhere (s := store) rfl rfl hrows
  have hkeys : ∀ d ∈ ds, d.key = none := by decide
  have hdistinct : (ds.map fun d => (d.table, d.column)).Nodup := by decide
  obtain ⟨hreport, m, hworld⟩ :=
    replaceInColumns_exact index [] hstop hfilled hkeys hdistinct
  refine ⟨hstop, hfilled, hkeys, hdistinct, ?_, ?_, ?_, ?_, ?_⟩
  · exact hreport.trans (by decide +kernel)
  · exact congrArg World.store hworld
  · decide +kernel
  · decide +kernel
  · decide +kernel

end Run

end Rekey

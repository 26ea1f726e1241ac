import Rekey.Proofs.Columns.Addresses
import Rekey.Proofs.Columns.Change

/-!
# What scans show

A scan shows the cells of its column unless it is set to fail or a row holds no identifier in the
key column. So two scans show the same when the cells of the column are the same and the key column
is full in both stores or in neither. Writing replacements changes the cells of one column only, and
a full column stays full.
-/

namespace Rekey

namespace MemoryTables

variable {s s' : MemoryTables} {d : Descriptor} {row : StoredRow} {rows rows' : List StoredRow}
  {locator : Locator} {locators : List Locator} {table column key : String} {c : Option Cell}
  {index : MappingIndex}

/-- The cells of a table in a column, row by row. -/
def cellsIn (s : MemoryTables) (table column : String) : Option (List (Option Cell)) :=
  (s.tables[table]?).map (List.map (·.cells[column]?))

/-- A row of the table has this in the column. -/
def HasCell (s : MemoryTables) (table column : String) (c : Option Cell) : Prop :=
  ∃ cells, s.cellsIn table column = some cells ∧ c ∈ cells

/-- Every row of the table holds an identifier in the column. -/
def IsFull (s : MemoryTables) (table column : String) : Prop :=
  ∀ c, s.HasCell table column c → ∃ value, c = some (.scalar (some value))

/-- The table can be scanned, and the key column addresses all of its rows. -/
def CanScan (s : MemoryTables) (d : Descriptor) : Prop :=
  d.table ∉ s.failingScans ∧ ∀ key, d.key = some key → s.IsFull d.table key

/-- The cells that a scan shows, unless it fails. -/
def shownCells (s : MemoryTables) (d : Descriptor) : Option (List Cell) :=
  (s.scan d).toOption.map (List.map ScannedRow.cell)

theorem cellsIn_of_rows (hrows : s.tables[table]? = some rows) :
    s.cellsIn table column = some (rows.map (·.cells[column]?)) := by
  rw [cellsIn, hrows, Option.map_some]

theorem hasCell_iff (hrows : s.tables[table]? = some rows) :
    s.HasCell table column c ↔ ∃ row ∈ rows, row.cells[column]? = c := by
  rw [HasCell, cellsIn_of_rows hrows]
  simp

theorem isFull_congr (hcells : s'.cellsIn table column = s.cellsIn table column) :
    s'.IsFull table column ↔ s.IsFull table column := by
  unfold IsFull HasCell
  rw [hcells]

/-- A column that holds identifiers is full. -/
theorem IsFull.of_values (values : List String)
    (hcells : s.cellsIn table column = some (values.map fun value => some (.scalar (some value)))) :
    s.IsFull table column := by
  rintro c ⟨cells, hcells', hc⟩
  rw [hcells] at hcells'
  obtain rfl := Option.some.inj hcells'
  obtain ⟨value, -, rfl⟩ := List.mem_map.mp hc
  exact ⟨value, rfl⟩

/-! ## Scans -/

/-- Only an identifier in the key column addresses a row. -/
theorem IsAddressed.of_key (h : IsAddressed d row) (hkey : d.key = some key) :
    ∃ value, row.cells[key]? = some (.scalar (some value)) := by
  obtain ⟨locator, hlocator⟩ := h
  simp only [addressOf, hkey] at hlocator
  split at hlocator
  · rename_i value hcell
    exact ⟨value, hcell⟩
  · contradiction

/-- All rows of a table are addressed when the key column is full. -/
theorem isAddressed_iff_isFull (hrows : s.tables[d.table]? = some rows) :
    (∀ row ∈ rows, IsAddressed d row) ↔ ∀ key, d.key = some key → s.IsFull d.table key := by
  constructor
  · intro haddress key hkey c hc
    obtain ⟨row, hrow, rfl⟩ := (hasCell_iff hrows).mp hc
    exact (haddress row hrow).of_key hkey
  · intro hfull row hrow
    cases hkey : d.key with
    | none => exact isAddressed_of_keyless hkey row
    | some key =>
      obtain ⟨value, hvalue⟩ := hfull key hkey _ ((hasCell_iff hrows).mpr ⟨row, hrow, rfl⟩)
      exact isAddressed_of_key hkey hvalue

/-- A scan shows all rows of a table, or fails. -/
theorem scan_cases (s : MemoryTables) (d : Descriptor) :
    (∃ e, s.scan d = .error e) ∨ ∃ rows, s.tables[d.table]? = some rows ∧
      s.scan d = .ok (rows.map (seen d)) ∧ s.CanScan d := by
  by_cases hscan : d.table ∈ s.failingScans
  · exact .inl ⟨_, scan_of_failing hscan⟩
  cases hrows : s.tables[d.table]? with
  | none => exact .inl ⟨_, scan_of_missing hscan hrows⟩
  | some rows =>
    rw [scan_of_rows hscan hrows]
    by_cases haddress : ∀ row ∈ rows, IsAddressed d row
    · exact .inr ⟨rows, rfl, scanRows_of_addressed haddress, hscan,
        (isAddressed_iff_isFull hrows).mp haddress⟩
    · obtain ⟨row, hrow, hnot⟩ : ∃ row ∈ rows, ¬ IsAddressed d row := by simpa using haddress
      exact .inl (scanRows_of_unaddressed hrow hnot)

theorem shownCells_of_error {e : StoreFault} (h : s.scan d = .error e) : s.shownCells d = none := by
  rw [shownCells, h]
  rfl

theorem shownCells_of_ok {shown : List ScannedRow} (h : s.scan d = .ok shown) :
    s.shownCells d = some (shown.map ScannedRow.cell) := by
  rw [shownCells, h]
  rfl

theorem canScan_of_shownCells (h : (s.shownCells d).isSome = true) : s.CanScan d := by
  rcases s.scan_cases d with ⟨e, herror⟩ | ⟨rows, -, -, hcan⟩
  · rw [shownCells_of_error herror] at h
    contradiction
  · exact hcan

/-- A scan that can be made shows the cells of the column; a missing cell shows as null. -/
theorem shownCells_of_canScan (h : s.CanScan d) :
    s.shownCells d = (s.cellsIn d.table d.column).map (List.map (·.getD (.null d.kind))) := by
  cases hrows : s.tables[d.table]? with
  | none =>
    rw [shownCells_of_error (scan_of_missing h.1 hrows), cellsIn, hrows]
    rfl
  | some rows =>
    have hscan : s.scan d = .ok (rows.map (seen d)) := by
      rw [scan_of_rows h.1 hrows]
      exact scanRows_of_addressed ((isAddressed_iff_isFull hrows).mpr h.2)
    rw [shownCells_of_ok hscan, cellsIn_of_rows hrows, Option.map_some, List.map_map, List.map_map]
    rfl

/-- Scans show the same when the cells of the column are the same and the key column is full in both
stores or in neither. -/
theorem shownCells_congr (hscans : s'.failingScans = s.failingScans)
    (hcells : s'.cellsIn d.table d.column = s.cellsIn d.table d.column)
    (hkeys : ∀ key, d.key = some key → (s'.IsFull d.table key ↔ s.IsFull d.table key)) :
    s'.shownCells d = s.shownCells d := by
  have hcan : s'.CanScan d ↔ s.CanScan d := by
    unfold CanScan
    rw [hscans]
    exact and_congr_right fun _ => forall₂_congr hkeys
  by_cases h : s.CanScan d
  · rw [shownCells_of_canScan h, shownCells_of_canScan (hcan.mpr h), hcells]
  · have hfails : ∀ {s : MemoryTables}, ¬ s.CanScan d → s.shownCells d = none := fun hnot =>
      Option.not_isSome_iff_eq_none.mp fun hsome => hnot (canScan_of_shownCells hsome)
    rw [hfails h, hfails fun h' => h (hcan.mp h')]

/-! ## Writes -/

/-- What writing replacements in a column may make of the tables: the cells of other columns stay,
and a cell of the column stays or is the replacement of one that stood there. -/
structure Rewrites (index : MappingIndex) (d : Descriptor) (s s' : MemoryTables) : Prop where
  scans : s'.failingScans = s.failingScans
  passes : s'.failingRows = s.failingRows
  located : s.Located → s'.Located
  elsewhere : ∀ table column, ¬ (d.table = table ∧ d.column = column) →
    s'.cellsIn table column = s.cellsIn table column
  written : ∀ c, s'.HasCell d.table d.column c → s.HasCell d.table d.column c ∨
    ∃ old new, s.HasCell d.table d.column (some old) ∧ replaceCell index old = some new ∧
      c = some new

namespace Rewrites

theorem refl (s : MemoryTables) : Rewrites index d s s where
  scans := rfl
  passes := rfl
  located := id
  elsewhere _ _ _ := rfl
  written _ := .inl

/-- Writing one more replacement. -/
theorem update {old new : Cell} {s₀ : MemoryTables} (h : Rewrites index d s₀ s)
    (hold : s₀.HasCell d.table d.column (some old)) (hnew : replaceCell index old = some new)
    (hrows : s.tables[d.table]? = some rows)
    (hupdate : updateRows d locator new rows = some rows') :
    Rewrites index d s₀ (s.withRows d.table rows') where
  scans := h.scans
  passes := h.passes
  located hlocated :=
    (h.located hlocated).withRows hrows (updateRows_map hupdate fun _ => rfl)
  elsewhere table column hother := by
    rw [← h.elsewhere table column hother, cellsIn, withRows_tables]
    split
    · rename_i htable
      have hne : d.column ≠ column := fun hsame => hother ⟨htable, hsame⟩
      rw [← htable, cellsIn_of_rows hrows, Option.map_some, updateRows_map hupdate]
      intro row
      rw [put_cells, if_neg hne]
    · rfl
  written c hc := by
    have hrows' : (s.withRows d.table rows').tables[d.table]? = some rows' := by
      rw [withRows_tables, if_pos rfl]
    obtain ⟨row', hrow', rfl⟩ := (hasCell_iff hrows').mp hc
    obtain ⟨before, row, after, rfl, rfl, -⟩ := updateRows_eq_some hupdate
    by_cases hput : row' = row.put d.column new
    · subst hput
      refine .inr ⟨old, new, hold, hnew, ?_⟩
      rw [put_cells, if_pos rfl]
    · -- every other row is one that was there before
      have hrow : row' ∈ before ++ row :: after := by
        simp only [List.mem_append, List.mem_cons, hput, false_or] at hrow' ⊢
        exact hrow'.imp_right .inr
      exact h.written _ ((hasCell_iff hrows).mpr ⟨row', hrow, rfl⟩)

/-- A full column stays full: the replacement of an identifier is an identifier. -/
theorem isFull (h : Rewrites index d s s') (hfull : s.IsFull table column) :
    s'.IsFull table column := by
  by_cases hown : d.table = table ∧ d.column = column
  · obtain ⟨rfl, rfl⟩ := hown
    intro c hc
    rcases h.written c hc with hstays | ⟨old, new, hold, hnew, rfl⟩
    · exact hfull c hstays
    · obtain ⟨value, hvalue⟩ := hfull _ hold
      obtain rfl := Option.some.inj hvalue
      obtain ⟨id, -, rfl⟩ := Option.map_eq_some_iff.mp hnew
      exact ⟨id, rfl⟩
  · exact (isFull_congr (h.elsewhere table column hown)).mpr hfull

end Rewrites

/-! ## Rows that are still to be written -/

/-- The table has at each address as many rows as the list names it. -/
def HasRowsAt (s : MemoryTables) (d : Descriptor) (locators : List Locator) : Prop :=
  ∃ rows, s.tables[d.table]? = some rows ∧
    ∀ locator, locators.count locator ≤ rows.countP (isLocated d locator)

/-- A table has the rows that were scanned. -/
theorem hasRowsAt_of_addressed (hrows : s.tables[d.table]? = some rows)
    (haddress : ∀ row ∈ rows, IsAddressed d row) : s.HasRowsAt d (rows.map (locatorOf d)) := by
  refine ⟨rows, hrows, fun locator => Nat.le_of_eq ?_⟩
  rw [List.count, List.countP_map]
  refine List.countP_congr fun row hrow => ?_
  rw [(haddress row hrow).isLocated_iff]
  exact beq_iff_eq

theorem HasRowsAt.tail (h : s.HasRowsAt d (locator :: locators)) : s.HasRowsAt d locators := by
  obtain ⟨rows, hrows, hcount⟩ := h
  exact ⟨rows, hrows, fun l => Nat.le_trans List.count_le_count_cons (hcount l)⟩

/-- A row stands at one address. -/
theorem isLocated_unique {locator' : Locator} (h : isLocated d locator row = true)
    (h' : isLocated d locator' row = true) : locator = locator' := by
  unfold isLocated at h h'
  split at h
  · rename_i l hl
    rw [hl] at h'
    exact (beq_iff_eq.mp h).symm.trans (beq_iff_eq.mp h')
  · contradiction

/-- Writing at the next address finds a row. It may move that row to another address, but no other
row, so the addresses that are left still find theirs. -/
theorem HasRowsAt.update (h : s.HasRowsAt d (locator :: locators)) (hpasses : s.failingRows = [])
    (cell : Cell) :
    ∃ rows rows', s.tables[d.table]? = some rows ∧ updateRows d locator cell rows = some rows' ∧
      s.update d locator cell = .ok (s.withRows d.table rows') ∧
      (s.withRows d.table rows').HasRowsAt d locators := by
  obtain ⟨rows, hrows, hcount⟩ := h
  have hfound : 0 < rows.countP (isLocated d locator) :=
    Nat.lt_of_lt_of_le (by simp) (hcount locator)
  obtain ⟨row, hrow, hat⟩ := List.countP_pos_iff.mp hfound
  obtain ⟨rows', hupdate⟩ := exists_updateRows hrow hat cell
  have hpass : (d.table, locator) ∉ s.failingRows := by simp [hpasses]
  refine ⟨rows, rows', hrows, hupdate, update_eq_ok hpass hrows hupdate,
    rows', by rw [withRows_tables, if_pos rfl], fun l => ?_⟩
  obtain ⟨before, written, after, rfl, rfl, hwritten⟩ := updateRows_eq_some hupdate
  have hbefore := hcount l
  rw [List.count_cons] at hbefore
  simp only [List.countP_append, List.countP_cons] at hbefore ⊢
  by_cases hl : locator = l
  · subst hl
    simp only [beq_self_eq_true, hwritten, if_true] at hbefore
    omega
  · have hnot : ¬ isLocated d l written = true := fun hl' => hl (isLocated_unique hwritten hl')
    simp only [hnot, beq_eq_false_iff_ne.mpr hl] at hbefore
    simp only [Bool.false_eq_true, if_false] at hbefore
    omega

end MemoryTables

end Rekey

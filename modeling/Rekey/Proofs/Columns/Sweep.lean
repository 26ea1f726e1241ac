import Rekey.Migration.Columns
import Rekey.Proofs.Columns.Rows
import Rekey.Proofs.Rehearsal.Temper

/-!
# Sweeps over columns

How replacing identifiers may end in a rehearsal when no descriptor names a key. `SweepsRows`,
`SweepsColumn` and `SweepsAll` follow the three loops: a row is rewritten unless its update is set
to fail, a column is left out when it cannot be scanned, and a stop may come before every row and
around every column.
-/

namespace Rekey

open MemoryTables (shown)

variable {φ : Type} {i : Interference φ} {P : φ → Prop} {F S : Prop} {index : MappingIndex}
  {d : Descriptor} {s s' : MemoryTables} {w : World φ} {journal : List Event}

/-- The replacement for the cell of a row in a column, if there is one. -/
def StoredRow.replacement (index : MappingIndex) (column : String) (row : StoredRow) :
    Option Cell :=
  (row.cells[column]?).bind (replaceCell index)

/-- A row after the identifiers in a column were replaced. -/
def StoredRow.rewrite (index : MappingIndex) (column : String) (row : StoredRow) : StoredRow :=
  match row.replacement index column with
  | none => row
  | some cell => row.put column cell

/-- A row after a sweep over a column; `failing` names the rows whose update fails. -/
def sweptRow (failing : List (String × Locator)) (index : MappingIndex) (d : Descriptor)
    (row : StoredRow) : StoredRow :=
  if failing.contains (d.table, row.locator) then row else row.rewrite index d.column

/-- A report with one more row. -/
def countRow (failing : List (String × Locator)) (index : MappingIndex) (d : Descriptor)
    (r : ColumnReport) (row : StoredRow) : ColumnReport :=
  match row.replacement index d.column with
  | none => { r with unchanged := r.unchanged + 1 }
  | some _ =>
    if failing.contains (d.table, row.locator) then { r with errors := r.errors + 1 }
    else { r with updated := r.updated + 1 }

@[simp] theorem rewrite_locator {column : String} {row : StoredRow} :
    (row.rewrite index column).locator = row.locator := by
  unfold StoredRow.rewrite
  split <;> rfl

@[simp] theorem sweptRow_locator {failing : List (String × Locator)} {row : StoredRow} :
    (sweptRow failing index d row).locator = row.locator := by
  unfold sweptRow
  split
  · rfl
  · exact rewrite_locator

section Row

variable {failing : List (String × Locator)} {r : ColumnReport} {row : StoredRow} {cell : Cell}

theorem sweptRow_of_none (h : row.replacement index d.column = none) :
    sweptRow failing index d row = row := by
  simp [sweptRow, StoredRow.rewrite, h]

theorem sweptRow_of_failing (h : failing.contains (d.table, row.locator) = true) :
    sweptRow failing index d row = row := by
  rw [sweptRow, if_pos h]

theorem sweptRow_of_some (h : ¬ failing.contains (d.table, row.locator) = true)
    (hcell : row.replacement index d.column = some cell) :
    sweptRow failing index d row = row.put d.column cell := by
  rw [sweptRow, if_neg h, StoredRow.rewrite, hcell]

theorem countRow_of_none (h : row.replacement index d.column = none) :
    countRow failing index d r row = { r with unchanged := r.unchanged + 1 } := by
  rw [countRow, h]

theorem countRow_of_failing (h : failing.contains (d.table, row.locator) = true)
    (hcell : row.replacement index d.column = some cell) :
    countRow failing index d r row = { r with errors := r.errors + 1 } := by
  rw [countRow, hcell]
  exact if_pos h

theorem countRow_of_some (h : ¬ failing.contains (d.table, row.locator) = true)
    (hcell : row.replacement index d.column = some cell) :
    countRow failing index d r row = { r with updated := r.updated + 1 } := by
  rw [countRow, hcell]
  exact if_neg h

end Row

/-! ## The rows of a column -/

/-- How a sweep over rows may end, from a report and the rows as they are. -/
inductive SweepsRows (mayStop : Prop) (failing : List (String × Locator)) (index : MappingIndex)
    (d : Descriptor) :
    ColumnReport → List StoredRow → ColumnReport → List StoredRow → Prop
  | finished {r : ColumnReport} : SweepsRows mayStop failing index d r [] r []
  | stopped {r : ColumnReport} {rows : List StoredRow} (h : mayStop) :
      SweepsRows mayStop failing index d r rows r rows
  | next {r r' : ColumnReport} {row : StoredRow} {rest rest' : List StoredRow}
      (h : SweepsRows mayStop failing index d (countRow failing index d r row) rest r' rest') :
      SweepsRows mayStop failing index d r (row :: rest) r' (sweptRow failing index d row :: rest')

theorem SweepsRows.locators {failing : List (String × Locator)} {r r' : ColumnReport}
    {rows rows' : List StoredRow} (h : SweepsRows S failing index d r rows r' rows') :
    rows'.map StoredRow.locator = rows.map StoredRow.locator := by
  induction h with
  | finished => rfl
  | stopped _ => rfl
  | next _ ih => rw [List.map_cons, List.map_cons, ih, sweptRow_locator]

/-- An update without a key writes the row that stands at the place, unless it is set to fail. -/
theorem MemoryTables.update_of_keyless (hkey : d.key = none) {before rest : List StoredRow}
    {row : StoredRow} (hrows : s.tables[d.table]? = some (before ++ row :: rest))
    (hplaces : ((before ++ row :: rest).map StoredRow.locator).Nodup) (cell : Cell) :
    s.update d row.locator cell =
      if s.failingRows.contains (d.table, row.locator) then
        .error (.rowWriteFailed row.locator d.table)
      else .ok (s.withRows d.table (before ++ row.put d.column cell :: rest)) := by
  have hbefore : ∀ r ∈ before, r.locator ≠ row.locator := by
    rw [List.map_append, List.nodup_append] at hplaces
    intro r hr
    exact hplaces.2.2 _ (List.mem_map_of_mem hr) _ (List.mem_map_of_mem List.mem_cons_self)
  unfold update
  rw [hrows]
  dsimp only
  rw [updateRows_of_keyless hkey hbefore]
  rfl

/-- A write that fails leaves the world alone. -/
theorem ends_update_error (h : i.Keeps P F S) {locator : Locator} {cell : Cell} {e : StoreFault}
    (hfails : w.store.update d locator cell = .error e) :
    Ends ((Rehearsal.store i).update d locator cell) w fun r w' => r = .error e ∧ w' = w := by
  refine Rehearsal.ends_watched h (Rehearsal.ends_change.mpr ?_)
  rw [hfails]
  exact ⟨rfl, rfl⟩

/-- A write that succeeds changes the store. -/
theorem ends_update_ok (h : i.Keeps P F S) (hw : P w.mind) {locator : Locator} {cell : Cell}
    (hdone : w.store.update d locator cell = .ok s) :
    Ends ((Rehearsal.store i).update d locator cell) w fun r w' =>
      ∃ m, P m ∧ r = .ok () ∧ w' = { w with mind := m, store := s } := by
  refine Rehearsal.ends_watched h (Rehearsal.ends_change.mpr ?_)
  rw [hdone]
  exact ⟨hw, fun m hm => ⟨m, hm, rfl, rfl⟩⟩

/-- Replacing in rows sweeps over the rows that were scanned. -/
theorem replaceInRows_ends (h : i.Keeps P F S) (hkey : d.key = none) {r : ColumnReport}
    (before : List StoredRow) {rest : List StoredRow} (hw : P w.mind)
    (hrows : w.store.tables[d.table]? = some (before ++ rest))
    (hplaces : ((before ++ rest).map StoredRow.locator).Nodup) :
    Ends (replaceInRows (Rehearsal.store i) (Rehearsal.stopRequested i) false index d r
        (rest.map (shown d))) ⟨w, journal⟩ fun r' run =>
      P run.world.mind ∧ ∃ m rest', SweepsRows S w.store.failingRows index d r rest r' rest' ∧
        run.world = { w with mind := m, store := w.store.withRows d.table (before ++ rest') } := by
  induction rest generalizing w before r journal with
  | nil =>
    refine ⟨hw, w.mind, [], .finished, ?_⟩
    rw [MemoryTables.withRows_same hrows]
    rfl
  | cons row rest ih =>
    rw [List.map_cons]
    unfold replaceInRows
    rw [ends_bind, ends_call]
    refine (Rehearsal.ends_stopRequested h hw).mono ?_
    rintro stopped _ ⟨m, hm, rfl, hS⟩
    cases stopped with
    | true =>
      refine ⟨hm, m, row :: rest, .stopped (hS rfl), ?_⟩
      rw [MemoryTables.withRows_same hrows]
      rfl
    | false =>
      -- what the rest of the sweep does once this row is `row'` and the report `r₁`
      have hrest : ∀ (journal : List Event) {m : φ} {row' : StoredRow} {r₁ : ColumnReport}, P m →
          row' = sweptRow w.store.failingRows index d row →
          r₁ = countRow w.store.failingRows index d r row →
          Ends (replaceInRows (Rehearsal.store i) (Rehearsal.stopRequested i) false index d r₁
              (rest.map (shown d)))
            ⟨{ w with
                mind := m
                store := w.store.withRows d.table (before ++ row' :: rest) }, journal⟩
            fun r' run => P run.world.mind ∧ ∃ m rest',
              SweepsRows S w.store.failingRows index d r (row :: rest) r' rest' ∧
              run.world =
                { w with mind := m, store := w.store.withRows d.table (before ++ rest') } := by
        intro journal m row' r₁ hm hrow' hr₁
        have hlocator : row'.locator = row.locator := by rw [hrow', sweptRow_locator]
        refine (ih (before ++ [row']) hm ?_ ?_).mono ?_
        · rw [MemoryTables.withRows_tables, if_pos rfl, List.append_cons]
        · rw [List.append_assoc, List.singleton_append]
          simpa [hlocator] using hplaces
        · rintro r' run ⟨hP, m', rest', hsweep, hworld⟩
          subst hrow' hr₁
          refine ⟨hP, m', _, .next hsweep, ?_⟩
          rw [hworld, MemoryTables.withRows_withRows, ← List.append_cons]
      have hsame := MemoryTables.withRows_same hrows
      rw [if_neg (by simp), MemoryTables.replaceCell_shown]
      change Ends (match row.replacement index d.column with | none => _ | some cell => _) _ _
      cases hcell : row.replacement index d.column with
      | none =>
        -- the row stays, so the world is the one that the stop was asked in
        have hend := hrest journal hm (sweptRow_of_none hcell).symm
          (countRow_of_none hcell).symm
        rw [hsame] at hend
        exact hend
      | some cell =>
        dsimp only
        rw [if_neg (by simp), ends_bind, ends_call]
        -- no row before this one stands at its place, so the update meets this row
        have hupdate := MemoryTables.update_of_keyless hkey hrows hplaces cell
        by_cases hfails : w.store.failingRows.contains (d.table, row.locator) = true
        · rw [if_pos hfails] at hupdate
          refine (ends_update_error (w := { w with mind := m }) h hupdate).mono ?_
          rintro _ _ ⟨rfl, rfl⟩
          have hend := fun journal => hrest journal hm
            (sweptRow_of_failing hfails).symm (countRow_of_failing hfails hcell).symm
          rw [hsame] at hend
          exact hend _
        · rw [if_neg hfails] at hupdate
          refine (ends_update_ok (w := { w with mind := m }) h hm hupdate).mono ?_
          rintro _ _ ⟨m', hm', rfl, rfl⟩
          exact hrest _ hm' (sweptRow_of_some hfails hcell).symm
            (countRow_of_some hfails hcell).symm

/-! ## Columns -/

/-- How replacing the identifiers in a column may end, from the tables as they are. -/
inductive SweepsColumn (mayStop : Prop) (index : MappingIndex) (s : MemoryTables)
    (d : Descriptor) : ColumnReport → MemoryTables → Prop
  | unscanned (h : d.table ∈ s.failingScans ∨ s.tables[d.table]? = none) :
      SweepsColumn mayStop index s d { ColumnReport.start d with scanFailed := true } s
  | scanned {rows rows' : List StoredRow} {r : ColumnReport} (hscan : d.table ∉ s.failingScans)
      (hrows : s.tables[d.table]? = some rows)
      (h : SweepsRows mayStop s.failingRows index d
        { ColumnReport.start d with scanned := rows.length } rows r rows') :
      SweepsColumn mayStop index s d r (s.withRows d.table rows')

/-- What a scan without a key answers. -/
theorem MemoryTables.scan_of_keyless (s : MemoryTables) (hkey : d.key = none) :
    s.scan d = if d.table ∈ s.failingScans then .error (.scanCancelled d.table)
      else match s.tables[d.table]? with
        | none => .error (.unknownColumn d.table d.column)
        | some rows => .ok (rows.map (shown d)) := by
  unfold scan
  by_cases hscan : d.table ∈ s.failingScans
  · rw [if_pos (by simpa using hscan), if_pos hscan]
  · rw [if_neg (by simpa using hscan), if_neg hscan]
    cases s.tables[d.table]? with
    | none => rfl
    | some rows => exact scanRows_of_keyless hkey rows

theorem ends_scan (h : i.Keeps P F S) (hw : P w.mind) :
    Ends ((Rehearsal.store i).scan d) w fun r w' =>
      ∃ m, P m ∧ r = w.store.scan d ∧ w' = { w with mind := m } := by
  refine Rehearsal.ends_watched h (Rehearsal.ends_query.mpr ?_)
  cases w.store.scan d with
  | error e => exact ⟨w.mind, hw, rfl, rfl⟩
  | ok rows => exact ⟨hw, fun m hm => ⟨m, hm, rfl, rfl⟩⟩

/-- Replacing in a column sweeps over its rows if it can be scanned. -/
theorem replaceInColumn_ends (h : i.Keeps P F S) (hkey : d.key = none) (hw : P w.mind)
    (hplaces : w.store.Located) :
    Ends (replaceInColumn (Rehearsal.store i) (Rehearsal.stopRequested i) false index d)
        ⟨w, journal⟩ fun r run =>
      P run.world.mind ∧ ∃ m s, SweepsColumn S index w.store d r s ∧
        run.world = { w with mind := m, store := s } := by
  unfold replaceInColumn
  rw [ends_bind, ends_call]
  refine (ends_scan h hw).mono ?_
  rintro scanned _ ⟨m, hm, rfl, rfl⟩
  rw [MemoryTables.scan_of_keyless w.store hkey]
  by_cases hscan : d.table ∈ w.store.failingScans
  · rw [if_pos hscan]
    exact ⟨hm, m, w.store, .unscanned (.inl hscan), rfl⟩
  rw [if_neg hscan]
  cases hrows : w.store.tables[d.table]? with
  | none => exact ⟨hm, m, w.store, .unscanned (.inr hrows), rfl⟩
  | some rows =>
    dsimp only
    rw [ends_bind, List.length_map]
    refine (replaceInRows_ends (w := { w with mind := m }) h hkey [] hm hrows
      (hplaces d.table rows hrows)).mono ?_
    rintro r ⟨w', journal'⟩ ⟨hP, m', rows', hsweep, rfl⟩
    exact ⟨hP, m', _, .scanned hscan hrows hsweep, rfl⟩

/-- A sweep leaves every row at its place. -/
theorem SweepsColumn.located {r : ColumnReport} (h : SweepsColumn S index s d r s')
    (hs : s.Located) : s'.Located := by
  cases h with
  | unscanned _ => exact hs
  | scanned _ hrows hsweep => exact hs.withRows hrows hsweep.locators

/-- How replacing the identifiers in columns may end, from the tables and the report so far. -/
inductive SweepsAll (mayStop : Prop) (index : MappingIndex) :
    MemoryTables → ReplacementReport → List Descriptor → ReplacementReport → MemoryTables → Prop
  | finished {s : MemoryTables} {report : ReplacementReport} :
      SweepsAll mayStop index s report [] report s
  | stopped {s : MemoryTables} {report : ReplacementReport} {ds : List Descriptor} (h : mayStop) :
      SweepsAll mayStop index s report ds report.interrupt s
  | broken {s s' : MemoryTables} {report : ReplacementReport} {d : Descriptor}
      {rest : List Descriptor} {r : ColumnReport} (h : mayStop)
      (hcolumn : SweepsColumn mayStop index s d r s') :
      SweepsAll mayStop index s report (d :: rest) (report.add r).interrupt s'
  | next {s s' s'' : MemoryTables} {report report' : ReplacementReport} {d : Descriptor}
      {rest : List Descriptor} {r : ColumnReport} (hcolumn : SweepsColumn mayStop index s d r s')
      (hrest : SweepsAll mayStop index s' (report.add r) rest report' s'') :
      SweepsAll mayStop index s report (d :: rest) report' s''

/-- Replacing in columns sweeps over them in order. -/
theorem replaceInEach_ends (h : i.Keeps P F S) {ds : List Descriptor}
    (hkeys : ∀ d ∈ ds, d.key = none) {report : ReplacementReport} (hw : P w.mind)
    (hplaces : w.store.Located) :
    Ends (replaceInEach (Rehearsal.store i) (Rehearsal.stopRequested i) false index report ds)
        ⟨w, journal⟩ fun report' run =>
      P run.world.mind ∧ ∃ m s, SweepsAll S index w.store report ds report' s ∧
        run.world = { w with mind := m, store := s } := by
  induction ds generalizing w report journal with
  | nil => exact ⟨hw, w.mind, w.store, .finished, rfl⟩
  | cons d rest ih =>
    unfold replaceInEach
    rw [ends_bind, ends_call]
    refine (Rehearsal.ends_stopRequested h hw).mono ?_
    rintro stopped _ ⟨m, hm, rfl, hS⟩
    cases stopped with
    | true => exact ⟨hm, m, w.store, .stopped (hS rfl), rfl⟩
    | false =>
      rw [if_neg (by simp), ends_bind]
      refine (replaceInColumn_ends (w := { w with mind := m }) h (hkeys d List.mem_cons_self) hm
        hplaces).mono ?_
      rintro r ⟨w', journal'⟩ ⟨hP, m', s, hcolumn, rfl⟩
      rw [ends_bind, ends_call]
      refine (Rehearsal.ends_stopRequested h hP).mono ?_
      rintro stopped _ ⟨m'', hm'', rfl, hS⟩
      cases stopped with
      | true => exact ⟨hm'', m'', s, .broken (hS rfl) hcolumn, rfl⟩
      | false =>
        rw [if_neg (by simp)]
        refine (ih (w := { w with mind := m'', store := s })
          (fun d hd => hkeys d (List.mem_cons_of_mem _ hd)) hm'' (hcolumn.located hplaces)).mono ?_
        rintro report' ⟨w', journal''⟩ ⟨hend, m₃, s', hsweep, rfl⟩
        exact ⟨hend, m₃, s', .next hcolumn hsweep, rfl⟩

/-- The report that replacing in columns begins with. -/
def ReplacementReport.start : ReplacementReport := ⟨.start .foreignKeys, []⟩

theorem replaceInColumns_ends (h : i.Keeps P F S) {ds : List Descriptor}
    (hkeys : ∀ d ∈ ds, d.key = none) (hw : P w.mind) (hplaces : w.store.Located) :
    Ends (replaceInColumns (Rehearsal.store i) (Rehearsal.stopRequested i) false index ds)
        ⟨w, journal⟩ fun report run =>
      P run.world.mind ∧ ∃ m s, SweepsAll S index w.store .start ds report s ∧
        run.world = { w with mind := m, store := s } := by
  unfold replaceInColumns
  rw [ends_bind, ends_tell, ends_bind]
  refine (replaceInEach_ends h hkeys hw hplaces).mono ?_
  rintro report ⟨w', journal'⟩ ⟨hend, m, s, hsweep, rfl⟩
  dsimp only
  split <;> exact ⟨hend, m, s, hsweep, rfl⟩

end Rekey

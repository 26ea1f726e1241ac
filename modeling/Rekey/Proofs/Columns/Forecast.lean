import Rekey.Proofs.Columns.Strays

/-!
# What a dry run tells about columns

A dry run counts the replacements in the columns as they are, and a real run counts them when the
columns before have been written. Every row that a scan has shown is still found when it is to be
written, so within one column both count the same. A later column shows the same cells in both runs
unless its key column is full in one of them only. Only a write that meets another row than the one
that was scanned can do that, since it may put an identifier where there was none.
-/

namespace Rekey

open MemoryTables (Rewrites locatorOf seen)

variable {φ : Type} {i : Interference φ} {P : φ → Prop} {F : Prop} {w : World φ}
  {journal : List Event} {index : MappingIndex} {d e : Descriptor}
  {ds before rest : List Descriptor} {s s' s₀ : MemoryTables} {dryRun : Bool}

/-! ## Counting what a scan shows -/

/-- A report with these cells counted as written without a failure. -/
def ColumnReport.countCells (index : MappingIndex) (r : ColumnReport) (cells : List Cell) :
    ColumnReport :=
  { r with
    updated := r.updated + cells.countP (·.isAffected index)
    unchanged := r.unchanged + cells.countP (!·.isAffected index) }

/-- The report on a column of which a scan shows these cells, or fails. -/
def ColumnReport.forecast (index : MappingIndex) (d : Descriptor) :
    Option (List Cell) → ColumnReport
  | none => { start d with scanFailed := true }
  | some cells => { start d with scanned := cells.length }.countCells index cells

theorem ColumnReport.countCells_of_none {r : ColumnReport} {c : Cell} {cells : List Cell}
    (h : replaceCell index c = none) :
    r.countCells index (c :: cells) =
      { r with unchanged := r.unchanged + 1 }.countCells index cells := by
  have haffected : c.isAffected index = false := by rw [← isSome_replaceCell, h]; rfl
  simp [countCells, haffected, Nat.add_assoc, Nat.add_comm 1]

theorem ColumnReport.countCells_of_some {r : ColumnReport} {c new : Cell} {cells : List Cell}
    (h : replaceCell index c = some new) :
    r.countCells index (c :: cells) =
      { r with updated := r.updated + 1 }.countCells index cells := by
  have haffected : c.isAffected index = true := by rw [← isSome_replaceCell, h]; rfl
  simp [countCells, haffected, Nat.add_assoc, Nat.add_comm 1]

/-! ## One column -/

/-- Replacing in rows that were scanned counts their cells. A dry run leaves the store as it is, and
so does a run that has nothing to replace. -/
theorem replaceInRows_forecast (h : i.Keeps P F False) {rows : List StoredRow}
    (hcells : ∀ row ∈ rows, s₀.HasCell d.table d.column row.cells[d.column]?) (hw : P w.mind)
    (hpasses : s₀.failingRows = []) (hwritten : Rewrites index d s₀ w.store)
    (hrows : w.store.HasRowsAt d (rows.map (locatorOf d))) (r : ColumnReport) :
    Ends (replaceInRows (Rehearsal.store i) (Rehearsal.stopRequested i) dryRun index d r
        (rows.map (seen d))) ⟨w, journal⟩ fun r' run =>
      P run.world.mind ∧ r' = r.countCells index (rows.map fun row => (seen d row).cell) ∧
        ∃ m s, Rewrites index d s₀ s ∧
          (dryRun = true ∨ (∀ row ∈ rows, replaceCell index (seen d row).cell = none) →
            s = w.store) ∧
          run.world = { w with mind := m, store := s } := by
  induction rows generalizing w journal r with
  | nil => exact ⟨hw, rfl, w.mind, w.store, hwritten, fun _ => rfl, rfl⟩
  | cons row rest ih =>
    have hothers := fun row hrow => hcells row (List.mem_cons_of_mem _ hrow)
    rw [List.map_cons] at hrows ⊢
    unfold replaceInRows
    rw [ends_bind, ends_call]
    refine (Rehearsal.ends_stopRequested h hw).mono ?_
    rintro stopped _ ⟨m, hm, rfl, hstop⟩
    rw [if_neg hstop, List.map_cons]
    cases hcell : replaceCell index (seen d row).cell with
    | none =>
      rw [ColumnReport.countCells_of_none hcell]
      refine (ih (w := { w with mind := m }) hothers hm hwritten hrows.tail _).mono ?_
      rintro r' run ⟨hend, hreport, m', s, hs, hsame, hworld⟩
      exact ⟨hend, hreport, m', s, hs, fun hnothing => hsame (hnothing.imp_right
        (List.forall_mem_cons.mp · |>.2)), hworld⟩
    | some new =>
      rw [ColumnReport.countCells_of_some hcell]
      dsimp only
      cases dryRun with
      | true =>
        rw [if_pos rfl, ends_bind, ends_tell]
        refine (ih (w := { w with mind := m }) hothers hm hwritten hrows.tail _).mono ?_
        rintro r' run ⟨hend, hreport, m', s, hs, hsame, hworld⟩
        exact ⟨hend, hreport, m', s, hs, fun _ => hsame (.inl rfl), hworld⟩
      | false =>
        -- the row is still found, and what is written there replaces a cell of the column
        obtain ⟨now, now', hnow, hupdate, hok, hrest⟩ :=
          hrows.update (hwritten.passes.trans hpasses) new
        have hold := hcells row List.mem_cons_self
        rw [getElem?_of_replaceCell_seen hcell] at hold
        rw [if_neg Bool.false_ne_true, ends_bind, ends_call]
        refine (ends_update_ok (w := { w with mind := m }) h hm hok).mono ?_
        rintro _ _ ⟨m', hm', rfl, rfl⟩
        refine (ih (w := { w with mind := m', store := w.store.withRows d.table now' }) hothers hm'
          (hwritten.update hold hcell hnow hupdate) hrest _).mono ?_
        rintro r' run ⟨hend, hreport, m'', s, hs, -, hworld⟩
        refine ⟨hend, hreport, m'', s, hs, ?_, hworld⟩
        rintro (hdry | hnothing)
        · exact absurd hdry Bool.false_ne_true
        · rw [hnothing row List.mem_cons_self] at hcell
          contradiction

/-- Replacing in a column counts the cells that a scan of it shows. Neither a dry run nor a run to
which the scan shows no affected cell changes the store. -/
theorem replaceInColumn_forecast (h : i.Keeps P F False) (hw : P w.mind)
    (hpasses : w.store.failingRows = []) :
    Ends (replaceInColumn (Rehearsal.store i) (Rehearsal.stopRequested i) dryRun index d)
        ⟨w, journal⟩ fun r run =>
      P run.world.mind ∧ r = .forecast index d (w.store.shownCells d) ∧
        ∃ m s, Rewrites index d w.store s ∧
          (dryRun = true ∨ ¬ w.store.ShowsAffected index d → s = w.store) ∧
          run.world = { w with mind := m, store := s } := by
  unfold replaceInColumn
  rw [ends_bind, ends_call]
  refine (ends_scan h hw).mono ?_
  rintro scanned _ ⟨m, hm, rfl, rfl⟩
  rcases w.store.scan_cases d with ⟨e, herror⟩ | ⟨rows, hrows, hshown, hcan⟩
  · rw [MemoryTables.shownCells_of_error herror, herror]
    exact ⟨hm, rfl, m, w.store, .refl w.store, fun _ => rfl, rfl⟩
  · have hcells : ∀ row ∈ rows, w.store.HasCell d.table d.column row.cells[d.column]? :=
      fun row hrow => (MemoryTables.hasCell_iff hrows).mpr ⟨row, hrow, rfl⟩
    have hstand := MemoryTables.hasRowsAt_of_addressed hrows
      ((MemoryTables.isAddressed_iff_isFull hrows).mpr hcan.2)
    have hforecast : ColumnReport.forecast index d (w.store.shownCells d) =
        { ColumnReport.start d with scanned := rows.length }.countCells index
          (rows.map fun row => (seen d row).cell) := by
      rw [MemoryTables.shownCells_of_ok hshown, ColumnReport.forecast, List.map_map,
        List.length_map]
      rfl
    rw [hforecast, hshown, ends_bind, List.length_map]
    refine (replaceInRows_forecast (w := { w with mind := m }) h hcells hm hpasses
      (.refl w.store) hstand _).mono ?_
    rintro r ⟨_, journal'⟩ ⟨hend, rfl, m', s, hs, hdry, rfl⟩
    refine ⟨hend, rfl, m', s, hs, ?_, rfl⟩
    refine fun hnothing => hdry (hnothing.imp_right fun hunaffected row hrow => ?_)
    rw [← Option.isNone_iff_eq_none, ← Option.isSome_eq_false_iff, isSome_replaceCell,
      Bool.eq_false_iff]
    exact fun haffected => hunaffected ⟨_, MemoryTables.shownCells_of_ok hshown, _,
      List.mem_map_of_mem (List.mem_map_of_mem hrow), haffected⟩

/-! ## Later columns -/

/-- After the columns `before` were written, scans of the columns `rest` show what they showed at
first: their cells are as they were, and so is whether their keys are full. A column to which no
write has strayed consists of the rewritten cells. -/
structure Foreseen (index : MappingIndex) (s₀ : MemoryTables) (before rest : List Descriptor)
    (s : MemoryTables) : Prop where
  scans : s.failingScans = s₀.failingScans
  passes : s.failingRows = []
  located : s.Located
  cells : ∀ table column, ¬ Described before table column →
    s.cellsIn table column = s₀.cellsIn table column
  keys : ∀ d ∈ rest, ∀ key, d.key = some key → (s.IsFull d.table key ↔ s₀.IsFull d.table key)
  written : ∀ table column, s₀.KeepsTo index before table column → ∀ cells,
    s₀.cellsAfter index before table column = some cells → s.ConsistsOf table column cells

namespace Foreseen

theorem start (hlocated : s.Located) (hpasses : s.failingRows = []) :
    Foreseen index s [] ds s where
  scans := rfl
  passes := hpasses
  located := hlocated
  cells _ _ _ := rfl
  keys _ _ _ _ := Iff.rfl
  written table column _ cells hcells := by
    refine ⟨cells, ?_, .refl cells⟩
    rwa [MemoryTables.cellsAfter, if_neg (by simp [Described])] at hcells

theorem shownCells_eq (h : Foreseen index s₀ before (d :: rest) s)
    (hnew : ¬ Described before d.table d.column) : s.shownCells d = s₀.shownCells d :=
  MemoryTables.shownCells_congr h.scans (h.cells d.table d.column hnew)
    (h.keys d List.mem_cons_self)

/-- A key by which writes do not stray tells the rows apart. -/
theorem keyedBy (h : Foreseen index s₀ before (e :: rest) s)
    (hnew : ¬ Described before e.table e.column) (haffected : s₀.ShowsAffected index e)
    (hown : e.key ≠ some e.column) (hstays : ¬ s₀.Strays index before e) : KeyedBy [e] s := by
  refine ⟨h.located, fun d hd key hkey rows hrows => ?_, h.passes⟩
  obtain rfl := List.mem_singleton.mp hd
  have hother : key ≠ d.column := fun hsame => hown (hsame ▸ hkey)
  have hshown : (s₀.shownCells d).isSome = true := haffected.isSome_shownCells
  have hcells : s.cellsIn d.table key = some (rows.map fun row => row.cells[key]?) :=
    MemoryTables.cellsIn_of_rows hrows
  have hfull := (MemoryTables.canScan_of_shownCells (h.shownCells_eq hnew ▸ hshown)).2 key hkey
  refine ⟨fun c hc => hfull c ⟨_, hcells, hc⟩, ?_⟩
  -- what the key column consists of by now is known, for no write to it has strayed
  have hkeeps : s₀.KeepsTo index before d.table key := by
    rintro earlier d' later rfl htable rfl hstrays
    exact hstays (.misled haffected hkey hother htable hstrays)
  obtain ⟨cells, hafter⟩ : ∃ cells, s₀.cellsAfter index before d.table key = some cells :=
    MemoryTables.exists_cellsAfter hshown key
  obtain ⟨found, hfound, hperm⟩ := h.written d.table key hkeeps cells hafter
  rw [hcells] at hfound
  obtain rfl := Option.some.inj hfound
  rw [hperm.nodup_iff]
  by_contra hshared
  exact hstays (.shared haffected hkey hother hafter hshared)

/-- Writing one more column. -/
theorem write (h : Foreseen index s₀ before (e :: rest) s) (hwrites : Rewrites index e s s')
    (hend : ¬ s₀.Strays index before e → ∀ cells,
      s₀.cellsAfter index (before ++ [e]) e.table e.column = some cells →
        s'.ConsistsOf e.table e.column cells)
    (hharmless : s₀.Strays index before e →
      (∃ d ∈ rest, d.table = e.table ∧ d.key = some e.column) → s₀.IsFull e.table e.column) :
    Foreseen index s₀ (before ++ [e]) rest s' where
  scans := hwrites.scans.trans h.scans
  passes := hwrites.passes.trans h.passes
  located := hwrites.located h.located
  cells table column hnew := by
    rw [described_append, not_or] at hnew
    rw [hwrites.elsewhere table column hnew.2, h.cells table column hnew.1]
  keys d hd key hkey := by
    have hbefore := h.keys d (List.mem_cons_of_mem _ hd) key hkey
    by_cases hown : e.table = d.table ∧ e.column = key
    · obtain ⟨htable, rfl⟩ := hown
      refine ⟨fun hfull => ?_, fun h₀ => hwrites.isFull (hbefore.mpr h₀)⟩
      rw [← htable] at hfull ⊢
      by_cases hstrays : s₀.Strays index before e
      · exact hharmless hstrays ⟨d, hd, htable.symm, hkey⟩
      · exact MemoryTables.isFull_of_cellsAfter fun cells hcells =>
          (hend hstrays cells hcells).isFull_iff.mp hfull
    · rw [MemoryTables.isFull_congr (hwrites.elsewhere d.table key hown), hbefore]
  written table column hkeeps cells hcells := by
    by_cases hown : e.table = table ∧ e.column = column
    · obtain ⟨rfl, rfl⟩ := hown
      exact hend (hkeeps before e [] rfl rfl rfl) cells hcells
    · rw [MemoryTables.cellsAfter_append_of_other hown] at hcells
      obtain ⟨found, hfound, hperm⟩ := h.written table column hkeeps.of_append cells hcells
      exact ⟨found, (hwrites.elsewhere table column hown).trans hfound, hperm⟩

end Foreseen

/-- Replacing in one more column of which no write strays leaves the rewritten cells in it. -/
theorem Foreseen.replaceInColumn_consistsOf
    (hforeseen : Foreseen index s₀ before (e :: rest) w.store) (h : i.Keeps P F False)
    (hw : P w.mind) (hnew : ¬ Described before e.table e.column)
    (hstays : ¬ s₀.Strays index before e) :
    Ends (Rekey.replaceInColumn (Rehearsal.store i) (Rehearsal.stopRequested i) false index e)
        ⟨w, journal⟩ fun _ run => ∀ cells,
      s₀.cellsAfter index (before ++ [e]) e.table e.column = some cells →
        run.world.store.ConsistsOf e.table e.column cells := by
  have hbefore := hforeseen.cells e.table e.column hnew
  have hshows : w.store.ShowsAffected index e ↔ s₀.ShowsAffected index e := by
    unfold MemoryTables.ShowsAffected
    rw [hforeseen.shownCells_eq hnew]
  by_cases haffected : s₀.ShowsAffected index e
  · have hsome : (s₀.shownCells e).isSome = true := haffected.isSome_shownCells
    have hmeets : e.key = some e.column ∨ KeyedBy [e] w.store := by
      by_cases hown : e.key = some e.column
      · exact .inl hown
      · exact .inr (hforeseen.keyedBy hnew haffected hown hstays)
    rw [MemoryTables.cellsAfter_append_of_shown hsome, ← hbefore]
    rw [← hforeseen.shownCells_eq hnew] at hsome
    intro cells hcells
    obtain ⟨found, hfound, rfl⟩ := Option.map_eq_some_iff.mp hcells
    exact Rekey.replaceInColumn_consistsOf h hw hforeseen.passes hsome hfound hmeets
  · refine (replaceInColumn_forecast h hw hforeseen.passes).mono ?_
    rintro r ⟨_, journal'⟩ ⟨-, -, m, s, -, hsame, rfl⟩ cells hcells
    rw [MemoryTables.cellsAfter_append_of_unaffected hnew haffected, ← hbefore] at hcells
    rw [hsame (.inr fun h => haffected (hshows.mp h))]
    exact ⟨cells, hcells, .refl cells⟩

/-- Replacing in one more column gives the report that is foreseen, and the columns that are left
stay foreseen. -/
theorem Foreseen.replaceInColumn (hforeseen : Foreseen index s₀ before (e :: rest) w.store)
    (h : i.Keeps P F False) (hw : P w.mind) (hnew : ¬ Described before e.table e.column)
    (hharmless : s₀.Strays index before e →
      (∃ d ∈ rest, d.table = e.table ∧ d.key = some e.column) → s₀.IsFull e.table e.column) :
    Ends (Rekey.replaceInColumn (Rehearsal.store i) (Rehearsal.stopRequested i) false index e)
        ⟨w, journal⟩ fun r run =>
      P run.world.mind ∧ r = .forecast index e (s₀.shownCells e) ∧
        ∃ m s, Foreseen index s₀ (before ++ [e]) rest s ∧
          run.world = { w with mind := m, store := s } := by
  have hend : Ends (Rekey.replaceInColumn (Rehearsal.store i) (Rehearsal.stopRequested i) false
      index e) ⟨w, journal⟩ fun _ run => ¬ s₀.Strays index before e → ∀ cells,
        s₀.cellsAfter index (before ++ [e]) e.table e.column = some cells →
          run.world.store.ConsistsOf e.table e.column cells := fun hstays =>
    hforeseen.replaceInColumn_consistsOf h hw hnew hstays
  refine (Ends.and (replaceInColumn_forecast h hw hforeseen.passes) hend).mono ?_
  rintro r ⟨_, journal'⟩ ⟨⟨hP, rfl, m, s, hwrites, -, rfl⟩, hcells⟩
  rw [hforeseen.shownCells_eq hnew]
  exact ⟨hP, rfl, m, s, hforeseen.write hwrites hcells hharmless, rfl⟩

/-! ## All columns -/

/-- The report on columns as they are: what scans of them show now, counted as written. -/
def ReplacementReport.forecast (index : MappingIndex) (s : MemoryTables) (ds : List Descriptor) :
    ReplacementReport :=
  .ofColumns (ds.map fun d => .forecast index d (s.shownCells d))

theorem ReplacementReport.forecast_add (index : MappingIndex) (s : MemoryTables)
    (ds : List Descriptor) (d : Descriptor) :
    (forecast index s ds).add (.forecast index d (s.shownCells d)) =
      forecast index s (ds ++ [d]) := by
  rw [forecast, ofColumns_add, forecast, List.map_append]
  rfl

/-- How replacing in one column ends when its report is foreseen; `I` is what a run keeps of the
columns that it has gone through and of those that are left. -/
def ForetoldBy (i : Interference φ) (P : φ → Prop) (dryRun : Bool) (index : MappingIndex)
    (s₀ : MemoryTables) (ds : List Descriptor)
    (I : List Descriptor → List Descriptor → MemoryTables → Prop) : Prop :=
  ∀ (before rest : List Descriptor) (d : Descriptor) (w : World φ) (journal : List Event),
    ds = before ++ d :: rest → P w.mind → I before (d :: rest) w.store →
    Ends (replaceInColumn (Rehearsal.store i) (Rehearsal.stopRequested i) dryRun index d)
      ⟨w, journal⟩ fun r run =>
        P run.world.mind ∧ r = .forecast index d (s₀.shownCells d) ∧
          ∃ m s, I (before ++ [d]) rest s ∧ run.world = { w with mind := m, store := s }

section Invariant

variable {I : List Descriptor → List Descriptor → MemoryTables → Prop}

/-- Columns whose reports are foreseen one by one. -/
theorem replaceInEach_forecast (h : i.Keeps P F False)
    (hforetold : ForetoldBy i P dryRun index s₀ ds I)
    (hds : ds = before ++ rest) (hw : P w.mind) (hI : I before rest w.store) :
    Ends (replaceInEach (Rehearsal.store i) (Rehearsal.stopRequested i) dryRun index
        (.forecast index s₀ before) rest) ⟨w, journal⟩ fun report run =>
      report = .forecast index s₀ ds ∧
        ∃ m s, I ds [] s ∧ run.world = { w with mind := m, store := s } := by
  induction rest generalizing before w journal with
  | nil =>
    rw [List.append_nil] at hds
    subst hds
    exact ⟨rfl, w.mind, w.store, hI, rfl⟩
  | cons d rest ih =>
    unfold replaceInEach
    rw [ends_bind, ends_call]
    refine (Rehearsal.ends_stopRequested h hw).mono ?_
    rintro stopped _ ⟨m, hm, rfl, hstop⟩
    rw [if_neg hstop, ends_bind]
    refine (hforetold before rest d { w with mind := m } journal hds hm hI).mono ?_
    rintro r ⟨_, journal'⟩ ⟨hend, rfl, m', s, hs, rfl⟩
    rw [ends_bind, ends_call]
    refine (Rehearsal.ends_stopRequested h hend).mono ?_
    rintro stopped _ ⟨m'', hm'', rfl, hstop⟩
    rw [if_neg hstop, ReplacementReport.forecast_add]
    exact ih (w := { w with mind := m'', store := s }) (by rw [hds, List.append_cons]) hm'' hs

theorem replaceInColumns_forecast (h : i.Keeps P F False)
    (hforetold : ForetoldBy i P dryRun index s₀ ds I) (hw : P w.mind) (hI : I [] ds w.store) :
    Ends (replaceInColumns (Rehearsal.store i) (Rehearsal.stopRequested i) dryRun index ds)
        ⟨w, journal⟩ fun report run =>
      report = .forecast index s₀ ds ∧
        ∃ m s, I ds [] s ∧ run.world = { w with mind := m, store := s } := by
  unfold replaceInColumns
  rw [ends_bind, ends_tell, ends_bind]
  refine (replaceInEach_forecast h hforetold (List.nil_append ds).symm hw hI).mono ?_
  rintro report ⟨_, journal'⟩ ⟨rfl, m, s, hs, rfl⟩
  exact ⟨rfl, m, s, hs, rfl⟩

end Invariant

/-- In a dry run every column is counted in the store as it was at first. -/
theorem foretoldBy_of_dry (h : i.Keeps P F False) (hpasses : s₀.failingRows = []) :
    ForetoldBy i P true index s₀ ds fun _ _ s => s = s₀ := by
  rintro before rest d w journal - hw rfl
  refine (replaceInColumn_forecast h hw hpasses).mono ?_
  rintro r ⟨_, journal'⟩ ⟨hend, hreport, m, s, -, hsame, rfl⟩
  exact ⟨hend, hreport, m, s, hsame (.inl rfl), rfl⟩

/-- In a real run every column is counted as it was at first, unless a write strays. -/
theorem foretoldBy_of_real (h : i.Keeps P F False)
    (hdistinct : (ds.map fun d => (d.table, d.column)).Nodup)
    (hstrays : s₀.StraysHarmlessly index ds) :
    ForetoldBy i P false index s₀ ds (Foreseen index s₀) := by
  intro before rest d w journal hds hw hforeseen
  exact hforeseen.replaceInColumn h hw (not_described_of_nodup (hds ▸ hdistinct))
    (hstrays before d rest hds)

/-- A dry run tells what a run would report. In tables that were filled row by row, where no update
is set to fail and no stop is requested, a dry run changes nothing and counts what scans of the
described columns show now; keys may be shared, null or themselves written, and any table may fail
to be scanned. A run that writes gives the same report, if no column is described twice and writes
that stray meet only full columns. -/
theorem replaceInColumns_foretold (index : MappingIndex) (journal : List Event)
    (hstop : i.Unstopped w.mind) (hfilled : w.store.Filled) (hpasses : w.store.failingRows = []) :
    let dry := replaceInColumns (Rehearsal.store i) (Rehearsal.stopRequested i) true index ds
      ⟨w, journal⟩
    let real := replaceInColumns (Rehearsal.store i) (Rehearsal.stopRequested i) false index ds
      ⟨w, journal⟩
    (∃ m, dry.2.world = { w with mind := m }) ∧ dry.1 = .forecast index w.store ds ∧
      ((ds.map fun d => (d.table, d.column)).Nodup → w.store.StraysHarmlessly index ds →
        dry.1 = real.1) := by
  intro dry real
  obtain ⟨P, hm, hkeeps⟩ := hstop
  have hdry : Ends (replaceInColumns (Rehearsal.store i) (Rehearsal.stopRequested i) true index ds)
      ⟨w, journal⟩ _ := replaceInColumns_forecast hkeeps (foretoldBy_of_dry hkeeps hpasses) hm rfl
  obtain ⟨hcounted, m, s, rfl, hworld⟩ := hdry
  refine ⟨⟨m, hworld⟩, hcounted, fun hdistinct hstrays => ?_⟩
  have hforeseen : Foreseen index w.store [] ds w.store := .start hfilled.located hpasses
  have hreal : Ends (replaceInColumns (Rehearsal.store i) (Rehearsal.stopRequested i) false index
      ds) ⟨w, journal⟩ _ := replaceInColumns_forecast hkeeps
    (foretoldBy_of_real hkeeps hdistinct hstrays) hm hforeseen
  exact hcounted.trans hreal.1.symm

open Rehearsal in
/-- Two notes share the key of the first column, so both of its writes meet the first row; the
second row keeps its old owner, who is its key for the second column. The column of shelves is its
own key. The identifiers of tags are rewritten before they are keys, but stay apart, so a tag without
a parent keeps the last column from being scanned in both runs. -/
theorem replaceInColumns_foretold_stage :
    let id := Stage.ada.legacyId
    let other := Stage.adaAgain.legacyId
    let index := (MappingIndex.empty.insert id "u1").insert other "u2"
    let first := (MemoryTables.empty.addRow "notes" [("shelf", .scalar (some id)),
      ("owner", .scalar (some id)), ("title", .scalar (some "x"))]).2
    let notes := (first.addRow "notes" [("shelf", .scalar (some id)),
      ("owner", .scalar (some id)), ("title", .scalar (some id))]).2
    let root := (notes.addRow "tags" [("id", .scalar (some id)), ("parent", .scalar none)]).2
    let store := (root.addRow "tags" [("id", .scalar (some other)),
      ("parent", .scalar (some id))]).2
    let w := { Stage.start with store := { store with failingScans := ["logs"] } }
    let ds : List Descriptor := [⟨"notes", "owner", .scalar, some "shelf"⟩,
      ⟨"notes", "title", .scalar, some "owner"⟩, ⟨"logs", "actor", .scalar, none⟩,
      ⟨"notes", "shelf", .scalar, some "shelf"⟩, ⟨"tags", "id", .scalar, some "id"⟩,
      ⟨"tags", "parent", .scalar, some "id"⟩, ⟨"tags", "name", .scalar, some "parent"⟩]
    let dry := replaceInColumns stageStore (Rehearsal.stopRequested Script.interference) true
      index ds (.start w)
    let real := replaceInColumns stageStore (Rehearsal.stopRequested Script.interference) false
      index ds (.start w)
    Script.interference.Unstopped w.mind ∧ w.store.Filled ∧ w.store.failingRows = [] ∧
      (ds.map fun d => (d.table, d.column)).Nodup ∧ w.store.StraysHarmlessly index ds ∧
      dry.2.world.store = w.store ∧ dry.1 = real.1 ∧
      real.1.summary = ⟨.foreignKeys, 8, 2, 2, false⟩ ∧
      real.2.world.store.cellAt "notes" "(0,1)" "owner" = some (.scalar (some "u1")) ∧
      real.2.world.store.cellAt "notes" "(0,2)" "owner" = some (.scalar (some id)) ∧
      real.2.world.store.cellAt "tags" "(0,4)" "parent" = some (.scalar (some "u1")) := by
  intro id other index first notes root store w ds dry real
  have hstop : Script.interference.Unstopped w.mind := Script.calm_quiet.unstopped
  have hrows : store.Filled := .row _ _ (.row _ _ (.row _ _ (.row _ _ (.blank rfl))))
  have hfilled : w.store.Filled := .elsewhere (s := store) rfl rfl hrows
  have hdistinct : (ds.map fun d => (d.table, d.column)).Nodup := by decide
  have howners : w.store.IsFull "notes" "owner" := .of_values [id, id] (by decide +kernel)
  have hshelves : w.store.IsFull "notes" "shelf" := .of_values [id, id] (by decide +kernel)
  have htags : w.store.StaysApart index "tags" "id" := .of_cells
    [some (.scalar (some id)), some (.scalar (some other))] (by decide +kernel) (by decide +kernel)
    (by decide +kernel)
  have hparents : w.store.StaysApart index "tags" "parent" := .of_cells
    [some (.scalar none), some (.scalar (some id))] (by decide +kernel) (by decide +kernel)
    (by decide +kernel)
  have hstrays : w.store.StraysHarmlessly index ds := by
    refine MemoryTables.straysHarmlessly_of_tables fun table => ?_
    by_cases htable : table = "tags"
    · refine .inr fun d hd hd' key hkey hother => ?_
      subst htable
      simp only [ds, List.mem_cons, List.not_mem_nil, or_false] at hd
      rcases hd with rfl | rfl | rfl | rfl | rfl | rfl | rfl
      · simp at hd'
      · simp at hd'
      · simp at hd'
      · simp at hd'
      · exact absurd (Option.some.inj hkey).symm hother
      · exact Option.some.inj hkey ▸ htags
      · exact Option.some.inj hkey ▸ hparents
    · refine .inl fun d hd hd' key hkey => ?_
      subst hd'
      simp only [ds, List.mem_cons, List.not_mem_nil, or_false] at hd
      rcases hd with rfl | rfl | rfl | rfl | rfl | rfl | rfl
      · exact Option.some.inj hkey ▸ hshelves
      · exact Option.some.inj hkey ▸ howners
      · contradiction
      · exact Option.some.inj hkey ▸ hshelves
      · exact absurd rfl htable
      · exact absurd rfl htable
      · exact absurd rfl htable
  obtain ⟨⟨m, hworld⟩, -, hequal⟩ := replaceInColumns_foretold index [] hstop hfilled rfl
  have hsame := congrArg World.store hworld
  refine ⟨hstop, hfilled, rfl, hdistinct, hstrays, hsame, hequal hdistinct hstrays, ?_, ?_, ?_, ?_⟩
  · decide +kernel
  · decide +kernel
  · decide +kernel
  · decide +kernel

open Rehearsal in
/-- Two rows share the key of the first column, and only the second has an owner. A dry run cannot
scan the second column, whose key is the owner. A run that writes puts the new owner into the first
row, so it scans that column. -/
theorem replaceInColumns_dry_ne :
    let id := Stage.ada.legacyId
    let index := MappingIndex.empty.insert id "u1"
    let first := (MemoryTables.empty.addRow "notes" [("shelf", .scalar (some "s1")),
      ("owner", .scalar none), ("title", .scalar (some "x"))]).2
    let store := (first.addRow "notes" [("shelf", .scalar (some "s1")),
      ("owner", .scalar (some id)), ("title", .scalar (some "y"))]).2
    let w := { Stage.start with store := store }
    let ds : List Descriptor := [⟨"notes", "owner", .scalar, some "shelf"⟩,
      ⟨"notes", "title", .scalar, some "owner"⟩]
    let dry := replaceInColumns stageStore (Rehearsal.stopRequested Script.interference) true
      index ds (.start w)
    let real := replaceInColumns stageStore (Rehearsal.stopRequested Script.interference) false
      index ds (.start w)
    Script.interference.Unstopped w.mind ∧ w.store.Filled ∧ w.store.failingRows = [] ∧
      (ds.map fun d => (d.table, d.column)).Nodup ∧
      dry.1 = ⟨⟨.foreignKeys, 1, 1, 1, false⟩, [⟨"notes", "owner", .scalar, 2, 1, 0, 1, false⟩,
        ⟨"notes", "title", .scalar, 0, 0, 0, 0, true⟩]⟩ ∧
      real.1 = ⟨⟨.foreignKeys, 1, 3, 0, false⟩, [⟨"notes", "owner", .scalar, 2, 1, 0, 1, false⟩,
        ⟨"notes", "title", .scalar, 2, 0, 0, 2, false⟩]⟩ ∧
      dry.1 ≠ real.1 := by
  intro id index first store w ds dry real
  have hrows : store.Filled := .row _ _ (.row _ _ (.blank rfl))
  refine ⟨Script.calm_quiet.unstopped, hrows, rfl, by decide, ?_, ?_, ?_⟩
  · decide +kernel
  · decide +kernel
  · decide +kernel

end Rekey

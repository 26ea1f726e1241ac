import Rekey.Proofs.Columns.Exact

/-!
# Replacing identifiers again

A run may be stopped anywhere and begun again. When no new identifier is itself replaced, every cell
moves once, from what it held at first to what it holds in the end: whatever a stopped run leaves,
a full run makes of it what it makes of the first tables, and once that is done no run finds
anything to replace.
-/

namespace Rekey

variable {index : MappingIndex} {row : StoredRow} {s s' : MemoryTables} {d : Descriptor}
  {ds rest : List Descriptor} {S : Prop}

/-! ## Parts of a run -/

/-- Replacing what is described in a row makes the same of it after a sweep over one of the
columns. -/
theorem renamedRow_sweptRow (hstable : index.Stable) (hd : d ∈ ds)
    (hscan : d.table ∉ s.failingScans) :
    s.renamedRow index ds d.table (sweptRow s.failingRows index d row) =
      s.renamedRow index ds d.table row := by
  by_cases hfails : s.failingRows.contains (d.table, row.locator) = true
  · rw [sweptRow_of_failing hfails]
  have hswept : sweptRow s.failingRows index d row = row.rewrite index d.column := if_neg hfails
  rw [hswept]
  refine StoredRow.ext_cells rewrite_locator fun k => ?_
  rw [renamedRow_cells, renamedRow_cells, rewrite_cells, rewrite_locator]
  by_cases hk : d.column = k
  · -- the cell is written to in any case, and replacing twice is replacing once
    subst hk
    have hwritten : s.Writes ds d.table row.locator d.column :=
      ⟨⟨d, hd, rfl, rfl⟩, hscan, fun h => hfails (List.contains_iff_mem.mpr h)⟩
    rw [if_pos rfl, funext (rewriteCell_eq_mapIds index)]
    simp only [if_pos hwritten, Option.map_map, Function.comp_def, mapIds_mapIds hstable]
  · rw [if_neg hk]

/-- So it is after a sweep over some of the rows. -/
theorem SweepsRows.renamed_eq (hstable : index.Stable) (hd : d ∈ ds)
    (hscan : d.table ∉ s.failingScans) {r r' : ColumnReport} {rows rows' : List StoredRow}
    (h : SweepsRows S s.failingRows index d r rows r' rows') :
    rows'.map (s.renamedRow index ds d.table) = rows.map (s.renamedRow index ds d.table) := by
  induction h with
  | finished => rfl
  | stopped _ => rfl
  | next _ ih => rw [List.map_cons, List.map_cons, ih, renamedRow_sweptRow hstable hd hscan]

theorem SweepsColumn.renamed_eq (hstable : index.Stable) (hd : d ∈ ds) {r : ColumnReport}
    (h : SweepsColumn S index s d r s') : s'.renamed index ds = s.renamed index ds := by
  cases h with
  | unscanned _ => rfl
  | @scanned rows rows' _ hscan hrows hsweep =>
    have hsame := hsweep.renamed_eq hstable hd hscan
    refine renamed_eq_of_tables s ((s.withRows d.table rows').renamed index ds).tables ?_
    intro table
    rw [renamed_tables, MemoryTables.withRows_tables]
    split
    · rename_i htable
      subst htable
      rw [hrows]
      exact congrArg some hsame
    · rfl

/-- A run over described columns, stopped or not, leaves tables of which a full run makes what it
makes of the first tables. -/
theorem SweepsAll.renamed_eq (hstable : index.Stable) {report report' : ReplacementReport}
    (h : SweepsAll S index s report rest report' s') (hrest : ∀ d ∈ rest, d ∈ ds) :
    s'.renamed index ds = s.renamed index ds := by
  induction h with
  | finished => rfl
  | stopped _ => rfl
  | broken _ hcolumn => exact hcolumn.renamed_eq hstable (hrest _ List.mem_cons_self)
  | next hcolumn _ ih =>
    rw [ih fun d hd => hrest d (List.mem_cons_of_mem _ hd)]
    exact hcolumn.renamed_eq hstable (hrest _ List.mem_cons_self)

/-- A run leaves every row at its place. -/
theorem SweepsAll.located {report report' : ReplacementReport}
    (h : SweepsAll S index s report rest report' s') (hs : s.Located) : s'.Located := by
  induction h with
  | finished => exact hs
  | stopped _ => exact hs
  | broken _ hcolumn => exact hcolumn.located hs
  | next hcolumn _ ih => exact ih (hcolumn.located hs)

/-! ## Full runs -/

/-- A full run replaces the identifiers in all described columns, however often each is named. -/
theorem SweepsAll.complete (hstable : index.Stable) (done : List Descriptor) {s₁ : MemoryTables}
    {report report' : ReplacementReport} (h : SweepsAll False index s₁ report rest report' s')
    (hs : s₁ = s.renamed index done) : s' = s.renamed index (done ++ rest) := by
  induction h generalizing done with
  | finished => rw [List.append_nil, hs]
  | stopped h => exact h.elim
  | broken h _ => exact h.elim
  | @next _ _ _ _ _ d rest _ hcolumn _ ih =>
    -- `done` has the columns that were swept, in which identifiers are replaced by now
    subst hs
    have hnext := ih (done ++ [d]) (hcolumn.renamed fun _ => hstable)
    rwa [List.append_assoc] at hnext

/-! ## Nothing left to replace -/

/-- What replaces an identifier is not itself replaced. -/
theorem renames_renamed (hstable : index.Stable) (id : String) :
    index.renames (index.renamed id) = false := by
  rw [renames_eq_isSome, renamed_eq_getD]
  cases hid : index.lookup id with
  | none => rw [Option.getD_none, hid, Option.isSome_none]
  | some new => rw [Option.getD_some, hstable id new hid, Option.isSome_none]

theorem ids_mapIds (f : String → String) (c : Cell) : (c.mapIds f).ids = c.ids.map f := by
  rcases c with x | _ | xs
  · cases x <;> rfl
  · rfl
  · show (xs.map (Option.map f)).filterMap id = (xs.filterMap id).map f
    rw [List.filterMap_map, List.map_filterMap]
    rfl

/-- After a cell was written to, no identifier in it has a new one. -/
theorem isAffected_mapIds (hstable : index.Stable) (c : Cell) :
    (c.mapIds index.renamed).isAffected index = false := by
  rw [Cell.isAffected, ids_mapIds, List.any_map]
  exact List.any_eq_false.mpr fun id _ => by simp [renames_renamed hstable id]

/-- A row that is as it is after replacing has no replacement in a column that is written to. -/
theorem replacement_of_renamedRow (hstable : index.Stable) (hd : d ∈ ds)
    (hscan : d.table ∉ s.failingScans) (hpass : (d.table, row.locator) ∉ s.failingRows)
    (hrow : s.renamedRow index ds d.table row = row) : row.replacement index d.column = none := by
  have hwritten : s.Writes ds d.table row.locator d.column :=
    ⟨⟨d, hd, rfl, rfl⟩, hscan, hpass⟩
  have hcells : row.cells[d.column]? = (row.cells[d.column]?).map (·.mapIds index.renamed) := by
    have hcell : (s.renamedRow index ds d.table row).cells[d.column]? = _ :=
      renamedRow_cells d.column
    rw [hrow] at hcell
    simpa only [if_pos hwritten] using hcell
  rw [← Option.isNone_iff_eq_none, ← Option.isSome_eq_false_iff, isSome_replacement,
    StoredRow.isAffected, hcells]
  cases row.cells[d.column]? with
  | none => rfl
  | some c => exact isAffected_mapIds hstable c

/-- A sweep over rows in which nothing is left to replace changes and updates none. -/
theorem SweepsRows.idle (hstable : index.Stable) (hd : d ∈ ds) (hscan : d.table ∉ s.failingScans)
    {r r' : ColumnReport} {rows rows' : List StoredRow}
    (h : SweepsRows S s.failingRows index d r rows r' rows')
    (hrows : ∀ row ∈ rows, s.renamedRow index ds d.table row = row) :
    rows' = rows ∧ r'.updated = r.updated := by
  induction h with
  | finished => exact ⟨rfl, rfl⟩
  | stopped _ => exact ⟨rfl, rfl⟩
  | @next r _ row rest _ _ ih =>
    obtain ⟨hrest, hupdated⟩ := ih fun row' h => hrows row' (List.mem_cons_of_mem row h)
    rw [hrest, hupdated]
    by_cases hfails : s.failingRows.contains (d.table, row.locator) = true
    · refine ⟨by rw [sweptRow_of_failing hfails], ?_⟩
      simp only [countRow_eq, hfails, Bool.not_true, Bool.and_false, Bool.false_eq_true, if_false,
        Nat.add_zero]
    · have hnone : row.replacement index d.column = none :=
        replacement_of_renamedRow hstable hd hscan (fun h => hfails (List.contains_iff_mem.mpr h))
          (hrows row List.mem_cons_self)
      rw [sweptRow_of_none hnone, countRow_of_none hnone]
      exact ⟨rfl, rfl⟩

theorem SweepsColumn.idle (hstable : index.Stable) (hd : d ∈ ds) (hs : s.renamed index ds = s)
    {r : ColumnReport} (h : SweepsColumn S index s d r s') : s' = s ∧ r.updated = 0 := by
  cases h with
  | unscanned _ => exact ⟨rfl, rfl⟩
  | @scanned rows rows' _ hscan hfound hsweep =>
    have htable : some (rows.map (s.renamedRow index ds d.table)) = some rows := by
      have hrenamed : (s.renamed index ds).tables[d.table]? = _ := renamed_tables d.table
      rw [hs, hfound] at hrenamed
      exact hrenamed.symm
    have hrows : ∀ row ∈ rows, s.renamedRow index ds d.table row = row := by
      have hmap : rows.map (s.renamedRow index ds d.table) = rows.map id := by
        rw [List.map_id]
        exact Option.some.inj htable
      exact List.map_inj_left.mp hmap
    obtain ⟨rfl, hupdated⟩ := hsweep.idle hstable hd hscan hrows
    exact ⟨MemoryTables.withRows_same hfound, hupdated⟩

/-- A run over tables in which nothing is left to replace changes nothing and reports no update. -/
theorem SweepsAll.idle (hstable : index.Stable) (hs : s.renamed index ds = s)
    {report report' : ReplacementReport} (h : SweepsAll S index s report rest report' s')
    (hrest : ∀ d ∈ rest, d ∈ ds) (hreport : ∀ r ∈ report.columns, r.updated = 0) :
    s' = s ∧ ∀ r ∈ report'.columns, r.updated = 0 := by
  have hadd : ∀ {report : ReplacementReport} {r : ColumnReport},
      (∀ r ∈ report.columns, r.updated = 0) → r.updated = 0 →
        ∀ r' ∈ (report.add r).columns, r'.updated = 0 := by
    intro report r hreport hr r' hr'
    rcases List.mem_append.mp hr' with hold | hnew
    · exact hreport r' hold
    · rw [List.mem_singleton.mp hnew, hr]
  induction h with
  | finished => exact ⟨rfl, hreport⟩
  | stopped _ => exact ⟨rfl, hreport⟩
  | broken _ hcolumn =>
    obtain ⟨hsame, hr⟩ := hcolumn.idle hstable (hrest _ List.mem_cons_self) hs
    exact ⟨hsame, hadd hreport hr⟩
  | next hcolumn _ ih =>
    obtain ⟨rfl, hr⟩ := hcolumn.idle hstable (hrest _ List.mem_cons_self) hs
    exact ih hs (fun d hd => hrest d (List.mem_cons_of_mem _ hd)) (hadd hreport hr)

/-! ## Reported columns -/

theorem SweepsRows.names {failing : List (String × Locator)} {r r' : ColumnReport}
    {rows rows' : List StoredRow} (h : SweepsRows S failing index d r rows r' rows') :
    (r'.table, r'.column) = (r.table, r.column) := by
  induction h with
  | finished => rfl
  | stopped _ => rfl
  | next _ ih => rw [ih, countRow_eq]

theorem SweepsColumn.names {r : ColumnReport} (h : SweepsColumn S index s d r s') :
    (r.table, r.column) = (d.table, d.column) := by
  cases h with
  | unscanned _ => rfl
  | scanned _ _ hsweep => exact hsweep.names

/-- A full run reports on the described columns in order. -/
theorem SweepsAll.names {report report' : ReplacementReport}
    (h : SweepsAll False index s report rest report' s') :
    report'.columns.map (fun r => (r.table, r.column)) =
      report.columns.map (fun r => (r.table, r.column)) ++
        rest.map fun d => (d.table, d.column) := by
  induction h with
  | finished => rw [List.map_nil, List.append_nil]
  | stopped h => exact h.elim
  | broken h _ => exact h.elim
  | next hcolumn _ ih =>
    rw [ih, ReplacementReport.add, List.map_append, List.map_singleton, hcolumn.names,
      List.append_assoc]
    rfl

/-! ## Runs -/

/-- A run over described columns: what interferes with it, and the state of mind in which that
begins. -/
structure ColumnAttempt (φ : Type) where
  interference : Interference φ
  mind : φ

namespace ColumnAttempt

variable {φ : Type} {w : World φ}

/-- How a run ends. -/
def ended (index : MappingIndex) (ds : List Descriptor) (a : ColumnAttempt φ) (w : World φ) :
    ReplacementReport × Run (World φ) :=
  replaceInColumns (Rehearsal.store a.interference) (Rehearsal.stopRequested a.interference) false
    index ds (.start { w with mind := a.mind })

/-- The world after a run. -/
def run (index : MappingIndex) (ds : List Descriptor) (a : ColumnAttempt φ) (w : World φ) :
    World φ :=
  (a.ended index ds w).2.world

/-- The world after runs in order. -/
def runAll (index : MappingIndex) (ds : List Descriptor) (attempts : List (ColumnAttempt φ))
    (w : World φ) : World φ :=
  attempts.foldl (fun w a => a.run index ds w) w

/-- A run sweeps over the tables as they are. -/
theorem run_sweeps (index : MappingIndex) (a : ColumnAttempt φ) {P : φ → Prop} {F : Prop}
    (h : a.interference.Keeps P F S) (hm : P a.mind) (hkeys : ∀ d ∈ ds, d.key = none)
    (hplaces : w.store.Located) :
    SweepsAll S index w.store .start ds (a.ended index ds w).1 (a.run index ds w).store := by
  have hend : Ends (replaceInColumns _ _ false index ds) (Run.start { w with mind := a.mind }) _ :=
    replaceInColumns_ends h hkeys hm hplaces
  obtain ⟨-, m, s, hsweep, hworld⟩ := hend
  have hs : (a.run index ds w).store = s := congrArg World.store hworld
  rw [hs]
  exact hsweep

/-- Runs that were stopped leave tables of which a full run makes what it makes of the first. -/
theorem runAll_renamed (attempts : List (ColumnAttempt φ)) (hstable : index.Stable)
    (hkeys : ∀ d ∈ ds, d.key = none) (hplaces : w.store.Located) :
    (runAll index ds attempts w).store.Located ∧
      (runAll index ds attempts w).store.renamed index ds = w.store.renamed index ds := by
  induction attempts generalizing w with
  | nil => exact ⟨hplaces, rfl⟩
  | cons a rest ih =>
    have hsweep := a.run_sweeps index a.interference.keeps_any trivial hkeys hplaces
    obtain ⟨hlocated, hrenamed⟩ := ih (hsweep.located hplaces)
    exact ⟨hlocated, hrenamed.trans (hsweep.renamed_eq hstable fun _ hd => hd)⟩

/-- A run that is not stopped replaces the identifiers in all described columns. -/
theorem run_complete (a : ColumnAttempt φ) (ha : a.interference.Unstopped a.mind)
    (hstable : index.Stable) (hkeys : ∀ d ∈ ds, d.key = none) (hplaces : w.store.Located) :
    (a.run index ds w).store = w.store.renamed index ds := by
  obtain ⟨P, hm, hkeeps⟩ := ha
  exact (a.run_sweeps index hkeeps hm hkeys hplaces).complete hstable [] renamed_nil.symm

end ColumnAttempt

section Rerun

variable {φ : Type} {w : World φ}

/-- However often replacing identifiers was stopped before, a run that is not stopped leaves the
tables as one such run from the start does, with the identifiers replaced in all cells that are
written to; and any run after it changes nothing, and reports no update for the columns it comes to,
which are all of them unless it is stopped. Descriptors name no key but may repeat, rows and scans
may be set to fail, and no new identifier is itself replaced. -/
theorem replaceInColumns_rerunnable (earlier : List (ColumnAttempt φ))
    (first last again : ColumnAttempt φ) (hstable : index.Stable) (hfilled : w.store.Filled)
    (hkeys : ∀ d ∈ ds, d.key = none) (hfirst : first.interference.Unstopped first.mind)
    (hlast : last.interference.Unstopped last.mind) :
    let direct := first.run index ds w
    let resumed := last.run index ds (ColumnAttempt.runAll index ds earlier w)
    let reports := (again.ended index ds resumed).1.columns
    direct.store = w.store.renamed index ds ∧ resumed.store = direct.store ∧
      (again.run index ds resumed).store = resumed.store ∧ (∀ r ∈ reports, r.updated = 0) ∧
      (again.interference.Unstopped again.mind →
        reports.map (fun r => (r.table, r.column)) = ds.map fun d => (d.table, d.column)) := by
  intro direct resumed reports
  obtain ⟨hplaces, hrenamed⟩ :=
    ColumnAttempt.runAll_renamed earlier hstable hkeys hfilled.located (w := w)
  have hdirect : direct.store = w.store.renamed index ds :=
    first.run_complete hfirst hstable hkeys hfilled.located
  have hresumed : resumed.store = w.store.renamed index ds :=
    (last.run_complete hlast hstable hkeys hplaces).trans hrenamed
  -- the last run is one of the runs that leave the full result as it is
  obtain ⟨hlocated, hagain⟩ :=
    ColumnAttempt.runAll_renamed [last] hstable hkeys hplaces
  have hdone : resumed.store.renamed index ds = resumed.store :=
    hagain.trans (hrenamed.trans hresumed.symm)
  have hsweep := again.run_sweeps index again.interference.keeps_any trivial hkeys hlocated
  obtain ⟨hsame, hidle⟩ := hsweep.idle hstable hdone (fun _ hd => hd) (fun r hr => nomatch hr)
  refine ⟨hdirect, hresumed.trans hdirect.symm, hsame, hidle, ?_⟩
  rintro ⟨P, hm, hkeeps⟩
  exact (again.run_sweeps index hkeeps hm hkeys hlocated).names

open Rehearsal in
/-- A run that is stopped after its first update leaves the array of the first row and the second
row for later. One column is described twice, a row cannot be updated, and a table cannot be
scanned. -/
theorem replaceInColumns_rerunnable_stage :
    let id := Stage.ada.legacyId
    let other := Stage.adaAgain.legacyId
    let index := (MappingIndex.empty.insert id "u1").insert other "u2"
    let first := (MemoryTables.empty.addRow "orders"
      [("owner", .scalar (some id)), ("watchers", .array (some [none, some other, some "x"]))]).2
    let second := (first.addRow "orders" [("owner", .scalar (some other))]).2
    let store := (second.addRow "orders" [("owner", .scalar (some id))]).2
    let failing := { store with failingRows := [("orders", "(0,3)")], failingScans := ["logs"] }
    let w := { Stage.start with store := failing }
    let ds : List Descriptor := [⟨"orders", "owner", .scalar, none⟩,
      ⟨"logs", "actor", .scalar, none⟩, ⟨"orders", "watchers", .array, none⟩,
      ⟨"orders", "owner", .scalar, none⟩]
    let stopping : ColumnAttempt Script := ⟨Script.interference, Script.quiet.stopAfter .update 1⟩
    let full : ColumnAttempt Script := ⟨Script.interference, .quiet⟩
    let stopped := stopping.run index ds w
    let resumed := full.run index ds stopped
    index.Stable ∧ w.store.Filled ∧ (∀ d ∈ ds, d.key = none) ∧
      full.interference.Unstopped full.mind ∧
      stopped.store.cellAt "orders" "(0,1)" "owner" = some (.scalar (some "u1")) ∧
      stopped.store.cellAt "orders" "(0,2)" "owner" = some (.scalar (some other)) ∧
      resumed.store.cellAt "orders" "(0,1)" "watchers" =
        some (.array (some [none, some "u2", some "x"])) ∧
      resumed.store.cellAt "orders" "(0,2)" "owner" = some (.scalar (some "u2")) ∧
      resumed.store.cellAt "orders" "(0,3)" "owner" = some (.scalar (some id)) ∧
      resumed.store = (full.run index ds w).store ∧
      (full.run index ds resumed).store = resumed.store ∧
      (full.ended index ds resumed).1.columns.map ColumnReport.updated = [0, 0, 0, 0] := by
  intro id other index first second store failing w ds stopping full stopped resumed
  have hstable : index.Stable := by
    intro k new hnew
    have hshape : isLegacyId new = false := by
      unfold MappingIndex.lookup at hnew
      split at hnew
      · rw [MappingIndex.get?_insert, MappingIndex.get?_insert, MappingIndex.get?_empty] at hnew
        split at hnew
        · obtain rfl := Option.some.inj hnew
          decide
        · split at hnew
          · obtain rfl := Option.some.inj hnew
            decide
          · contradiction
      · contradiction
    rw [MappingIndex.lookup, hshape]
    rfl
  have hrows : store.Filled := .row _ _ (.row _ _ (.row _ _ (.blank rfl)))
  have hfilled : w.store.Filled := .elsewhere (s := store) rfl rfl hrows
  have hkeys : ∀ d ∈ ds, d.key = none := by decide
  have hfull : full.interference.Unstopped full.mind := Script.calm_quiet.unstopped
  obtain ⟨-, hsame, hagain, -, -⟩ :=
    replaceInColumns_rerunnable [stopping] full full full hstable hfilled hkeys hfull hfull
  refine ⟨hstable, hfilled, hkeys, hfull, ?_, ?_, ?_, ?_, ?_, hsame, hagain, ?_⟩
  · decide +kernel
  · decide +kernel
  · decide +kernel
  · decide +kernel
  · decide +kernel
  · decide +kernel

end Rerun

end Rekey

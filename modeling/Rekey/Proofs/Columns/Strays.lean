import Rekey.Proofs.Columns.Exact
import Rekey.Proofs.Columns.Keys
import Rekey.Proofs.Columns.Views

/-!
# Writes that stray

A write that is addressed by a key meets the first row that holds the key by then, which need not be
the row that was scanned. Where a key tells the rows apart every write meets its own row. Where a
column is its own key a write may meet another row, but one that holds the same, so the column
consists of the rewritten cells all the same (`replaceInColumn_consistsOf`). Writes that stray
otherwise are those of `Strays`.
-/

namespace Rekey

open MemoryTables (IsAddressed isLocated locatorOf seen)

variable {φ : Type} {i : Interference φ} {P : φ → Prop} {F : Prop} {w : World φ}
  {journal : List Event} {index : MappingIndex} {d e : Descriptor} {row now : StoredRow}
  {s s' : MemoryTables} {rows : List StoredRow} {before : List Descriptor} {table column : String}
  {cells done : List (Option Cell)}

/-! ## What a column consists of -/

namespace MemoryTables

/-- The column consists of these cells, in some order. -/
def ConsistsOf (s : MemoryTables) (table column : String) (cells : List (Option Cell)) : Prop :=
  ∃ found, s.cellsIn table column = some found ∧ found.Perm cells

theorem consistsOf_of_rows (hrows : s.tables[table]? = some rows) :
    s.ConsistsOf table column (rows.map (·.cells[column]?)) :=
  ⟨_, cellsIn_of_rows hrows, .refl _⟩

theorem ConsistsOf.perm {cells' : List (Option Cell)} (h : s.ConsistsOf table column cells)
    (hperm : cells.Perm cells') : s.ConsistsOf table column cells' := by
  obtain ⟨found, hfound, hcells⟩ := h
  exact ⟨found, hfound, hcells.trans hperm⟩

theorem ConsistsOf.isFull_iff (h : s.ConsistsOf table column cells) :
    s.IsFull table column ↔ ∀ c ∈ cells, ∃ value, c = some (.scalar (some value)) := by
  obtain ⟨found, hfound, hperm⟩ := h
  refine ⟨fun hfull c hc => hfull c ⟨found, hfound, hperm.mem_iff.mpr hc⟩, ?_⟩
  rintro hcells c ⟨found', hfound', hc⟩
  rw [hfound] at hfound'
  obtain rfl := Option.some.inj hfound'
  exact hcells c (hperm.mem_iff.mp hc)

/-- A row is found at the address of another if both hold the same in the key column. -/
theorem isLocated_locatorOf {key : String} (hkey : d.key = some key)
    (haddress : IsAddressed d row) :
    isLocated d (locatorOf d row) now = true ↔ now.cells[key]? = row.cells[key]? := by
  obtain ⟨value, hvalue⟩ := haddress.of_key hkey
  rw [locatorOf_of_key hkey hvalue, hvalue]
  constructor
  · intro hat
    simp only [isLocated, addressOf, hkey] at hat
    split at hat
    · rename_i l hl
      split at hl
      · rename_i value' hvalue'
        rw [hvalue', Except.ok.inj hl, beq_iff_eq.mp hat]
      · contradiction
    · contradiction
  · intro hsame
    simp [isLocated, addressOf, hkey, hsame]

/-- Writing a column that is its own key replaces one cell of those that hold what was scanned. -/
theorem ConsistsOf.update (h : s.ConsistsOf d.table d.column (row.cells[d.column]? :: cells))
    (hown : d.key = some d.column) (haddress : IsAddressed d row) (hpasses : s.failingRows = [])
    (new : Cell) :
    ∃ s', s.update d (locatorOf d row) new = .ok s' ∧ s'.failingRows = [] ∧
      s'.ConsistsOf d.table d.column (some new :: cells) := by
  obtain ⟨found, hfound, hperm⟩ := h
  obtain ⟨rows, hrows, rfl⟩ := Option.map_eq_some_iff.mp hfound
  obtain ⟨now, hnow, hsame⟩ := List.mem_map.mp (hperm.mem_iff.mpr List.mem_cons_self)
  obtain ⟨rows', hupdate⟩ :=
    exists_updateRows hnow ((isLocated_locatorOf hown haddress).mpr hsame) new
  have hpass : (d.table, locatorOf d row) ∉ s.failingRows := by simp [hpasses]
  refine ⟨s.withRows d.table rows', update_eq_ok hpass hrows hupdate, hpasses, ?_⟩
  have hrows' : (s.withRows d.table rows').tables[d.table]? = some rows' := by
    rw [withRows_tables, if_pos rfl]
  refine (consistsOf_of_rows hrows').perm ?_
  -- the row that is met holds what the scanned row held, so the others are those that are left
  obtain ⟨front, met, back, rfl, rfl, hat⟩ := updateRows_eq_some hupdate
  have hmet := (isLocated_locatorOf hown haddress).mp hat
  simp only [List.map_append, List.map_cons, put_cells, if_true] at hperm ⊢
  rw [hmet] at hperm
  exact List.perm_middle.trans ((List.perm_middle.symm.trans hperm).cons_inv.cons _)

end MemoryTables

/-- A cell that has no replacement stays, and so does a missing one. -/
theorem rewriteCell_of_unseen (h : replaceCell index (seen d row).cell = none) :
    (row.cells[d.column]?).map (rewriteCell index) = row.cells[d.column]? := by
  unfold seen at h
  cases hcell : row.cells[d.column]? with
  | none => rfl
  | some c =>
    rw [hcell] at h
    exact congrArg some (rewriteCell_of_none h)

/-- A cell that is shown and has a replacement stands in the row. -/
theorem getElem?_of_replaceCell_seen {new : Cell}
    (h : replaceCell index (seen d row).cell = some new) :
    row.cells[d.column]? = some (seen d row).cell := by
  unfold seen at h ⊢
  cases hcell : row.cells[d.column]? with
  | none =>
    rw [hcell] at h
    cases hkind : d.kind <;> simp [hkind, Cell.null, replaceCell, replaceId, replaceIds] at h
  | some c => rfl

/-- Replacing in rows of a column that is its own key: what is left of the scan is rewritten. -/
theorem replaceInRows_consistsOf (h : i.Keeps P F False) (hown : d.key = some d.column)
    (haddress : ∀ row ∈ rows, IsAddressed d row) (hw : P w.mind)
    (hpasses : w.store.failingRows = [])
    (hcells : w.store.ConsistsOf d.table d.column (done ++ rows.map (·.cells[d.column]?)))
    (r : ColumnReport) :
    Ends (replaceInRows (Rehearsal.store i) (Rehearsal.stopRequested i) false index d r
        (rows.map (seen d))) ⟨w, journal⟩ fun _ run =>
      run.world.store.ConsistsOf d.table d.column
        (done ++ rows.map fun row => (row.cells[d.column]?).map (rewriteCell index)) := by
  induction rows generalizing w journal done r with
  | nil => exact hcells
  | cons row rest ih =>
    have haddress' := fun row hrow => haddress row (List.mem_cons_of_mem _ hrow)
    rw [List.map_cons] at hcells ⊢
    unfold replaceInRows
    rw [ends_bind, ends_call]
    refine (Rehearsal.ends_stopRequested h hw).mono ?_
    rintro stopped _ ⟨m, hm, rfl, hstop⟩
    rw [if_neg hstop, List.map_cons, List.append_cons]
    cases hcell : replaceCell index (seen d row).cell with
    | none =>
      rw [rewriteCell_of_unseen hcell]
      rw [List.append_cons] at hcells
      exact ih (w := { w with mind := m }) haddress' hm hpasses hcells _
    | some new =>
      have hnext : w.store.ConsistsOf d.table d.column
          (row.cells[d.column]? :: (done ++ rest.map (·.cells[d.column]?))) :=
        hcells.perm List.perm_middle
      obtain ⟨s, hok, hpasses', hs⟩ :=
        hnext.update hown (haddress row List.mem_cons_self) hpasses new
      have hnew : (row.cells[d.column]?).map (rewriteCell index) = some new := by
        rw [getElem?_of_replaceCell_seen hcell, Option.map_some, rewriteCell_of_some hcell]
      rw [hnew]
      dsimp only
      rw [if_neg Bool.false_ne_true, ends_bind, ends_call]
      refine (ends_update_ok (w := { w with mind := m }) h hm hok).mono ?_
      rintro _ _ ⟨m', hm', rfl, rfl⟩
      refine ih (w := { w with mind := m', store := s }) haddress' hm' hpasses' ?_ _
      rw [List.append_assoc]
      exact hs.perm List.perm_middle.symm

/-- A sweep rewrites the cells of the column in their places. -/
theorem SweepsColumn.consistsOf {r : ColumnReport} (h : SweepsColumn False index s d r s')
    (hpasses : s.failingRows = []) (hscan : d.table ∉ s.failingScans)
    (hrows : s.tables[d.table]? = some rows) :
    s'.ConsistsOf d.table d.column
      (rows.map fun row => (row.cells[d.column]?).map (rewriteCell index)) := by
  cases h with
  | unscanned hnone =>
    rcases hnone with hfails | hmissing
    · exact absurd hfails hscan
    · rw [hrows] at hmissing
      contradiction
  | @scanned found rows' _ _ hfound hsweep =>
    rw [hrows] at hfound
    obtain rfl := Option.some.inj hfound
    rw [hpasses] at hsweep
    have hrows' : (s.withRows d.table rows').tables[d.table]? = some rows' := by
      rw [MemoryTables.withRows_tables, if_pos rfl]
    refine (MemoryTables.consistsOf_of_rows hrows').perm (.of_eq ?_)
    rw [hsweep.eq_map, List.map_map]
    exact List.map_congr_left fun row _ =>
      (rewrite_cells index d.column row d.column).trans (if_pos rfl)

/-- Where a column is its own key or its key tells the rows apart, the column consists of the
rewritten cells in the end. -/
theorem replaceInColumn_consistsOf (h : i.Keeps P F False) (hw : P w.mind)
    (hpasses : w.store.failingRows = []) (hshown : (w.store.shownCells d).isSome = true)
    (hcells : w.store.cellsIn d.table d.column = some cells)
    (hmeets : d.key = some d.column ∨ KeyedBy [d] w.store) :
    Ends (replaceInColumn (Rehearsal.store i) (Rehearsal.stopRequested i) false index d)
        ⟨w, journal⟩ fun _ run =>
      run.world.store.ConsistsOf d.table d.column (cells.map (Option.map (rewriteCell index))) := by
  have hcan := MemoryTables.canScan_of_shownCells hshown
  obtain ⟨rows, hrows, rfl⟩ := Option.map_eq_some_iff.mp hcells
  rw [List.map_map]
  by_cases hown : d.key = some d.column
  · have haddress := (MemoryTables.isAddressed_iff_isFull hrows).mpr hcan.2
    have hscan : w.store.scan d = .ok (rows.map (seen d)) := by
      rw [MemoryTables.scan_of_rows hcan.1 hrows]
      exact MemoryTables.scanRows_of_addressed haddress
    unfold replaceInColumn
    rw [ends_bind, ends_call]
    refine (ends_scan h hw).mono ?_
    rintro scanned _ ⟨m, hm, rfl, rfl⟩
    rw [hscan, ends_bind]
    have hcells : w.store.ConsistsOf d.table d.column ([] ++ rows.map (·.cells[d.column]?)) :=
      MemoryTables.consistsOf_of_rows hrows
    exact replaceInRows_consistsOf (w := { w with mind := m }) h hown haddress hm hpasses hcells _
  · have hkeyed := hmeets.resolve_left hown
    have hleaves : LeavesKeys [d] := by
      simpa [LeavesKeys] using hown
    -- the run addresses rows as it would by their places, and then it rewrites each in its place
    have hagree : Agree (Run.Alike (SameIn (φ := φ) (KeyedBy [d])) AnyJournals)
        (replaceInColumn (Rehearsal.store i) (Rehearsal.stopRequested i) false index d)
        (replaceInColumn (Rehearsal.store i) (Rehearsal.stopRequested i) false index d.unkeyed) :=
      agree_replaceInColumn false hleaves List.mem_cons_self
    refine (hagree.ends ⟨⟨rfl, hkeyed⟩, trivial⟩
      (replaceInColumn_ends h rfl hw hkeyed.located)).mono ?_
    rintro r ⟨_, journal'⟩ ⟨⟨_, journal''⟩, ⟨⟨rfl, -⟩, -⟩, -, m, s, hsweep, hend⟩
    rw [hend]
    exact hsweep.consistsOf hpasses hcan.1 hrows

/-! ## Writes that meet other rows -/

namespace MemoryTables

/-- The cells of a column after the descriptors `before` if none of their writes to it strays: they
are rewritten where one of the descriptors names the column and its scan does not fail. -/
def cellsAfter (s : MemoryTables) (index : MappingIndex) (before : List Descriptor)
    (table column : String) : Option (List (Option Cell)) :=
  if Described (before.filter fun d => (s.shownCells d).isSome) table column then
    (s.cellsIn table column).map (List.map (Option.map (rewriteCell index)))
  else s.cellsIn table column

/-- A scan of the column shows a cell with an identifier that the index renames. -/
def ShowsAffected (s : MemoryTables) (index : MappingIndex) (d : Descriptor) : Prop :=
  ∃ cells, s.shownCells d = some cells ∧ ∃ c ∈ cells, c.isAffected index = true

theorem ShowsAffected.isSome_shownCells (h : s.ShowsAffected index d) :
    (s.shownCells d).isSome = true := by
  obtain ⟨cells, hcells, -⟩ := h
  exact Option.isSome_of_eq_some hcells

/-- A write of a column may meet another row than the one that was scanned, once the descriptors
`before` were written: something is written at all, and it is addressed by another column, in which
two rows hold the same by then, or of which writes have strayed. -/
inductive Strays (s : MemoryTables) (index : MappingIndex) : List Descriptor → Descriptor → Prop
  | shared {before : List Descriptor} {e : Descriptor} {key : String} {cells : List (Option Cell)}
      (haffected : s.ShowsAffected index e) (hkey : e.key = some key) (hother : key ≠ e.column)
      (hcells : s.cellsAfter index before e.table key = some cells) (hshared : ¬ cells.Nodup) :
      Strays s index before e
  | misled {earlier later : List Descriptor} {d e : Descriptor}
      (haffected : s.ShowsAffected index e) (hkey : e.key = some d.column)
      (hother : d.column ≠ e.column) (htable : d.table = e.table)
      (hstrays : Strays s index earlier d) : Strays s index (earlier ++ d :: later) e

/-- Whenever a write may stray in a column that is a key for a later descriptor, every row holds an
identifier there. -/
def StraysHarmlessly (s : MemoryTables) (index : MappingIndex) (ds : List Descriptor) : Prop :=
  ∀ before e rest, ds = before ++ e :: rest → s.Strays index before e →
    (∃ d ∈ rest, d.table = e.table ∧ d.key = some e.column) → s.IsFull e.table e.column

/-- No two rows of the table hold the same in the column, as it is or once it is rewritten. -/
def StaysApart (s : MemoryTables) (index : MappingIndex) (table column : String) : Prop :=
  ∀ cells, s.cellsIn table column = some cells →
    cells.Nodup ∧ (cells.map (Option.map (rewriteCell index))).Nodup

theorem StaysApart.of_cells (cells : List (Option Cell))
    (hcells : s.cellsIn table column = some cells) (hfirst : cells.Nodup)
    (hthen : (cells.map (Option.map (rewriteCell index))).Nodup) :
    s.StaysApart index table column := by
  intro found hfound
  obtain rfl := Option.some.inj (hcells.symm.trans hfound)
  exact ⟨hfirst, hthen⟩

theorem StaysApart.nodup_cellsAfter (h : s.StaysApart index table column)
    (hcells : s.cellsAfter index before table column = some cells) : cells.Nodup := by
  unfold cellsAfter at hcells
  split at hcells
  · obtain ⟨first, hfirst, rfl⟩ := Option.map_eq_some_iff.mp hcells
    exact (h first hfirst).2
  · exact (h cells hcells).1

/-- No write to a table strays where every key that is another column than the one it addresses
tells the rows apart throughout. -/
theorem not_strays_of_apart
    (hapart : ∀ d ∈ before ++ [e], d.table = e.table → ∀ key, d.key = some key → key ≠ d.column →
      s.StaysApart index d.table key) : ¬ s.Strays index before e := by
  intro h
  induction h with
  | @shared before e key _ haffected hkey hother hcells hshared =>
    exact hshared ((hapart e (by simp) rfl key hkey hother).nodup_cellsAfter hcells)
  | @misled earlier later d e haffected hkey hother htable hstrays ih =>
    refine ih fun d' hd' htable' => hapart d' ?_ (htable'.trans htable)
    simp only [List.mem_append, List.mem_cons, List.not_mem_nil, or_false] at hd' ⊢
    exact .inl (hd'.imp_right .inl)

/-- Writes that stray do no harm if in every table each key is full, or each key that is another
column than the one it addresses tells the rows apart throughout. -/
theorem straysHarmlessly_of_tables {ds : List Descriptor}
    (h : ∀ table,
      (∀ d ∈ ds, d.table = table → ∀ key, d.key = some key → s.IsFull table key) ∨
      (∀ d ∈ ds, d.table = table → ∀ key, d.key = some key → key ≠ d.column →
        s.StaysApart index table key)) :
    s.StraysHarmlessly index ds := by
  rintro before e rest rfl hstrays ⟨d, hd, htable, hkey⟩
  rcases h e.table with hfull | hapart
  · exact hfull d (List.mem_append_right before (List.mem_cons_of_mem e hd)) htable e.column hkey
  · refine absurd hstrays (not_strays_of_apart fun d' hd' htable' => ?_)
    rw [htable']
    refine hapart d' ?_ htable'
    rw [List.append_cons]
    exact List.mem_append_left rest hd'

/-- No write of the descriptors `before` to the column strays. -/
def KeepsTo (s : MemoryTables) (index : MappingIndex) (before : List Descriptor)
    (table column : String) : Prop :=
  ∀ earlier d later, before = earlier ++ d :: later → d.table = table → d.column = column →
    ¬ s.Strays index earlier d

theorem KeepsTo.of_append (h : s.KeepsTo index (before ++ [e]) table column) :
    s.KeepsTo index before table column := by
  rintro earlier d later rfl
  exact h earlier d (later ++ [e]) (by rw [List.append_assoc, List.cons_append])

/-! ## The cells of a column afterwards -/

theorem described_shown :
    Described ((before ++ [e]).filter fun d => (s.shownCells d).isSome) table column ↔
      Described (before.filter fun d => (s.shownCells d).isSome) table column ∨
        (s.shownCells e).isSome = true ∧ e.table = table ∧ e.column = column := by
  rw [List.filter_append]
  cases hshown : (s.shownCells e).isSome <;> simp [hshown, described_append]

theorem cellsAfter_append_of_other (hother : ¬ (e.table = table ∧ e.column = column)) :
    s.cellsAfter index (before ++ [e]) table column = s.cellsAfter index before table column := by
  unfold cellsAfter
  simp only [described_shown, hother, and_false, or_false]

theorem cellsAfter_append_of_shown (hshown : (s.shownCells e).isSome = true) :
    s.cellsAfter index (before ++ [e]) e.table e.column =
      (s.cellsIn e.table e.column).map (List.map (Option.map (rewriteCell index))) :=
  if_pos (described_shown.mpr (.inr ⟨hshown, rfl, rfl⟩))

/-- Nothing is rewritten where no cell that is shown is affected. -/
theorem map_rewriteCell_of_unaffected (h : ¬ s.ShowsAffected index e)
    (hshown : (s.shownCells e).isSome = true) :
    (s.cellsIn e.table e.column).map (List.map (Option.map (rewriteCell index))) =
      s.cellsIn e.table e.column := by
  cases hcells : s.cellsIn e.table e.column with
  | none => rfl
  | some cells =>
    have hall := shownCells_of_canScan (canScan_of_shownCells hshown)
    rw [hcells, Option.map_some] at hall
    have hstays : ∀ c ∈ cells, c.map (rewriteCell index) = c := by
      rintro (_ | c) hc
      · rfl
      · have hnot : c.isAffected index = false := Bool.eq_false_iff.mpr fun haffected =>
          h ⟨_, hall, c, List.mem_map_of_mem (f := (·.getD (.null e.kind))) hc, haffected⟩
        rw [← isSome_replaceCell, Option.isSome_eq_false_iff, Option.isNone_iff_eq_none] at hnot
        exact congrArg some (rewriteCell_of_none hnot)
    rw [Option.map_some, List.map_congr_left hstays, List.map_id']

theorem cellsAfter_append_of_unaffected (hnew : ¬ Described before e.table e.column)
    (h : ¬ s.ShowsAffected index e) :
    s.cellsAfter index (before ++ [e]) e.table e.column = s.cellsIn e.table e.column := by
  by_cases hshown : (s.shownCells e).isSome = true
  · rw [cellsAfter_append_of_shown hshown, map_rewriteCell_of_unaffected h hshown]
  · refine if_neg fun hdescribed => ?_
    obtain ⟨d, hd, hcolumn⟩ := (described_shown.mp hdescribed).resolve_right fun h => hshown h.1
    exact hnew ⟨d, List.mem_of_mem_filter hd, hcolumn⟩

/-- A column that is shown has cells, and so has its key. -/
theorem exists_cellsAfter (hshown : (s.shownCells e).isSome = true) (column : String) :
    ∃ cells, s.cellsAfter index before e.table column = some cells := by
  rcases s.scan_cases e with ⟨fault, herror⟩ | ⟨rows, hrows, -⟩
  · rw [shownCells_of_error herror] at hshown
    contradiction
  · unfold cellsAfter
    rw [cellsIn_of_rows hrows]
    split
    · exact ⟨_, rfl⟩
    · exact ⟨_, rfl⟩

/-- Only an identifier is rewritten to an identifier. -/
theorem exists_scalar_of_rewriteCell {c : Option Cell} {value : String}
    (h : c.map (rewriteCell index) = some (.scalar (some value))) :
    ∃ value, c = some (.scalar (some value)) := by
  rcases c with _ | (_ | value) | _ | items
  · contradiction
  · simp at h
  · exact ⟨value, rfl⟩
  · simp at h
  · simp at h

/-- A column that is full afterwards was full. -/
theorem isFull_of_cellsAfter
    (h : ∀ cells, s.cellsAfter index before table column = some cells →
      ∀ c ∈ cells, ∃ value, c = some (.scalar (some value))) :
    s.IsFull table column := by
  rintro c ⟨cells, hcells, hc⟩
  unfold cellsAfter at h
  rw [hcells] at h
  split at h
  · obtain ⟨value, hvalue⟩ := h _ rfl _ (List.mem_map_of_mem hc)
    exact exists_scalar_of_rewriteCell hvalue
  · exact h cells rfl c hc

end MemoryTables

end Rekey

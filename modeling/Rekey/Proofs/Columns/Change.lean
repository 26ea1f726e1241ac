import Rekey.Proofs.Columns.Sweep

/-!
# What a sweep changes

A sweep that nothing stops or fails rewrites the described columns and nothing else: rows, their
order and their places stay, and so do all other cells. When no new identifier is itself replaced,
sweeping over a column again changes nothing, so descriptors may repeat or overlap.
-/

namespace Rekey

variable {R : String → String → Prop} {D D' : String → Prop} {row row' : StoredRow}
  {index : MappingIndex}

/-- A row changes in the described columns, one identifier at a time, and only where `R` relates
the identifier to what replaces it. Nothing that `R` relates to anything is left in them. -/
structure RowChange (R : String → String → Prop) (described : String → Prop)
    (row row' : StoredRow) : Prop where
  locator : row'.locator = row.locator
  outside : ∀ column : String, ¬ described column → row'.cells[column]? = row.cells[column]?
  inside : ∀ column : String, described column →
    Option.Rel (CellChange R) row.cells[column]? row'.cells[column]?
  settled : ∀ (column : String) (c : Cell), described column → row'.cells[column]? = some c →
    ∀ id, c.Holds id → ∀ new, ¬ R id new

/-- The index replaces the first identifier by the second. -/
def MappingIndex.Replaces (index : MappingIndex) (old new : String) : Prop :=
  index.lookup old = some new

/-- No new identifier is itself replaced. -/
def MappingIndex.Stable (index : MappingIndex) : Prop :=
  ∀ old new, index.lookup old = some new → index.lookup new = none

theorem RowChange.refl (row : StoredRow) : RowChange R (fun _ => False) row row :=
  ⟨rfl, fun _ _ => rfl, fun _ h => h.elim, fun _ _ h => h.elim⟩

theorem RowChange.congr (h : RowChange R D row row') (hD : ∀ column, D' column ↔ D column) :
    RowChange R D' row row' where
  locator := h.locator
  outside column hcolumn := h.outside column fun hd => hcolumn ((hD column).mpr hd)
  inside column hcolumn := h.inside column ((hD column).mp hcolumn)
  settled column c hcolumn := h.settled column c ((hD column).mp hcolumn)

/-- The cells of a row after the identifiers in a column were replaced. -/
theorem rewrite_cells (index : MappingIndex) (column : String) (row : StoredRow) (k : String) :
    (row.rewrite index column).cells[k]? =
      if column = k then (row.cells[k]?).map (rewriteCell index) else row.cells[k]? := by
  cases hnew : row.replacement index column with
  | none =>
    have hsame : row.rewrite index column = row := by rw [StoredRow.rewrite, hnew]
    rw [hsame]
    split
    · rename_i hk
      subst hk
      unfold StoredRow.replacement at hnew
      cases hcell : row.cells[column]? with
      | none => rfl
      | some c =>
        rw [hcell, Option.bind_some] at hnew
        rw [Option.map_some, rewriteCell_of_none hnew]
    · rfl
  | some cell =>
    obtain ⟨c, hcell, hreplaced⟩ := Option.bind_eq_some_iff.mp hnew
    have hput : row.rewrite index column = row.put column cell := by rw [StoredRow.rewrite, hnew]
    rw [hput, put_cells]
    by_cases hk : column = k
    · subst hk
      simp [hcell, rewriteCell_of_some hreplaced]
    · simp [hk]

/-- Replacing the identifiers in one more column of a row. -/
theorem RowChange.rewrite (h : RowChange index.Replaces D row row') (hstable : index.Stable)
    (column : String) :
    RowChange index.Replaces (fun k => D k ∨ k = column) row (row'.rewrite index column) where
  locator := by rw [rewrite_locator, h.locator]
  outside k hk := by
    obtain ⟨hd, hne⟩ := not_or.mp hk
    rw [rewrite_cells, if_neg (Ne.symm hne), h.outside k hd]
  inside k hk := by
    rw [rewrite_cells]
    by_cases hd : D k
    · split
      · -- the column was swept before, so its cells have no replacement any more
        have hsame : (row'.cells[k]?).map (rewriteCell index) = row'.cells[k]? := by
          cases hcell : row'.cells[k]? with
          | none => rfl
          | some c =>
            rw [Option.map_some, rewriteCell_of_settled fun id hid =>
              Option.eq_none_iff_forall_ne_some.mpr (h.settled k c hd hcell id hid)]
        rw [hsame]
        exact h.inside k hd
      · exact h.inside k hd
    · obtain rfl := hk.resolve_left hd
      rw [if_pos rfl, h.outside k hd]
      cases row.cells[k]? with
      | none => exact .none
      | some c => exact .some (cellChange_rewriteCell index c)
  settled k c hk hcell id hid new := by
    rw [rewrite_cells] at hcell
    split at hcell
    · obtain ⟨c', -, rfl⟩ := Option.map_eq_some_iff.mp hcell
      exact Option.eq_none_iff_forall_ne_some.mp (settled_rewriteCell hstable c' id hid) new
    · rename_i hne
      have hd : D k := hk.resolve_right fun hsame => hne hsame.symm
      exact h.settled k c hd hcell id hid new

/-! ## Tables -/

/-- The column of the table is described. -/
def Described (ds : List Descriptor) (table column : String) : Prop :=
  ∃ d ∈ ds, d.table = table ∧ d.column = column

/-- The tables are the same, and every row of them is changed in the described columns only. -/
def TablesChange (R : String → String → Prop) (ds : List Descriptor)
    (tables tables' : Std.ExtTreeMap String (List StoredRow)) : Prop :=
  ∀ table : String,
    Option.Rel (List.Forall₂ (RowChange R (Described ds table))) tables[table]? tables'[table]?

theorem TablesChange.refl (tables : Std.ExtTreeMap String (List StoredRow)) :
    TablesChange R [] tables tables := by
  intro table
  cases tables[table]? with
  | none => exact .none
  | some rows =>
    refine .some (List.forall₂_same.mpr fun row _ => (RowChange.refl row).congr fun column => ?_)
    simp [Described]

theorem described_append {ds : List Descriptor} {d : Descriptor} {table column : String} :
    Described (ds ++ [d]) table column ↔
      Described ds table column ∨ d.table = table ∧ d.column = column := by
  simp [Described, or_and_right, exists_or]

/-- When no column is described twice, a column is not described before its descriptor. -/
theorem not_described_of_nodup {before rest : List Descriptor} {d : Descriptor}
    (h : ((before ++ d :: rest).map fun d => (d.table, d.column)).Nodup) :
    ¬ Described before d.table d.column := by
  rintro ⟨d', hd', htable, hcolumn⟩
  rw [List.map_append, List.nodup_append] at h
  refine h.2.2 _ (List.mem_map_of_mem hd') _ (List.mem_map_of_mem List.mem_cons_self) ?_
  rw [htable, hcolumn]

/-- A sweep over rows that nothing stops or fails rewrites all of them. -/
theorem SweepsRows.eq_map {d : Descriptor} {r r' : ColumnReport} {rows rows' : List StoredRow}
    (h : SweepsRows False [] index d r rows r' rows') :
    rows' = rows.map fun row => row.rewrite index d.column := by
  induction h with
  | finished => rfl
  | stopped h => exact h.elim
  | next _ ih =>
    rw [List.map_cons, ih]
    rfl

theorem rel_forall₂_imp {α : Type} {Q Q' : α → α → Prop} {x y : Option (List α)}
    (h : ∀ a b, Q a b → Q' a b) (hxy : Option.Rel (List.Forall₂ Q) x y) :
    Option.Rel (List.Forall₂ Q') x y := by
  cases hxy with
  | none => exact .none
  | some hrows => exact .some (hrows.imp h)

section Sweep

variable {tables : Std.ExtTreeMap String (List StoredRow)} {s s' : MemoryTables}
  {ds rest : List Descriptor} {d : Descriptor}

/-- A sweep over one more column. -/
theorem TablesChange.column {r : ColumnReport}
    (h : TablesChange index.Replaces ds tables s.tables) (hstable : index.Stable)
    (hrows : s.failingRows = []) (hscans : s.failingScans = [])
    (hsweep : SweepsColumn False index s d r s') :
    TablesChange index.Replaces (ds ++ [d]) tables s'.tables := by
  intro table
  have hbefore := h table
  by_cases htable : d.table = table
  · subst htable
    cases hsweep with
    | unscanned hnone =>
      -- a table that is missing now was missing before
      have hmissing : s.tables[d.table]? = none := hnone.resolve_left (by simp [hscans])
      rw [hmissing] at hbefore ⊢
      cases hold : tables[d.table]? with
      | none => exact .none
      | some rows =>
        rw [hold] at hbefore
        cases hbefore
    | scanned _ hfound hrows' =>
      rw [hrows] at hrows'
      rw [MemoryTables.withRows_tables, if_pos rfl, hrows'.eq_map]
      rw [hfound] at hbefore
      generalize tables[d.table]? = old at hbefore ⊢
      cases hbefore with
      | some hchanges =>
        refine .some (List.forall₂_map_right_iff.mpr (hchanges.imp fun row row' hrow => ?_))
        refine (hrow.rewrite hstable d.column).congr fun column => ?_
        rw [described_append]
        simp [eq_comm]
  · -- the column belongs to another table
    have hsame : s'.tables[table]? = s.tables[table]? := by
      cases hsweep with
      | unscanned _ => rfl
      | scanned _ _ _ => rw [MemoryTables.withRows_tables, if_neg htable]
    rw [hsame]
    refine rel_forall₂_imp (fun row row' hrow => hrow.congr fun column => ?_) hbefore
    simp [described_append, htable]

/-- A sweep over a column touches nothing but its table. -/
theorem SweepsColumn.settings {S : Prop} {r : ColumnReport} (h : SweepsColumn S index s d r s') :
    s'.failingRows = s.failingRows ∧ s'.failingScans = s.failingScans := by
  cases h with
  | unscanned _ => exact ⟨rfl, rfl⟩
  | scanned _ _ _ => exact ⟨rfl, rfl⟩

/-- A sweep over columns that nothing stops or fails changes all described columns. -/
theorem SweepsAll.tablesChange {report report' : ReplacementReport}
    (hsweep : SweepsAll False index s report rest report' s')
    (h : TablesChange index.Replaces ds tables s.tables) (hstable : index.Stable)
    (hrows : s.failingRows = []) (hscans : s.failingScans = []) :
    TablesChange index.Replaces (ds ++ rest) tables s'.tables := by
  induction hsweep generalizing ds with
  | finished => simpa using h
  | stopped hstop => exact hstop.elim
  | broken hstop _ => exact hstop.elim
  | next hcolumn _ ih =>
    obtain ⟨hrows', hscans'⟩ := hcolumn.settings
    have hnext := ih (h.column hstable hrows hscans hcolumn) (hrows'.trans hrows)
      (hscans'.trans hscans)
    rwa [List.append_assoc, List.singleton_append] at hnext

end Sweep

end Rekey

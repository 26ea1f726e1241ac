import Mathlib.Data.List.Nodup
import Rekey.Proofs.Agreement
import Rekey.Proofs.Columns.Addresses
import Rekey.Proofs.Columns.Sweep
import Rekey.Proofs.Rehearsal.Session

/-!
# Keys and places

Where every key column tells the rows of its table apart and no descriptor rewrites a key column,
addressing rows by key is addressing them by place: both runs write the same rows in the same
order. What is kept along the way is that every row that was scanned is still found under its key
and under its place, and that both find the same row.
-/

namespace Rekey

open MemoryTables (IsAddressed isLocated locatorOf seen updateRows)

variable {φ α : Type} {i : Interference φ} {w : World φ} {index : MappingIndex} {d : Descriptor}
  {ds : List Descriptor} {s : MemoryTables} {row : StoredRow} {rows rows' rows₀ : List StoredRow}
  {key : String} {locator : Locator} {cell : Cell}

/-- The descriptor without its key. -/
def Descriptor.unkeyed (d : Descriptor) : Descriptor := { d with key := none }

/-- Every row holds an identifier in the column, and no two rows hold the same. -/
structure IsKey (rows : List StoredRow) (column : String) : Prop where
  held : ∀ c ∈ rows.map (fun row => row.cells[column]?), ∃ value, c = some (.scalar (some value))
  apart : (rows.map fun row => row.cells[column]?).Nodup

/-- Every key that a descriptor names is one in the table of the descriptor. -/
def MemoryTables.HasKeys (s : MemoryTables) (ds : List Descriptor) : Prop :=
  ∀ d ∈ ds, ∀ key, d.key = some key → ∀ rows, s.tables[d.table]? = some rows → IsKey rows key

/-- No descriptor rewrites a column that is a key in its table. -/
def LeavesKeys (ds : List Descriptor) : Prop :=
  ∀ d ∈ ds, ∀ d' ∈ ds, d.table = d'.table → d'.key ≠ some d.column

/-- Tables in which a descriptor finds the same rows by its key as by their places. -/
structure KeyedBy (ds : List Descriptor) (s : MemoryTables) : Prop where
  located : s.Located
  keys : s.HasKeys ds
  passes : s.failingRows = []

/-- A column that holds different identifiers is a key. -/
theorem IsKey.of_values (values : List String)
    (hcells : rows.map (fun row => row.cells[key]?) =
      values.map fun value => some (.scalar (some value)))
    (hvalues : values.Nodup) : IsKey rows key := by
  constructor
  · rw [hcells]
    intro c hc
    obtain ⟨value, -, rfl⟩ := List.mem_map.mp hc
    exact ⟨value, rfl⟩
  · rw [hcells]
    refine hvalues.map fun value value' hsame => ?_
    simpa using hsame

theorem IsKey.congr (h : IsKey rows key)
    (hcells : rows'.map (fun row => row.cells[key]?) = rows.map fun row => row.cells[key]?) :
    IsKey rows' key := by
  constructor
  · rw [hcells]
    exact h.held
  · rw [hcells]
    exact h.apart

theorem locatorOf_of_key {value : String} (hkey : d.key = some key)
    (hcell : row.cells[key]? = some (.scalar (some value))) : locatorOf d row = value := by
  simp [locatorOf, MemoryTables.addressOf, hkey, hcell]

namespace KeyedBy

theorem isAddressed (h : KeyedBy ds s) (hd : d ∈ ds) (hrows : s.tables[d.table]? = some rows)
    (hrow : row ∈ rows) : IsAddressed d row := by
  cases hkey : d.key with
  | none => exact MemoryTables.isAddressed_of_keyless hkey row
  | some key =>
    obtain ⟨value, hvalue⟩ :=
      (h.keys d hd key hkey rows hrows).held _ (List.mem_map_of_mem hrow)
    exact MemoryTables.isAddressed_of_key hkey hvalue

/-- No two rows of a table have the same address. -/
theorem locatorOf_inj (h : KeyedBy ds s) (hd : d ∈ ds) (hrows : s.tables[d.table]? = some rows)
    {row row' : StoredRow} (hrow : row ∈ rows) (hrow' : row' ∈ rows)
    (hsame : locatorOf d row = locatorOf d row') : row = row' := by
  cases hkey : d.key with
  | none =>
    have hplace : ∀ row, locatorOf d row = row.locator := by
      intro row
      simp [locatorOf, MemoryTables.addressOf, hkey]
    rw [hplace, hplace] at hsame
    exact List.inj_on_of_nodup_map (h.located d.table rows hrows) hrow hrow' hsame
  | some key =>
    have hkeys := h.keys d hd key hkey rows hrows
    obtain ⟨value, hvalue⟩ := hkeys.held _ (List.mem_map_of_mem hrow)
    obtain ⟨value', hvalue'⟩ := hkeys.held _ (List.mem_map_of_mem hrow')
    rw [locatorOf_of_key hkey hvalue, locatorOf_of_key hkey hvalue'] at hsame
    refine List.inj_on_of_nodup_map hkeys.apart hrow hrow' ?_
    rw [hvalue, hvalue', hsame]

/-- A row is found under its key where it is found under its place. -/
theorem isLocated_unkeyed (h : KeyedBy ds s) (hd : d ∈ ds)
    (hrows : s.tables[d.table]? = some rows) {row row' : StoredRow} (hrow : row ∈ rows)
    (hrow' : row' ∈ rows) :
    isLocated d (locatorOf d row) row' = isLocated d.unkeyed row.locator row' := by
  have hplace : IsAddressed d.unkeyed row' := MemoryTables.isAddressed_of_keyless rfl row'
  rw [Bool.eq_iff_iff, (h.isAddressed hd hrows hrow').isLocated_iff, hplace.isLocated_iff]
  constructor
  · intro hsame
    rw [h.locatorOf_inj hd hrows hrow' hrow hsame]
    rfl
  · intro hsame
    have hrows_eq : row' = row :=
      List.inj_on_of_nodup_map (h.located d.table rows hrows) hrow' hrow hsame
    rw [hrows_eq]

/-- An update of one column leaves all keys. -/
theorem withRows (h : KeyedBy ds s) (hleaves : LeavesKeys ds) (hd : d ∈ ds)
    (hrows : s.tables[d.table]? = some rows)
    (hupdate : updateRows d locator cell rows = some rows') :
    KeyedBy ds (s.withRows d.table rows') where
  located := h.located.withRows hrows (MemoryTables.updateRows_map hupdate fun _ => rfl)
  keys := by
    intro d' hd' key hkey rows₁ hrows₁
    rw [MemoryTables.withRows_tables] at hrows₁
    split at hrows₁
    · rename_i htable
      obtain rfl := Option.some.inj hrows₁
      have hne : d.column ≠ key := fun hsame => hleaves d hd d' hd' htable (by rw [hkey, hsame])
      refine (h.keys d' hd' key hkey rows (htable ▸ hrows)).congr ?_
      refine MemoryTables.updateRows_map hupdate fun row => ?_
      rw [put_cells, if_neg hne]
    · exact h.keys d' hd' key hkey rows₁ hrows₁
  passes := h.passes

end KeyedBy

/-! ## Two runs side by side -/

/-- The same world on both sides, with a store in `I`. -/
def SameIn (I : MemoryTables → Prop) (w w' : World φ) : Prop :=
  w = w' ∧ I w.store

/-- The address and the place of a row. -/
def places (d : Descriptor) (row : StoredRow) : Locator × Locator :=
  (locatorOf d row, row.locator)

/-- Tables in which the rows `rows₀` of a scan are still found. -/
def Finds (ds : List Descriptor) (d : Descriptor) (rows₀ : List StoredRow) (s : MemoryTables) :
    Prop :=
  KeyedBy ds s ∧ ∃ rows, s.tables[d.table]? = some rows ∧
    rows.map (places d) = rows₀.map (places d)

theorem agree_stopRequested {I : MemoryTables → Prop} :
    Agree (SameIn I) (Rehearsal.stopRequested i) (Rehearsal.stopRequested i) := by
  rintro w _ ⟨rfl, hI⟩
  exact ⟨rfl, rfl, hI⟩

theorem updateRows_congr {d' : Descriptor} {locator' : Locator} (hcolumn : d.column = d'.column)
    (h : ∀ row ∈ rows, isLocated d locator row = isLocated d' locator' row) :
    updateRows d locator cell rows = updateRows d' locator' cell rows := by
  induction rows with
  | nil => rfl
  | cons row rest ih =>
    rw [updateRows, updateRows, h row List.mem_cons_self, hcolumn,
      ih fun row hrow => h row (List.mem_cons_of_mem _ hrow)]

/-- Updating a row that was scanned finds the row, and the same one by key and by place. -/
theorem Finds.update_eq (h : Finds ds d rows₀ s) (hleaves : LeavesKeys ds) (hd : d ∈ ds)
    (hrow : row ∈ rows₀) (cell : Cell) :
    ∃ s', s.update d (locatorOf d row) cell = .ok s' ∧
      s.update d.unkeyed row.locator cell = .ok s' ∧ Finds ds d rows₀ s' := by
  obtain ⟨hkeyed, rows, hrows, hplaces⟩ := h
  -- the row as it is now
  have hmem : places d row ∈ rows.map (places d) := hplaces ▸ List.mem_map_of_mem hrow
  obtain ⟨now, hnow, hsame⟩ := List.mem_map.mp hmem
  obtain ⟨haddress, hplace⟩ := Prod.mk.inj hsame
  rw [← haddress, ← hplace]
  have hboth : ∀ r ∈ rows, isLocated d (locatorOf d now) r = isLocated d.unkeyed now.locator r :=
    fun r hr => hkeyed.isLocated_unkeyed hd hrows hnow hr
  have hfound : isLocated d (locatorOf d now) now = true :=
    (hkeyed.isAddressed hd hrows hnow).isLocated_iff.mpr rfl
  obtain ⟨rows', hupdate⟩ := MemoryTables.exists_updateRows hnow hfound cell
  have hupdate' : updateRows d.unkeyed now.locator cell rows = some rows' := by
    have hsame : updateRows d (locatorOf d now) cell rows =
        updateRows d.unkeyed now.locator cell rows := updateRows_congr rfl hboth
    rw [← hsame, hupdate]
  have hpass : ∀ l, (d.table, l) ∉ s.failingRows := by simp [hkeyed.passes]
  refine ⟨s.withRows d.table rows', MemoryTables.update_eq_ok (hpass _) hrows hupdate,
    MemoryTables.update_eq_ok (hpass _) hrows hupdate', hkeyed.withRows hleaves hd hrows hupdate,
    rows', by rw [MemoryTables.withRows_tables, if_pos rfl], ?_⟩
  rw [← hplaces]
  refine MemoryTables.updateRows_map hupdate fun r => ?_
  have hown : d.key ≠ some d.column := hleaves d hd d hd rfl
  rw [places, MemoryTables.locatorOf_put hown]
  rfl

/-- Updating a row that was scanned by its key does what updating it by its place does. -/
theorem agree_update (hleaves : LeavesKeys ds) (hd : d ∈ ds) (hrow : row ∈ rows₀) (cell : Cell) :
    Agree (SameIn (Finds ds d rows₀)) ((Rehearsal.store i).update d (locatorOf d row) cell)
      ((Rehearsal.store i).update d.unkeyed row.locator cell) := by
  rintro w _ ⟨rfl, hfinds⟩
  obtain ⟨s, hkey, hplace, hs⟩ := hfinds.update_eq hleaves hd hrow cell
  rw [Rehearsal.update_of_ok hkey, Rehearsal.update_of_ok hplace]
  exact ⟨rfl, rfl, hs⟩

/-- A scan shows the same cells by key and by place. -/
theorem seen_unkeyed_cell : (seen d.unkeyed row).cell = (seen d row).cell := rfl

/-- Replacing in rows that were scanned by their keys does what replacing by their places does. -/
theorem agree_replaceInRows (i : Interference φ) (index : MappingIndex) (dryRun : Bool)
    (hleaves : LeavesKeys ds) (hd : d ∈ ds) {rest : List StoredRow} (hrest : ∀ row ∈ rest, row ∈ rows₀)
    (r : ColumnReport) :
    Agree (Run.Alike (SameIn (φ := φ) (Finds ds d rows₀)) AnyJournals)
      (replaceInRows (Rehearsal.store i) (Rehearsal.stopRequested i) dryRun index d r
        (rest.map (seen d)))
      (replaceInRows (Rehearsal.store i) (Rehearsal.stopRequested i) dryRun index d.unkeyed r
        (rest.map (seen d.unkeyed))) := by
  induction rest generalizing r with
  | nil => exact .pure
  | cons row rest ih =>
    have ih := ih fun row hrow => hrest row (List.mem_cons_of_mem _ hrow)
    rw [List.map_cons, List.map_cons]
    unfold replaceInRows
    refine .bind (agree_call agree_stopRequested) fun stopped => ?_
    split
    · exact .pure
    rw [seen_unkeyed_cell]
    cases replaceCell index (seen d row).cell with
    | none => exact ih _
    | some cell =>
      dsimp only
      split
      · exact .bind (agree_tell_any _ _) fun _ => ih _
      · refine .bind (agree_call (agree_update hleaves hd (hrest row List.mem_cons_self) _)) ?_
        intro updated
        split
        · exact ih _
        · exact .bind (agree_tell_any _ _) fun _ => ih _

/-- A column is scanned by its key when it is scanned by place, and with the same rows. -/
theorem KeyedBy.scan_eq (h : KeyedBy ds s) (hd : d ∈ ds) :
    (∃ e, s.scan d = .error e ∧ s.scan d.unkeyed = .error e) ∨
      ∃ rows, s.tables[d.table]? = some rows ∧ s.scan d = .ok (rows.map (seen d)) ∧
        s.scan d.unkeyed = .ok (rows.map (seen d.unkeyed)) := by
  by_cases hscan : d.table ∈ s.failingScans
  · exact .inl ⟨_, MemoryTables.scan_of_failing hscan, MemoryTables.scan_of_failing hscan⟩
  cases hrows : s.tables[d.table]? with
  | none =>
    exact .inl ⟨_, MemoryTables.scan_of_missing hscan hrows,
      MemoryTables.scan_of_missing (d := d.unkeyed) hscan hrows⟩
  | some rows =>
    refine .inr ⟨rows, rfl, ?_, ?_⟩
    · rw [MemoryTables.scan_of_rows hscan hrows]
      exact MemoryTables.scanRows_of_addressed fun row hrow => h.isAddressed hd hrows hrow
    · rw [MemoryTables.scan_of_rows (d := d.unkeyed) hscan hrows]
      exact MemoryTables.scanRows_of_addressed fun row _ =>
        MemoryTables.isAddressed_of_keyless rfl row

/-- Replacing in a column by its key does what replacing by place does. -/
theorem agree_replaceInColumn (dryRun : Bool) (hleaves : LeavesKeys ds) (hd : d ∈ ds) :
    Agree (Run.Alike (SameIn (φ := φ) (KeyedBy ds)) AnyJournals)
      (replaceInColumn (Rehearsal.store i) (Rehearsal.stopRequested i) dryRun index d)
      (replaceInColumn (Rehearsal.store i) (Rehearsal.stopRequested i) dryRun index d.unkeyed) := by
  rintro ⟨w, journal⟩ ⟨_, journal'⟩ ⟨⟨rfl, hkeyed⟩, -⟩
  unfold replaceInColumn
  rcases hkeyed.scan_eq hd with ⟨e, hkey, hplace⟩ | ⟨rows, hrows, hkey, hplace⟩
  · rw [bind_of_eq (call_of_eq (Rehearsal.scan_of_error hkey)),
      bind_of_eq (call_of_eq (Rehearsal.scan_of_error hplace))]
    exact ⟨rfl, ⟨rfl, hkeyed⟩, trivial⟩
  · rw [bind_of_eq (call_of_eq (Rehearsal.scan_of_ok hkey)),
      bind_of_eq (call_of_eq (Rehearsal.scan_of_ok hplace))]
    dsimp only
    rw [List.length_map, List.length_map]
    have hrest := agree_replaceInRows i index dryRun hleaves hd
      (fun row (hrow : row ∈ rows) => hrow)
      { ColumnReport.start d with scanned := rows.length }
    have hafter := hrest.bind fun r => (agree_tell_any (.columnFinished r) (.columnFinished r)).bind
      fun _ => Agree.pure (a := r)
    obtain ⟨hresult, ⟨hworld, hend⟩, -⟩ := hafter
      ⟨{ w with mind := (i.succeeded .scan w.mind).2 }, journal⟩
      ⟨{ w with mind := (i.succeeded .scan w.mind).2 }, journal'⟩
      ⟨⟨rfl, hkeyed, rows, hrows, rfl⟩, trivial⟩
    exact ⟨hresult, ⟨hworld, hend.1⟩, trivial⟩

/-- Replacing in columns by their keys does what replacing by place does. -/
theorem agree_replaceInEach (dryRun : Bool) (hleaves : LeavesKeys ds) {rest : List Descriptor}
    (hrest : ∀ d ∈ rest, d ∈ ds) (report : ReplacementReport) :
    Agree (Run.Alike (SameIn (φ := φ) (KeyedBy ds)) AnyJournals)
      (replaceInEach (Rehearsal.store i) (Rehearsal.stopRequested i) dryRun index report rest)
      (replaceInEach (Rehearsal.store i) (Rehearsal.stopRequested i) dryRun index report
        (rest.map Descriptor.unkeyed)) := by
  induction rest generalizing report with
  | nil => exact .pure
  | cons d rest ih =>
    rw [List.map_cons]
    unfold replaceInEach
    refine .bind (agree_call agree_stopRequested) fun stopped => ?_
    split
    · exact .pure
    refine .bind (agree_replaceInColumn dryRun hleaves (hrest d List.mem_cons_self)) fun r => ?_
    refine .bind (agree_call agree_stopRequested) fun stopped => ?_
    split
    · exact .pure
    · exact ih (fun d hd => hrest d (List.mem_cons_of_mem _ hd)) _

/-- Key addressing agrees with physical addressing. In tables that were filled row by row, where
the descriptors' keys tell rows apart and no descriptor rewrites a key, and where no update is set
to fail, replacing identifiers with the keys and without them gives the same report and leaves the
same world, in a dry run or not, whichever tables cannot be scanned and whenever a stop is
requested. -/
theorem replaceInColumns_unkeyed (i : Interference φ) (dryRun : Bool) (index : MappingIndex)
    (journal : List Event) (hfilled : w.store.Filled) (hpasses : w.store.failingRows = [])
    (hkeys : w.store.HasKeys ds) (hleaves : LeavesKeys ds) :
    let keyed := replaceInColumns (Rehearsal.store i) (Rehearsal.stopRequested i) dryRun index ds
      ⟨w, journal⟩
    let placed := replaceInColumns (Rehearsal.store i) (Rehearsal.stopRequested i) dryRun index
      (ds.map Descriptor.unkeyed) ⟨w, journal⟩
    keyed.1 = placed.1 ∧ keyed.2.world = placed.2.world := by
  have hagree : Agree (Run.Alike (SameIn (φ := φ) (KeyedBy ds)) AnyJournals)
      (replaceInColumns (Rehearsal.store i) (Rehearsal.stopRequested i) dryRun index ds)
      (replaceInColumns (Rehearsal.store i) (Rehearsal.stopRequested i) dryRun index
        (ds.map Descriptor.unkeyed)) := by
    unfold replaceInColumns
    refine .bind (agree_tell_any _ _) fun _ => ?_
    refine .bind (agree_replaceInEach dryRun hleaves (fun _ hd => hd) _) fun report => ?_
    dsimp only
    split
    · exact .bind (agree_tell_any _ _) fun _ => .bind (agree_tell_any _ _) fun _ => .pure
    · exact .bind (agree_tell_any _ _) fun _ => .pure
  obtain ⟨hresult, ⟨hworld, -⟩, -⟩ := hagree ⟨w, journal⟩ ⟨w, journal⟩
    ⟨⟨rfl, hfilled.located, hkeys, hpasses⟩, trivial⟩
  exact ⟨hresult, hworld⟩

open Rehearsal in
/-- A table with two keys, of which each addresses another column, and a table with a key that
cannot be scanned. -/
theorem replaceInColumns_unkeyed_stage :
    let id := Stage.ada.legacyId
    let index := MappingIndex.empty.insert id "u1"
    let first := (MemoryTables.empty.addRow "orders" [("nr", .scalar (some "1")),
      ("code", .scalar (some "b")), ("owner", .scalar (some id))]).2
    let store := (first.addRow "orders" [("nr", .scalar (some "2")),
      ("code", .scalar (some "a")), ("buyers", .array (some [some id, none]))]).2
    let failing := { store with failingScans := ["logs"] }
    let w := { Stage.start with store := failing }
    let ds : List Descriptor := [⟨"orders", "owner", .scalar, some "nr"⟩,
      ⟨"logs", "actor", .scalar, some "nr"⟩, ⟨"orders", "buyers", .array, some "code"⟩]
    let keyed := replaceInColumns stageStore (Rehearsal.stopRequested Script.interference) false
      index ds (.start w)
    let placed := replaceInColumns stageStore (Rehearsal.stopRequested Script.interference) false
      index (ds.map Descriptor.unkeyed) (.start w)
    w.store.Filled ∧ w.store.failingRows = [] ∧ w.store.HasKeys ds ∧ LeavesKeys ds ∧
      keyed.1 = placed.1 ∧ keyed.2.world.store = placed.2.world.store ∧
      keyed.1.summary = ⟨.foreignKeys, 2, 2, 1, false⟩ ∧
      keyed.2.world.store.cellAt "orders" "(0,1)" "owner" = some (.scalar (some "u1")) ∧
      placed.2.world.store.cellAt "orders" "(0,2)" "buyers" =
        some (.array (some [some "u1", none])) := by
  intro id index first store failing w ds keyed placed
  have hrows : store.Filled := .row _ _ (.row _ _ (.blank rfl))
  have hfilled : w.store.Filled := .elsewhere (s := store) rfl rfl hrows
  have hpasses : w.store.failingRows = [] := rfl
  have hkeys : w.store.HasKeys ds := by
    intro d hd key hkey rows hrows
    have hnumbers : (store.tables["orders"]?).map (List.map fun row => row.cells["nr"]?) =
        some (["1", "2"].map fun value => some (.scalar (some value))) := by decide +kernel
    have hcodes : (store.tables["orders"]?).map (List.map fun row => row.cells["code"]?) =
        some (["b", "a"].map fun value => some (.scalar (some value))) := by decide +kernel
    have hlogs : store.tables["logs"]?.isNone = true := by decide +kernel
    simp only [ds, List.mem_cons, List.not_mem_nil, or_false] at hd
    rcases hd with rfl | rfl | rfl
    · obtain rfl := Option.some.inj hkey
      rw [show store.tables["orders"]? = some rows from hrows] at hnumbers
      exact .of_values ["1", "2"] (Option.some.inj hnumbers) (by decide)
    · rw [show store.tables["logs"]? = some rows from hrows] at hlogs
      exact absurd hlogs Bool.false_ne_true
    · obtain rfl := Option.some.inj hkey
      rw [show store.tables["orders"]? = some rows from hrows] at hcodes
      exact .of_values ["b", "a"] (Option.some.inj hcodes) (by decide)
  have hleaves : LeavesKeys ds := by
    unfold LeavesKeys
    decide
  obtain ⟨hreport, hworld⟩ :=
    replaceInColumns_unkeyed Script.interference false index [] hfilled hpasses hkeys hleaves
  refine ⟨hfilled, hpasses, hkeys, hleaves, hreport, congrArg World.store hworld, ?_, ?_, ?_⟩
  · decide +kernel
  · decide +kernel
  · decide +kernel

end Rekey

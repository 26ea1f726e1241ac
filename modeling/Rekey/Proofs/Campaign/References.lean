import Rekey.Proofs.Campaign.Reachable
import Rekey.Proofs.Campaign.Rehearsed
import Rekey.Proofs.Columns.Change
import Rekey.Proofs.Users.NewIds

/-!
# References stay valid

The two phases together: users are migrated, and the columns that refer to them are swept by the
index of the mappings that this has left. Each mapping of a consistent store points to a user with a
row, and no new identifier has the old shape, so the sweep ends with references to users that exist
and leaves no reference to a user that has a mapping.
-/

namespace Rekey

variable {φ : Type} {F S : Prop} {w w' : World φ} {s s' : MemoryTables}

namespace MemoryTables

/-- A mapping replaces the first identifier by the second, which has a user row. -/
def Replaces (s : MemoryTables) (old new : String) : Prop :=
  ∃ m, s.mappings[old]? = some m ∧ m.newId = new ∧ new ∈ s.targetUsers

/-- In a consistent store the index replaces what the mappings replace. -/
theorem Consistent.replaces_eq (h : s.Consistent) : s.index.Replaces = s.Replaces := by
  funext old new
  unfold MappingIndex.Replaces
  rw [h.lookup_index, eq_iff_iff, Option.map_eq_some_iff]
  constructor
  · rintro ⟨m, hm, rfl⟩
    exact ⟨m, hm, rfl, h.mapped old m hm⟩
  · rintro ⟨m, hm, hnew, -⟩
    exact ⟨m, hm, hnew⟩

/-- Where no new identifier has the old shape, none is itself replaced. -/
theorem Consistent.stable_index (h : s.Consistent)
    (hnew : ∀ (legacyId : String) (m : Mapping), s.mappings[legacyId]? = some m →
      isLegacyId m.newId = false) : s.index.Stable := by
  intro old new hreplaced
  rw [h.lookup_index] at hreplaced ⊢
  obtain ⟨m, hm, rfl⟩ := Option.map_eq_some_iff.mp hreplaced
  rw [Option.map_eq_none_iff, Option.eq_none_iff_forall_ne_some]
  intro m' hm'
  have hlegacy := (h.mapping _ m' hm').2.1
  rw [hnew old m hm] at hlegacy
  contradiction

/-- The tables of cells and what shall fail in them are the same. -/
structure SameTables (s s' : MemoryTables) : Prop where
  tables : s'.tables = s.tables
  rowCount : s'.rowCount = s.rowCount
  failingRows : s'.failingRows = s.failingRows
  failingScans : s'.failingScans = s.failingScans

end MemoryTables

open MemoryTables (SameTables SameRecords)

/-- Migrating users does not touch the tables of cells. -/
theorem UserPhase.sameTables {r : Except Failure Summary} (h : UserPhase F S w r w') :
    SameTables w.store w'.store := by
  refine h.preserves (I := fun w' => SameTables w.store w'.store) (fun _ _ hw => hw) ?_
    ⟨rfl, rfl, rfl, rfl⟩
  intro w₁ u r w₂ hrecord hw
  cases hrecord with
  | skipped _ => exact hw
  | unresolved _ _ => exact hw
  | stored _ _ _ hstore =>
    cases hstore with
    | failed _ => exact hw
    | enrolled _ => exact ⟨hw.tables, hw.rowCount, hw.failingRows, hw.failingScans⟩

/-- A sweep over columns does not touch the records. -/
theorem SweepsAll.sameRecords {index : MappingIndex} {report report' : ReplacementReport}
    {ds : List Descriptor} (h : SweepsAll S index s report ds report' s') : SameRecords s s' := by
  have hcolumn : ∀ {s s' : MemoryTables} {d : Descriptor} {r : ColumnReport},
      SweepsColumn S index s d r s' → SameRecords s s' := by
    intro s s' d r h
    cases h with
    | unscanned _ => exact .refl s
    | scanned _ _ _ => exact ⟨rfl, rfl, rfl, rfl⟩
  induction h with
  | finished => exact .refl _
  | stopped _ => exact .refl _
  | broken _ h => exact hcolumn h
  | next h _ ih => exact (hcolumn h).trans ih

/-- The store after the user phase, from a world without mappings and issued identifiers: it is
consistent and no mapping in it points to an identifier of the old shape. -/
theorem Rehearses.users_settled {i : Interference φ} {c : Campaign (World φ) Transaction}
    (hc : Rehearses i c) (hmappings : w.store.mappings = ∅) (hmemberships : w.store.memberships = ∅)
    (hfresh : w.provider.byEmail = ∅) :
    Ends c.migrateUsers (.start w) fun _ run =>
      run.world.store.Consistent ∧ SameTables w.store run.world.store ∧ run.world.IdsNew := by
  have hcons : w.store.Consistent := MemoryTables.consistent_fresh hmappings hmemberships
  have hids : w.IdsNew :=
    ⟨fun email a ha => by simp [hfresh] at ha, fun legacyId m hm => by simp [hmappings] at hm⟩
  have hend := hc.migrateUsers_ends i.keeps_any [] (w := w) trivial
  have hstop : Spares (Rehearsal.stopRequested i) := Rehearsal.spares_stopRequested
  have hsound := Rekey.migrateUsers_advances (i := i) Rehearsal.isSparing_provider hstop _
    (.start hcons)
  rw [← hc.migrateUsers_eq] at hsound
  exact ⟨hsound.1.consistent, hend.2.sameTables, hend.2.idsNew hids⟩

theorem SameRecords.replaces_eq (h : SameRecords s s') : s'.Replaces = s.Replaces := by
  funext old new
  simp only [MemoryTables.Replaces, h.mappings, h.targetUsers]

/-- Nothing that has a replacement is left in a described column. -/
theorem TablesChange.absent {R : String → String → Prop} {ds : List Descriptor}
    {tables tables' : Std.ExtTreeMap String (List StoredRow)} (h : TablesChange R ds tables tables')
    {d : Descriptor} (hd : d ∈ ds) {rows : List StoredRow} (hrows : tables'[d.table]? = some rows)
    {row : StoredRow} (hrow : row ∈ rows) {cell : Cell} (hcell : row.cells[d.column]? = some cell)
    {old new : String} (hR : R old new) : ¬ cell.Holds old := by
  have hchange := h d.table
  rw [hrows] at hchange
  generalize tables[d.table]? = before at hchange
  cases hchange with
  | some hchanges =>
    obtain ⟨n, hn, rfl⟩ := List.getElem_of_mem hrow
    have hchanged := hchanges.get (hchanges.length_eq ▸ hn) hn
    exact fun hholds =>
      hchanged.settled d.column cell ⟨d, hd, rfl, rfl⟩ hcell old hholds new hR

/-- From a world without mappings, memberships and issued identifiers, migrate the users and then
replace the keys, without failures and stops. Then the tables have changed in the described columns
only, from identifiers that have a mapping to the identifiers of users with a row, and no described
column holds the identifier of a user who has a mapping. -/
theorem references_stay_valid {i : Interference φ} {c : Campaign (World φ) Transaction}
    {ds : List Descriptor} (hc : Rehearses i c) (hcalm : i.Calm w.mind)
    (hmappings : w.store.mappings = ∅) (hmemberships : w.store.memberships = ∅)
    (hfresh : w.provider.byEmail = ∅) (hfilled : w.store.Filled)
    (hrows : w.store.failingRows = []) (hscans : w.store.failingScans = [])
    (hkeys : ∀ d ∈ ds, d.key = none) :
    let users := c.migrateUsers (.start w)
    let columns := c.replaceKeys ds users.2
    let s := columns.2.world.store
    (∃ summary, users.1 = .ok summary) ∧ (∃ report, columns.1 = .ok report) ∧
      TablesChange s.Replaces ds w.store.tables s.tables ∧
      ∀ d ∈ ds, ∀ rows : List StoredRow, s.tables[d.table]? = some rows →
        ∀ row ∈ rows, ∀ cell : Cell, row.cells[d.column]? = some cell →
          ∀ u ∈ w.store.legacyUsers, u.legacyId ∈ s.mappings → ¬ cell.Holds u.legacyId := by
  intro users columns s
  obtain ⟨P, hm, hkeeps⟩ := hcalm
  -- the user phase: it ends with a summary, a consistent store and the same tables of cells
  obtain ⟨hmind, hphase⟩ := hc.migrateUsers_ends hkeeps [] hm
  obtain ⟨hcons, hsame, hids⟩ := hc.users_settled hmappings hmemberships hfresh
  have hplaces : users.2.world.store.Located :=
    (hfilled.elsewhere hsame.tables hsame.rowCount).located
  -- the key phase: it ends with a report, and nothing has stopped it
  have hsweeps := hc.replaceKeys_ends (w := users.2.world) hkeeps users.2.journal hkeys
    hmind hplaces
  obtain ⟨-, ⟨hF, -⟩ | ⟨report, m, s', hreport, hsweep, hworld⟩⟩ := hsweeps
  · exact hF.elim
  have hs : s = s' := congrArg World.store hworld
  have hstart : TablesChange users.2.world.store.index.Replaces [] w.store.tables
      users.2.world.store.tables := by
    rw [hsame.tables]
    exact .refl _
  -- the sweep, read first by the index and then by the mappings stored in the end
  have hchange := hsweep.tablesChange hstart (hcons.stable_index hids.mappings)
    (hsame.failingRows.trans hrows) (hsame.failingScans.trans hscans)
  have hrecords : SameRecords users.2.world.store s := hs ▸ hsweep.sameRecords
  rw [hcons.replaces_eq, ← SameRecords.replaces_eq hrecords, List.nil_append, ← hs] at hchange
  refine ⟨hphase.summary_of_unfailing, ⟨report, hreport⟩, hchange, ?_⟩
  intro d hd rows hfound row hrow cell hcell u _ hmapped
  obtain ⟨mapping, hmapping⟩ := Option.isSome_iff_exists.mp
    (Std.ExtTreeMap.mem_iff_isSome_getElem?.mp hmapped)
  have hreplaces : s.Replaces u.legacyId mapping.newId :=
    ⟨mapping, hmapping, rfl, (hcons.of_same hrecords).mapped _ _ hmapping⟩
  exact hchange.absent hd hfound hrow hcell hreplaces

open Rehearsal in
/-- A row whose owner and watchers refer to a user; its note is not described. -/
theorem references_stay_valid_stage :
    let id := Stage.ada.legacyId
    let start := Stage.ofUsers [Stage.ada]
    let w := { start with store := (start.store.addRow "orders"
      [("owner", .scalar (some id)), ("watchers", .array (some [none, some id])),
        ("note", .scalar (some id))]).2 }
    let ds : List Descriptor := [⟨"orders", "owner", .scalar, none⟩,
      ⟨"orders", "watchers", .array, none⟩, ⟨"orders", "owner", .scalar, none⟩]
    let users := Stage.campaign.migrateUsers (.start w)
    let s := (Stage.campaign.replaceKeys ds users.2).2.world.store
    let newId := MemoryProvider.numberedId 1
    Rehearses Script.interference Stage.campaign ∧ Script.interference.Calm w.mind ∧
      w.store.Filled ∧ (∀ d ∈ ds, d.key = none) ∧
      TablesChange s.Replaces ds w.store.tables s.tables ∧
      s.cellAt "orders" "(0,1)" "owner" = some (.scalar (some newId)) ∧
      s.cellAt "orders" "(0,1)" "watchers" = some (.array (some [none, some newId])) ∧
      s.cellAt "orders" "(0,1)" "note" = some (.scalar (some id)) := by
  intro id start w ds users s newId
  have hc : Rehearses Script.interference Stage.campaign := ⟨rfl, rfl, rfl, rfl, rfl⟩
  have hfilled : w.store.Filled := .row _ _ (.blank rfl)
  have hkeys : ∀ d ∈ ds, d.key = none := by decide
  obtain ⟨-, -, hchange, -⟩ := references_stay_valid (w := w) hc Script.calm_quiet rfl rfl rfl
    hfilled rfl rfl hkeys
  exact ⟨hc, Script.calm_quiet, hfilled, hkeys, hchange, by decide +kernel, by decide +kernel,
    by decide +kernel⟩

end Rekey

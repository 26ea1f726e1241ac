import Mathlib.Algebra.GroupWithZero.Nat
import Rekey.Proofs.Campaign.Accounting
import Rekey.Proofs.Columns.Chronicle
import Rekey.Proofs.Columns.Sweep

/-!
# The account of replacing identifiers

What the phase that replaces identifiers asks of a store, and what its report counts, for every
store, every answer of it and every moment at which a stop is requested. `Examines`, `VisitsColumn`
and `VisitsEach` follow the three loops with all deeds in order. A look that shows no stop stands
before every column and before every row, so nothing is begun after the request; and the counts of
the report are those of the rows that were examined.
-/

namespace Rekey

variable {σ τ : Type} {store : Store σ τ} {stopRequested : StateM σ Bool} {requested : σ → Prop}
  {dryRun : Bool} {index : MappingIndex} {d : Descriptor}

/-! ## Rows -/

/-- A row that was examined, with the fault of its update if that failed. -/
structure Examined where
  row : ScannedRow
  fault : Option StoreFault
deriving Repr, Inhabited

namespace Examined

/-- What is asked for a row: one update if it has a replacement, and nothing in a dry run. -/
def asked (dryRun : Bool) (index : MappingIndex) (d : Descriptor) (x : Examined) : List Deed :=
  match replaceCell index x.row.cell with
  | none => []
  | some cell => if dryRun then [] else [.update d x.row.locator cell x.fault]

/-- A row counts as a success if it has a replacement and no update of it failed, and as skipped if
it has none. -/
def verdict (index : MappingIndex) (x : Examined) : Verdict :=
  match replaceCell index x.row.cell, x.fault with
  | none, _ => .skipped
  | some _, none => .success
  | some _, some _ => .error

theorem not_look_mem_asked {x : Examined} {stopped : Bool} :
    .look stopped ∉ x.asked dryRun index d := by
  unfold asked
  split
  · exact List.not_mem_nil
  · split <;> simp

theorem filter_asked (x : Examined) :
    (x.asked dryRun index d).filter (!·.isLook) = x.asked dryRun index d := by
  unfold asked
  split
  · rfl
  · split <;> rfl

end Examined

/-- A report on a column with more rows that counted so. -/
def ColumnReport.tallied (r : ColumnReport) (verdicts : List Verdict) : ColumnReport :=
  { r with
    updated := r.updated + verdicts.count .success
    errors := r.errors + verdicts.count .error
    unchanged := r.unchanged + verdicts.count .skipped }

/-- The rows of a scan that are examined, and the deeds on the way: a look before every row, and the
update of the row if it is asked for. Only a row whose update is asked for has a fault. -/
inductive Examines (dryRun : Bool) (index : MappingIndex) (d : Descriptor) :
    List ScannedRow → List Examined → List Deed → Prop
  | finished : Examines dryRun index d [] [] []
  | stopped {row : ScannedRow} {rest : List ScannedRow} :
      Examines dryRun index d (row :: rest) [] [.look true]
  | next {x : Examined} {rest : List ScannedRow} {xs : List Examined} {deeds : List Deed}
      (hspared : x.asked dryRun index d = [] → x.fault = none)
      (hrest : Examines dryRun index d rest xs deeds) :
      Examines dryRun index d (x.row :: rest) (x :: xs)
        (.look false :: (x.asked dryRun index d ++ deeds))

theorem ColumnReport.tallied_tallied (r : ColumnReport) (verdicts verdicts' : List Verdict) :
    (r.tallied verdicts).tallied verdicts' = r.tallied (verdicts ++ verdicts') := by
  simp only [tallied, List.count_append, Nat.add_assoc]

section Rows

variable {rows : List ScannedRow} {xs : List Examined} {deeds : List Deed}

/-- Replacing in rows examines them in order. -/
theorem chronicles_replaceInRows (hl : LatchesStop store stopRequested requested)
    (r : ColumnReport) (rows : List ScannedRow) :
    Chronicles requested (replaceInRows store.noted (notedLook stopRequested) dryRun index d r rows)
      fun r' deeds => ∃ xs, Examines dryRun index d rows xs deeds ∧
        r' = r.tallied (xs.map (·.verdict index)) := by
  induction rows generalizing r with
  | nil => exact chronicles_pure ⟨[], .finished, rfl⟩
  | cons row rest ih =>
    -- once the row is examined with this fault, the others are examined with its verdict counted
    have hnext : ∀ (fault : Option StoreFault) (r₁ : ColumnReport),
        let x : Examined := ⟨row, fault⟩
        (x.asked dryRun index d = [] → fault = none) → r₁ = r.tallied [x.verdict index] →
        Chronicles requested
          (replaceInRows store.noted (notedLook stopRequested) dryRun index d r₁ rest)
          fun r' deeds => ∃ xs, Examines dryRun index d (row :: rest) xs
            (.look false :: (x.asked dryRun index d ++ deeds)) ∧
            r' = r.tallied (xs.map (·.verdict index)) := by
      intro fault r₁ x hspared hcounted
      apply (ih r₁).mono
      rintro r' deeds ⟨xs, hrest, rfl⟩
      refine ⟨x :: xs, .next (x := x) hspared hrest, ?_⟩
      rw [hcounted, ColumnReport.tallied_tallied]
      rfl
    unfold replaceInRows
    apply chronicles_look hl
    intro stopped
    cases stopped with
    | true => exact chronicles_pure ⟨[], .stopped, rfl⟩
    | false =>
      rw [if_neg Bool.false_ne_true]
      cases hcell : replaceCell index row.cell with
      | none =>
        have hrow := hnext none { r with unchanged := r.unchanged + 1 }
        simp only [Examined.asked, Examined.verdict, hcell] at hrow
        exact hrow (fun _ => trivial) rfl
      | some cell =>
        dsimp only
        cases hdry : dryRun with
        | true =>
          have hrow := hnext none { r with updated := r.updated + 1 }
          simp only [Examined.asked, Examined.verdict, hcell, hdry] at hrow
          exact chronicles_tell (hrow (fun _ => trivial) rfl)
        | false =>
          have hrow := fun fault => hnext fault
          simp only [Examined.asked, Examined.verdict, hcell, hdry] at hrow
          rw [if_neg Bool.false_ne_true]
          apply chronicles_update hl
          intro answer
          cases answer with
          | ok _ => exact hrow none _ (fun h => absurd h (List.cons_ne_nil _ _)) rfl
          | error e =>
            exact chronicles_tell (hrow (some e) _ (fun h => absurd h (List.cons_ne_nil _ _)) rfl)

/-- The rows that are examined are the first ones of the scan. -/
theorem Examines.isPrefix (h : Examines dryRun index d rows xs deeds) :
    xs.map Examined.row <+: rows := by
  induction h with
  | finished => exact List.prefix_rfl
  | stopped => exact List.nil_prefix
  | next _ _ ih => exact List.cons_prefix_cons.mpr ⟨rfl, ih⟩

/-- Beside the looks there are the updates of the rows in order. -/
theorem Examines.filter_deeds (h : Examines dryRun index d rows xs deeds) :
    deeds.filter (!·.isLook) = xs.flatMap (·.asked dryRun index d) := by
  induction h with
  | finished => rfl
  | stopped => rfl
  | next _ _ ih =>
    rw [List.flatMap_cons, ← ih, List.filter_cons_of_neg (by simp),
      List.filter_append, Examined.filter_asked]

/-- Rows are left out exactly if a look before one of them shows a stop. -/
theorem Examines.look_true_mem_iff (h : Examines dryRun index d rows xs deeds) :
    .look true ∈ deeds ↔ xs.length < rows.length := by
  induction h with
  | finished => simp
  | stopped => simp
  | next _ _ ih =>
    rw [List.mem_cons, List.mem_append, ih, List.length_cons, List.length_cons,
      Nat.add_lt_add_iff_right]
    simp [Examined.not_look_mem_asked]

/-- Only a row with a replacement, and none in a dry run, can have failed. -/
theorem Examines.spared (h : Examines dryRun index d rows xs deeds) :
    ∀ x ∈ xs, x.asked dryRun index d = [] → x.fault = none := by
  induction h with
  | finished => exact fun _ hx => nomatch hx
  | stopped => exact fun _ hx => nomatch hx
  | next hspared _ ih =>
    intro x hx
    rcases List.mem_cons.mp hx with rfl | hx
    · exact hspared
    · exact ih x hx

end Rows

/-! ## Columns -/

/-- A column that was begun: what its scan showed, and the rows that were examined. -/
structure ColumnVisit where
  descriptor : Descriptor
  shown : Except StoreFault (List ScannedRow)
  examined : List Examined

namespace ColumnVisit

/-- The rows that the scan showed; none if it failed. -/
def rows (v : ColumnVisit) : List ScannedRow :=
  match v.shown with
  | .ok rows => rows
  | .error _ => []

/-- The scan failed. -/
def scanFailed (v : ColumnVisit) : Bool :=
  match v.shown with
  | .ok _ => false
  | .error _ => true

/-- What is asked of the store for a column: one scan, and then what the examined rows ask. -/
def asked (dryRun : Bool) (index : MappingIndex) (v : ColumnVisit) : List Deed :=
  .scan v.descriptor v.shown :: v.examined.flatMap (·.asked dryRun index v.descriptor)

/-- The report on a column. -/
def report (index : MappingIndex) (v : ColumnVisit) : ColumnReport :=
  ({ ColumnReport.start v.descriptor with
      scanned := v.rows.length
      scanFailed := v.scanFailed } : ColumnReport).tallied (v.examined.map (·.verdict index))

/-- Every examined row is counted once. -/
theorem report_counts (index : MappingIndex) (v : ColumnVisit) :
    (v.report index).updated + (v.report index).errors + (v.report index).unchanged =
      v.examined.length := by
  have hcount := count_verdicts (v.examined.map (·.verdict index))
  rw [List.length_map] at hcount
  simp only [report, ColumnReport.tallied, ColumnReport.start]
  omega

end ColumnVisit

/-- A column is scanned, and the rows that the scan shows are examined. -/
inductive VisitsColumn (dryRun : Bool) (index : MappingIndex) (d : Descriptor) :
    ColumnVisit → List Deed → Prop
  | unscanned {e : StoreFault} :
      VisitsColumn dryRun index d ⟨d, .error e, []⟩ [.scan d (.error e)]
  | scanned {rows : List ScannedRow} {xs : List Examined} {deeds : List Deed}
      (h : Examines dryRun index d rows xs deeds) :
      VisitsColumn dryRun index d ⟨d, .ok rows, xs⟩ (.scan d (.ok rows) :: deeds)

/-- Replacing in a column visits it and reports on the visit. -/
theorem chronicles_replaceInColumn (hl : LatchesStop store stopRequested requested) :
    Chronicles requested (replaceInColumn store.noted (notedLook stopRequested) dryRun index d)
      fun r deeds => ∃ v, VisitsColumn dryRun index d v deeds ∧ r = v.report index := by
  unfold replaceInColumn
  apply chronicles_scan hl
  intro shown
  cases shown with
  | error e => exact chronicles_tell (chronicles_pure ⟨_, .unscanned, rfl⟩)
  | ok rows =>
    apply chronicles_bind (chronicles_replaceInRows hl _ rows)
    rintro r deeds ⟨xs, hrows, rfl⟩
    refine chronicles_tell (chronicles_pure ⟨⟨d, .ok rows, xs⟩, ?_, rfl⟩)
    rw [List.append_nil]
    exact .scanned hrows

namespace VisitsColumn

variable {v : ColumnVisit} {deeds : List Deed}

theorem descriptor_eq (h : VisitsColumn dryRun index d v deeds) : v.descriptor = d := by
  cases h <;> rfl

theorem isPrefix (h : VisitsColumn dryRun index d v deeds) :
    v.examined.map Examined.row <+: v.rows := by
  cases h with
  | unscanned => exact List.nil_prefix
  | scanned h => exact h.isPrefix

theorem filter_deeds (h : VisitsColumn dryRun index d v deeds) :
    deeds.filter (!·.isLook) = v.asked dryRun index := by
  cases h with
  | unscanned => rfl
  | scanned h => exact congrArg _ h.filter_deeds

theorem look_true_mem_iff (h : VisitsColumn dryRun index d v deeds) :
    .look true ∈ deeds ↔ v.examined.length < v.rows.length := by
  cases h with
  | unscanned => simp [ColumnVisit.rows]
  | scanned h => simpa [ColumnVisit.rows] using h.look_true_mem_iff

theorem spared (h : VisitsColumn dryRun index d v deeds) :
    ∀ x ∈ v.examined, x.asked dryRun index v.descriptor = [] → x.fault = none := by
  cases h with
  | unscanned => exact fun _ hx => nomatch hx
  | scanned h => exact h.spared

end VisitsColumn

/-! ## All columns -/

/-- Columns are visited in order, with a look for a stop before and after each of them. Beside the
visits stands whether a look has ended the phase. -/
inductive VisitsEach (dryRun : Bool) (index : MappingIndex) :
    List Descriptor → List ColumnVisit → Bool → List Deed → Prop
  | finished : VisitsEach dryRun index [] [] false []
  | stopped {d : Descriptor} {rest : List Descriptor} :
      VisitsEach dryRun index (d :: rest) [] true [.look true]
  | broken {d : Descriptor} {rest : List Descriptor} {v : ColumnVisit} {deeds : List Deed}
      (hcolumn : VisitsColumn dryRun index d v deeds) :
      VisitsEach dryRun index (d :: rest) [v] true (.look false :: (deeds ++ [.look true]))
  | next {d : Descriptor} {rest : List Descriptor} {v : ColumnVisit} {vs : List ColumnVisit}
      {cut : Bool} {deeds deeds' : List Deed} (hcolumn : VisitsColumn dryRun index d v deeds)
      (hrest : VisitsEach dryRun index rest vs cut deeds') :
      VisitsEach dryRun index (d :: rest) (v :: vs) cut
        (.look false :: (deeds ++ .look false :: deeds'))

/-- A report with more columns, of a phase that was ended by a look or not. -/
def ReplacementReport.extended (report : ReplacementReport) (rs : List ColumnReport)
    (cut : Bool) : ReplacementReport :=
  ⟨{ report.summary with
      success := report.summary.success + (rs.map (·.updated)).sum
      errors := report.summary.errors + ((rs.map (·.errors)).sum + rs.countP (·.scanFailed))
      skipped := report.summary.skipped + (rs.map (·.unchanged)).sum
      interrupted := report.summary.interrupted || cut },
    report.columns ++ rs⟩

namespace ReplacementReport

variable (report : ReplacementReport)

theorem extended_nil : report.extended [] false = report := by
  simp [extended]

theorem extended_cut : report.extended [] true = report.interrupt := by
  simp [extended, interrupt]

theorem extended_add (r : ColumnReport) (rs : List ColumnReport) (cut : Bool) :
    (report.add r).extended rs cut = report.extended (r :: rs) cut := by
  cases hscan : r.scanFailed <;>
    simp [extended, add, Summary.countColumn, hscan] <;> omega

end ReplacementReport

/-- Replacing in columns visits them in order and reports on the visits. -/
theorem chronicles_replaceInEach (hl : LatchesStop store stopRequested requested)
    (report : ReplacementReport) (ds : List Descriptor) :
    Chronicles requested
      (replaceInEach store.noted (notedLook stopRequested) dryRun index report ds)
      fun report' deeds => ∃ vs cut, VisitsEach dryRun index ds vs cut deeds ∧
        report' = report.extended (vs.map (·.report index)) cut := by
  induction ds generalizing report with
  | nil => exact chronicles_pure ⟨[], false, .finished, report.extended_nil.symm⟩
  | cons d rest ih =>
    unfold replaceInEach
    apply chronicles_look hl
    intro stopped
    cases stopped with
    | true => exact chronicles_pure ⟨[], true, .stopped, report.extended_cut.symm⟩
    | false =>
      rw [if_neg Bool.false_ne_true]
      apply chronicles_bind (chronicles_replaceInColumn hl)
      rintro r deeds ⟨v, hcolumn, rfl⟩
      apply chronicles_look hl
      intro stopped
      cases stopped with
      | true =>
        refine chronicles_pure ⟨[v], true, .broken hcolumn, ?_⟩
        rw [← ReplacementReport.extended_cut, ReplacementReport.extended_add]
        rfl
      | false =>
        rw [if_neg Bool.false_ne_true]
        apply (ih _).mono
        rintro report' deeds' ⟨vs, cut, hrest, rfl⟩
        refine ⟨v :: vs, cut, .next hcolumn hrest, ?_⟩
        rw [ReplacementReport.extended_add]
        rfl

/-- The whole phase. -/
theorem chronicles_replaceInColumns (hl : LatchesStop store stopRequested requested)
    (dryRun : Bool) (index : MappingIndex) (ds : List Descriptor) :
    Chronicles requested
      (replaceInColumns store.noted (notedLook stopRequested) dryRun index ds)
      fun report deeds => ∃ vs cut, VisitsEach dryRun index ds vs cut deeds ∧
        report = (⟨.start .foreignKeys, []⟩ : ReplacementReport).extended
          (vs.map (·.report index)) cut := by
  unfold replaceInColumns
  apply chronicles_tell
  apply chronicles_bind (chronicles_replaceInEach hl _ ds)
  rintro report deeds hreport
  rw [← List.append_nil deeds] at hreport
  dsimp only
  split
  · exact chronicles_tell (chronicles_tell (chronicles_pure hreport))
  · exact chronicles_tell (chronicles_pure hreport)

namespace VisitsEach

variable {ds : List Descriptor} {vs : List ColumnVisit} {cut : Bool} {deeds : List Deed}

/-- The columns that are visited are the first ones of the list. -/
theorem isPrefix (h : VisitsEach dryRun index ds vs cut deeds) :
    vs.map ColumnVisit.descriptor <+: ds := by
  induction h with
  | finished => exact List.prefix_rfl
  | stopped => exact List.nil_prefix
  | broken hcolumn => exact List.cons_prefix_cons.mpr ⟨hcolumn.descriptor_eq, List.nil_prefix⟩
  | next hcolumn _ ih => exact List.cons_prefix_cons.mpr ⟨hcolumn.descriptor_eq, ih⟩

theorem visitsColumn (h : VisitsEach dryRun index ds vs cut deeds) :
    ∀ v ∈ vs, ∃ deeds, VisitsColumn dryRun index v.descriptor v deeds := by
  induction h with
  | finished => exact fun _ hv => nomatch hv
  | stopped => exact fun _ hv => nomatch hv
  | broken hcolumn =>
    intro v hv
    obtain rfl := List.mem_singleton.mp hv
    exact ⟨_, hcolumn.descriptor_eq.symm ▸ hcolumn⟩
  | next hcolumn _ ih =>
    intro v hv
    rcases List.mem_cons.mp hv with rfl | hv
    · exact ⟨_, hcolumn.descriptor_eq.symm ▸ hcolumn⟩
    · exact ih v hv

/-- Beside the looks there is what the visited columns ask, in order. -/
theorem filter_deeds (h : VisitsEach dryRun index ds vs cut deeds) :
    deeds.filter (!·.isLook) = vs.flatMap (·.asked dryRun index) := by
  induction h with
  | finished => rfl
  | stopped => rfl
  | broken hcolumn => simp [hcolumn.filter_deeds]
  | next hcolumn _ ih => simp [hcolumn.filter_deeds, ih]

/-- Nothing is begun without a look that shows no stop. -/
theorem eq_nil_of_not_look_false (h : VisitsEach dryRun index ds vs cut deeds)
    (hdeeds : .look false ∉ deeds) : vs = [] := by
  cases h with
  | finished => rfl
  | stopped => rfl
  | broken _ => exact absurd List.mem_cons_self hdeeds
  | next _ _ => exact absurd List.mem_cons_self hdeeds

/-- A phase that no look has ended has visited all columns and examined all their rows. For a look
before a row that showed a stop would be followed by the look after the column. -/
theorem complete (h : VisitsEach dryRun index ds vs cut deeds) (hcut : cut = false)
    (hlatched : ∀ before after, deeds = before ++ .look true :: after → .look false ∉ after) :
    vs.map ColumnVisit.descriptor = ds ∧ ∀ v ∈ vs, v.examined.length = v.rows.length := by
  induction h with
  | finished => exact ⟨rfl, fun _ hv => nomatch hv⟩
  | stopped => cases hcut
  | broken _ => cases hcut
  | @next d rest v vs cut deeds deeds' hcolumn _ ih =>
    have hunlooked : .look true ∉ deeds := by
      intro hmem
      obtain ⟨before, after, rfl⟩ := List.append_of_mem hmem
      refine hlatched (.look false :: before) (after ++ .look false :: deeds') (by simp) ?_
      exact List.mem_append_right _ List.mem_cons_self
    obtain ⟨hdescriptors, hexamined⟩ := ih hcut fun before after hdeeds => by
      refine hlatched (.look false :: (deeds ++ .look false :: before)) after ?_
      rw [hdeeds]
      simp
    refine ⟨by rw [List.map_cons, hdescriptors, hcolumn.descriptor_eq], ?_⟩
    intro v' hv'
    rcases List.mem_cons.mp hv' with rfl | hv'
    · have hle := hcolumn.isPrefix.length_le
      rw [hcolumn.look_true_mem_iff] at hunlooked
      rw [List.length_map] at hle
      omega
    · exact hexamined v' hv'

end VisitsEach

/-! ## The account -/

/-- The account of a phase over the columns `ds` that was begun in `w`: its notes, its report, and
the columns that it has visited. -/
structure ColumnsAccounted (requested : σ → Prop) (dryRun : Bool) (index : MappingIndex)
    (ds : List Descriptor) (w : σ) (visits : List ColumnVisit) (notes : List (Note σ))
    (report : ReplacementReport) : Prop where
  /-- all deeds in order; each column and each row is begun by a look that shows no stop -/
  course : VisitsEach dryRun index ds visits report.summary.interrupted (notes.map Note.deed)
  /-- what is asked of the store: for each column one scan, and then one update for each examined
  row with a replacement, at its place and with the replacement, or none in a dry run -/
  asked : (notes.map Note.deed).filter (!·.isLook) = visits.flatMap (·.asked dryRun index)
  /-- the columns that are begun are the first ones of the list -/
  begun : visits.map ColumnVisit.descriptor <+: ds
  /-- the rows that are examined are the first ones of the scan -/
  examined : ∀ v ∈ visits, v.examined.map Examined.row <+: v.rows
  /-- no update that was not asked for has failed -/
  spared : ∀ v ∈ visits, ∀ x ∈ v.examined, x.asked dryRun index v.descriptor = [] → x.fault = none
  /-- a stop that is requested before the phase lets nothing begin -/
  unbegun : requested w → visits = []
  /-- once a stop is requested nothing more is begun -/
  late : ∀ before note after, notes = before ++ note :: after → requested note.after →
    ∀ n ∈ after, n.deed ≠ .look false
  /-- the report has one entry for each column that was begun -/
  columns : report.columns = visits.map (·.report index)
  counted : ∀ v ∈ visits, (v.report index).updated + (v.report index).errors +
    (v.report index).unchanged = v.examined.length ∧ v.examined.length ≤ (v.report index).scanned
  /-- a scan that failed shows no rows, and none are counted -/
  unscanned : ∀ r ∈ report.columns, r.scanFailed = true →
    r.scanned = 0 ∧ r.updated = 0 ∧ r.errors = 0 ∧ r.unchanged = 0
  success : report.summary.success = (report.columns.map (·.updated)).sum
  skipped : report.summary.skipped = (report.columns.map (·.unchanged)).sum
  errors : report.summary.errors =
    (report.columns.map (·.errors)).sum + report.columns.countP (·.scanFailed)
  /-- a phase that was not interrupted has begun every column and examined every row -/
  complete : report.summary.interrupted = false → visits.map ColumnVisit.descriptor = ds ∧
    (∀ v ∈ visits, v.examined.map Examined.row = v.rows) ∧
    ∀ r ∈ report.columns, r.updated + r.errors + r.unchanged = r.scanned

theorem VisitsColumn.unscanned_counts {v : ColumnVisit} {deeds : List Deed}
    (h : VisitsColumn dryRun index d v deeds) (hscan : (v.report index).scanFailed = true) :
    (v.report index).scanned = 0 ∧ (v.report index).updated = 0 ∧ (v.report index).errors = 0 ∧
      (v.report index).unchanged = 0 := by
  cases h with
  | unscanned => exact ⟨rfl, rfl, rfl, rfl⟩
  | scanned _ => exact absurd hscan Bool.false_ne_true

/-- A course that is noted as a chronicle is accounted for. -/
theorem VisitsEach.accounted {ds : List Descriptor} {visits : List ColumnVisit} {cut : Bool}
    {w w' : σ} {notes : List (Note σ)}
    (h : VisitsEach dryRun index ds visits cut (notes.map Note.deed))
    (hchronicle : Chronicle requested w notes w') :
    ColumnsAccounted requested dryRun index ds w visits notes
      ((⟨.start .foreignKeys, []⟩ : ReplacementReport).extended (visits.map (·.report index))
        cut) := by
  have hfirst : ∀ v ∈ visits, v.examined.map Examined.row <+: v.rows := by
    intro v hv
    obtain ⟨_, hcolumn⟩ := h.visitsColumn v hv
    exact hcolumn.isPrefix
  refine {
    course := h
    asked := h.filter_deeds
    begun := h.isPrefix
    examined := hfirst
    spared := ?_
    unbegun := ?_
    late := ?_
    columns := rfl
    counted := ?_
    unscanned := ?_
    success := by simp [ReplacementReport.extended, Summary.start]
    skipped := by simp [ReplacementReport.extended, Summary.start]
    errors := by simp [ReplacementReport.extended, Summary.start]
    complete := ?_ }
  · intro v hv
    obtain ⟨_, hcolumn⟩ := h.visitsColumn v hv
    exact hcolumn.spared
  · intro hrequested
    apply h.eq_nil_of_not_look_false
    intro hmem
    obtain ⟨note, hnote, hlook⟩ := List.mem_map.mp hmem
    exact hchronicle.not_look_false hrequested note hnote hlook
  · rintro before note after rfl hrequested
    exact hchronicle.after_note.1.not_look_false hrequested
  · intro v hv
    have hle := (hfirst v hv).length_le
    rw [List.length_map] at hle
    exact ⟨v.report_counts index, hle⟩
  · intro r hr hscan
    obtain ⟨v, hv, rfl⟩ := List.mem_map.mp hr
    obtain ⟨_, hcolumn⟩ := h.visitsColumn v hv
    exact hcolumn.unscanned_counts hscan
  · intro hcut
    obtain ⟨hdescriptors, hlengths⟩ :=
      h.complete hcut fun _ _ => hchronicle.not_look_false_of_look_true
    refine ⟨hdescriptors, ?_, ?_⟩
    · intro v hv
      apply (hfirst v hv).eq_of_length
      rw [List.length_map]
      exact hlengths v hv
    · intro r hr
      obtain ⟨v, hv, rfl⟩ := List.mem_map.mp hr
      rw [v.report_counts]
      exact hlengths v hv

/-- The course that the notes of a phase show, and the report on it. -/
theorem columnNotes_course (hl : LatchesStop store stopRequested requested) (dryRun : Bool)
    (index : MappingIndex) (ds : List Descriptor) (w : σ) :
    let notes := columnNotes store stopRequested dryRun index ds w
    let ended := replaceInColumns store stopRequested dryRun index ds (.start w)
    ∃ visits cut, VisitsEach dryRun index ds visits cut (notes.map Note.deed) ∧
      Chronicle requested w notes ended.2.world ∧
      ended.1 = (⟨.start .foreignKeys, []⟩ : ReplacementReport).extended
        (visits.map (·.report index)) cut := by
  intro notes ended
  obtain ⟨hresult, hworld⟩ := replaceInColumns_noted store stopRequested dryRun index ds w
  obtain ⟨notes', hnotes, hchronicle, visits, cut, hcourse, hreport⟩ :=
    chronicles_replaceInColumns hl dryRun index ds (.start (.start w))
  obtain rfl : notes = notes' := hnotes
  rw [hworld] at hchronicle
  rw [hresult] at hreport
  exact ⟨visits, cut, hcourse, hchronicle, hreport⟩

/-- The phase that replaces identifiers, for every store, every index and every list of columns, dry
or not, whatever the store answers and whenever a stop is requested. For each column that it begins
it makes one scan and then the updates of the rows that it examines, in the order of the scan. The
columns begun and the rows examined are the first ones, nothing is begun once a stop is requested,
and the report counts what was examined. -/
theorem replaceInColumns_accounted (hl : LatchesStop store stopRequested requested)
    (dryRun : Bool) (index : MappingIndex) (ds : List Descriptor) (w : σ) :
    ∃ visits, ColumnsAccounted requested dryRun index ds w visits
      (columnNotes store stopRequested dryRun index ds w)
      (replaceInColumns store stopRequested dryRun index ds (.start w)).1 := by
  obtain ⟨visits, cut, hcourse, hchronicle, hreport⟩ :=
    columnNotes_course hl dryRun index ds w
  rw [hreport]
  exact ⟨visits, hcourse.accounted hchronicle⟩

/-- In a rehearsal the stop latches as it does in the mind of the interference. -/
theorem Interference.Latches.latchesStop {φ : Type} {i : Interference φ} {P : φ → Prop}
    (hl : i.Latches P) :
    LatchesStop (Rehearsal.store i) (Rehearsal.stopRequested i) fun w => P w.mind where
  scan d w hw := by
    obtain ⟨m, hm, -, hworld⟩ := ends_scan (d := d) hl.keeps hw
    rw [hworld]
    exact hm
  update d locator cell w hw := by
    cases hupdate : w.store.update d locator cell with
    | error e =>
      obtain ⟨-, hworld⟩ := ends_update_error hl.keeps hupdate
      rw [hworld]
      exact hw
    | ok s =>
      obtain ⟨m, hm, -, hworld⟩ := ends_update_ok hl.keeps hw hupdate
      rw [hworld]
      exact hm
  look w hw := (hl.keeps.stopRequested hw).1
  seen w := hl.seen w.mind

open Rehearsal in
/-- A stop that comes with the first update leaves two of three rows and the second column. -/
theorem replaceInColumns_accounted_stage :
    let id := Stage.ada.legacyId
    let index := MappingIndex.empty.insert id "u1"
    let first := (MemoryTables.empty.addRow "notes" [("owner", .scalar (some id))]).2
    let second := (first.addRow "notes" [("owner", .scalar (some "nobody"))]).2
    let store := (second.addRow "notes" [("owner", .scalar (some id))]).2
    let w := { Stage.start with store := store, mind := Script.quiet.stopAfter .update 1 }
    let ds : List Descriptor := [⟨"notes", "owner", .scalar, none⟩, ⟨"logs", "actor", .scalar, none⟩]
    let stop := Rehearsal.stopRequested Script.interference
    let report := (replaceInColumns stageStore stop false index ds (.start w)).1
    LatchesStop stageStore stop (fun w => w.mind.stopped = true) ∧
      (∃ visits, ColumnsAccounted (fun w => w.mind.stopped = true) false index ds w visits
        (columnNotes stageStore stop false index ds w) report) ∧
      report = ⟨⟨.foreignKeys, 1, 0, 0, true⟩, [⟨"notes", "owner", .scalar, 3, 1, 0, 0, false⟩]⟩ ∧
      (columnNotes stageStore stop false index ds w).length = 6 := by
  intro id index first second store w ds stop report
  have hl : LatchesStop stageStore stop fun w => w.mind.stopped = true :=
    Script.latches.latchesStop
  refine ⟨hl, replaceInColumns_accounted hl false index ds w, ?_, ?_⟩
  · decide +kernel
  · decide +kernel

end Rekey

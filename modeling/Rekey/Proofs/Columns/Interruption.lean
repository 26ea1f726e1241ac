import Rekey.Proofs.Columns.Account

/-!
# Interruptions of replacing identifiers

The phase looks for a stop once more after its last column, and reports an interruption if that
look shows one. So the report tells whether a stop was requested by the end of the phase. Whenever
work is left an interruption is reported, but not the other way round: a request that comes while
the last rows are examined leaves no work and is reported all the same.
-/

namespace Rekey

variable {σ τ : Type} {store : Store σ τ} {stopRequested : StateM σ Bool} {requested : σ → Prop}
  {dryRun : Bool} {index : MappingIndex} {ds : List Descriptor} {vs : List ColumnVisit}
  {cut : Bool} {deeds before : List Deed}

/-- Work is left: a column of the list has no entry in the report, or a column that was scanned has
rows that were not examined. -/
def ReplacementReport.LeavesWork (ds : List Descriptor) (report : ReplacementReport) : Prop :=
  report.columns.length < ds.length ∨
    ∃ r ∈ report.columns, r.scanFailed = false ∧ r.updated + r.errors + r.unchanged < r.scanned

/-- The last deed of a phase is a look, and the phase was interrupted if that look shows a stop. A
look before it shows a stop exactly if rows of a column are left. -/
theorem VisitsEach.last_look (h : VisitsEach dryRun index ds vs cut deeds) (hds : ds ≠ []) :
    ∃ before, deeds = before ++ [.look cut] ∧
      (.look true ∈ before ↔ ∃ v ∈ vs, v.examined.length < v.rows.length) := by
  induction h with
  | finished => exact absurd rfl hds
  | stopped => exact ⟨[], rfl, by simp⟩
  | @broken d rest v deeds hcolumn =>
    refine ⟨.look false :: deeds, rfl, ?_⟩
    simp [hcolumn.look_true_mem_iff]
  | @next d rest v vs cut deeds deeds' hcolumn hrest ih =>
    cases rest with
    | nil =>
      cases hrest
      refine ⟨.look false :: deeds, rfl, ?_⟩
      simp [hcolumn.look_true_mem_iff]
    | cons d' rest =>
      obtain ⟨before, rfl, hbefore⟩ := ih (List.cons_ne_nil d' rest)
      refine ⟨.look false :: (deeds ++ .look false :: before), by simp, ?_⟩
      simp [hcolumn.look_true_mem_iff, hbefore]

/-- Without columns there are no looks and no interruption. -/
theorem VisitsEach.of_nil (h : VisitsEach dryRun index [] vs cut deeds) :
    cut = false ∧ deeds = [] := by
  cases h
  exact ⟨rfl, rfl⟩

/-- A phase is interrupted exactly if a stop is requested where its notes lead. -/
theorem VisitsEach.cut_iff {w w' : σ} {notes : List (Note σ)}
    (h : VisitsEach dryRun index ds vs cut (notes.map Note.deed))
    (hchronicle : Chronicle requested w notes w') : cut = true ↔ ds ≠ [] ∧ requested w' := by
  by_cases hds : ds = []
  · subst hds
    simp [h.of_nil.1]
  · obtain ⟨before, hdeeds, -⟩ := h.last_look hds
    rw [hchronicle.last_look hdeeds]
    exact (and_iff_right hds).symm

namespace ColumnsAccounted

variable {w : σ} {notes : List (Note σ)} {report : ReplacementReport}

/-- Work is left if a column was not begun or rows of a column were not examined. -/
theorem leavesWork_iff (h : ColumnsAccounted requested dryRun index ds w vs notes report) :
    report.LeavesWork ds ↔
      vs.length < ds.length ∨ ∃ v ∈ vs, v.examined.length < v.rows.length := by
  unfold ReplacementReport.LeavesWork
  rw [h.columns, List.length_map]
  apply or_congr_right
  constructor
  · rintro ⟨r, hr, -, hleft⟩
    obtain ⟨v, hv, rfl⟩ := List.mem_map.mp hr
    rw [v.report_counts] at hleft
    exact ⟨v, hv, hleft⟩
  · rintro ⟨v, hv, hleft⟩
    refine ⟨v.report index, List.mem_map_of_mem hv, ?_, ?_⟩
    · -- a scan that failed shows no rows of which some could be left
      rw [Bool.eq_false_iff]
      intro hscan
      obtain ⟨hnone, -⟩ := h.unscanned _ (h.columns ▸ List.mem_map_of_mem hv) hscan
      exact absurd (hnone ▸ hleft : v.examined.length < 0) (Nat.not_lt_zero _)
    · rw [v.report_counts]
      exact hleft

/-- A phase that leaves work was interrupted. -/
theorem interrupted_of_leavesWork
    (h : ColumnsAccounted requested dryRun index ds w vs notes report)
    (hwork : report.LeavesWork ds) : report.summary.interrupted = true := by
  by_contra hgoes
  obtain ⟨hdescriptors, hrows, -⟩ := h.complete (Bool.eq_false_iff.mpr hgoes)
  rcases h.leavesWork_iff.mp hwork with hfew | ⟨v, hv, hleft⟩
  · rw [← hdescriptors, List.length_map] at hfew
    exact Nat.lt_irrefl _ hfew
  · rw [← hrows v hv, List.length_map] at hleft
    exact Nat.lt_irrefl _ hleft

/-- A phase is interrupted without work left exactly if it has begun every column and the last look
is the first that shows a stop. -/
theorem interrupted_late_iff (h : ColumnsAccounted requested dryRun index ds w vs notes report) :
    report.summary.interrupted = true ∧ ¬ report.LeavesWork ds ↔
      report.columns.length = ds.length ∧ ∃ before last, notes = before ++ [last] ∧
        last.deed = .look true ∧ ∀ n ∈ before, n.deed ≠ .look true := by
  rw [h.leavesWork_iff, h.columns, List.length_map]
  have hle : vs.length ≤ ds.length := by
    have hbegun := h.begun.length_le
    rwa [List.length_map] at hbegun
  constructor
  · rintro ⟨hcut, hdone⟩
    rw [not_or] at hdone
    have hds : ds ≠ [] := by
      rintro rfl
      rw [h.course.of_nil.1] at hcut
      contradiction
    obtain ⟨before, hdeeds, hbefore⟩ := h.course.last_look hds
    obtain ⟨before', rest, rfl, rfl, hrest⟩ := List.map_eq_append_iff.mp hdeeds
    obtain ⟨last, after, rfl, hlast, hnil⟩ := List.map_eq_cons_iff.mp hrest
    obtain rfl := List.map_eq_nil_iff.mp hnil
    refine ⟨by omega, before', last, rfl, by rw [hlast, hcut], ?_⟩
    intro n hn hlook
    exact hdone.2 (hbefore.mp (hlook ▸ List.mem_map_of_mem hn))
  · rintro ⟨hall, before, last, rfl, hlast, hbefore⟩
    have hds : ds ≠ [] := by
      rintro rfl
      simpa using h.course.of_nil.2
    obtain ⟨before', hdeeds, hleft⟩ := h.course.last_look hds
    rw [List.map_append, List.map_singleton, hlast] at hdeeds
    obtain ⟨rfl, hcut⟩ := List.append_inj' hdeeds rfl
    refine ⟨(Deed.look.inj (List.singleton_inj.mp hcut)).symm, ?_⟩
    rintro (hfew | hrows)
    · omega
    · obtain ⟨n, hn, hlook⟩ := List.mem_map.mp (hleft.mpr hrows)
      exact hbefore n hn hlook

end ColumnsAccounted

/-- The phase reports an interruption exactly if a stop is requested by its end. Whenever work is
left, an interruption is reported. One is reported although no work is left exactly if all columns
have an entry and the look after the last column is the first that shows a stop. -/
theorem replaceInColumns_interrupted (hl : LatchesStop store stopRequested requested)
    (dryRun : Bool) (index : MappingIndex) (ds : List Descriptor) (w : σ) :
    let ended := replaceInColumns store stopRequested dryRun index ds (.start w)
    let interrupted := ended.1.summary.interrupted = true
    (interrupted ↔ ds ≠ [] ∧ requested ended.2.world) ∧
      (ended.1.LeavesWork ds → interrupted) ∧
      (interrupted ∧ ¬ ended.1.LeavesWork ds ↔
        ended.1.columns.length = ds.length ∧
          ∃ before last, columnNotes store stopRequested dryRun index ds w = before ++ [last] ∧
            last.deed = .look true ∧ ∀ n ∈ before, n.deed ≠ .look true) := by
  intro ended interrupted
  obtain ⟨visits, cut, hcourse, hchronicle, hreport⟩ := columnNotes_course hl dryRun index ds w
  have haccounted := hcourse.accounted hchronicle
  rw [← hreport] at haccounted
  exact ⟨haccounted.course.cut_iff hchronicle, haccounted.interrupted_of_leavesWork,
    haccounted.interrupted_late_iff⟩

open Rehearsal in
/-- A stop that comes with the update of the only row of the first column leaves the second one. -/
theorem replaceInColumns_interrupted_stage :
    let id := Stage.ada.legacyId
    let index := MappingIndex.empty.insert id "u1"
    let store := (MemoryTables.empty.addRow "notes" [("owner", .scalar (some id))]).2
    let w := { Stage.start with store := store, mind := Script.quiet.stopAfter .update 1 }
    let ds : List Descriptor :=
      [⟨"notes", "owner", .scalar, none⟩, ⟨"notes", "reader", .scalar, none⟩]
    let stop := Rehearsal.stopRequested Script.interference
    let ended := replaceInColumns stageStore stop false index ds (.start w)
    LatchesStop stageStore stop (fun w => w.mind.stopped = true) ∧ ended.1.LeavesWork ds ∧
      ended.1.summary.interrupted = true ∧ ended.2.world.mind.stopped = true := by
  intro id index store w ds stop ended
  have hl : LatchesStop stageStore stop fun w => w.mind.stopped = true :=
    Script.latches.latchesStop
  have hwork : ended.1.LeavesWork ds := .inl (by decide +kernel)
  obtain ⟨hrequested, hleft, -⟩ := replaceInColumns_interrupted hl false index ds w
  exact ⟨hl, hwork, hleft hwork, (hrequested.mp (hleft hwork)).2⟩

open Rehearsal in
/-- The stop comes with the update of the last row of the last column. No work is left, and the
phase reports an interruption. -/
theorem interrupted_without_work :
    let id := Stage.ada.legacyId
    let index := MappingIndex.empty.insert id "u1"
    let store := (MemoryTables.empty.addRow "notes" [("owner", .scalar (some id))]).2
    let w := { Stage.start with store := store, mind := Script.quiet.stopAfter .update 1 }
    let ds : List Descriptor := [⟨"notes", "owner", .scalar, none⟩]
    let report := (replaceInColumns stageStore (Rehearsal.stopRequested Script.interference) false
      index ds (.start w)).1
    report = ⟨⟨.foreignKeys, 1, 0, 0, true⟩, [⟨"notes", "owner", .scalar, 1, 1, 0, 0, false⟩]⟩ ∧
      report.summary.interrupted = true ∧ ¬ report.LeavesWork ds := by
  intro id index store w ds report
  have hreport : report =
      ⟨⟨.foreignKeys, 1, 0, 0, true⟩, [⟨"notes", "owner", .scalar, 1, 1, 0, 0, false⟩]⟩ := by
    decide +kernel
  rw [hreport]
  refine ⟨rfl, rfl, ?_⟩
  rintro (hfew | ⟨r, hr, -, hleft⟩)
  · exact absurd hfew (by decide)
  · obtain rfl := List.mem_singleton.mp hr
    exact absurd hleft (by decide)

end Rekey

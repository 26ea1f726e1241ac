import Rekey.Proofs.Files.Outcome

/-!
# What a dry run tells

A dry run asks of every file whether it could be moved now, and a real run asks it when the files
before it have been moved. The two agree as long as no move touches what a later question is about,
so they differ where users with files share a free new place: a dry run counts all of them as moved.
-/

namespace Rekey

variable {φ : Type} {layout : Layout} {tasks : List FileTask} {o o' : MemoryObjects}
  {s s' : Summary} {t t' : FileTask} {w : World φ}

/-! ## Counting on the objects as they are -/

/-- A dry run that nothing fails and nothing stops. -/
theorem RelocatesEach.eq_of_dry (h : RelocatesEach False False layout true o s tasks s' o') :
    o' = o ∧ s' = tasks.foldl (layout.counted o) s := by
  induction h with
  | finished => exact ⟨rfl, rfl⟩
  | stopped h => exact h.elim
  | next hone _ ih =>
    rw [hone.eq_counted] at ih
    cases hone with
    | unseen h => exact h.elim
    | missing _ => exact ih
    | occupied _ _ => exact ih
    | wouldMove _ _ _ => exact ih
    | uncopied h _ _ _ => exact h.elim
    | unmoved h _ _ _ => exact h.elim
    | moved hdry _ _ => contradiction

namespace Layout

/-- The summary of a dry run: each task counts by the objects as they are. -/
def forecast (layout : Layout) (tasks : List FileTask) (o : MemoryObjects) : Summary :=
  tasks.foldl (layout.counted o) (.start .files)

theorem success_counted (s : Summary) :
    (layout.counted o s t).success = s.success + if layout.Settled o t then 0 else 1 := by
  unfold counted Settled
  by_cases hold : layout.oldPlace t ∈ o.files
  · by_cases hnew : layout.newPlace t ∈ o.files <;> simp [hold, hnew]
  · simp [hold]

/-- A dry run counts as moved what is not settled. -/
theorem success_forecast :
    (layout.forecast tasks o).success = tasks.countP fun t => ¬ layout.Settled o t := by
  have hfold : ∀ s : Summary, (tasks.foldl (layout.counted o) s).success =
      s.success + tasks.countP fun t => ¬ layout.Settled o t := by
    induction tasks with
    | nil => exact fun s => rfl
    | cons t rest ih =>
      intro s
      rw [List.foldl_cons, ih, success_counted, List.countP_cons]
      by_cases hsettled : layout.Settled o t
      · simp [hsettled]
      · simp [hsettled, Nat.add_assoc, Nat.add_comm 1]
  rw [forecast, hfold, show (Summary.start .files).success = 0 from rfl, Nat.zero_add]

/-! ## Moves that do not meet later tasks -/

/-- A move of the first task would not touch what the second one asks for: its old place, and if it
has a file its new place. -/
def Clears (layout : Layout) (o : MemoryObjects) (t t' : FileTask) : Prop :=
  layout.Avoids (layout.oldPlace t') t ∧
    (layout.oldPlace t' ∈ o.files → layout.Avoids (layout.newPlace t') t)

/-- No file that could be moved now would be moved from or to what a later task asks for. -/
def Untangled (layout : Layout) (tasks : List FileTask) (o : MemoryObjects) : Prop :=
  tasks.Pairwise fun t t' => ¬ layout.Settled o t → layout.Clears o t t'

/-- A task finds what it asks for as it was in the objects `o`. -/
def Finds (layout : Layout) (o o' : MemoryObjects) (t : FileTask) : Prop :=
  o'.files[layout.oldPlace t]? = o.files[layout.oldPlace t]? ∧
    (layout.oldPlace t ∈ o.files → o'.files[layout.newPlace t]? = o.files[layout.newPlace t]?)

theorem Finds.old_mem_iff (h : layout.Finds o o' t) :
    layout.oldPlace t ∈ o'.files ↔ layout.oldPlace t ∈ o.files :=
  MemoryObjects.mem_files_congr h.1

theorem Finds.new_mem_iff (h : layout.Finds o o' t) (hold : layout.oldPlace t ∈ o.files) :
    layout.newPlace t ∈ o'.files ↔ layout.newPlace t ∈ o.files :=
  MemoryObjects.mem_files_congr (h.2 hold)

/-- A task counts as it would have at first. -/
theorem Finds.counted (h : layout.Finds o o' t) :
    layout.counted o' s t = layout.counted o s t := by
  unfold Layout.counted
  by_cases hold : layout.oldPlace t ∈ o.files
  · simp only [h.old_mem_iff, h.new_mem_iff hold]
  · rw [if_pos (mt h.old_mem_iff.mp hold), if_pos hold]

theorem Finds.settled_iff (h : layout.Finds o o' t) :
    layout.Settled o' t ↔ layout.Settled o t := by
  unfold Settled
  by_cases hold : layout.oldPlace t ∈ o.files
  · rw [h.old_mem_iff, h.new_mem_iff hold]
  · rw [h.old_mem_iff]
    exact ⟨fun _ => .inl hold, fun _ => .inl hold⟩

/-- A move that does not touch what a task asks for leaves that as it was. -/
theorem Finds.relocated (h : layout.Finds o o' t') (ht : layout.Finds o o' t)
    (hclears : ¬ layout.Settled o t → layout.Clears o t t') :
    layout.Finds o (layout.relocated o' t) t' := by
  by_cases hsettled : layout.Settled o' t
  · rwa [relocated_of_settled hsettled]
  · obtain ⟨data, -, -, hmoved⟩ := relocated_of_unsettled hsettled
    obtain ⟨hold, hnew⟩ := hclears (mt ht.settled_iff.mpr hsettled)
    rw [hmoved]
    constructor
    · rw [files_moved_of_avoids hold, h.1]
    · intro hfile
      rw [files_moved_of_avoids (hnew hfile), h.2 hfile]

/-- A real run counts every task as it would have at first, if no move meets a later task. -/
theorem Untangled.foldl_advance (h : layout.Untangled tasks o)
    (hfinds : ∀ t ∈ tasks, layout.Finds o o' t) :
    (tasks.foldl layout.advance (o', s)).2 = tasks.foldl (layout.counted o) s := by
  induction tasks generalizing o' s with
  | nil => rfl
  | cons t rest ih =>
    obtain ⟨hclears, hrest⟩ := List.pairwise_cons.mp h
    -- the objects have changed, but not where this task and those after it look
    have ht : layout.Finds o o' t := hfinds t List.mem_cons_self
    rw [List.foldl_cons, List.foldl_cons, advance, ht.counted]
    refine ih hrest fun t' ht' => ?_
    exact (hfinds t' (List.mem_cons_of_mem _ ht')).relocated ht (hclears t' ht')

/-! ## Places that are shared -/

/-- No two tasks whose files could be moved now have one new identifier. -/
def Unshared (layout : Layout) (tasks : List FileTask) (o : MemoryObjects) : Prop :=
  ∀ t ∈ tasks, ∀ t' ∈ tasks, ¬ layout.Settled o t → ¬ layout.Settled o t' →
    t.newId = t'.newId → t = t'

instance (layout : Layout) (tasks : List FileTask) (o : MemoryObjects) :
    Decidable (layout.Unshared tasks o) :=
  inferInstanceAs (Decidable (∀ t ∈ tasks, ∀ t' ∈ tasks, _ → _ → _ → _))

/-- If no two users with files share a free new place, no move meets a later task. -/
theorem Separates.untangled (hw : layout.Separates tasks) (hunshared : layout.Unshared tasks o) :
    layout.Untangled tasks o := by
  have hdistinct : tasks.Pairwise fun t t' => t ≠ t' := List.Nodup.of_map _ hw.distinct
  refine hdistinct.imp_of_mem fun {t t'} ht ht' hne hunsettled => ⟨?_, fun hfile => ?_⟩
  · exact hw.apart.old_avoids ht' ht hne.symm
  · refine hw.apart.new_avoids ht' ht fun heq => ?_
    -- the later task has a file and the same new place, which is free
    have hfree : layout.newPlace t' ∉ o.files := fun hmem => hunsettled (.inr (heq ▸ hmem))
    have hunsettled' : ¬ layout.Settled o t' := not_or.mpr ⟨not_not.mpr hfile, hfree⟩
    have hid : t'.newId = t.newId := (hw.newPlace_eq_iff ht' ht).mp heq
    exact hne (hunshared t ht t' ht' hunsettled hunsettled' hid.symm)

/-- If a real run moves as many files as a dry run counts, it moves all files that could be moved
at first. -/
theorem moves_of_success
    (hsuccess : (layout.forecast tasks o).success = (layout.fileSummary tasks o).success)
    (ht : t ∈ tasks) (hunsettled : ¬ layout.Settled o t) : layout.Moves tasks o t := by
  have hsub : (tasks.filter fun t => layout.Moves tasks o t).Sublist
      (tasks.filter fun t => ¬ layout.Settled o t) :=
    List.monotone_filter_right tasks fun t hm =>
      decide_eq_true (Moves.unsettled (of_decide_eq_true hm))
  -- a sublist of the same length is the list
  have hlength : (tasks.filter fun t => layout.Moves tasks o t).length =
      (tasks.filter fun t => ¬ layout.Settled o t).length := by
    rw [← List.countP_eq_length_filter, ← List.countP_eq_length_filter, ← success_forecast]
    exact hsuccess.symm
  have hmem : t ∈ tasks.filter fun t => layout.Moves tasks o t := by
    rw [hsub.eq_of_length hlength]
    exact List.mem_filter.mpr ⟨ht, decide_eq_true hunsettled⟩
  exact of_decide_eq_true (List.mem_filter.mp hmem).2

/-- Then no two of them have one new identifier, since only the first of those is moved. -/
theorem Separates.unshared (hw : layout.Separates tasks)
    (hsuccess : (layout.forecast tasks o).success = (layout.fileSummary tasks o).success) :
    layout.Unshared tasks o := by
  intro t ht t' ht' hunsettled hunsettled' hid
  have hfirst : layout.Moves tasks o t := moves_of_success hsuccess ht hunsettled
  have hfirst' : layout.Moves tasks o t' := moves_of_success hsuccess ht' hunsettled'
  -- each of the two comes before the other
  have hle : t.legacyId ≤ t'.legacyId := hfirst.2.2 t' ht' hid.symm hfirst'.1
  have hge : t'.legacyId ≤ t.legacyId := hfirst'.2.2 t ht hid hfirst.1
  exact List.inj_on_of_nodup_map hw.distinct ht ht' (le_antisymm hle hge)

end Layout

/-! ## Runs -/

namespace FileAttempt

/-- A dry run in which nothing is made to fail and that is not stopped. -/
structure Rehearses (a : FileAttempt φ) : Prop where
  dry : a.dryRun = true
  calm : a.interference.Calm a.mind

/-- A dry run changes nothing and answers the forecast. -/
theorem Rehearses.run_eq {a : FileAttempt φ} (ha : a.Rehearses) (layout : Layout) (w : World φ) :
    (a.run layout w).objects = w.objects ∧ (a.run layout w).store = w.store ∧
      a.summary layout w = .ok (layout.forecast (w.fileTasks layout) w.objects) := by
  obtain ⟨P, hm, hkeeps⟩ := ha.calm
  obtain ⟨s, hsummary, hstore, heach⟩ := (run_phase hkeeps hm).listed_of_unfailing
  rw [ha.dry] at heach
  obtain ⟨hobjects, rfl⟩ := heach.eq_of_dry
  exact ⟨hobjects, hstore, hsummary⟩

end FileAttempt

namespace Rehearsal.Stage

/-- Two accounts of one person, who has one new identifier. -/
def sharing (objects : MemoryObjects) : Stage :=
  ofMapped [(ada, MemoryProvider.numberedId 1), (adaAgain, MemoryProvider.numberedId 1)] objects

theorem fileTasks_sharing (objects : MemoryObjects) :
    (sharing objects).fileTasks Layout.standard =
      [⟨ada.legacyId, MemoryProvider.numberedId 1, "acme"⟩,
        ⟨adaAgain.legacyId, MemoryProvider.numberedId 1, "globex"⟩] := by
  have hstore : (sharing objects).store = (sharing .empty).store := rfl
  have hjoined : (sharing .empty).store.legacyUsers.filterMap (sharing .empty).store.mappedUser? =
      [⟨ada.legacyId, MemoryProvider.numberedId 1, some "acme "⟩,
        ⟨adaAgain.legacyId, MemoryProvider.numberedId 1, some "globex"⟩] := by decide +kernel
  rw [World.fileTasks, hstore, MemoryTables.mappedUsers, hjoined,
    List.mergeSort_of_pairwise (by decide +kernel)]
  decide +kernel

theorem separates_sharing (objects : MemoryObjects) :
    Layout.standard.Separates ((sharing objects).fileTasks Layout.standard) := by
  rw [fileTasks_sharing]
  exact ⟨by decide, by decide +kernel, by decide +kernel, by decide +kernel⟩

end Rehearsal.Stage

/-- What a dry run tells about a real run from the same state, when nothing fails and nothing stops:
it changes nothing and counts every file by the objects as they are. If no move meets a later task
the two summaries are equal, whatever the layout. Where the places of files are apart they are equal
exactly if no two users with files share a new identifier whose new place is free. -/
theorem dryRun_forecasts (layout : Layout) (w : World φ) {dry real : FileAttempt φ}
    (hdry : dry.Rehearses) (hreal : real.Undisturbed) :
    let tasks := w.fileTasks layout
    (dry.run layout w).objects = w.objects ∧ (dry.run layout w).store = w.store ∧
      dry.summary layout w = .ok (layout.forecast tasks w.objects) ∧
      (layout.Untangled tasks w.objects → dry.summary layout w = real.summary layout w) ∧
      (layout.Separates tasks → (dry.summary layout w = real.summary layout w ↔
        layout.Unshared tasks w.objects)) := by
  intro tasks
  obtain ⟨hobjects, hstore, hforecast⟩ := hdry.run_eq layout w
  have hequal : layout.Untangled tasks w.objects →
      dry.summary layout w = real.summary layout w := by
    intro huntangled
    obtain ⟨s, hsummary, -, hrun⟩ := hreal.run_eq layout w
    have hcount := huntangled.foldl_advance (s := .start .files) fun _ _ => ⟨rfl, fun _ => rfl⟩
    rw [hforecast, hsummary, show s = _ from congrArg Prod.snd hrun, hcount]
    rfl
  refine ⟨hobjects, hstore, hforecast, hequal, fun hw => ⟨fun heq => ?_, fun hunshared => ?_⟩⟩
  · obtain ⟨-, -, hsummary⟩ := hreal.moves hw
    rw [hforecast, hsummary] at heq
    exact hw.unshared (congrArg Summary.success (Except.ok.inj heq))
  · exact hequal (hw.untangled hunshared)

open Rehearsal in
/-- Of two accounts with one new identifier the second has a file: the dry run tells what happens.
-/
theorem dryRun_forecasts_stage :
    let layout := Layout.standard
    let w := Stage.sharing
      (MemoryObjects.empty.insert (layout.old "globex" Stage.adaAgain.legacyId) "2")
    let dry : FileAttempt Script := ⟨Script.interference, .quiet, true⟩
    let real : FileAttempt Script := ⟨Script.interference, .quiet, false⟩
    dry.Rehearses ∧ real.Undisturbed ∧ (dry.run layout w).objects = w.objects ∧
      dry.summary layout w = .ok ⟨.files, 1, 1, 0, false⟩ ∧
      real.summary layout w = .ok ⟨.files, 1, 1, 0, false⟩ := by
  intro layout w dry real
  have hdry : dry.Rehearses := ⟨rfl, Script.calm_quiet⟩
  have hreal : real.Undisturbed := ⟨rfl, Script.calm_quiet⟩
  obtain ⟨hobjects, -, hforecast, -, hequal⟩ := dryRun_forecasts layout w hdry hreal
  have hevaluated : layout.forecast (w.fileTasks layout) w.objects = ⟨.files, 1, 1, 0, false⟩ ∧
      layout.Unshared (w.fileTasks layout) w.objects := by
    rw [Stage.fileTasks_sharing]
    decide +kernel
  obtain ⟨hcount, hunshared⟩ := hevaluated
  have heq := (hequal (Stage.separates_sharing _)).mpr hunshared
  rw [hcount] at hforecast
  exact ⟨hdry, hreal, hobjects, hforecast, heq.symm.trans hforecast⟩

open Rehearsal in
/-- Both accounts have a file, and their new place is free. The dry run counts two moves; the real
run makes one of them and counts the other as an error. -/
theorem dryRun_summary_ne :
    let layout := Layout.standard
    let w := Stage.sharing
      ((MemoryObjects.empty.insert (layout.old "acme" Stage.ada.legacyId) "1").insert
        (layout.old "globex" Stage.adaAgain.legacyId) "2")
    let dry : FileAttempt Script := ⟨Script.interference, .quiet, true⟩
    let real : FileAttempt Script := ⟨Script.interference, .quiet, false⟩
    (w.store.legacyUsers.map LegacyUser.legacyId).Nodup ∧ dry.Rehearses ∧ real.Undisturbed ∧
      dry.summary layout w = .ok ⟨.files, 2, 0, 0, false⟩ ∧
      real.summary layout w = .ok ⟨.files, 1, 0, 1, false⟩ ∧
      dry.summary layout w ≠ real.summary layout w := by
  intro layout w dry real
  have hdry : dry.Rehearses := ⟨rfl, Script.calm_quiet⟩
  have hreal : real.Undisturbed := ⟨rfl, Script.calm_quiet⟩
  obtain ⟨-, -, hforecast⟩ := hdry.run_eq layout w
  obtain ⟨-, -, hsummary⟩ := hreal.moves (Stage.separates_sharing _)
  have hevaluated : layout.forecast (w.fileTasks layout) w.objects = ⟨.files, 2, 0, 0, false⟩ ∧
      layout.fileSummary (w.fileTasks layout) w.objects = ⟨.files, 1, 0, 1, false⟩ := by
    rw [Stage.fileTasks_sharing]
    decide +kernel
  rw [hevaluated.1] at hforecast
  rw [show real.summary layout w = _ from hsummary, hevaluated.2, hforecast]
  exact ⟨by decide, hdry, hreal, rfl, rfl, by decide⟩

end Rekey

import Rekey.Proofs.Files.Relocation
import Rekey.Proofs.Rehearsal.Session

/-!
# No file is lost

Over any number of relocations, dry or real, whatever fails in them and wherever they are stopped,
every file is at its old place, or at its new place and in the backup. `FilesKept` is what one file
keeps, since the places of different tasks are apart, and so what all runs keep.
-/

namespace Rekey

variable {φ : Type} {F S : Prop} {layout : Layout} {dryRun : Bool} {tasks : List FileTask}
  {o₀ o o' : MemoryObjects} {t t' : FileTask} {data : String}

/-! ## Places after a move -/

theorem MemoryObjects.files_insert (o : MemoryObjects) (path data place : String) :
    (o.insert path data).files[place]? =
      if ObjectPath.normal path = place then some data else o.files[place]? := by
  by_cases h : ObjectPath.normal path = place
  · simp [insert, h]
  · simp [insert, Std.ExtTreeMap.getElem?_insert, h]

theorem MemoryObjects.files_erase (o : MemoryObjects) (path place : String) :
    (o.erase path).files[place]? =
      if ObjectPath.normal path = place then none else o.files[place]? := by
  by_cases h : ObjectPath.normal path = place
  · simp [erase, h]
  · simp [erase, Std.ExtTreeMap.getElem?_erase, h]

theorem Layout.files_backedUp (place : String) :
    (layout.backedUp t data o).files[place]? =
      if layout.backupPlace t = place then some data else o.files[place]? := by
  rw [backedUp, MemoryObjects.files_insert, backupPlace]

theorem Layout.files_moved (place : String) :
    (layout.moved t data o).files[place]? =
      if layout.oldPlace t = place then none
      else if layout.newPlace t = place then some data
      else if layout.backupPlace t = place then some data
      else o.files[place]? := by
  rw [moved, MemoryObjects.files_erase, MemoryObjects.files_insert, files_backedUp, oldPlace,
    newPlace]

/-! Where the places of tasks are apart, a copy shows in one backup path only, and a move in the
places of the task and in the new places of users who share the identifier. -/

section Apart

variable (hapart : layout.Apart tasks) (ht : t ∈ tasks) (ht' : t' ∈ tasks)

include hapart ht ht'

theorem Layout.Apart.backedUp_old :
    (layout.backedUp t data o).files[layout.oldPlace t']? = o.files[layout.oldPlace t']? := by
  rw [Layout.files_backedUp, if_neg (hapart.old_ne_backup t' ht' t ht).symm]

theorem Layout.Apart.backedUp_new :
    (layout.backedUp t data o).files[layout.newPlace t']? = o.files[layout.newPlace t']? := by
  rw [Layout.files_backedUp, if_neg (hapart.new_ne_backup t' ht' t ht).symm]

theorem Layout.Apart.moved_old :
    (layout.moved t data o).files[layout.oldPlace t']? =
      if layout.oldPlace t = layout.oldPlace t' then none else o.files[layout.oldPlace t']? := by
  rw [Layout.files_moved, if_neg (hapart.new_ne_old t ht t' ht'),
    if_neg (hapart.old_ne_backup t' ht' t ht).symm]

theorem Layout.Apart.moved_new :
    (layout.moved t data o).files[layout.newPlace t']? =
      if layout.newPlace t = layout.newPlace t' then some data
      else o.files[layout.newPlace t']? := by
  rw [Layout.files_moved, if_neg (hapart.new_ne_old t' ht' t ht).symm,
    if_neg (hapart.new_ne_backup t' ht' t ht).symm]

theorem Layout.Apart.moved_backup :
    (layout.moved t data o).files[layout.backupPlace t']? =
      if layout.backupPlace t = layout.backupPlace t' then some data
      else o.files[layout.backupPlace t']? := by
  rw [Layout.files_moved, if_neg (hapart.old_ne_backup t ht t' ht'),
    if_neg (hapart.new_ne_backup t ht t' ht')]

end Apart

/-! ## What relocations keep -/

/-- The objects `o` after relocations of the files of `tasks`, compared with the objects `o₀`
before them. -/
structure FilesKept (layout : Layout) (tasks : List FileTask) (o₀ o : MemoryObjects) : Prop where
  /-- a file is where it was, or it is in the backup and at its new place -/
  kept : ∀ t ∈ tasks, ∀ data, o₀.files[layout.oldPlace t]? = some data →
    o.files[layout.oldPlace t]? = some data ∨
      o.files[layout.oldPlace t]? = none ∧ o.files[layout.backupPlace t]? = some data ∧
        o.files[layout.newPlace t]? = some data
  /-- no file appears where there was none to move -/
  absent : ∀ t ∈ tasks, o₀.files[layout.oldPlace t]? = none → o.files[layout.oldPlace t]? = none
  /-- an object in another place stays, also one in a new place -/
  untouched : ∀ place, (∀ t ∈ tasks, place ≠ layout.oldPlace t ∧ place ≠ layout.backupPlace t) →
    ∀ data, o₀.files[place]? = some data → o.files[place]? = some data
  /-- a new place that was free is free, or holds the file of a user who belongs there -/
  filled : ∀ t ∈ tasks, o₀.files[layout.newPlace t]? = none →
    ∀ data, o.files[layout.newPlace t]? = some data →
      ∃ t' ∈ tasks, layout.newPlace t' = layout.newPlace t ∧
        o₀.files[layout.oldPlace t']? = some data

namespace FilesKept

theorem refl : FilesKept layout tasks o o where
  kept _ _ _ h := .inl h
  absent _ _ h := h
  untouched _ _ _ h := h
  filled _ _ hfree data h := by
    rw [hfree] at h
    contradiction

/-- What is at an old place has always been there. -/
theorem held (h : FilesKept layout tasks o₀ o) (ht : t ∈ tasks)
    (hold : o.files[layout.oldPlace t]? = some data) :
    o₀.files[layout.oldPlace t]? = some data := by
  cases hfirst : o₀.files[layout.oldPlace t]? with
  | none =>
    rw [h.absent t ht hfirst] at hold
    contradiction
  | some first =>
    rcases h.kept t ht first hfirst with hsame | ⟨hgone, -⟩
    · rw [← hsame, hold]
    · rw [hgone] at hold
      contradiction

/-- A copy in the backup of a file that is still there changes nothing else. -/
theorem backedUp (h : FilesKept layout tasks o₀ o) (hapart : layout.Apart tasks) (ht : t ∈ tasks)
    (hold : o.files[layout.oldPlace t]? = some data) :
    FilesKept layout tasks o₀ (layout.backedUp t data o) := by
  refine ⟨fun t' ht' data' hfirst => ?_, fun t' ht' hnone => ?_, fun place hplace data' hfirst => ?_,
    fun t' ht' hnone data' hnow => ?_⟩
  · rw [hapart.backedUp_old ht ht', hapart.backedUp_new ht ht', Layout.files_backedUp]
    rcases h.kept t' ht' data' hfirst with hsame | ⟨hgone, hbackup, hmoved⟩
    · exact .inl hsame
    · -- this file was moved before, so it is another one
      have hother : layout.backupPlace t ≠ layout.backupPlace t' := by
        intro heq
        obtain rfl := hapart.backup_injective t ht t' ht' heq
        rw [hgone] at hold
        contradiction
      rw [if_neg hother]
      exact .inr ⟨hgone, hbackup, hmoved⟩
  · rw [hapart.backedUp_old ht ht']
    exact h.absent t' ht' hnone
  · rw [Layout.files_backedUp, if_neg (hplace t ht).2.symm]
    exact h.untouched place hplace data' hfirst
  · rw [hapart.backedUp_new ht ht'] at hnow
    exact h.filled t' ht' hnone data' hnow

/-- A move to a free place takes the file from its old place to two others. -/
theorem moved (h : FilesKept layout tasks o₀ o) (hapart : layout.Apart tasks) (ht : t ∈ tasks)
    (hold : o.files[layout.oldPlace t]? = some data)
    (hnew : o.files[layout.newPlace t]? = none) :
    FilesKept layout tasks o₀ (layout.moved t data o) := by
  -- what holds an object is not the new place, which is free
  have hfree : ∀ {place data' : String}, o.files[place]? = some data' →
      layout.newPlace t ≠ place := by
    rintro _ _ hholds rfl
    rw [hholds] at hnew
    contradiction
  refine ⟨fun t' ht' data' hfirst => ?_, fun t' ht' hnone => ?_, fun place hplace data' hfirst => ?_,
    fun t' ht' hnone data' hnow => ?_⟩
  · rw [hapart.moved_old ht ht', hapart.moved_new ht ht', hapart.moved_backup ht ht']
    by_cases hself : t = t'
    · subst hself
      have hdata : some data = some data' := (h.held ht hold).symm.trans hfirst
      exact .inr ⟨if_pos rfl, (if_pos rfl).trans hdata, (if_pos rfl).trans hdata⟩
    · have hotherOld : layout.oldPlace t ≠ layout.oldPlace t' := fun heq =>
        hself (hapart.old_injective t ht t' ht' heq)
      have hotherBackup : layout.backupPlace t ≠ layout.backupPlace t' := fun heq =>
        hself (hapart.backup_injective t ht t' ht' heq)
      rw [if_neg hotherOld, if_neg hotherBackup]
      rcases h.kept t' ht' data' hfirst with hsame | ⟨hgone, hbackup, hmoved⟩
      · exact .inl hsame
      · rw [if_neg (hfree hmoved)]
        exact .inr ⟨hgone, hbackup, hmoved⟩
  · rw [hapart.moved_old ht ht', h.absent t' ht' hnone, ite_self]
  · obtain ⟨hneOld, hneBackup⟩ := hplace t ht
    have hsame := h.untouched place hplace data' hfirst
    rw [Layout.files_moved, if_neg hneOld.symm, if_neg (hfree hsame), if_neg hneBackup.symm, hsame]
  · rw [hapart.moved_new ht ht'] at hnow
    split at hnow
    · -- the place holds the file that is moved, and that stood at its old place all the time
      rename_i hshared
      rw [Option.some.injEq] at hnow
      subst hnow
      exact ⟨t, ht, hshared, h.held ht hold⟩
    · exact h.filled t' ht' hnone data' hnow

/-- The relocation of one file keeps all files, however it ends. -/
theorem relocates (h : FilesKept layout tasks o₀ o) (hapart : layout.Apart tasks) (ht : t ∈ tasks)
    {r : Except Failure FileResult} (hone : Relocates F layout dryRun o t r o') :
    FilesKept layout tasks o₀ o' := by
  cases hone with
  | unseen _ => exact h
  | missing _ => exact h
  | occupied _ _ => exact h
  | wouldMove _ _ _ => exact h
  | uncopied _ _ _ _ => exact h
  | unmoved _ _ hold _ => exact h.backedUp hapart ht hold
  | moved _ hold hnew => exact h.moved hapart ht hold (Std.ExtTreeMap.getElem?_eq_none hnew)

/-- The relocation of all files keeps them, however it ends. -/
theorem relocatesEach (h : FilesKept layout tasks o₀ o) (hapart : layout.Apart tasks)
    {s s' : Summary} (heach : RelocatesEach F S layout dryRun o s tasks s' o') :
    FilesKept layout tasks o₀ o' :=
  heach.preserves (fun _ ht _ _ _ hone hkept => hkept.relocates hapart ht hone) h

end FilesKept

/-! ## Runs -/

/-- The files of the users who have a mapping in the store of a world. -/
def World.fileTasks (layout : Layout) (w : World φ) : List FileTask :=
  w.store.mappedUsers.map layout.task

theorem World.fileTasks_congr {w w' : World φ} (h : w'.store = w.store) :
    w'.fileTasks layout = w.fileTasks layout := by
  rw [World.fileTasks, World.fileTasks, h]

/-- A run leaves the users alone and keeps their files, also when they cannot be listed. -/
theorem FilePhase.kept {w w' : World φ} {r : Except Failure Summary}
    (h : FilePhase F S layout dryRun w r w') (hapart : layout.Apart (w.fileTasks layout))
    (hkept : FilesKept layout (w.fileTasks layout) o₀ w.objects) :
    w'.store = w.store ∧ FilesKept layout (w.fileTasks layout) o₀ w'.objects := by
  cases h with
  | unlisted _ => exact ⟨rfl, hkept⟩
  | listed heach => exact ⟨rfl, hkept.relocatesEach hapart heach⟩

/-- Where the users can be listed their files are moved. -/
theorem relocateFiles_run {i : Interference φ} {w : World φ} (layout : Layout) (dryRun : Bool)
    (hpass : (i.fails .mappedUsers none w.mind).1 = false) (journal : List Event) :
    Ends (relocateFiles (Rehearsal.store i) (Rehearsal.storage i) layout dryRun
        (Rehearsal.stopRequested i)) ⟨w, journal⟩ fun r run =>
      Ends (relocateEach (Rehearsal.storage i) layout dryRun (Rehearsal.stopRequested i)
          (w.fileTasks layout).length (.start .files) (w.fileTasks layout))
        ⟨{ w with mind := (i.fails .mappedUsers none w.mind).2 },
          .filesBegun (w.fileTasks layout).length dryRun :: journal⟩ fun s run' =>
          r = .ok s ∧ run.world = run'.world ∧
            run.journal = .filesFinished s :: run'.journal := by
  unfold relocateFiles fileTasks
  rw [ends_bind, ends_bind, ends_call]
  refine (Rehearsal.ends_query_of_passes hpass).mono ?_
  rintro _ _ ⟨rfl, rfl⟩
  exact ⟨rfl, rfl, rfl⟩

/-- A run of the relocation of all files, dry or real: what interferes with it, and the state of
mind in which that begins. -/
structure FileAttempt (φ : Type) where
  interference : Interference φ
  mind : φ
  dryRun : Bool

namespace FileAttempt

/-- The world after a run. -/
def run (layout : Layout) (a : FileAttempt φ) (w : World φ) : World φ :=
  (relocateFiles (Rehearsal.store a.interference) (Rehearsal.storage a.interference) layout
    a.dryRun (Rehearsal.stopRequested a.interference) (.start { w with mind := a.mind })).2.world

/-- The world after runs in order. -/
def runAll (layout : Layout) (attempts : List (FileAttempt φ)) (w : World φ) : World φ :=
  attempts.foldl (fun w a => a.run layout w) w

variable {w : World φ}

theorem run_kept (a : FileAttempt φ) (hapart : layout.Apart (w.fileTasks layout))
    (hkept : FilesKept layout (w.fileTasks layout) o₀ w.objects) :
    (a.run layout w).store = w.store ∧
      FilesKept layout (w.fileTasks layout) o₀ (a.run layout w).objects := by
  have hend := relocateFiles_ends (w := { w with mind := a.mind }) layout a.dryRun
    a.interference.keeps_any [] trivial
  exact hend.2.kept hapart hkept

/-- A run that can list the users moves their files. -/
theorem run_listed (layout : Layout) {a : FileAttempt φ} {users : List MappedUser}
    (hlisted : w.store.mappedUsers = users)
    (hpass : (a.interference.fails .mappedUsers none a.mind).1 = false) :
    a.run layout w =
      (relocateEach (Rehearsal.storage a.interference) layout a.dryRun
        (Rehearsal.stopRequested a.interference) (users.map layout.task).length (.start .files)
        (users.map layout.task)
        ⟨{ w with mind := (a.interference.fails .mappedUsers none a.mind).2 },
          [.filesBegun (users.map layout.task).length a.dryRun]⟩).2.world := by
  subst hlisted
  exact (relocateFiles_run (w := { w with mind := a.mind }) layout a.dryRun hpass []).2.1

/-- Runs keep the files, whatever they meet. -/
theorem runAll_kept (attempts : List (FileAttempt φ)) (hapart : layout.Apart (w.fileTasks layout))
    (hkept : FilesKept layout (w.fileTasks layout) o₀ w.objects) :
    (runAll layout attempts w).store = w.store ∧
      FilesKept layout (w.fileTasks layout) o₀ (runAll layout attempts w).objects := by
  induction attempts generalizing w with
  | nil => exact ⟨rfl, hkept⟩
  | cons a rest ih =>
    obtain ⟨hstore, hrun⟩ := a.run_kept hapart hkept
    have htasks : (a.run layout w).fileTasks layout = w.fileTasks layout :=
      World.fileTasks_congr hstore
    have hrest := ih (w := a.run layout w) (by rwa [htasks]) (by rwa [htasks])
    rw [htasks, hstore] at hrest
    exact hrest

end FileAttempt

/-- However often files are relocated, dry or real, with whatever failures and stops, no file is
lost or overwritten: every file is at its old place or both in the backup and at its new place,
objects in all other places stay, and a new place is only ever filled with the file of a user who
belongs there, and keeps it from then on. -/
theorem relocateFiles_safe {w : World φ} (earlier later : List (FileAttempt φ))
    (hw : layout.Separates (w.fileTasks layout)) :
    let reached := FileAttempt.runAll layout earlier w
    let further := FileAttempt.runAll layout (earlier ++ later) w
    FilesKept layout (w.fileTasks layout) w.objects reached.objects ∧
      ∀ t ∈ w.fileTasks layout, ∀ data, reached.objects.files[layout.newPlace t]? = some data →
        further.objects.files[layout.newPlace t]? = some data := by
  intro reached further
  have hapart : layout.Apart (w.fileTasks layout) := hw.apart
  obtain ⟨hstore, hkept⟩ := FileAttempt.runAll_kept earlier hapart .refl
  refine ⟨hkept, fun t ht data hfilled => ?_⟩
  -- later runs find the place occupied
  have htasks : reached.fileTasks layout = w.fileTasks layout := by
    rw [World.fileTasks, World.fileTasks, hstore]
  have hlater : FilesKept layout (reached.fileTasks layout) reached.objects
      (FileAttempt.runAll layout later reached).objects :=
    (FileAttempt.runAll_kept later (by rwa [htasks]) .refl).2
  have hfurther : further = FileAttempt.runAll layout later reached := List.foldl_append
  rw [htasks] at hlater
  rw [hfurther]
  refine hlater.untouched _ (fun t' ht' => ?_) data hfilled
  exact ⟨hapart.new_ne_old t ht t' ht', hapart.new_ne_backup t ht t' ht'⟩

open Rehearsal in
/-- Two users share a new identifier, and the second one's old path looks like a backup path. A run
that is stopped at its first move fills the new place with the first file; a run in which renames
fail and a dry run leave it there. -/
theorem relocateFiles_safe_stage :
    let layout := Layout.standard
    let first := Stage.ada
    let second := { Stage.adaAgain with tenantId := some "globex/backup" }
    let newId := MemoryProvider.numberedId 1
    let placed := (MemoryObjects.empty.insert (layout.old "acme" first.legacyId) "1").insert
      (layout.old "globex/backup" second.legacyId) "2"
    let store := ((Stage.ofUsers [first, second]).store.commit default
      [.mapping first.legacyId "ada@example.org" newId]).commit default
      [.mapping second.legacyId "ada@example.org" newId]
    let w : Stage := { Stage.start with store := store, objects := placed }
    let stopping : FileAttempt Script :=
      ⟨Script.interference, Script.quiet.stopAfter .objectRename 1, false⟩
    let failing : FileAttempt Script :=
      ⟨Script.interference, ⟨[(.objectRename, none)], [], false⟩, false⟩
    let dry : FileAttempt Script := ⟨Script.interference, .quiet, true⟩
    let reached := stopping.run layout w
    let further := FileAttempt.runAll layout [stopping, failing, dry] w
    layout.Separates (w.fileTasks layout) ∧
      FilesKept layout (w.fileTasks layout) w.objects further.objects ∧
      reached.objects.get? (layout.new newId) = some "1" ∧
      further.objects.get? (layout.new newId) = some "1" := by
  intro layout first second newId placed store w stopping failing dry reached further
  have hmapped : w.store.mappedUsers =
      [⟨first.legacyId, newId, some "acme "⟩, ⟨second.legacyId, newId, some "globex/backup"⟩] := by
    have hjoined : w.store.legacyUsers.filterMap w.store.mappedUser? =
        [⟨first.legacyId, newId, some "acme "⟩,
          ⟨second.legacyId, newId, some "globex/backup"⟩] := by decide +kernel
    rw [MemoryTables.mappedUsers, hjoined]
    exact List.mergeSort_of_pairwise (by decide +kernel)
  have hseparates : layout.Separates (w.fileTasks layout) := by
    rw [World.fileTasks, hmapped]
    exact ⟨by decide, by decide +kernel, by decide +kernel, by decide +kernel⟩
  have hrun := FileAttempt.run_listed layout hmapped (a := stopping) rfl
  have hmoved : reached.objects.get? (layout.new newId) = some "1" := by
    rw [show reached = stopping.run layout w from rfl, hrun]
    decide +kernel
  obtain ⟨-, hstays⟩ := relocateFiles_safe [stopping] [failing, dry] hseparates
  obtain ⟨hkept, -⟩ := relocateFiles_safe [stopping, failing, dry] [] hseparates
  refine ⟨hseparates, hkept, hmoved, ?_⟩
  refine hstays (layout.task ⟨first.legacyId, newId, some "acme "⟩) ?_ "1" hmoved
  rw [World.fileTasks, hmapped]
  exact List.mem_cons_self

end Rekey

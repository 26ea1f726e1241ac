import Rekey.Migration.Files
import Rekey.Proofs.Files.Paths
import Rekey.Proofs.Rehearsal.Temper

/-!
# Relocations

How moving files may end in a rehearsal. `Relocates` has one case for each way in which the file of
one task may end, `RelocatesEach` follows the recursion over the tasks, and `FilePhase` adds the
listing of the users that it begins with. They hold of every layout, also of one whose places meet.
-/

namespace Rekey

variable {φ : Type} {i : Interference φ} {P : φ → Prop} {F S : Prop} {w : World φ}

/-! ## Steps of the object storage -/

namespace Rehearsal

/-- The question whether an object exists is answered, unless it is made to fail. -/
theorem ends_contains (h : i.Keeps P F S) (hw : P w.mind) (path : String) :
    Ends ((storage i).contains path) w fun r w' => ∃ m, P m ∧ w' = { w with mind := m } ∧
      (r = .ok (w.objects.contains path) ∨ F ∧ r = .error .notImplemented) := by
  refine ends_watched h (ends_hooked h hw ?_ ?_)
  · exact fun m hm hF => ⟨m, hm, rfl, .inr ⟨hF, rfl⟩⟩
  · exact fun m hm => ⟨hm, fun m' hm' => ⟨m', hm', rfl, .inl rfl⟩⟩

/-- A change of the objects that is possible happens, unless it is made to fail. -/
theorem ends_objectChange (h : i.Keeps P F S) (hw : P w.mind) {point : Point} {path : String}
    {f : MemoryObjects → Except ObjectFault MemoryObjects} {o : MemoryObjects}
    (hf : f w.objects = .ok o) :
    Ends (objectStep i point path (onObjects (MemoryObjects.change f))) w fun r w' =>
      ∃ m, P m ∧ (r = .ok () ∧ w' = { w with mind := m, objects := o } ∨
        F ∧ r = .error .notImplemented ∧ w' = { w with mind := m }) := by
  refine ends_watched h (ends_hooked h hw ?_ ?_)
  · exact fun m hm hF => ⟨m, hm, .inr ⟨hF, rfl, rfl⟩⟩
  · intro m hm
    have hdone : onObjects (MemoryObjects.change f) { w with mind := m } =
        (.ok (), { w with mind := m, objects := o }) := by
      simp [onObjects, Part.lift, MemoryObjects.change, hf]
    unfold Ends
    rw [hdone]
    exact ⟨hm, fun m' hm' => ⟨m', hm', .inl ⟨rfl, rfl⟩⟩⟩

end Rehearsal

/-! ## One file -/

namespace Layout

/-- The objects once the file of a task, which holds `data`, is copied to its backup path. -/
def backedUp (layout : Layout) (t : FileTask) (data : String) (o : MemoryObjects) :
    MemoryObjects :=
  o.insert (layout.backup t.tenantId t.legacyId) data

/-- The objects once the file is moved as well. -/
def moved (layout : Layout) (t : FileTask) (data : String) (o : MemoryObjects) : MemoryObjects :=
  ((layout.backedUp t data o).insert (layout.new t.newId) data).erase
    (layout.old t.tenantId t.legacyId)

end Layout

/-- How moving the file of a task may end, from the objects that are there. -/
inductive Relocates (mayFail : Prop) (layout : Layout) (dryRun : Bool) (o : MemoryObjects)
    (t : FileTask) : Except Failure FileResult → MemoryObjects → Prop
  | unseen {path : String} (h : mayFail) :
      Relocates mayFail layout dryRun o t (.error (fileFailure path .notImplemented)) o
  | missing (hold : o.files[layout.oldPlace t]? = none) :
      Relocates mayFail layout dryRun o t (.ok .missing) o
  | occupied {data : String} (hold : o.files[layout.oldPlace t]? = some data)
      (hnew : layout.newPlace t ∈ o.files) :
      Relocates mayFail layout dryRun o t
        (.error (.file (layout.new t.newId) ("already holds a file, " ++
          layout.old t.tenantId t.legacyId ++ " left in place"))) o
  | wouldMove {data : String} (hdry : dryRun = true)
      (hold : o.files[layout.oldPlace t]? = some data) (hnew : layout.newPlace t ∉ o.files) :
      Relocates mayFail layout dryRun o t (.ok .moved) o
  | uncopied {data : String} (h : mayFail) (hdry : dryRun = false)
      (hold : o.files[layout.oldPlace t]? = some data) (hnew : layout.newPlace t ∉ o.files) :
      Relocates mayFail layout dryRun o t
        (.error (fileFailure (layout.backup t.tenantId t.legacyId) .notImplemented)) o
  | unmoved {data : String} (h : mayFail) (hdry : dryRun = false)
      (hold : o.files[layout.oldPlace t]? = some data) (hnew : layout.newPlace t ∉ o.files) :
      Relocates mayFail layout dryRun o t
        (.error (fileFailure (layout.new t.newId) .notImplemented)) (layout.backedUp t data o)
  | moved {data : String} (hdry : dryRun = false)
      (hold : o.files[layout.oldPlace t]? = some data) (hnew : layout.newPlace t ∉ o.files) :
      Relocates mayFail layout dryRun o t (.ok .moved) (layout.moved t data o)

variable {layout : Layout} {dryRun : Bool} {t : FileTask}

/-- A copy that is there stays readable while it is copied, wherever the backup path leads. -/
theorem move_backedUp {o : MemoryObjects} {data : String}
    (hold : o.files[layout.oldPlace t]? = some data) :
    (layout.backedUp t data o).move (layout.new t.newId) (layout.old t.tenantId t.legacyId) =
      .ok (layout.moved t data o) := by
  have hread : (layout.backedUp t data o).get? (layout.old t.tenantId t.legacyId) = some data := by
    unfold Layout.backedUp MemoryObjects.insert MemoryObjects.get?
    rw [Std.ExtTreeMap.getElem?_insert]
    split
    · rfl
    · exact hold
  simp [MemoryObjects.move, MemoryObjects.copy, hread, Layout.moved, Except.map]

/-- Copying and moving a file that is there, to a place that is free. -/
theorem moveFile_ends (h : i.Keeps P F S) (hw : P w.mind) {data : String} {journal : List Event}
    (hold : w.objects.files[layout.oldPlace t]? = some data)
    (hnew : layout.newPlace t ∉ w.objects.files) :
    Ends (moveFile (Rehearsal.storage i) t (layout.old t.tenantId t.legacyId)
        (layout.backup t.tenantId t.legacyId) (layout.new t.newId)) ⟨w, journal⟩ fun r run =>
      ∃ m o, P m ∧ run.world = { w with mind := m, objects := o } ∧
        Relocates F layout false w.objects t r o := by
  unfold moveFile
  have hcopy : w.objects.copy (layout.backup t.tenantId t.legacyId)
      (layout.old t.tenantId t.legacyId) = .ok (layout.backedUp t data w.objects) := by
    have hread : w.objects.get? (layout.old t.tenantId t.legacyId) = some data := hold
    simp [MemoryObjects.copy, hread, Layout.backedUp]
  rw [ends_bind, ends_call]
  refine (Rehearsal.ends_objectChange h hw hcopy).mono ?_
  rintro r _ ⟨m, hm, ⟨rfl, rfl⟩ | ⟨hF, rfl, rfl⟩⟩
  · dsimp only
    rw [ends_bind, ends_call]
    refine (Rehearsal.ends_objectChange (f := fun o => o.move _ _) h hm
      (move_backedUp hold)).mono ?_
    rintro r _ ⟨m', hm', ⟨rfl, rfl⟩ | ⟨hF, rfl, rfl⟩⟩
    · exact ⟨m', _, hm', rfl, .moved rfl hold hnew⟩
    · exact ⟨m', _, hm', rfl, .unmoved hF rfl hold hnew⟩
  · exact ⟨m, _, hm, rfl, .uncopied hF rfl hold hnew⟩

/-- Moving the file of a task ends as `Relocates` says, and changes nothing but the objects. -/
theorem relocateFile_ends (h : i.Keeps P F S) (hw : P w.mind) {journal : List Event} :
    Ends (relocateFile (Rehearsal.storage i) layout dryRun t) ⟨w, journal⟩ fun r run =>
      ∃ m o, P m ∧ run.world = { w with mind := m, objects := o } ∧
        Relocates F layout dryRun w.objects t r o := by
  unfold relocateFile
  dsimp only
  rw [ends_bind, ends_call]
  refine (Rehearsal.ends_contains h hw _).mono ?_
  rintro _ _ ⟨m, hm, rfl, rfl | ⟨hF, rfl⟩⟩
  swap
  · exact ⟨m, _, hm, rfl, .unseen hF⟩
  cases hold : w.objects.files[layout.oldPlace t]? with
  | none =>
    have hnone : w.objects.contains (layout.old t.tenantId t.legacyId) = false :=
      Option.isSome_eq_false_iff.mpr (Option.isNone_iff_eq_none.mpr hold)
    rw [hnone]
    exact ⟨m, _, hm, rfl, .missing hold⟩
  | some data =>
    have hsome : w.objects.contains (layout.old t.tenantId t.legacyId) = true :=
      Option.isSome_iff_exists.mpr ⟨data, hold⟩
    rw [hsome]
    dsimp only
    rw [ends_bind, ends_call]
    refine (Rehearsal.ends_contains (w := { w with mind := m }) h hm _).mono ?_
    rintro _ _ ⟨m', hm', rfl, rfl | ⟨hF, rfl⟩⟩
    swap
    · exact ⟨m', _, hm', rfl, .unseen hF⟩
    cases hnew : w.objects.contains (layout.new t.newId) with
    | true =>
      have hmem : layout.newPlace t ∈ w.objects.files :=
        Std.ExtTreeMap.mem_iff_isSome_getElem?.mpr hnew
      exact ⟨m', _, hm', rfl, .occupied hold hmem⟩
    | false =>
      have hfree : layout.newPlace t ∉ w.objects.files := by
        rw [Std.ExtTreeMap.mem_iff_isSome_getElem?, Bool.not_eq_true]
        exact hnew
      dsimp only
      split
      · rename_i hdry
        exact ⟨m', _, hm', rfl, .wouldMove hdry hold hfree⟩
      · rename_i hdry
        obtain rfl : dryRun = false := Bool.not_eq_true _ ▸ hdry
        exact moveFile_ends (w := { w with mind := m' }) h hm' hold hfree

/-! ## All files -/

/-- How moving the files of tasks in order may end. -/
inductive RelocatesEach (mayFail mayStop : Prop) (layout : Layout) (dryRun : Bool) :
    MemoryObjects → Summary → List FileTask → Summary → MemoryObjects → Prop
  | finished {o : MemoryObjects} {s : Summary} :
      RelocatesEach mayFail mayStop layout dryRun o s [] s o
  | stopped {o : MemoryObjects} {s : Summary} {tasks : List FileTask} (h : mayStop) :
      RelocatesEach mayFail mayStop layout dryRun o s tasks { s with interrupted := true } o
  | next {o o' o'' : MemoryObjects} {s s' : Summary} {t : FileTask} {rest : List FileTask}
      {r : Except Failure FileResult} (h : Relocates mayFail layout dryRun o t r o')
      (hrest : RelocatesEach mayFail mayStop layout dryRun o' (s.countFile r) rest s' o'') :
      RelocatesEach mayFail mayStop layout dryRun o s (t :: rest) s' o''

/-- What every file keeps, all files keep. -/
theorem RelocatesEach.preserves {I : MemoryObjects → Prop} {tasks : List FileTask}
    (hfile : ∀ t ∈ tasks, ∀ o r o', Relocates F layout dryRun o t r o' → I o → I o')
    {o o' : MemoryObjects} {s s' : Summary}
    (h : RelocatesEach F S layout dryRun o s tasks s' o') (ho : I o) : I o' := by
  induction h with
  | finished => exact ho
  | stopped _ => exact ho
  | next hone _ ih =>
    exact ih (fun t ht => hfile t (List.mem_cons_of_mem _ ht))
      (hfile _ List.mem_cons_self _ _ _ hone ho)

theorem ends_tellFile {r : Except Failure FileResult} {run : Run (World φ)}
    {Q : World φ → Prop} (h : Q run.world) :
    Ends (tellFile t r) run fun _ run' => Q run'.world := by
  unfold tellFile
  split <;> exact h

/-- Moving files in order ends as `RelocatesEach` says. -/
theorem relocateEach_ends (h : i.Keeps P F S) {total : Nat} {s : Summary} {tasks : List FileTask}
    {w : World φ} {journal : List Event} (hw : P w.mind) :
    Ends (relocateEach (Rehearsal.storage i) layout dryRun (Rehearsal.stopRequested i) total s
        tasks) ⟨w, journal⟩ fun s' run =>
      ∃ m o, P m ∧ run.world = { w with mind := m, objects := o } ∧
        RelocatesEach F S layout dryRun w.objects s tasks s' o := by
  induction tasks generalizing w journal s with
  | nil => exact ⟨w.mind, w.objects, hw, rfl, .finished⟩
  | cons t rest ih =>
    unfold relocateEach
    rw [ends_bind, ends_call]
    refine (Rehearsal.ends_stopRequested h hw).mono ?_
    rintro stopped _ ⟨m, hm, rfl, hS⟩
    cases stopped with
    | true => exact ⟨m, w.objects, hm, rfl, .stopped (hS rfl)⟩
    | false =>
      rw [if_neg (by simp), ends_bind]
      refine (relocateFile_ends (w := { w with mind := m }) h hm).mono ?_
      rintro r ⟨_, journal'⟩ ⟨m', o', hm', rfl, hr⟩
      rw [ends_bind]
      refine Ends.mono (ends_tellFile (Q := (· = _)) rfl) ?_
      rintro _ ⟨_, journal''⟩ rfl
      refine (ih (w := { w with mind := m', objects := o' }) hm').mono ?_
      rintro s' run ⟨m'', o'', hm'', hrun, hrest⟩
      exact ⟨m'', o'', hm'', hrun, .next hr hrest⟩

/-- How moving the files of all users may end: the users cannot be listed, or the files of those
listed are moved. -/
inductive FilePhase (mayFail mayStop : Prop) (layout : Layout) (dryRun : Bool) (w : World φ) :
    Except Failure Summary → World φ → Prop
  | unlisted {m : φ} (h : mayFail) :
      FilePhase mayFail mayStop layout dryRun w
        (.error (.store (Rehearsal.injected .mappedUsers))) { w with mind := m }
  | listed {m : φ} {s : Summary} {o : MemoryObjects}
      (h : RelocatesEach mayFail mayStop layout dryRun w.objects (.start .files)
        (w.store.mappedUsers.map layout.task) s o) :
      FilePhase mayFail mayStop layout dryRun w (.ok s) { w with mind := m, objects := o }

/-- Moving the files of all users ends as `FilePhase` says. -/
theorem relocateFiles_ends (layout : Layout) (dryRun : Bool) (h : i.Keeps P F S)
    (journal : List Event) (hw : P w.mind) :
    Ends (relocateFiles (Rehearsal.store i) (Rehearsal.storage i) layout dryRun
        (Rehearsal.stopRequested i)) ⟨w, journal⟩ fun r run =>
      P run.world.mind ∧ FilePhase F S layout dryRun w r run.world := by
  unfold relocateFiles fileTasks
  rw [ends_bind, ends_bind, ends_call]
  refine (Rehearsal.ends_guarded_query h hw).mono ?_
  rintro _ _ ⟨m, hm, rfl, rfl | ⟨hF, rfl⟩⟩
  · dsimp only
    rw [ends_pure]
    dsimp only
    rw [ends_bind, ends_tell, ends_bind]
    refine (relocateEach_ends (w := { w with mind := m }) h hm).mono ?_
    rintro s ⟨_, journal'⟩ ⟨m', o', hm', rfl, heach⟩
    exact ⟨hm', .listed heach⟩
  · exact ⟨hm, .unlisted hF⟩

end Rekey

import Rekey.Proofs.Files.Outcome

/-!
# One file, attempted again

What one attempt to move a file leaves behind, and why it can be repeated. A failed attempt leaves
the objects as they were or adds a copy in the backup; that copy is the one that the next attempt
makes, so an attempt that nothing disturbs ends as if the failed ones had not been made.
-/

namespace Rekey

variable {φ : Type} {F S : Prop} {layout : Layout} {t : FileTask} {o o' o'' : MemoryObjects}
  {data : String} {r : Except Failure FileResult} {w w' : World φ}

/-! ## What an attempt leaves behind -/

namespace Layout

/-- The file of a task is copied to the backup, and stands where it stood; its new place is free.
No other place changes. -/
structure Copied (layout : Layout) (t : FileTask) (o o' : MemoryObjects) : Prop where
  held : layout.oldPlace t ∈ o.files
  free : layout.newPlace t ∉ o.files
  backup : o'.files[layout.backupPlace t]? = o.files[layout.oldPlace t]?
  old : o'.files[layout.oldPlace t]? = o.files[layout.oldPlace t]?
  new : o'.files[layout.newPlace t]? = o.files[layout.newPlace t]?
  others : ∀ place, place ≠ layout.backupPlace t → o'.files[place]? = o.files[place]?

/-- The file of a task is moved from its old place to its new place, which was free, and to the
backup. No other place changes. -/
structure Taken (layout : Layout) (t : FileTask) (o o' : MemoryObjects) : Prop where
  held : layout.oldPlace t ∈ o.files
  free : layout.newPlace t ∉ o.files
  old : o'.files[layout.oldPlace t]? = none
  backup : o'.files[layout.backupPlace t]? = o.files[layout.oldPlace t]?
  new : o'.files[layout.newPlace t]? = o.files[layout.oldPlace t]?
  others : ∀ place, layout.Avoids place t → o'.files[place]? = o.files[place]?

/-- What an attempt may make of the objects, by what it answers. -/
def Attempted (layout : Layout) (t : FileTask) (o : MemoryObjects) :
    Except Failure FileResult → MemoryObjects → Prop
  | .ok .missing, o' => o' = o ∧ layout.oldPlace t ∉ o.files
  | .ok .moved, o' => layout.Taken t o o'
  | .error _, o' => (o' = o ∨ layout.Copied t o o') ∧ (layout.newPlace t ∈ o.files → o' = o)

/-- The three places of a task are different. -/
structure Distinct (layout : Layout) (t : FileTask) : Prop where
  old_ne_backup : layout.oldPlace t ≠ layout.backupPlace t
  old_ne_new : layout.oldPlace t ≠ layout.newPlace t
  backup_ne_new : layout.backupPlace t ≠ layout.newPlace t

namespace Distinct

variable (h : layout.Distinct t) (hold : o.files[layout.oldPlace t]? = some data)
  (hnew : layout.newPlace t ∉ o.files)

include h

theorem backedUp_old :
    (layout.backedUp t data o).files[layout.oldPlace t]? = o.files[layout.oldPlace t]? := by
  rw [files_backedUp, if_neg h.old_ne_backup.symm]

theorem backedUp_new :
    (layout.backedUp t data o).files[layout.newPlace t]? = o.files[layout.newPlace t]? := by
  rw [files_backedUp, if_neg h.backup_ne_new]

include hold hnew

theorem copied : layout.Copied t o (layout.backedUp t data o) where
  held := MemoryObjects.mem_files_of_eq_some hold
  free := hnew
  backup := by rw [files_backedUp, if_pos rfl, hold]
  old := h.backedUp_old
  new := h.backedUp_new
  others place hplace := by rw [files_backedUp, if_neg hplace.symm]

theorem taken : layout.Taken t o (layout.moved t data o) where
  held := MemoryObjects.mem_files_of_eq_some hold
  free := hnew
  old := by rw [files_moved, if_pos rfl]
  backup := by
    rw [files_moved, if_neg h.old_ne_backup, if_neg h.backup_ne_new.symm, if_pos rfl, hold]
  new := by rw [files_moved, if_neg h.old_ne_new, if_pos rfl, hold]
  others _ hplace := files_moved_of_avoids hplace

end Distinct

end Layout

/-- A real attempt leaves behind what it answers. -/
theorem Relocates.attempted (h : Relocates F layout false o t r o') (hplaces : layout.Distinct t) :
    layout.Attempted t o r o' := by
  cases h with
  | unseen _ => exact ⟨.inl rfl, fun _ => rfl⟩
  | missing hold => exact ⟨rfl, MemoryObjects.files_eq_none_iff.mp hold⟩
  | occupied _ _ => exact ⟨.inl rfl, fun _ => rfl⟩
  | wouldMove hdry _ _ => contradiction
  | uncopied _ _ _ _ => exact ⟨.inl rfl, fun _ => rfl⟩
  | unmoved _ _ hold hnew =>
    exact ⟨.inr (hplaces.copied hold hnew), fun hoccupied => absurd hoccupied hnew⟩
  | moved _ hold hnew => exact hplaces.taken hold hnew

/-! ## An attempt that nothing disturbs -/

namespace Layout

/-- What the relocation of one file that nothing disturbs answers. -/
def answer (layout : Layout) (o : MemoryObjects) (t : FileTask) : Except Failure FileResult :=
  if layout.oldPlace t ∉ o.files then .ok .missing
  else if layout.newPlace t ∈ o.files then
    .error (.file (layout.new t.newId) ("already holds a file, " ++
      layout.old t.tenantId t.legacyId ++ " left in place"))
  else .ok .moved

end Layout

theorem Relocates.eq_answer (h : Relocates False layout false o t r o') :
    r = layout.answer o t := by
  have hheld : ∀ {data : String}, o.files[layout.oldPlace t]? = some data →
      ¬ layout.oldPlace t ∉ o.files :=
    fun hdata => not_not.mpr (MemoryObjects.mem_files_of_eq_some hdata)
  unfold Layout.answer
  cases h with
  | unseen h => exact h.elim
  | missing hold => rw [if_pos (MemoryObjects.files_eq_none_iff.mp hold)]
  | occupied hold hnew => rw [if_neg (hheld hold), if_pos hnew]
  | wouldMove hdry _ _ => contradiction
  | uncopied h _ _ _ => exact h.elim
  | unmoved h _ _ _ => exact h.elim
  | moved _ hold hnew => rw [if_neg (hheld hold), if_neg hnew]

/-! ## Failed attempts -/

namespace Layout

/-- A second copy in the backup is the first one. -/
theorem backedUp_backedUp :
    layout.backedUp t data (layout.backedUp t data o) = layout.backedUp t data o := by
  refine congrArg MemoryObjects.mk (Std.ExtTreeMap.ext_getElem? fun place => ?_)
  show (layout.backedUp t data (layout.backedUp t data o)).files[place]? =
    (layout.backedUp t data o).files[place]?
  rw [files_backedUp, files_backedUp]
  split <;> rfl

theorem moved_backedUp : layout.moved t data (layout.backedUp t data o) = layout.moved t data o := by
  rw [moved, backedUp_backedUp, moved]

/-- The objects after failed attempts: as they were, or with a copy of the file in the backup. -/
inductive Strained (layout : Layout) (t : FileTask) (o : MemoryObjects) : MemoryObjects → Prop
  | untouched : Strained layout t o o
  | backedUp {data : String} (hold : o.files[layout.oldPlace t]? = some data)
      (hnew : layout.newPlace t ∉ o.files) : Strained layout t o (layout.backedUp t data o)

/-- One more failed attempt adds nothing to what failed attempts leave behind. -/
theorem Strained.next (h : layout.Strained t o o') (hplaces : layout.Distinct t) {f : Failure}
    (hone : Relocates F layout false o' t (.error f) o'') : layout.Strained t o o'' := by
  cases hone with
  | unseen _ => exact h
  | occupied _ _ => exact h
  | uncopied _ _ _ _ => exact h
  | @unmoved data _ _ hold hnew =>
    cases h with
    | untouched => exact .backedUp hold hnew
    | @backedUp first hfirst hfree =>
      -- the file has not changed, so this copy is the first one
      rw [hplaces.backedUp_old, hfirst] at hold
      obtain rfl : first = data := Option.some.inj hold
      rw [backedUp_backedUp]
      exact .backedUp hfirst hfree

/-- An attempt that nothing disturbs does not see that others have failed before. -/
theorem Strained.forgotten (h : layout.Strained t o o') (hplaces : layout.Distinct t) :
    layout.answer o' t = layout.answer o t ∧ layout.relocated o' t = layout.relocated o t := by
  cases h with
  | untouched => exact ⟨rfl, rfl⟩
  | @backedUp data hold hnew =>
    have holdAgain : (layout.backedUp t data o).files[layout.oldPlace t]? = some data :=
      hplaces.backedUp_old.trans hold
    have hnewAgain : layout.newPlace t ∉ (layout.backedUp t data o).files := by
      rwa [MemoryObjects.mem_files_congr hplaces.backedUp_new]
    constructor
    · have hmem := MemoryObjects.mem_files_congr (holdAgain.trans hold.symm)
      simp only [answer, hmem, hnew, hnewAgain]
    · rw [relocated, relocated, hold, holdAgain]
      dsimp only
      rw [if_neg hnew, if_neg hnewAgain, moved_backedUp]

end Layout

/-! ## Attempts -/

namespace FileAttempt

variable {a : FileAttempt φ}

/-- One attempt at the file of a task: what it answers, and the world after it. -/
def relocate (layout : Layout) (t : FileTask) (a : FileAttempt φ) (w : World φ) :
    Except Failure FileResult × World φ :=
  let (r, run) := relocateFile (Rehearsal.storage a.interference) layout a.dryRun t
    (.start { w with mind := a.mind })
  (r, run.world)

theorem relocate_ends {P : φ → Prop} (h : a.interference.Keeps P F S) (hm : P a.mind)
    (layout : Layout) (t : FileTask) (w : World φ) :
    ∃ m o, (a.relocate layout t w).2 = { w with mind := m, objects := o } ∧
      Relocates F layout a.dryRun w.objects t (a.relocate layout t w).1 o := by
  have hend : Ends (relocateFile (Rehearsal.storage a.interference) layout a.dryRun t)
      (.start { w with mind := a.mind }) _ :=
    relocateFile_ends (w := { w with mind := a.mind }) h hm
  obtain ⟨m, o, -, hworld, hone⟩ := hend
  exact ⟨m, o, hworld, hone⟩

/-- An attempt in which nothing is made to fail answers and moves by the objects that it meets. -/
theorem Unfailing.relocate_eq (ha : a.Unfailing) (layout : Layout) (t : FileTask) (w : World φ) :
    (a.relocate layout t w).1 = layout.answer w.objects t ∧
      (a.relocate layout t w).2.objects = layout.relocated w.objects t := by
  obtain ⟨P, hm, hkeeps⟩ := ha.passes
  obtain ⟨m, o, hworld, hone⟩ := a.relocate_ends hkeeps hm layout t w
  rw [ha.real] at hone
  refine ⟨hone.eq_answer, ?_⟩
  rw [hworld]
  exact hone.eq_relocated

/-- `w'` is where real attempts at the file of a task have led from `w`, which have all failed. -/
inductive Failed (layout : Layout) (t : FileTask) (w : World φ) : World φ → Prop
  | none : Failed layout t w w
  | again {w' : World φ} {f : Failure} (h : Failed layout t w w') (a : FileAttempt φ)
      (hreal : a.dryRun = false) (hfailed : (a.relocate layout t w').1 = .error f) :
      Failed layout t w (a.relocate layout t w').2

theorem Failed.strained (h : Failed layout t w w') (hplaces : layout.Distinct t) :
    layout.Strained t w.objects w'.objects := by
  induction h with
  | none => exact .untouched
  | again _ a hreal hfailed ih =>
    obtain ⟨m, o, hworld, hone⟩ := a.relocate_ends a.interference.keeps_any trivial layout t _
    rw [hreal, hfailed] at hone
    rw [hworld]
    exact ih.next hplaces hone

end FileAttempt

/-- Where the three places of a task are different, a real attempt at its file says what it has done,
whatever fails in it: a missing file leaves the objects alone, a moved file was there and its new
place was free, and a failure leaves the objects alone but for a copy in the backup, made only if
the new place was free. After attempts that failed, an attempt that nothing disturbs answers what it
would have answered before them and leaves the same objects. -/
theorem relocateFile_retry (layout : Layout) (t : FileTask) (w : World φ)
    (hbackup : layout.oldPlace t ≠ layout.backupPlace t)
    (hnew : layout.oldPlace t ≠ layout.newPlace t)
    (hapart : layout.backupPlace t ≠ layout.newPlace t) :
    (∀ a : FileAttempt φ, a.dryRun = false →
      layout.Attempted t w.objects (a.relocate layout t w).1 (a.relocate layout t w).2.objects ∧
        (a.relocate layout t w).2.store = w.store ∧
        (a.relocate layout t w).2.provider = w.provider) ∧
      ∀ w', FileAttempt.Failed layout t w w' → ∀ a b : FileAttempt φ, a.Unfailing → b.Unfailing →
        (a.relocate layout t w').1 = (b.relocate layout t w).1 ∧
          (a.relocate layout t w').2.objects = (b.relocate layout t w).2.objects := by
  have hplaces : layout.Distinct t := ⟨hbackup, hnew, hapart⟩
  refine ⟨fun a hreal => ?_, fun w' hfailed a b ha hb => ?_⟩
  · obtain ⟨m, o, hworld, hone⟩ := a.relocate_ends a.interference.keeps_any trivial layout t w
    rw [hreal] at hone
    rw [hworld]
    exact ⟨hone.attempted hplaces, rfl, rfl⟩
  · obtain ⟨hanswer, hobjects⟩ := (hfailed.strained hplaces).forgotten hplaces
    obtain ⟨hagain, hmoved⟩ := ha.relocate_eq layout t w'
    obtain ⟨hfirst, hmovedFirst⟩ := hb.relocate_eq layout t w
    rw [hagain, hfirst, hmoved, hmovedFirst]
    exact ⟨hanswer, hobjects⟩

open Rehearsal in
/-- A rename fails after the copy was made; the next attempt moves the file over an older backup. -/
theorem relocateFile_retry_stage :
    let layout := Layout.standard
    let t : FileTask := ⟨"ada", "user", "acme"⟩
    let placed := (MemoryObjects.empty.insert (layout.old "acme" "ada") "new").insert
      (layout.backup "acme" "ada") "older"
    let w : Stage := { Stage.start with objects := placed }
    let failing : FileAttempt Script :=
      ⟨Script.interference, ⟨[(.objectRename, none)], [], false⟩, false⟩
    let quiet : FileAttempt Script := ⟨Script.interference, .quiet, false⟩
    let w' := (failing.relocate layout t w).2
    layout.oldPlace t ≠ layout.backupPlace t ∧ layout.oldPlace t ≠ layout.newPlace t ∧
      layout.backupPlace t ≠ layout.newPlace t ∧ FileAttempt.Failed layout t w w' ∧
      w'.objects.get? (layout.backup "acme" "ada") = some "new" ∧
      (quiet.relocate layout t w').1 = .ok .moved ∧
      (quiet.relocate layout t w').2.objects = (quiet.relocate layout t w).2.objects := by
  intro layout t placed w failing quiet w'
  have hbackup : layout.oldPlace t ≠ layout.backupPlace t := by decide +kernel
  have hnew : layout.oldPlace t ≠ layout.newPlace t := by decide +kernel
  have hapart : layout.backupPlace t ≠ layout.newPlace t := by decide +kernel
  have hquiet : quiet.Unfailing := ⟨rfl, Script.unfailing rfl⟩
  have hfailed : (failing.relocate layout t w).1 =
      .error (fileFailure (layout.new "user") .notImplemented) := by decide +kernel
  have hreached : FileAttempt.Failed layout t w w' :=
    FileAttempt.Failed.none.again failing rfl hfailed
  obtain ⟨-, hretry⟩ := relocateFile_retry layout t w hbackup hnew hapart
  obtain ⟨hanswer, hobjects⟩ := hretry w' hreached quiet quiet hquiet hquiet
  refine ⟨hbackup, hnew, hapart, hreached, ?_, hanswer.trans ?_, hobjects⟩
  · decide +kernel
  · rw [(hquiet.relocate_eq layout t w).1]
    decide +kernel

end Rekey

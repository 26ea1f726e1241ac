import Mathlib.Data.String.Basic
import Rekey.Proofs.Files.Settled

/-!
# The outcome of moving files

What a run that nothing disturbs makes of the objects and counts, said on the objects as they are at
the beginning: of the users who share a free new place, the first one who has a file moves it. The
induction is on the tasks that were passed, and each of them finds its own places as they were.
-/

namespace Rekey

variable {φ : Type} {F S : Prop} {layout : Layout} {dryRun : Bool} {tasks done : List FileTask}
  {o₀ o : MemoryObjects} {t t' : FileTask} {place data : String} {w : World φ}

/-! ## Places that are not concerned -/

namespace Layout

/-- A place is none of the three places of a task. -/
def Avoids (layout : Layout) (place : String) (t : FileTask) : Prop :=
  place ≠ layout.oldPlace t ∧ place ≠ layout.backupPlace t ∧ place ≠ layout.newPlace t

theorem files_moved_of_avoids (h : layout.Avoids place t) :
    (layout.moved t data o).files[place]? = o.files[place]? := by
  obtain ⟨hold, hbackup, hnew⟩ := h
  rw [files_moved, if_neg hold.symm, if_neg hnew.symm, if_neg hbackup.symm]

section Apart

variable (hapart : layout.Apart tasks) (ht : t ∈ tasks) (ht' : t' ∈ tasks)

include hapart ht ht'

theorem Apart.old_avoids (hne : t ≠ t') : layout.Avoids (layout.oldPlace t) t' := by
  refine ⟨fun heq => hne (hapart.old_injective t ht t' ht' heq), ?_, ?_⟩
  · exact hapart.old_ne_backup t ht t' ht'
  · exact (hapart.new_ne_old t' ht' t ht).symm

theorem Apart.backup_avoids (hne : t ≠ t') : layout.Avoids (layout.backupPlace t) t' := by
  refine ⟨?_, fun heq => hne (hapart.backup_injective t ht t' ht' heq), ?_⟩
  · exact (hapart.old_ne_backup t' ht' t ht).symm
  · exact (hapart.new_ne_backup t' ht' t ht).symm

theorem Apart.new_avoids (hne : layout.newPlace t ≠ layout.newPlace t') :
    layout.Avoids (layout.newPlace t) t' :=
  ⟨hapart.new_ne_old t ht t' ht', hapart.new_ne_backup t ht t' ht', hne⟩

end Apart

end Layout

/-! ## Whose file is moved -/

namespace Layout

/-- The file of a task is moved: it is there, its new place is free, and of the users who share the
new identifier and have a file none comes before. -/
def Moves (layout : Layout) (tasks : List FileTask) (o : MemoryObjects) (t : FileTask) : Prop :=
  layout.oldPlace t ∈ o.files ∧ layout.newPlace t ∉ o.files ∧
    ∀ t' ∈ tasks, t'.newId = t.newId → layout.oldPlace t' ∈ o.files → t.legacyId ≤ t'.legacyId

instance (layout : Layout) (tasks : List FileTask) (o : MemoryObjects) (t : FileTask) :
    Decidable (layout.Moves tasks o t) :=
  inferInstanceAs (Decidable (_ ∧ _ ∧ _))

theorem Moves.unsettled (h : layout.Moves tasks o t) : ¬ layout.Settled o t :=
  not_or.mpr ⟨not_not.mpr h.1, h.2.1⟩

/-- The summary of moving files: the tasks whose file is moved, those without a file, and those
whose file is left. -/
def fileSummary (layout : Layout) (tasks : List FileTask) (o : MemoryObjects) : Summary where
  phase := .files
  success := tasks.countP fun t => layout.Moves tasks o t
  skipped := tasks.countP fun t => layout.oldPlace t ∉ o.files
  errors := tasks.countP fun t => layout.oldPlace t ∈ o.files ∧ ¬ layout.Moves tasks o t
  interrupted := false

/-- Every task counts once. -/
theorem total_fileSummary : (layout.fileSummary tasks o).total = tasks.length := by
  have hcount : ∀ l : List FileTask, l.countP (fun t => layout.Moves tasks o t) +
      l.countP (fun t => layout.oldPlace t ∉ o.files) +
      l.countP (fun t => layout.oldPlace t ∈ o.files ∧ ¬ layout.Moves tasks o t) = l.length := by
    intro l
    induction l with
    | nil => rfl
    | cons t rest ih =>
      simp only [List.countP_cons, List.length_cons, decide_eq_true_eq]
      by_cases hmoves : layout.Moves tasks o t
      · rw [if_pos hmoves, if_neg (not_not.mpr hmoves.1), if_neg fun h => h.2 hmoves]
        omega
      · by_cases hold : layout.oldPlace t ∈ o.files
        · rw [if_neg hmoves, if_neg (not_not.mpr hold), if_pos ⟨hold, hmoves⟩]
          omega
        · rw [if_neg hmoves, if_pos hold, if_neg fun h => hold h.1]
          omega
  exact hcount tasks

end Layout

/-- The objects `o` that moving the files of `tasks` makes of the objects `o₀`. -/
structure FilesMoved (layout : Layout) (tasks : List FileTask) (o₀ o : MemoryObjects) : Prop where
  /-- a file that is moved leaves its old place for the backup and the new place -/
  moved : ∀ t ∈ tasks, layout.Moves tasks o₀ t → ∀ data,
    o₀.files[layout.oldPlace t]? = some data →
      o.files[layout.oldPlace t]? = none ∧ o.files[layout.backupPlace t]? = some data ∧
        o.files[layout.newPlace t]? = some data
  /-- another task keeps its file, if it has one, and takes no backup -/
  left : ∀ t ∈ tasks, ¬ layout.Moves tasks o₀ t →
    o.files[layout.oldPlace t]? = o₀.files[layout.oldPlace t]? ∧
      o.files[layout.backupPlace t]? = o₀.files[layout.backupPlace t]?
  /-- the new place of every user who had a file is occupied -/
  occupied : ∀ t ∈ tasks, layout.oldPlace t ∈ o₀.files → layout.newPlace t ∈ o.files
  /-- nothing else changes -/
  others : ∀ place, (∀ t ∈ tasks, layout.Moves tasks o₀ t → layout.Avoids place t) →
    o.files[place]? = o₀.files[place]?

/-! ## One more task -/

theorem FilesMoved.nil (o : MemoryObjects) : FilesMoved layout [] o o where
  moved _ ht := nomatch ht
  left _ ht := nomatch ht
  occupied _ ht := nomatch ht
  others _ _ := rfl

/-- Tasks that are not moved keep their places, since those are apart from the others. -/
theorem FilesMoved.of_others (hapart : layout.Apart tasks) (hdone : done ⊆ tasks)
    (moved : ∀ t ∈ done, layout.Moves done o₀ t → ∀ data,
      o₀.files[layout.oldPlace t]? = some data →
        o.files[layout.oldPlace t]? = none ∧ o.files[layout.backupPlace t]? = some data ∧
          o.files[layout.newPlace t]? = some data)
    (occupied : ∀ t ∈ done, layout.oldPlace t ∈ o₀.files → layout.newPlace t ∈ o.files)
    (others : ∀ place, (∀ t ∈ done, layout.Moves done o₀ t → layout.Avoids place t) →
      o.files[place]? = o₀.files[place]?) : FilesMoved layout done o₀ o := by
  refine ⟨moved, fun t ht hleft => ?_, occupied, others⟩
  have hother : ∀ t' ∈ done, layout.Moves done o₀ t' → t ≠ t' := by
    rintro t' - hmoves rfl
    exact hleft hmoves
  constructor
  · exact others _ fun t' ht' hmoves =>
      hapart.old_avoids (hdone ht) (hdone ht') (hother t' ht' hmoves)
  · exact others _ fun t' ht' hmoves =>
      hapart.backup_avoids (hdone ht) (hdone ht') (hother t' ht' hmoves)

/-! The tasks before `t` are `done`, and their legacy identifiers come before that of `t`. -/

section Order

variable (hbefore : ∀ t' ∈ done, t'.legacyId < t.legacyId)

include hbefore

/-- A later task does not change whose file of the earlier ones is moved. -/
theorem Layout.moves_append_of_mem (ht' : t' ∈ done) :
    layout.Moves (done ++ [t]) o t' ↔ layout.Moves done o t' := by
  unfold Moves
  constructor
  · rintro ⟨hold, hnew, hfirst⟩
    exact ⟨hold, hnew, fun t'' hmem => hfirst t'' (List.mem_append_left _ hmem)⟩
  · rintro ⟨hold, hnew, hfirst⟩
    refine ⟨hold, hnew, fun t'' hmem hid hfile => ?_⟩
    rcases List.mem_append.mp hmem with hearlier | hlast
    · exact hfirst t'' hearlier hid hfile
    · obtain rfl := List.mem_singleton.mp hlast
      exact (hbefore t' ht').le

/-- The last task is moved if no earlier user of the new identifier has a file. -/
theorem Layout.moves_append_self :
    layout.Moves (done ++ [t]) o t ↔ layout.oldPlace t ∈ o.files ∧ layout.newPlace t ∉ o.files ∧
      ∀ t' ∈ done, t'.newId = t.newId → layout.oldPlace t' ∉ o.files := by
  unfold Moves
  constructor
  · rintro ⟨hold, hnew, hfirst⟩
    refine ⟨hold, hnew, fun t' hmem hid hfile => ?_⟩
    exact absurd (hfirst t' (List.mem_append_left _ hmem) hid hfile) (hbefore t' hmem).not_ge
  · rintro ⟨hold, hnew, hnone⟩
    refine ⟨hold, hnew, fun t' hmem hid hfile => ?_⟩
    rcases List.mem_append.mp hmem with hearlier | hlast
    · exact absurd hfile (hnone t' hearlier hid)
    · obtain rfl := List.mem_singleton.mp hlast
      exact le_refl _

end Order

section Next

variable (h : FilesMoved layout done o₀ o) (hw : layout.Separates tasks) (hdone : done ⊆ tasks)
  (ht : t ∈ tasks)

include h hw hdone ht

/-- The new place of the next task is free if it was at first, unless an earlier user of the new
identifier had a file. -/
theorem FilesMoved.new_free_iff : layout.newPlace t ∉ o.files ↔
    layout.newPlace t ∉ o₀.files ∧
      ∀ t' ∈ done, t'.newId = t.newId → layout.oldPlace t' ∉ o₀.files := by
  have hshared : ∀ t' ∈ done, (layout.newPlace t = layout.newPlace t' ↔ t'.newId = t.newId) :=
    fun t' ht' => (hw.newPlace_eq_iff ht (hdone ht')).trans eq_comm
  by_cases hclaimed : ∃ t' ∈ done, t'.newId = t.newId ∧ layout.oldPlace t' ∈ o₀.files
  · -- the place of a user who had a file is occupied, by that file or by what stood there
    obtain ⟨t', ht', hid, hfile⟩ := hclaimed
    have hoccupied : layout.newPlace t ∈ o.files := by
      rw [(hshared t' ht').mpr hid]
      exact h.occupied t' ht' hfile
    exact ⟨fun hfree => absurd hoccupied hfree, fun hnone => absurd hfile (hnone.2 t' ht' hid)⟩
  · -- no earlier task with a file comes to this place, so it is as it was at first
    have hnone : ∀ t' ∈ done, t'.newId = t.newId → layout.oldPlace t' ∉ o₀.files :=
      fun t' ht' hid hfile => hclaimed ⟨t', ht', hid, hfile⟩
    have hsame : o.files[layout.newPlace t]? = o₀.files[layout.newPlace t]? := by
      refine h.others _ fun t' ht' hmoves => hw.apart.new_avoids ht (hdone ht') fun heq => ?_
      exact hnone t' ht' ((hshared t' ht').mp heq) hmoves.1
    rw [MemoryObjects.mem_files_congr hsame]
    exact ⟨fun hfree => ⟨hfree, hnone⟩, And.left⟩

variable (hbefore : ∀ t' ∈ done, t'.legacyId < t.legacyId)

include hbefore

/-- The file of the next task is as it was at first. -/
theorem FilesMoved.old_eq : o.files[layout.oldPlace t]? = o₀.files[layout.oldPlace t]? := by
  refine h.others _ fun t' ht' _ => hw.apart.old_avoids ht (hdone ht') ?_
  rintro rfl
  exact lt_irrefl _ (hbefore t ht')

theorem FilesMoved.old_mem_iff_first :
    layout.oldPlace t ∈ o.files ↔ layout.oldPlace t ∈ o₀.files :=
  MemoryObjects.mem_files_congr (h.old_eq hw hdone ht hbefore)

/-- The next task is one to move if it is not settled when the run comes to it. -/
theorem FilesMoved.moves_iff : layout.Moves (done ++ [t]) o₀ t ↔ ¬ layout.Settled o t := by
  rw [Layout.moves_append_self hbefore, Layout.Settled, not_or, not_not,
    h.old_mem_iff_first hw hdone ht hbefore, h.new_free_iff hw hdone ht]

/-- A settled task changes nothing, and it is not one to move. -/
theorem FilesMoved.next_of_settled (hall : done ++ [t] ⊆ tasks) (hsettled : layout.Settled o t) :
    FilesMoved layout (done ++ [t]) o₀ o := by
  have hstays : ¬ layout.Moves (done ++ [t]) o₀ t := fun hm =>
    (h.moves_iff hw hdone ht hbefore).mp hm hsettled
  refine .of_others hw.apart hall (fun t' hmem hm => ?_) (fun t' hmem hfile => ?_)
    (fun place hplace => ?_)
  · rcases List.mem_append.mp hmem with hearlier | hlast
    · exact h.moved t' hearlier ((Layout.moves_append_of_mem hbefore hearlier).mp hm)
    · obtain rfl := List.mem_singleton.mp hlast
      exact absurd hm hstays
  · rcases List.mem_append.mp hmem with hearlier | hlast
    · exact h.occupied t' hearlier hfile
    · obtain rfl := List.mem_singleton.mp hlast
      have hheld := (h.old_mem_iff_first hw hdone ht hbefore).mpr hfile
      exact hsettled.resolve_left (not_not.mpr hheld)
  · refine h.others place fun t' hearlier hm => ?_
    exact hplace t' (List.mem_append_left _ hearlier)
      ((Layout.moves_append_of_mem hbefore hearlier).mpr hm)

/-- A file that is moved to a free place comes to the places of its task alone. -/
theorem FilesMoved.next_of_free (hall : done ++ [t] ⊆ tasks)
    (hold : o.files[layout.oldPlace t]? = some data)
    (hfree : o.files[layout.newPlace t]? = none)
    (hmoves : layout.Moves (done ++ [t]) o₀ t) :
    FilesMoved layout (done ++ [t]) o₀ (layout.moved t data o) := by
  have hapart := hw.apart
  refine .of_others hapart hall (fun t' hmem hm data' hfirst => ?_) (fun t' hmem hfile => ?_)
    (fun place hplace => ?_)
  · rcases List.mem_append.mp hmem with hearlier | hlast
    · have ht' : t' ∈ tasks := hdone hearlier
      have hother : t' ≠ t := by
        rintro rfl
        exact lt_irrefl _ (hbefore t' hearlier)
      obtain ⟨hgone, hbackup, hnew⟩ :=
        h.moved t' hearlier ((Layout.moves_append_of_mem hbefore hearlier).mp hm) data' hfirst
      -- the free place is not the one that holds the file of the other task
      have hotherNew : layout.newPlace t' ≠ layout.newPlace t := by
        intro heq
        rw [heq, hfree] at hnew
        contradiction
      rw [Layout.files_moved_of_avoids (hapart.old_avoids ht' ht hother),
        Layout.files_moved_of_avoids (hapart.backup_avoids ht' ht hother),
        Layout.files_moved_of_avoids (hapart.new_avoids ht' ht hotherNew)]
      exact ⟨hgone, hbackup, hnew⟩
    · obtain rfl := List.mem_singleton.mp hlast
      rw [← h.old_eq hw hdone ht hbefore, hold] at hfirst
      rw [hapart.moved_old ht ht, hapart.moved_backup ht ht, hapart.moved_new ht ht, if_pos rfl,
        if_pos rfl, if_pos rfl]
      exact ⟨rfl, hfirst, hfirst⟩
  · rw [Std.ExtTreeMap.mem_iff_isSome_getElem?, hapart.moved_new ht (hall hmem)]
    split
    · rfl
    · rename_i hother
      rcases List.mem_append.mp hmem with hearlier | hlast
      · exact Std.ExtTreeMap.mem_iff_isSome_getElem?.mp (h.occupied t' hearlier hfile)
      · obtain rfl := List.mem_singleton.mp hlast
        exact absurd rfl hother
  · rw [Layout.files_moved_of_avoids
      (hplace t (List.mem_append_right _ List.mem_cons_self) hmoves)]
    refine h.others place fun t' hearlier hm => ?_
    exact hplace t' (List.mem_append_left _ hearlier)
      ((Layout.moves_append_of_mem hbefore hearlier).mpr hm)

theorem FilesMoved.next : FilesMoved layout (done ++ [t]) o₀ (layout.relocated o t) := by
  have hall : done ++ [t] ⊆ tasks :=
    List.append_subset.mpr ⟨hdone, List.cons_subset.mpr ⟨ht, List.nil_subset _⟩⟩
  by_cases hsettled : layout.Settled o t
  · rw [Layout.relocated_of_settled hsettled]
    exact h.next_of_settled hw hdone ht hbefore hall hsettled
  · obtain ⟨data, hold, hfree, hmoved⟩ := Layout.relocated_of_unsettled hsettled
    rw [hmoved]
    exact h.next_of_free hw hdone ht hbefore hall hold hfree
      ((h.moves_iff hw hdone ht hbefore).mpr hsettled)

/-- The next task counts as the objects say at that time. -/
theorem FilesMoved.fileSummary_next :
    layout.fileSummary (done ++ [t]) o₀ = layout.counted o (layout.fileSummary done o₀) t := by
  have hearlier : ∀ t' ∈ done,
      (layout.Moves (done ++ [t]) o₀ t' ↔ layout.Moves done o₀ t') :=
    fun t' ht' => Layout.moves_append_of_mem hbefore ht'
  have hsuccess : done.countP (fun t' => layout.Moves (done ++ [t]) o₀ t') =
      done.countP fun t' => layout.Moves done o₀ t' :=
    List.countP_congr fun t' ht' => by simp only [decide_eq_true_eq, hearlier t' ht']
  have herrors : done.countP (fun t' => layout.oldPlace t' ∈ o₀.files ∧
      ¬ layout.Moves (done ++ [t]) o₀ t') =
      done.countP fun t' => layout.oldPlace t' ∈ o₀.files ∧ ¬ layout.Moves done o₀ t' :=
    List.countP_congr fun t' ht' => by simp only [decide_eq_true_eq, hearlier t' ht']
  have hold := (h.old_mem_iff_first hw hdone ht hbefore).symm
  have hmoves := h.moves_iff hw hdone ht hbefore
  rw [Layout.Settled, not_or, not_not] at hmoves
  simp only [Layout.fileSummary, List.countP_append, List.countP_singleton, hsuccess, herrors,
    decide_eq_true_eq, hold, hmoves]
  unfold Layout.counted
  by_cases hfile : layout.oldPlace t ∈ o.files
  · by_cases hnew : layout.newPlace t ∈ o.files <;> simp [hfile, hnew]
  · simp [hfile]

end Next

/-- What a run makes of the objects and counts, when tasks come in the order of their legacy
identifiers. -/
theorem Layout.Separates.foldl_advance (hw : layout.Separates tasks)
    (hsorted : (done.map FileTask.legacyId).Pairwise (· < ·)) (hdone : done ⊆ tasks)
    (o₀ : MemoryObjects) :
    FilesMoved layout done o₀ (done.foldl layout.advance (o₀, .start .files)).1 ∧
      (done.foldl layout.advance (o₀, .start .files)).2 = layout.fileSummary done o₀ := by
  induction done using List.reverseRecOn with
  | nil => exact ⟨.nil o₀, rfl⟩
  | append_singleton done t ih =>
    -- the tasks before this one have left their outcome, and this one is the next
    rw [List.map_append, List.pairwise_append] at hsorted
    obtain ⟨hearlier, -, hlast⟩ := hsorted
    obtain ⟨hsub, hself⟩ := List.append_subset.mp hdone
    have ht : t ∈ tasks := hself List.mem_cons_self
    have hbefore : ∀ t' ∈ done, t'.legacyId < t.legacyId := fun t' ht' =>
      hlast _ (List.mem_map_of_mem ht') _ List.mem_cons_self
    obtain ⟨hmoved, hsummary⟩ := ih hearlier hsub
    rw [List.foldl_append, List.foldl_cons, List.foldl_nil, advance, hsummary]
    exact ⟨hmoved.next hw hsub ht hbefore, (hmoved.fileSummary_next hw hsub ht hbefore).symm⟩

/-! ## Running again -/

/-- After a run all tasks are settled. -/
theorem FilesMoved.settled (h : FilesMoved layout tasks o₀ o) (ht : t ∈ tasks) :
    layout.Settled o t := by
  by_cases hold : layout.oldPlace t ∈ o₀.files
  · exact .inr (h.occupied t ht hold)
  · have hleft : ¬ layout.Moves tasks o₀ t := fun hm => hold hm.1
    exact .inl (mt (MemoryObjects.mem_files_congr (h.left t ht hleft).1).mp hold)

/-- After a run a file is at an old place exactly when the run has left it there. -/
theorem FilesMoved.old_mem_iff (h : FilesMoved layout tasks o₀ o) (ht : t ∈ tasks) :
    layout.oldPlace t ∈ o.files ↔
      layout.oldPlace t ∈ o₀.files ∧ ¬ layout.Moves tasks o₀ t := by
  by_cases hm : layout.Moves tasks o₀ t
  · have hgone : layout.oldPlace t ∉ o.files := by
      obtain ⟨data, hdata⟩ : ∃ data, o₀.files[layout.oldPlace t]? = some data :=
        ⟨_, Std.ExtTreeMap.getElem?_eq_some_getElem hm.1⟩
      exact MemoryObjects.files_eq_none_iff.mp (h.moved t ht hm data hdata).1
    exact ⟨fun hold => absurd hold hgone, fun hleft => absurd hm hleft.2⟩
  · rw [MemoryObjects.mem_files_congr (h.left t ht hm).1]
    exact ⟨fun hold => ⟨hold, hm⟩, And.left⟩

/-- A second run finds no file to move, and the files that were moved are missing now. -/
theorem FilesMoved.fileSummary_again (h : FilesMoved layout tasks o₀ o) :
    let summary := layout.fileSummary tasks o₀
    layout.fileSummary tasks o =
      { summary with success := 0, skipped := summary.skipped + summary.success } := by
  intro summary
  have hsuccess : (layout.fileSummary tasks o).success = 0 := by
    refine List.countP_eq_zero.mpr fun t ht hm => ?_
    have hmoves : layout.Moves tasks o t := of_decide_eq_true hm
    exact hmoves.unsettled (h.settled ht)
  have herrors : (layout.fileSummary tasks o).errors = summary.errors := by
    refine List.countP_congr fun t ht => ?_
    rw [decide_eq_true_eq, decide_eq_true_eq, ← h.old_mem_iff ht]
    exact ⟨And.left, fun hold => ⟨hold, fun hm => hm.unsettled (h.settled ht)⟩⟩
  have htotal : (layout.fileSummary tasks o).total = summary.total := by
    rw [Layout.total_fileSummary, Layout.total_fileSummary]
  -- all tasks are counted in both runs, so what is moved no more is skipped
  have hskipped : (layout.fileSummary tasks o).skipped = summary.skipped + summary.success := by
    unfold Summary.total at htotal
    omega
  have hfields : ∀ s : Summary,
      s = ⟨s.phase, s.success, s.skipped, s.errors, s.interrupted⟩ := fun _ => rfl
  rw [hfields (layout.fileSummary tasks o), hsuccess, hskipped, herrors]
  rfl

/-! ## Runs -/

theorem MappedUser.isLE_iff (u v : MappedUser) :
    (compare u.legacyId v.legacyId).isLE = true ↔ u.legacyId ≤ v.legacyId :=
  Std.LawfulBCmp.isLE_iff_le

theorem MappedUser.isLE_trans (u v x : MappedUser)
    (huv : (compare u.legacyId v.legacyId).isLE = true)
    (hvx : (compare v.legacyId x.legacyId).isLE = true) :
    (compare u.legacyId x.legacyId).isLE = true := by
  rw [isLE_iff] at huv hvx ⊢
  exact le_trans huv hvx

theorem MappedUser.isLE_total (u v : MappedUser) :
    ((compare u.legacyId v.legacyId).isLE || (compare v.legacyId u.legacyId).isLE) = true := by
  rw [Bool.or_eq_true, isLE_iff, isLE_iff]
  exact le_total u.legacyId v.legacyId

/-- Users are listed in the order of their legacy identifiers. -/
theorem MemoryTables.mappedUsers_sorted (s : MemoryTables) :
    s.mappedUsers.Pairwise fun u v => u.legacyId ≤ v.legacyId :=
  (List.pairwise_mergeSort MappedUser.isLE_trans MappedUser.isLE_total _).imp
    fun h => (MappedUser.isLE_iff _ _).mp h

/-- So are their files. -/
theorem World.fileTasks_sorted (hw : layout.Separates (w.fileTasks layout)) :
    ((w.fileTasks layout).map FileTask.legacyId).Pairwise (· < ·) := by
  have hsorted : ((w.fileTasks layout).map FileTask.legacyId).Pairwise (· ≤ ·) := by
    rw [World.fileTasks, List.map_map, List.pairwise_map]
    exact w.store.mappedUsers_sorted
  exact (hsorted.and hw.distinct).imp fun hboth => lt_of_le_of_ne hboth.1 hboth.2

/-- A run in which nothing is made to fail lists the users and relocates their files. -/
theorem FilePhase.listed_of_unfailing {r : Except Failure Summary} {w' : World φ}
    (h : FilePhase False S layout dryRun w r w') :
    ∃ s, r = .ok s ∧ w'.store = w.store ∧
      RelocatesEach False S layout dryRun w.objects (.start .files) (w.fileTasks layout) s
        w'.objects := by
  cases h with
  | unlisted h => exact h.elim
  | listed heach => exact ⟨_, rfl, rfl, heach⟩

namespace FileAttempt

variable {a : FileAttempt φ}

/-- What a run answers: its summary, unless the users cannot be listed. -/
def summary (layout : Layout) (a : FileAttempt φ) (w : World φ) : Except Failure Summary :=
  (relocateFiles (Rehearsal.store a.interference) (Rehearsal.storage a.interference) layout
    a.dryRun (Rehearsal.stopRequested a.interference) (.start { w with mind := a.mind })).1

/-- A real run in which nothing is made to fail; it may be stopped. -/
structure Unfailing (a : FileAttempt φ) : Prop where
  real : a.dryRun = false
  passes : a.interference.Unfailing a.mind

/-- A real run in which nothing is made to fail and that is not stopped. -/
structure Undisturbed (a : FileAttempt φ) : Prop where
  real : a.dryRun = false
  calm : a.interference.Calm a.mind

theorem run_phase {P : φ → Prop} (h : a.interference.Keeps P F S) (hm : P a.mind) :
    FilePhase F S layout a.dryRun { w with mind := a.mind } (a.summary layout w)
      (a.run layout w) := by
  have hend := relocateFiles_ends (w := { w with mind := a.mind }) layout a.dryRun h [] hm
  exact hend.2

theorem Undisturbed.run_eq (ha : a.Undisturbed) (layout : Layout) (w : World φ) :
    ∃ s, a.summary layout w = .ok s ∧ (a.run layout w).store = w.store ∧
      ((a.run layout w).objects, s) =
        (w.fileTasks layout).foldl layout.advance (w.objects, .start .files) := by
  obtain ⟨P, hm, hkeeps⟩ := ha.calm
  obtain ⟨s, hsummary, hstore, heach⟩ := (run_phase hkeeps hm).listed_of_unfailing
  rw [ha.real] at heach
  exact ⟨s, hsummary, hstore, heach.eq_foldl⟩

theorem Unfailing.run_eq (ha : a.Unfailing) (layout : Layout) (w : World φ) :
    (a.run layout w).store = w.store ∧
      ∃ done, done <+: w.fileTasks layout ∧
        (a.run layout w).objects = done.foldl layout.relocated w.objects := by
  obtain ⟨P, hm, hkeeps⟩ := ha.passes
  obtain ⟨s, -, hstore, heach⟩ := (run_phase hkeeps hm).listed_of_unfailing
  rw [ha.real] at heach
  exact ⟨hstore, heach.eq_foldl_prefix⟩

theorem Undisturbed.objects_eq (ha : a.Undisturbed) (layout : Layout) (w : World φ) :
    (a.run layout w).objects = (w.fileTasks layout).foldl layout.relocated w.objects := by
  obtain ⟨s, -, -, hrun⟩ := ha.run_eq layout w
  exact (congrArg Prod.fst hrun).trans (Layout.foldl_advance_fst _)

/-- What a run makes of the objects, and what it answers. -/
theorem Undisturbed.moves (ha : a.Undisturbed) (hw : layout.Separates (w.fileTasks layout)) :
    (a.run layout w).store = w.store ∧
      FilesMoved layout (w.fileTasks layout) w.objects (a.run layout w).objects ∧
      a.summary layout w = .ok (layout.fileSummary (w.fileTasks layout) w.objects) := by
  obtain ⟨s, hsummary, hstore, hrun⟩ := ha.run_eq layout w
  obtain ⟨hmoved, hcount⟩ :=
    hw.foldl_advance (World.fileTasks_sorted hw) (List.Subset.refl _) w.objects
  rw [← hrun] at hmoved hcount
  exact ⟨hstore, hmoved, by rw [hsummary, ← hcount]⟩

/-- Runs that were stopped leave objects of which a run that is not stopped makes what it makes of
the first objects. -/
theorem runAll_resumed (earlier : List (FileAttempt φ)) (hearlier : ∀ a ∈ earlier, a.Unfailing)
    (hapart : layout.Apart (w.fileTasks layout)) :
    (runAll layout earlier w).store = w.store ∧
      (w.fileTasks layout).foldl layout.relocated (runAll layout earlier w).objects =
        (w.fileTasks layout).foldl layout.relocated w.objects := by
  induction earlier generalizing w with
  | nil => exact ⟨rfl, rfl⟩
  | cons a rest ih =>
    obtain ⟨hstore, done, hdone, hrun⟩ := (hearlier a List.mem_cons_self).run_eq layout w
    have htasks : (a.run layout w).fileTasks layout = w.fileTasks layout :=
      World.fileTasks_congr hstore
    have hrest := ih (w := a.run layout w) (fun a ha => hearlier a (List.mem_cons_of_mem _ ha))
      (by rwa [htasks])
    rw [htasks, hstore, hrun, hapart.foldl_resumed hdone] at hrest
    exact hrest

end FileAttempt

/-- What moving files does when nothing fails: for each new identifier whose new place is free, the
first user in the order of legacy identifiers who has a file has it moved, other files are left and
counted as errors, and nothing else changes. A second run changes nothing and counts the moved files
as missing. Runs that were stopped before, however often, make no difference to the objects. -/
theorem relocateFiles_outcome {first again last : FileAttempt φ} (earlier : List (FileAttempt φ))
    (hw : layout.Separates (w.fileTasks layout)) (hfirst : first.Undisturbed)
    (hagain : again.Undisturbed) (hlast : last.Undisturbed)
    (hearlier : ∀ a ∈ earlier, a.Unfailing) :
    let tasks := w.fileTasks layout
    let summary := layout.fileSummary tasks w.objects
    let reached := first.run layout w
    FilesMoved layout tasks w.objects reached.objects ∧ first.summary layout w = .ok summary ∧
      (again.run layout reached).objects = reached.objects ∧
      again.summary layout reached =
        .ok { summary with success := 0, skipped := summary.skipped + summary.success } ∧
      (last.run layout (FileAttempt.runAll layout earlier w)).objects = reached.objects := by
  intro tasks summary reached
  obtain ⟨hstore, hmoved, hsummary⟩ := hfirst.moves hw
  have htasks : reached.fileTasks layout = tasks := World.fileTasks_congr hstore
  obtain ⟨-, -, hanswer⟩ := hagain.moves (w := reached) (by rwa [htasks])
  rw [htasks, hmoved.fileSummary_again] at hanswer
  refine ⟨hmoved, hsummary, ?_, hanswer, ?_⟩
  · rw [hagain.objects_eq, htasks]
    exact Layout.foldl_of_settled fun t ht => hmoved.settled ht
  · obtain ⟨hsame, hresumed⟩ := FileAttempt.runAll_resumed earlier hearlier hw.apart
    rw [hlast.objects_eq, World.fileTasks_congr hsame, hresumed]
    exact (hfirst.objects_eq layout w).symm

open Rehearsal in
/-- Two users share a new identifier and have a file each, and a third user has none. The file of
the first is moved, also if a run was stopped at that move before. -/
theorem relocateFiles_outcome_stage :
    let layout := Layout.standard
    let first := Stage.ada
    let second := Stage.adaAgain
    let third := { Stage.ada with legacyId := "Bob0000000000000000000000001" }
    let newId := MemoryProvider.numberedId 1
    let placed := (MemoryObjects.empty.insert (layout.old "acme" first.legacyId) "1").insert
      (layout.old "globex" second.legacyId) "2"
    let w := Stage.ofMapped [(first, newId), (second, newId), (third, MemoryProvider.numberedId 2)]
      placed
    let full : FileAttempt Script := ⟨Script.interference, .quiet, false⟩
    let stopping : FileAttempt Script :=
      ⟨Script.interference, Script.quiet.stopAfter .objectRename 1, false⟩
    let reached := full.run layout w
    layout.Separates (w.fileTasks layout) ∧ full.Undisturbed ∧ stopping.Unfailing ∧
      full.summary layout w = .ok ⟨.files, 1, 1, 1, false⟩ ∧
      reached.objects.get? (layout.new newId) = some "1" ∧
      reached.objects.get? (layout.backup "acme" first.legacyId) = some "1" ∧
      reached.objects.get? (layout.old "globex" second.legacyId) = some "2" ∧
      (full.run layout reached).objects = reached.objects ∧
      full.summary layout reached = .ok ⟨.files, 0, 2, 1, false⟩ ∧
      (full.run layout (stopping.run layout w)).objects = reached.objects := by
  intro layout first second third newId placed w full stopping reached
  have hmapped : w.store.mappedUsers =
      [⟨first.legacyId, newId, some "acme "⟩, ⟨second.legacyId, newId, some "globex"⟩,
        ⟨third.legacyId, MemoryProvider.numberedId 2, some "acme "⟩] := by
    have hjoined : w.store.legacyUsers.filterMap w.store.mappedUser? =
        [⟨first.legacyId, newId, some "acme "⟩, ⟨second.legacyId, newId, some "globex"⟩,
          ⟨third.legacyId, MemoryProvider.numberedId 2, some "acme "⟩] := by decide +kernel
    rw [MemoryTables.mappedUsers, hjoined]
    exact List.mergeSort_of_pairwise (by decide +kernel)
  have hseparates : layout.Separates (w.fileTasks layout) := by
    rw [World.fileTasks, hmapped]
    exact ⟨by decide, by decide +kernel, by decide +kernel, by decide +kernel⟩
  have hfull : full.Undisturbed := ⟨rfl, Script.calm_quiet⟩
  have hstopping : stopping.Unfailing := ⟨rfl, Script.unfailing rfl⟩
  obtain ⟨-, hsummary, hsame, hagain, hresumed⟩ :=
    relocateFiles_outcome [stopping] hseparates hfull hfull hfull (by simpa using hstopping)
  have hrun := FileAttempt.run_listed layout hmapped (a := full) rfl
  have hevaluated :
      layout.fileSummary (w.fileTasks layout) w.objects = ⟨.files, 1, 1, 1, false⟩ ∧
        reached.objects.get? (layout.new newId) = some "1" ∧
        reached.objects.get? (layout.backup "acme" first.legacyId) = some "1" ∧
        reached.objects.get? (layout.old "globex" second.legacyId) = some "2" := by
    rw [World.fileTasks, hmapped, show reached = full.run layout w from rfl, hrun]
    decide +kernel
  obtain ⟨hcount, hnew, hbackup, hold⟩ := hevaluated
  rw [hcount] at hsummary hagain
  exact ⟨hseparates, hfull, hstopping, hsummary, hnew, hbackup, hold, hsame, hagain, hresumed⟩

end Rekey

import Rekey.Proofs.Files.Safety

/-!
# Settled files

When nothing is made to fail, relocating files is a fold over their tasks. A task is settled once
the run has passed it and stays so, where the places of tasks are apart: a run that was stopped and
begun again passes over what is settled and ends as a run that was not stopped.
-/

namespace Rekey

variable {S : Prop} {layout : Layout} {dryRun : Bool} {tasks done : List FileTask}
  {o o' : MemoryObjects} {s s' : Summary} {t t' : FileTask} {place data : String}

theorem MemoryObjects.files_eq_none_iff : o.files[place]? = none ↔ place ∉ o.files := by
  rw [Std.ExtTreeMap.mem_iff_isSome_getElem?, Option.not_isSome_iff_eq_none]

theorem MemoryObjects.mem_files_of_eq_some (h : o.files[place]? = some data) : place ∈ o.files :=
  Std.ExtTreeMap.mem_iff_isSome_getElem?.mpr (Option.isSome_of_eq_some h)

theorem MemoryObjects.mem_files_congr (h : o.files[place]? = o'.files[place]?) :
    place ∈ o.files ↔ place ∈ o'.files := by
  rw [Std.ExtTreeMap.mem_iff_isSome_getElem?, Std.ExtTreeMap.mem_iff_isSome_getElem?, h]

/-! ## Runs as folds -/

namespace Layout

/-- The objects after the relocation of one file that nothing disturbs. -/
def relocated (layout : Layout) (o : MemoryObjects) (t : FileTask) : MemoryObjects :=
  match o.files[layout.oldPlace t]? with
  | none => o
  | some data => if layout.newPlace t ∈ o.files then o else layout.moved t data o

/-- A summary with one more task, counted by the objects that it meets. -/
def counted (layout : Layout) (o : MemoryObjects) (s : Summary) (t : FileTask) : Summary :=
  if layout.oldPlace t ∉ o.files then { s with skipped := s.skipped + 1 }
  else if layout.newPlace t ∈ o.files then { s with errors := s.errors + 1 }
  else { s with success := s.success + 1 }

/-- The objects and the summary after one more task. -/
def advance (layout : Layout) (p : MemoryObjects × Summary) (t : FileTask) :
    MemoryObjects × Summary :=
  (layout.relocated p.1 t, layout.counted p.1 p.2 t)

/-- Nothing is left to do for a task: there is no file at its old place, or there is an object at
its new place. -/
def Settled (layout : Layout) (o : MemoryObjects) (t : FileTask) : Prop :=
  layout.oldPlace t ∉ o.files ∨ layout.newPlace t ∈ o.files

instance (layout : Layout) (o : MemoryObjects) (t : FileTask) : Decidable (layout.Settled o t) :=
  inferInstanceAs (Decidable (_ ∨ _))

theorem foldl_advance_fst (p : MemoryObjects × Summary) :
    (tasks.foldl layout.advance p).1 = tasks.foldl layout.relocated p.1 := by
  induction tasks generalizing p with
  | nil => rfl
  | cons t rest ih => rw [List.foldl_cons, List.foldl_cons, ih, advance]

theorem relocated_of_settled (h : layout.Settled o t) : layout.relocated o t = o := by
  unfold relocated
  rcases h with hgone | hoccupied
  · rw [Std.ExtTreeMap.getElem?_eq_none hgone]
  · split
    · rfl
    · exact if_pos hoccupied

/-- A task that is not settled has a file and a free new place, and its file is moved. -/
theorem relocated_of_unsettled (h : ¬ layout.Settled o t) :
    ∃ data, o.files[layout.oldPlace t]? = some data ∧ o.files[layout.newPlace t]? = none ∧
      layout.relocated o t = layout.moved t data o := by
  obtain ⟨hold, hnew⟩ := not_or.mp h
  obtain ⟨data, hdata⟩ : ∃ data, o.files[layout.oldPlace t]? = some data :=
    ⟨_, Std.ExtTreeMap.getElem?_eq_some_getElem (not_not.mp hold)⟩
  refine ⟨data, hdata, Std.ExtTreeMap.getElem?_eq_none hnew, ?_⟩
  rw [relocated, hdata]
  exact if_neg hnew

end Layout

/-- When nothing is made to fail, a task counts by the objects that it meets, in a dry run too. -/
theorem Relocates.eq_counted {r : Except Failure FileResult}
    (h : Relocates False layout dryRun o t r o') : s.countFile r = layout.counted o s t := by
  have hheld : ∀ {data : String}, o.files[layout.oldPlace t]? = some data →
      ¬ layout.oldPlace t ∉ o.files :=
    fun hdata => not_not.mpr (MemoryObjects.mem_files_of_eq_some hdata)
  unfold Layout.counted
  cases h with
  | unseen h => exact h.elim
  | missing hold =>
    rw [if_pos (MemoryObjects.files_eq_none_iff.mp hold)]
    rfl
  | occupied hold hnew =>
    rw [if_neg (hheld hold), if_pos hnew]
    rfl
  | wouldMove _ hold hnew =>
    rw [if_neg (hheld hold), if_neg hnew]
    rfl
  | uncopied h _ _ _ => exact h.elim
  | unmoved h _ _ _ => exact h.elim
  | moved _ hold hnew =>
    rw [if_neg (hheld hold), if_neg hnew]
    rfl

/-- The relocation of one file that nothing disturbs. -/
theorem Relocates.eq_relocated {r : Except Failure FileResult}
    (h : Relocates False layout false o t r o') : o' = layout.relocated o t := by
  cases h with
  | unseen h => exact h.elim
  | missing hold =>
    exact (Layout.relocated_of_settled (.inl (MemoryObjects.files_eq_none_iff.mp hold))).symm
  | occupied _ hnew => exact (Layout.relocated_of_settled (.inr hnew)).symm
  | wouldMove hdry _ _ => contradiction
  | uncopied h _ _ _ => exact h.elim
  | unmoved h _ _ _ => exact h.elim
  | moved _ hold hnew =>
    rw [Layout.relocated, hold]
    exact (if_neg hnew).symm

/-- A run that nothing fails and nothing stops. -/
theorem RelocatesEach.eq_foldl (h : RelocatesEach False False layout false o s tasks s' o') :
    (o', s') = tasks.foldl layout.advance (o, s) := by
  induction h with
  | finished => rfl
  | stopped h => exact h.elim
  | next hone _ ih =>
    rw [ih, List.foldl_cons, Layout.advance, hone.eq_relocated, hone.eq_counted]

/-- A run that nothing fails relocates the files of the first tasks. -/
theorem RelocatesEach.eq_foldl_prefix (h : RelocatesEach False S layout false o s tasks s' o') :
    ∃ done, done <+: tasks ∧ o' = done.foldl layout.relocated o := by
  induction h with
  | finished => exact ⟨[], List.nil_prefix, rfl⟩
  | stopped _ => exact ⟨[], List.nil_prefix, rfl⟩
  | @next _ _ _ _ _ t _ _ hone _ ih =>
    obtain ⟨done, hprefix, rfl⟩ := ih
    rw [hone.eq_relocated]
    exact ⟨t :: done, List.cons_prefix_cons.mpr ⟨rfl, hprefix⟩, rfl⟩

/-! ## Settled tasks -/

namespace Layout

/-- A task that was passed is settled. -/
theorem Apart.settled_relocated (hapart : layout.Apart tasks) (ht : t ∈ tasks) :
    layout.Settled (layout.relocated o t) t := by
  by_cases hsettled : layout.Settled o t
  · rwa [relocated_of_settled hsettled]
  · obtain ⟨data, -, -, hmoved⟩ := relocated_of_unsettled hsettled
    refine .inl ?_
    rw [hmoved, ← MemoryObjects.files_eq_none_iff, hapart.moved_old ht ht, if_pos rfl]

/-- A settled task stays settled. -/
theorem Settled.relocated (h : layout.Settled o t) (hapart : layout.Apart tasks) (ht : t ∈ tasks)
    (ht' : t' ∈ tasks) : layout.Settled (layout.relocated o t') t := by
  by_cases hsettled : layout.Settled o t'
  · rwa [relocated_of_settled hsettled]
  · obtain ⟨data, -, -, hmoved⟩ := relocated_of_unsettled hsettled
    rw [hmoved]
    rcases h with hgone | hoccupied
    · left
      rw [← MemoryObjects.files_eq_none_iff, hapart.moved_old ht' ht]
      split
      · rfl
      · exact Std.ExtTreeMap.getElem?_eq_none hgone
    · right
      rw [Std.ExtTreeMap.mem_iff_isSome_getElem?, hapart.moved_new ht' ht]
      split
      · rfl
      · exact Std.ExtTreeMap.mem_iff_isSome_getElem?.mp hoccupied

theorem Settled.foldl (h : layout.Settled o t) (hapart : layout.Apart tasks) (ht : t ∈ tasks)
    (hdone : done ⊆ tasks) : layout.Settled (done.foldl layout.relocated o) t := by
  induction done generalizing o with
  | nil => exact h
  | cons t' rest ih =>
    have ht' : t' ∈ tasks := hdone List.mem_cons_self
    exact ih (h.relocated hapart ht ht') fun _ hmem => hdone (List.mem_cons_of_mem _ hmem)

/-- All tasks that a run has passed are settled. -/
theorem Apart.settled_foldl (hapart : layout.Apart tasks) (hdone : done ⊆ tasks) (ht : t ∈ done) :
    layout.Settled (done.foldl layout.relocated o) t := by
  induction done generalizing o with
  | nil => contradiction
  | cons t' rest ih =>
    have ht' : t' ∈ tasks := hdone List.mem_cons_self
    have hrest : rest ⊆ tasks := fun _ hmem => hdone (List.mem_cons_of_mem _ hmem)
    rcases List.mem_cons.mp ht with rfl | hmem
    · exact (hapart.settled_relocated ht').foldl hapart ht' hrest
    · exact ih hrest hmem

/-- Where all tasks are settled nothing changes. -/
theorem foldl_of_settled (h : ∀ t ∈ tasks, layout.Settled o t) :
    tasks.foldl layout.relocated o = o := by
  induction tasks with
  | nil => rfl
  | cons t rest ih =>
    rw [List.foldl_cons, relocated_of_settled (h t List.mem_cons_self)]
    exact ih fun t' ht' => h t' (List.mem_cons_of_mem _ ht')

/-- A run after one that was stopped ends where a run that was not stopped ends. -/
theorem Apart.foldl_resumed (hapart : layout.Apart tasks) (hdone : done <+: tasks) :
    tasks.foldl layout.relocated (done.foldl layout.relocated o) =
      tasks.foldl layout.relocated o := by
  obtain ⟨rest, rfl⟩ := hdone
  -- the second run passes over the tasks of the first and meets the others where that stopped
  have hsettled : ∀ t ∈ done, layout.Settled (done.foldl layout.relocated o) t := fun _ ht =>
    hapart.settled_foldl (List.subset_append_left done rest) ht
  rw [List.foldl_append, List.foldl_append, foldl_of_settled hsettled]

end Layout

end Rekey

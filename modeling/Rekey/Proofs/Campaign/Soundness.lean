import Rekey.Migration.Campaign
import Rekey.Proofs.Users.Soundness

/-!
# Campaigns are sound

Every operation of a campaign keeps a consistent store consistent and takes nothing away from it,
and no user of it meets a duplicate key. So does every sequence of operations, whatever happens to
the rest of the world between them.
-/

namespace Rekey

variable {φ : Type} {i : Interference φ}

/-! ## The phases that leave the records alone -/

section Columns

variable {stop : StateM (World φ) Bool} {dryRun : Bool} {index : MappingIndex}

theorem replaceInRows_advances (hstop : Spares stop) (d : Descriptor) (report : ColumnReport)
    (rows : List ScannedRow) :
    Along Advances (replaceInRows (Rehearsal.store i) stop dryRun index d report rows) := by
  induction rows generalizing report with
  | nil => exact .pure
  | cons row rest ih =>
    unfold replaceInRows
    refine .bind (advances_call hstop) fun stopped => ?_
    split
    · exact .pure
    split
    · exact ih _
    · split
      · exact .bind (advances_tell rfl) fun _ => ih _
      · refine .bind (advances_call Rehearsal.spares_update) fun written => ?_
        split
        · exact ih _
        · exact .bind (advances_tell rfl) fun _ => ih _

theorem replaceInColumn_advances (hstop : Spares stop) (d : Descriptor) :
    Along Advances (replaceInColumn (Rehearsal.store i) stop dryRun index d) := by
  unfold replaceInColumn
  refine .bind (advances_call Rehearsal.spares_scan) fun scanned => ?_
  split
  · exact .bind (advances_tell rfl) fun _ => .pure
  · exact .bind (replaceInRows_advances hstop _ _ _) fun _ =>
      .bind (advances_tell rfl) fun _ => .pure

theorem replaceInEach_advances (hstop : Spares stop) (report : ReplacementReport)
    (ds : List Descriptor) :
    Along Advances (replaceInEach (Rehearsal.store i) stop dryRun index report ds) := by
  induction ds generalizing report with
  | nil => exact .pure
  | cons d rest ih =>
    unfold replaceInEach
    refine .bind (advances_call hstop) fun stopped => ?_
    split
    · exact .pure
    · refine .bind (replaceInColumn_advances hstop d) fun r => ?_
      refine .bind (advances_call hstop) fun stopped => ?_
      split
      · exact .pure
      · exact ih _

theorem replaceInColumns_advances (hstop : Spares stop) (ds : List Descriptor) :
    Along Advances (replaceInColumns (Rehearsal.store i) stop dryRun index ds) := by
  unfold replaceInColumns
  refine .bind (advances_tell rfl) fun _ => .bind (replaceInEach_advances hstop _ ds) ?_
  intro report
  dsimp only
  split
  · exact .bind (advances_tell rfl) fun _ => .bind (advances_tell rfl) fun _ => .pure
  · exact .bind (advances_tell rfl) fun _ => .pure

theorem loadIndex_advances : Along Advances (loadIndex (Rehearsal.store i)) := by
  unfold loadIndex
  refine .bind (advances_call Rehearsal.spares_mappingsByAge) fun listed => ?_
  split
  · exact .pure
  · exact .bind (advances_tell rfl) fun _ => .pure

end Columns

section Files

variable {storage : ObjectStorage (World φ)} {layout : Layout} {dryRun : Bool}

theorem moveFile_advances (hs : storage.IsSparing) (task : FileTask) (old backup new : String) :
    Along Advances (moveFile storage task old backup new) := by
  unfold moveFile
  refine .bind (advances_call (hs.copy _ _)) fun copied => ?_
  split
  · exact .pure
  · refine .bind (advances_call (hs.move _ _)) fun moved => ?_
    split
    · exact .pure
    · exact .bind (advances_tell rfl) fun _ => .pure

theorem relocateFile_advances (hs : storage.IsSparing) (task : FileTask) :
    Along Advances (relocateFile storage layout dryRun task) := by
  unfold relocateFile
  dsimp only
  refine .bind (advances_call (hs.contains _)) fun found => ?_
  split
  · exact .pure
  · exact .bind (advances_tell rfl) fun _ => .pure
  · refine .bind (advances_call (hs.contains _)) fun occupied => ?_
    split
    · exact .pure
    · exact .pure
    · split
      · exact .bind (advances_tell rfl) fun _ => .pure
      · exact moveFile_advances hs task _ _ _

theorem relocateEach_advances (hs : storage.IsSparing) {stop : StateM (World φ) Bool}
    (hstop : Spares stop) (total : Nat) (s : Summary) (tasks : List FileTask) :
    Along Advances (relocateEach storage layout dryRun stop total s tasks) := by
  induction tasks generalizing s with
  | nil => exact .pure
  | cons task rest ih =>
    unfold relocateEach
    refine .bind (advances_call hstop) fun stopped => ?_
    split
    · exact .bind (advances_tell rfl) fun _ => .pure
    · refine .bind (relocateFile_advances hs task) fun res => .bind ?_ fun _ => ih _
      unfold tellFile
      split
      · exact .pure
      · exact advances_tell rfl

theorem relocateFiles_advances (hs : storage.IsSparing) {stop : StateM (World φ) Bool}
    (hstop : Spares stop) :
    Along Advances (relocateFiles (Rehearsal.store i) storage layout dryRun stop) := by
  unfold relocateFiles fileTasks
  refine .bind (.bind (advances_call Rehearsal.spares_mappedUsers) fun listed => ?_) ?_
  · split <;> exact .pure
  · intro tasks
    split
    · exact .pure
    · exact .bind (advances_tell rfl) fun _ => .bind (relocateEach_advances hs hstop _ _ _)
        fun _ => .bind (advances_tell rfl) fun _ => .pure

end Files

/-! ## Campaigns -/

/-- A campaign over the store of a rehearsal. Its other collaborators may be anything that leaves
the records of the store alone. -/
structure Serves (i : Interference φ) (c : Campaign (World φ) Transaction) : Prop where
  store : c.store = Rehearsal.store i
  provider : ∀ p, c.provider = some p → p.IsSparing
  storage : ∀ s, c.storage = some s → s.IsSparing
  stopRequested : Spares c.stopRequested

namespace Serves

variable {c : Campaign (World φ) Transaction}

theorem setUp_advances (hc : Serves i c) : Along Advances c.setUp := by
  unfold Campaign.setUp
  split
  · exact .pure
  rw [hc.store]
  refine .bind (advances_call Rehearsal.spares_prepareMappings) fun prepared => ?_
  split
  · exact .pure
  · exact .bind (advances_tell rfl) fun _ => .pure

theorem isSparing_of_provider? (hc : Serves i c) {p : Provider (World φ)}
    (hp : c.provider? = .ok p) : p.IsSparing := by
  unfold Campaign.provider? at hp
  split at hp
  · split at hp
    · rename_i p' hsome
      obtain rfl := Except.ok.inj hp
      exact hc.provider _ hsome
    · contradiction
  · contradiction

theorem isSparing_of_storage? (hc : Serves i c) {s : ObjectStorage (World φ)}
    (hs : c.storage? = .ok s) : s.IsSparing := by
  unfold Campaign.storage? at hs
  split at hs
  · split at hs
    · rename_i s' hsome
      obtain rfl := Except.ok.inj hs
      exact hc.storage _ hsome
    · contradiction
  · contradiction

theorem migrateUsers_advances (hc : Serves i c) : Along Advances c.migrateUsers := by
  unfold Campaign.migrateUsers
  split
  · exact .pure
  · rename_i p hp
    rw [hc.store]
    exact Rekey.migrateUsers_advances (hc.isSparing_of_provider? hp) hc.stopRequested

/-- One user is migrated without a duplicate key, and the run stays sound. -/
theorem migrateById_sound (hc : Serves i c) (legacyId : String) {r : Run (World φ)}
    (hr : Sound r) :
    Ends (c.migrateById legacyId) r fun res r' =>
      (Sound r' ∧ r.world.store.Grows r'.world.store) ∧ MeetsNoDuplicate res := by
  unfold Campaign.migrateById
  cases hp : c.provider? with
  | error f =>
    refine ⟨⟨hr, .refl r.world.store⟩, meetsNoDuplicate_error ?_⟩
    unfold Campaign.provider? at hp
    split at hp
    · split at hp
      · contradiction
      · obtain rfl := Except.error.inj hp
        rfl
    · obtain rfl := Except.error.inj hp
      rfl
  | ok p =>
    dsimp only
    rw [hc.store]
    exact Rekey.migrateById_sound (hc.isSparing_of_provider? hp) legacyId hr

theorem migrateById_advances (hc : Serves i c) (legacyId : String) :
    Along Advances (c.migrateById legacyId) :=
  fun _ hr => (hc.migrateById_sound legacyId hr).1

theorem lookup_advances (hc : Serves i c) (identifier : String) :
    Along Advances (c.lookup identifier) := by
  unfold Campaign.lookup
  split
  · rw [hc.store]
    refine .bind (advances_call Rehearsal.spares_latestMapping) fun found => ?_
    split <;> exact .pure
  · exact .pure

theorem list_advances (hc : Serves i c) : Along Advances c.list := by
  unfold Campaign.list
  split
  · rw [hc.store]
    refine .bind (advances_call Rehearsal.spares_mappingsByAge) fun listed => ?_
    split <;> exact .pure
  · exact .pure

theorem replaceKeys_advances (hc : Serves i c) (ds : List Descriptor) :
    Along Advances (c.replaceKeys ds) := by
  unfold Campaign.replaceKeys
  split
  · rw [hc.store]
    refine .bind loadIndex_advances fun index => ?_
    split
    · exact .pure
    · exact .bind (replaceInColumns_advances hc.stopRequested ds) fun _ => .pure
  · exact .pure

theorem relocateFiles_advances (hc : Serves i c) : Along Advances c.relocateFiles := by
  unfold Campaign.relocateFiles
  split
  · exact .pure
  · rename_i s hs
    rw [hc.store]
    exact Rekey.relocateFiles_advances (hc.isSparing_of_storage? hs) hc.stopRequested

/-- Every operation of a campaign is sound. -/
theorem perform_advances (hc : Serves i c) (o : Operation) : Along Advances (c.perform o) := by
  cases o with
  | setUp => exact .bind hc.setUp_advances fun _ => .pure
  | migrateUsers => exact .bind hc.migrateUsers_advances fun _ => .pure
  | migrateById legacyId => exact .bind (hc.migrateById_advances legacyId) fun _ => .pure
  | lookup identifier => exact .bind (hc.lookup_advances identifier) fun _ => .pure
  | list => exact .bind hc.list_advances fun _ => .pure
  | replaceKeys ds => exact .bind (hc.replaceKeys_advances ds) fun _ => .pure
  | relocateFiles => exact .bind hc.relocateFiles_advances fun _ => .pure

end Serves

end Rekey

import Rekey.Proofs.Campaign.Rehearsed
import Rekey.Proofs.Files.Outcome

/-!
# The order of the old table does not matter

Both phases list their users in an order of their own: by age and identifier, and by identifier
alone. Where no two of the users added share an identifier such an order leaves no choice, so two
worlds that differ only in the order in which users were added to the old system stay so, step by
step, and every answer in them is the same. New identities, first writers and first claimants are
then the same as well.
-/

namespace Rekey

variable {φ α : Type} {i : Interference φ} {c : Campaign (World φ) Transaction}
  {users users' : List LegacyUser}

/-! ## Stable sorting -/

section Sorting

variable {γ : Type} {le : γ → γ → Bool} {l l' : List γ}

/-- An element in front of a list is sorted in before all that it may precede. -/
theorem mergeSort_cons_filter (htrans : ∀ a b c, le a b = true → le b c = true → le a c = true)
    (htotal : ∀ a b, (le a b || le b a) = true) (a : γ) (l : List γ) :
    (a :: l).mergeSort le =
      (l.mergeSort le).filter (!le a ·) ++ a :: (l.mergeSort le).filter (le a ·) := by
  obtain ⟨before, after, hsorted, hrest, hbefore⟩ := List.mergeSort_cons htrans htotal a l
  have hpairs := List.pairwise_mergeSort htrans htotal (a :: l)
  rw [hsorted] at hpairs
  have hafter : ∀ b ∈ after, le a b = true :=
    (List.pairwise_cons.mp (List.pairwise_append.mp hpairs).2.1).1
  have hfirst : (before ++ after).filter (!le a ·) = before := by
    rw [List.filter_append, List.filter_eq_self.mpr hbefore,
      List.filter_eq_nil_iff.mpr fun b hb => by simp [hafter b hb], List.append_nil]
  have hsecond : (before ++ after).filter (le a ·) = after := by
    rw [List.filter_append, List.filter_eq_self.mpr hafter,
      List.filter_eq_nil_iff.mpr fun b hb => by simpa using hbefore b hb, List.nil_append]
  rw [hsorted, hrest, hfirst, hsecond]

/-- Sorting forgets in which order a part of the list was added, where the sorting order tells the
elements of this part apart. -/
theorem mergeSort_append_perm (htrans : ∀ a b c, le a b = true → le b c = true → le a c = true)
    (htotal : ∀ a b, (le a b || le b a) = true)
    (hantisymm : ∀ a ∈ l, ∀ b ∈ l, le a b = true → le b a = true → a = b) (hperm : l.Perm l')
    (base : List γ) : (base ++ l).mergeSort le = (base ++ l').mergeSort le := by
  induction base with
  | nil =>
    have hsorted := List.mergeSort_perm l le
    have hsorted' := List.mergeSort_perm l' le
    refine List.Perm.eq_of_pairwise (fun a b ha hb => ?_)
      (List.pairwise_mergeSort htrans htotal l) (List.pairwise_mergeSort htrans htotal l')
      ((hsorted.trans hperm).trans hsorted'.symm)
    exact hantisymm a (hsorted.mem_iff.mp ha) b (hperm.mem_iff.mpr (hsorted'.mem_iff.mp hb))
  | cons a rest ih =>
    rw [List.cons_append, List.cons_append, mergeSort_cons_filter htrans htotal,
      mergeSort_cons_filter htrans htotal, ih]

end Sorting

/-! ## Reordered tables -/

/-- Of two users neither of whom comes after the other the identifiers are the same. -/
theorem LegacyUser.legacyId_eq_of_le {u v : LegacyUser} (huv : le u v = true)
    (hvu : le v u = true) : u.legacyId = v.legacyId := by
  have hfirst : (cmp u v).isLE = true := huv
  have hsecond : (cmp v u).isLE = true := hvu
  have heq : cmp u v = .eq := Std.OrientedCmp.isLE_antisymm hfirst hsecond
  have hids : compare u.legacyId v.legacyId = .eq := (Ordering.then_eq_eq.mp heq).2
  exact Std.LawfulEqOrd.eq_of_compare hids

/-- Where no two users share an identifier the order of the list does not matter to a search. -/
theorem find?_legacyId_perm (hperm : users.Perm users')
    (hids : (users.map LegacyUser.legacyId).Nodup) (legacyId : String) :
    users.find? (·.legacyId == legacyId) = users'.find? (·.legacyId == legacyId) := by
  cases hfound : users.find? (·.legacyId == legacyId) with
  | none =>
    refine (List.find?_eq_none.mpr fun u hu => ?_).symm
    exact List.find?_eq_none.mp hfound u (hperm.mem_iff.mpr hu)
  | some u =>
    have hids' : (users'.map LegacyUser.legacyId).Nodup :=
      (hperm.map LegacyUser.legacyId).nodup_iff.mp hids
    have hid : u.legacyId = legacyId := by simpa using List.find?_some hfound
    have hu : u ∈ users' := hperm.mem_iff.mp (List.mem_of_find?_eq_some hfound)
    subst hid
    exact (MemoryTables.legacyUserById_of_mem
      (s := { MemoryTables.empty with legacyUsers := users' }) hu hids').symm

namespace MemoryTables

/-- The same tables, but for the order of those users of the old system that were added last. No two
of these share an identifier. -/
inductive Reordered (s : MemoryTables) : MemoryTables → Prop
  | of_perm {base users users' : List LegacyUser} (hadded : s.legacyUsers = base ++ users)
      (hperm : users.Perm users') (hids : (users.map LegacyUser.legacyId).Nodup) :
      Reordered s { s with legacyUsers := base ++ users' }

variable {s s' : MemoryTables}

/-- Users are listed by age and identifier, whatever the order in which they were added. -/
theorem Reordered.legacyUsersByAge_eq (h : s.Reordered s') :
    s.legacyUsersByAge = s'.legacyUsersByAge := by
  cases h with
  | @of_perm base users users' hadded hperm hids =>
    unfold legacyUsersByAge
    rw [hadded]
    refine mergeSort_append_perm LegacyUser.le_trans LegacyUser.le_total
      (fun u hu v hv huv hvu => ?_) hperm base
    exact List.inj_on_of_nodup_map hids hu hv (LegacyUser.legacyId_eq_of_le huv hvu)

theorem mappedUser?_eq_some {u : LegacyUser} {m : MappedUser} (h : s.mappedUser? u = some m) :
    m.legacyId = u.legacyId := by
  obtain ⟨_, -, rfl⟩ := Option.map_eq_some_iff.mp h
  rfl

/-- So are those who have a mapping. -/
theorem Reordered.mappedUsers_eq (h : s.Reordered s') : s.mappedUsers = s'.mappedUsers := by
  cases h with
  | @of_perm base users users' hadded hperm hids =>
    show _ = ((base ++ users').filterMap s.mappedUser?).mergeSort _
    unfold mappedUsers
    rw [hadded, List.filterMap_append, List.filterMap_append]
    refine mergeSort_append_perm MappedUser.isLE_trans MappedUser.isLE_total
      (fun m hm n hn hmn hnm => ?_) (hperm.filterMap _) _
    -- both come from the one user with this identifier
    obtain ⟨u, hu, hmapped⟩ := List.mem_filterMap.mp hm
    obtain ⟨v, hv, hmapped'⟩ := List.mem_filterMap.mp hn
    have hid : u.legacyId = v.legacyId := by
      rw [← mappedUser?_eq_some hmapped, ← mappedUser?_eq_some hmapped']
      exact le_antisymm ((MappedUser.isLE_iff m n).mp hmn) ((MappedUser.isLE_iff n m).mp hnm)
    obtain rfl := List.inj_on_of_nodup_map hids hu hv hid
    exact Option.some.inj (hmapped.symm.trans hmapped')

theorem Reordered.legacyUserById_eq (h : s.Reordered s') (legacyId : String) :
    s.legacyUserById legacyId = s'.legacyUserById legacyId := by
  cases h with
  | @of_perm base users users' hadded hperm hids =>
    unfold legacyUserById
    rw [hadded, List.find?_append, List.find?_append, find?_legacyId_perm hperm hids]

theorem commit_reordered (times : Readings) (s : MemoryTables) (users : List LegacyUser)
    (t : Transaction) :
    ({ s with legacyUsers := users } : MemoryTables).commit times t =
      { s.commit times t with legacyUsers := users } := by
  unfold commit
  induction t generalizing s with
  | nil => rfl
  | cons write rest ih =>
    rw [List.foldl_cons, List.foldl_cons, ← ih]
    cases write <;> rfl

theorem Reordered.commit (h : s.Reordered s') (times : Readings) (t : Transaction) :
    (s.commit times t).Reordered (s'.commit times t) := by
  cases h with
  | @of_perm base users users' hadded hperm hids =>
    rw [commit_reordered times s (base ++ users') t]
    exact .of_perm (by rwa [commit_legacyUsers]) hperm hids

theorem update_reordered (s : MemoryTables) (users : List LegacyUser) (d : Descriptor)
    (locator : Locator) (cell : Cell) :
    ({ s with legacyUsers := users } : MemoryTables).update d locator cell =
      (s.update d locator cell).map fun t => { t with legacyUsers := users } := by
  unfold update
  dsimp only
  split
  · rfl
  split
  · rfl
  split <;> rfl

theorem update_legacyUsers {t : MemoryTables} {d : Descriptor} {locator : Locator} {cell : Cell}
    (h : s.update d locator cell = .ok t) : t.legacyUsers = s.legacyUsers := by
  unfold update at h
  split at h
  · contradiction
  split at h
  · contradiction
  split at h
  · contradiction
  · obtain rfl := Except.ok.inj h
    rfl

theorem foldl_addLegacyUser (s : MemoryTables) (users : List LegacyUser) :
    users.foldl addLegacyUser s = { s with legacyUsers := s.legacyUsers ++ users } := by
  induction users generalizing s with
  | nil => simp
  | cons u rest ih => simp [ih, addLegacyUser]

end MemoryTables

/-! ## Reordered worlds -/

/-- Worlds whose stores differ in the order of the users of the old system alone. -/
inductive World.Reordered (w : World φ) : World φ → Prop
  | of_store {s : MemoryTables} (h : w.store.Reordered s) : Reordered w { w with store := s }

section Steps

open Rehearsal

theorem agree_ask_reordered (act : StateM φ α) : Agree World.Reordered (ask act) (ask act) := by
  rintro w _ ⟨h⟩
  exact ⟨rfl, .of_store h⟩

theorem agree_query_reordered {f : MemoryTables → Except StoreFault α}
    (hf : ∀ s s', s.Reordered s' → f s = f s') :
    Agree (World.Reordered (φ := φ)) (query f) (query f) := by
  rintro w _ ⟨h⟩
  exact ⟨hf _ _ h, .of_store h⟩

/-- A question that does not concern the users of the old system. -/
theorem agree_query_blind {f : MemoryTables → Except StoreFault α}
    (hf : ∀ s users, f { s with legacyUsers := users } = f s) :
    Agree (World.Reordered (φ := φ)) (query f) (query f) := by
  refine agree_query_reordered ?_
  rintro s _ ⟨-, -, -⟩
  exact (hf s _).symm

theorem agree_guarded {point : Point} {act : StateM (World φ) (Except StoreFault α)}
    (h : Agree World.Reordered act act) :
    Agree World.Reordered (guarded i point act) (guarded i point act) :=
  agree_hooked (agree_ask_reordered _) h

theorem agree_update_reordered (d : Descriptor) (locator : Locator) (cell : Cell) :
    Agree (World.Reordered (φ := φ)) (change (·.update d locator cell))
      (change (·.update d locator cell)) := by
  rintro w _ ⟨@⟨base, users, users', hadded, hperm, hids⟩⟩
  have hother := MemoryTables.update_reordered w.store (base ++ users') d locator cell
  unfold change
  dsimp only
  rw [hother]
  cases hwritten : w.store.update d locator cell with
  | error e => exact ⟨rfl, .of_store (.of_perm hadded hperm hids)⟩
  | ok t =>
    have hsame := MemoryTables.update_legacyUsers hwritten
    exact ⟨rfl, .of_store (w := { w with store := t })
      (.of_perm (hsame.trans hadded) hperm hids)⟩

theorem agree_commitNow_reordered (t : Transaction) :
    Agree (World.Reordered (φ := φ)) (commitNow t) (commitNow t) := by
  rintro w _ ⟨h⟩
  exact ⟨rfl, .of_store (w := (commitNow t w).2) (h.commit _ t)⟩

theorem store_agrees_reordered (i : Interference φ) :
    (store i).Agrees World.Reordered (store i) where
  beginTransaction := agree_guarded .pure
  putMapping _ _ _ _ := agree_query_blind fun _ _ => rfl
  hasTargetUser _ _ := agree_guarded (agree_query_blind fun _ _ => rfl)
  addTargetUser _ _ := agree_query_blind fun _ _ => rfl
  hasMembership _ _ _ := agree_guarded (agree_query_blind fun _ _ => rfl)
  addMembership _ _ := agree_query_blind fun _ _ => rfl
  commit t := agree_watched (agree_ask_reordered _) (agree_guarded (agree_commitNow_reordered t))
  rollback _ := agree_watched (agree_ask_reordered _) (agree_guarded .pure)

theorem store_agreesOutside_reordered (i : Interference φ) :
    (store i).AgreesOutside World.Reordered (store i) where
  latestMapping _ := agree_guarded (agree_query_blind fun _ _ => rfl)
  mappingsByAge := agree_guarded (agree_query_blind fun _ _ => rfl)
  legacyUsersByAge := agree_guarded
    (agree_query_reordered fun _ _ h => congrArg Except.ok h.legacyUsersByAge_eq)
  legacyUserById legacyId := agree_guarded
    (agree_query_reordered fun _ _ h => congrArg Except.ok (h.legacyUserById_eq legacyId))
  mappedUsers := agree_guarded
    (agree_query_reordered fun _ _ h => congrArg Except.ok h.mappedUsers_eq)
  scan _ := agree_watched (agree_ask_reordered _) (agree_query_blind fun _ _ => rfl)
  update d locator cell :=
    agree_watched (agree_ask_reordered _) (agree_update_reordered d locator cell)

/-- A campaign over all collaborators of a rehearsal does the same in reordered worlds. -/
theorem Conducts.agrees_reordered (hc : Conducts i c) : c.Agrees World.Reordered c where
  transactions := by
    rw [hc.store]
    exact store_agrees_reordered i
  outside := by
    rw [hc.store]
    exact store_agreesOutside_reordered i
  provider := by
    rw [hc.provider]
    refine .some (Rehearsal.provider_agrees ?_ ?_)
    · rintro w _ ⟨h⟩
      rfl
    · rintro w _ p ⟨h⟩
      exact .of_store (w := { w with provider := p }) h
  storage := by
    rw [hc.storage]
    refine .some (storage_agrees (fun _ _ => agree_ask_reordered _)
      (fun _ => agree_ask_reordered _) ?_ ?_)
    · rintro w _ ⟨h⟩
      rfl
    · rintro w _ o ⟨h⟩
      exact .of_store (w := { w with objects := o }) h
  stopRequested := by
    rw [hc.stopRequested]
    exact agree_ask_reordered _
  layout := rfl
  dryRun := rfl
  ready := rfl

end Steps

/-! ## Users added in another order -/

/-- A world with more users of the old system, added in this order. -/
def World.withUsers (w : World φ) (users : List LegacyUser) : World φ :=
  { w with store := users.foldl MemoryTables.addLegacyUser w.store }

theorem World.withUsers_reordered (w : World φ) (hperm : users.Perm users')
    (hids : (users.map LegacyUser.legacyId).Nodup) :
    (w.withUsers users).Reordered (w.withUsers users') := by
  unfold withUsers
  rw [MemoryTables.foldl_addLegacyUser, MemoryTables.foldl_addLegacyUser]
  exact .of_store (.of_perm (s := { w.store with legacyUsers := w.store.legacyUsers ++ users })
    rfl hperm hids)

/-- All users migrated, and then their files moved. -/
def Campaign.migrateAll {σ τ : Type} (c : Campaign σ τ) :
    Action σ (Except Failure Summary × Except Failure Summary) := do
  let users ← c.migrateUsers
  let files ← c.relocateFiles
  pure (users, files)

theorem Campaign.Agrees.migrateAll {σ σ' τ : Type} {W : σ → σ' → Prop}
    {J : List Event → List Event → Prop} {c : Campaign σ τ} {c' : Campaign σ' τ}
    (hJ : JoinsTelling J) (h : c.Agrees W c') :
    Agree (Run.Alike W J) c.migrateAll c'.migrateAll :=
  .bind (h.migrateUsers hJ) fun _ => .bind (h.relocateFiles hJ) fun _ => .pure

/-- Both runs have given the same results, told the same, and left the same mappings with their
times, users of the new system, memberships, identities, objects and clock. -/
structure EndsAlike (first second : (Except Failure Summary × Except Failure Summary) ×
    Run (World φ)) : Prop where
  results : first.1 = second.1
  events : first.2.events = second.2.events
  mappings : first.2.world.store.mappings = second.2.world.store.mappings
  targetUsers : first.2.world.store.targetUsers = second.2.world.store.targetUsers
  memberships : first.2.world.store.memberships = second.2.world.store.memberships
  provider : first.2.world.provider = second.2.world.provider
  objects : first.2.world.objects = second.2.world.objects
  clock : first.2.world.clock = second.2.world.clock

/-- The order in which users with different identifiers were added to the old system makes no
difference to the migration of all users and the move of their files, whatever is made to fail. -/
theorem migrateAll_reordered (hc : Conducts i c) (w : World φ) (hperm : users.Perm users')
    (hids : (users.map LegacyUser.legacyId).Nodup) :
    EndsAlike (c.migrateAll (.start (w.withUsers users)))
      (c.migrateAll (.start (w.withUsers users'))) := by
  obtain ⟨hresults, hworlds, hjournals⟩ :=
    hc.agrees_reordered.migrateAll joinsTelling_eq (.start (w.withUsers users))
      (.start (w.withUsers users')) ⟨w.withUsers_reordered hperm hids, rfl⟩
  generalize c.migrateAll (.start (w.withUsers users)) = first at hresults hworlds hjournals ⊢
  generalize c.migrateAll (.start (w.withUsers users')) = second at hresults hworlds hjournals ⊢
  obtain ⟨results, world, journal⟩ := first
  obtain ⟨results', world', journal'⟩ := second
  obtain ⟨⟨-, -, -⟩⟩ := hworlds
  exact ⟨hresults, congrArg List.reverse hjournals, rfl, rfl, rfl, rfl, rfl, rfl⟩

/-- Where the users can be listed for both phases, they are migrated one after another, and then
their files are moved. -/
theorem Conducts.migrateAll_run (hc : Conducts i c) {w : World φ} {tasks : List FileTask}
    {migrated : Summary × Run (World φ)}
    (hlisted : w.store.legacyUsersByAge = users)
    (hmigrated : migrated = (Attempt.mk i w.mind).batch w users)
    (htasks : migrated.2.world.fileTasks c.layout = tasks)
    (hlists : (i.fails .legacyUsersByAge none w.mind).1 = false)
    (hmaps : (i.fails .mappedUsers none migrated.2.world.mind).1 = false) :
    Ends c.migrateAll (.start w) fun r run =>
      Ends (relocateEach (Rehearsal.storage i) c.layout c.dryRun (Rehearsal.stopRequested i)
          tasks.length (.start .files) tasks)
        ⟨{ migrated.2.world with mind := (i.fails .mappedUsers none migrated.2.world.mind).2 },
          .filesBegun tasks.length c.dryRun :: .usersFinished migrated.1 :: migrated.2.journal⟩
        fun s run' => r = (.ok migrated.1, .ok s) ∧ run.world = run'.world := by
  subst hlisted hmigrated htasks
  unfold Campaign.migrateAll
  rw [hc.migrateUsers_eq, hc.relocateFiles_eq, ends_bind]
  refine (migrateUsers_run hlists []).mono ?_
  rintro _ ⟨_, _⟩ ⟨rfl, rfl, rfl⟩
  rw [ends_bind]
  refine (relocateFiles_run c.layout c.dryRun hmaps _).mono ?_
  rintro _ ⟨_, _⟩ ⟨rfl, rfl, rfl⟩
  exact ⟨rfl, rfl⟩

open Rehearsal in
/-- Two accounts of one person, with a file each; copies of the second one's file always fail. In
either order both become one user, and only the first file is moved. -/
theorem migrateAll_reordered_stage :
    let layout := Layout.standard
    let users := [Stage.ada, Stage.adaAgain]
    let placed := (MemoryObjects.empty.insert (layout.old "acme" Stage.ada.legacyId) "1").insert
      (layout.old "globex" Stage.adaAgain.legacyId) "2"
    let script : Script := { Script.quiet with
      faults := [(.objectCopy, some (layout.backup "globex" Stage.adaAgain.legacyId))] }
    let w : Stage := { Stage.ofUsers [] with objects := placed, mind := script }
    let newId := "user_000000000000000000000001"
    let ended := Stage.campaign.migrateAll (.start (w.withUsers users))
    Conducts Script.interference Stage.campaign ∧ users.Perm users.reverse ∧
      (users.map LegacyUser.legacyId).Nodup ∧
      (w.withUsers users).store.legacyUsers.map LegacyUser.legacyId ≠
        (w.withUsers users.reverse).store.legacyUsers.map LegacyUser.legacyId ∧
      EndsAlike ended (Stage.campaign.migrateAll (.start (w.withUsers users.reverse))) ∧
      ended.1 = (.ok ⟨.users, 2, 0, 0, false⟩, .ok ⟨.files, 1, 0, 1, false⟩) ∧
      (∀ u ∈ users, (ended.2.world.store.mappings[u.legacyId]?).map Mapping.newId = some newId) ∧
      ended.2.world.store.targetUsers.keys = [newId] ∧
      ended.2.world.store.memberships.keys = [⟨newId, "acme"⟩, ⟨newId, "globex"⟩] ∧
      ended.2.world.objects.get? (layout.new newId) = some "1" ∧
      ended.2.world.objects.get? (layout.old "globex" Stage.adaAgain.legacyId) = some "2" := by
  intro layout users placed script w newId ended
  have hc : Conducts Script.interference Stage.campaign := ⟨⟨rfl, rfl, rfl, rfl⟩, rfl⟩
  have hperm : users.Perm users.reverse := (List.reverse_perm users).symm
  have hids : (users.map LegacyUser.legacyId).Nodup := by decide
  have hlisted : (w.withUsers users).store.legacyUsersByAge = users :=
    List.mergeSort_of_pairwise (by decide +kernel)
  -- the world between the phases, and the files that are to be moved in it
  let migrated := (Attempt.mk Script.interference script).batch (w.withUsers users) users
  have htasks : migrated.2.world.fileTasks layout =
      [layout.task ⟨Stage.ada.legacyId, newId, some "acme "⟩,
        layout.task ⟨Stage.adaAgain.legacyId, newId, some "globex"⟩] := by
    have hjoined : migrated.2.world.store.legacyUsers.filterMap
        migrated.2.world.store.mappedUser? =
          [⟨Stage.ada.legacyId, newId, some "acme "⟩,
            ⟨Stage.adaAgain.legacyId, newId, some "globex"⟩] := by decide +kernel
    rw [World.fileTasks, MemoryTables.mappedUsers, hjoined,
      List.mergeSort_of_pairwise (by decide +kernel)]
    rfl
  have hmaps : (Script.interference.fails .mappedUsers none migrated.2.world.mind).1 = false := by
    decide +kernel
  have hmigrated : migrated = (Attempt.mk Script.interference script).batch _ users := rfl
  obtain ⟨hresults, hworld⟩ := hc.migrateAll_run hlisted hmigrated htasks rfl hmaps
  refine ⟨hc, hperm, hids, ?_, migrateAll_reordered hc w hperm hids, ?_⟩
  · decide
  · rw [show ended = Stage.campaign.migrateAll (.start (w.withUsers users)) from rfl, hresults,
      hworld]
    decide +kernel

end Rekey

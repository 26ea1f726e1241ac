import Rekey.Proofs.Users.Pass

/-!
# The result of a migration of all users

What a run that meets no failure and no stop makes of the provider and of each table, said without
the run: by the users who are eligible, in the order of the migration. The first of them to use an
identity writes its row, the first to name a tenant under it the membership, and each its mapping.
-/

namespace Rekey

/-! ## The order of the migration -/

instance : Ord Timestamp := ⟨Timestamp.cmp⟩

instance : Std.TransOrd Timestamp :=
  inferInstanceAs
    (Std.TransCmp (compareLex (compareOn Timestamp.seconds) (compareOn Timestamp.nanos)))

namespace LegacyUser

/-- The comparison of users by age, then by identifier. -/
def cmp : LegacyUser → LegacyUser → Ordering :=
  compareLex (compareOn createdAt) (compareOn legacyId)

instance transCmp : Std.TransCmp cmp :=
  inferInstanceAs (Std.TransCmp (compareLex (compareOn createdAt) (compareOn legacyId)))

theorem le_trans (u v x : LegacyUser) (huv : le u v = true) (hvx : le v x = true) :
    le u x = true := by
  have hfirst : (cmp u v).isLE = true := huv
  have hsecond : (cmp v x).isLE = true := hvx
  exact transCmp.isLE_trans hfirst hsecond

theorem le_total (u v : LegacyUser) : (le u v || le v u) = true := by
  have hswap : cmp u v = (cmp v u).swap := transCmp.eq_swap
  show ((cmp u v).isLE || (cmp v u).isLE) = true
  rw [hswap]
  cases cmp v u <;> rfl

end LegacyUser

theorem MemoryTables.legacyUsersByAge_perm (s : MemoryTables) :
    s.legacyUsersByAge.Perm s.legacyUsers :=
  List.mergeSort_perm s.legacyUsers LegacyUser.le

theorem MemoryTables.legacyUsersByAge_sorted (s : MemoryTables) :
    s.legacyUsersByAge.Pairwise fun u v => LegacyUser.le u v = true :=
  List.pairwise_mergeSort LegacyUser.le_trans LegacyUser.le_total s.legacyUsers

/-! ## Rows and mappings -/

/-- The first element that passes a test, and what becomes of it. -/
theorem findSome?_eq_map_find? {α β : Type} {f : α → Option β} {g : α → β} {p : α → Bool}
    (hf : ∀ a, f a = if p a then some (g a) else none) (l : List α) :
    l.findSome? f = (l.find? p).map g := by
  induction l with
  | nil => rfl
  | cons a rest ih =>
    rw [List.findSome?_cons, List.find?_cons, hf, ih]
    cases p a <;> rfl

namespace MemoryTables

variable {ids : LegacyUser → String} {users : List LegacyUser} {u : LegacyUser}

theorem targetOf_eq (u : LegacyUser) (newId id : String) :
    targetOf u newId id =
      if newId == id then some ⟨id, u.emailKey, u.profile⟩ else none := by
  unfold targetOf
  by_cases h : newId = id
  · subst h
    simp
  · simp [h]

theorem membershipOf_eq (u : LegacyUser) (newId : String) (key : MemberKey) :
    membershipOf u newId key =
      if newId == key.userId && u.tenant == some key.tenantId then
        some (.carriedOver key.userId key.tenantId u) else none := by
  obtain ⟨userId, tenantId⟩ := key
  unfold membershipOf
  cases htenant : u.tenant with
  | none => simp
  | some tenant =>
    by_cases h : newId = userId ∧ tenant = tenantId
    · obtain ⟨rfl, rfl⟩ := h
      simp
    · simp [h]

/-- The mapping of a user whose legacy identifier nobody else has, written at the time of the
user's own commit. -/
theorem enrolAll_mappings {n : Nat} (c : Clock) (s : MemoryTables)
    (hdistinct : (users.map LegacyUser.legacyId).Nodup) (hu : users[n]? = some u) :
    (enrolAll ids c s users).mappings[u.legacyId]? =
      some (mappingAfter (c.after (n + 1)).now u.legacyId u.emailKey (ids u)
        s.mappings[u.legacyId]?) := by
  induction users generalizing c s n with
  | nil => contradiction
  | cons v rest ih =>
    rw [List.map_cons, List.nodup_cons] at hdistinct
    obtain ⟨hfirst, hdistinct⟩ := hdistinct
    show (enrolAll ids c.advance (s.enrol c.advance.now v (ids v)) rest).mappings[u.legacyId]? = _
    cases n with
    | zero =>
      obtain rfl : v = u := by simpa using hu
      have habsent : ∀ x ∈ rest, x.legacyId ≠ v.legacyId := fun x hx hid =>
        hfirst (List.mem_map.mpr ⟨x, hx, hid⟩)
      rw [(enrolled_enrolAll _ _ rest).mappings_of_absent habsent, enrol_mappings, if_pos rfl]
      rfl
    | succ n =>
      have hrest : rest[n]? = some u := by simpa using hu
      have hother : v.legacyId ≠ u.legacyId := fun hid =>
        hfirst (List.mem_map.mpr ⟨u, List.mem_of_getElem? hrest, hid.symm⟩)
      rw [ih _ _ hdistinct hrest, enrol_mappings, if_neg hother]
      rfl

end MemoryTables

/-! ## The result -/

section Result

variable {φ : Type} {w w' : World φ} {users : List LegacyUser}

/-- All of `users`, and nobody else, were migrated from `w` to `w'`, in their order. -/
structure AllMigrated (users : List LegacyUser) (w w' : World φ) : Prop where
  /-- one new identity for each email that was not known, numbered in order -/
  created : w.provider.Created (w.provider.unknownEmails users) w'.provider
  /-- no identity is lost -/
  identities : w.provider.Extends w'.provider
  /-- each user has an identity -/
  resolved : ∀ u ∈ users, w'.provider.Knows u
  /-- a mapping that was there keeps its identifier and times, a new one has the time of its commit -/
  mapped : ∀ (n : Nat) (u : LegacyUser), users[n]? = some u →
    w'.store.mappings[u.legacyId]? =
      let newId := w'.provider.idOf u.emailKey
      let now := (w.clock.after (n + 1)).now
      match w.store.mappings[u.legacyId]? with
      | some m => some { m with email := u.emailKey, newId := newId }
      | none => some ⟨u.legacyId, u.emailKey, newId, now, now⟩
  /-- the mapping of nobody else is touched -/
  unmapped : ∀ legacyId : String, (∀ u ∈ users, u.legacyId ≠ legacyId) →
    w'.store.mappings[legacyId]? = w.store.mappings[legacyId]?
  /-- a row that was there stays, a new one is that of the first user with the identity -/
  targets : ∀ id : String, w'.store.targetUsers[id]? = w.store.targetUsers[id]?.or
    ((users.find? fun u => w'.provider.idOf u.emailKey == id).map fun u =>
      ⟨id, u.emailKey, u.profile⟩)
  /-- a membership that was there stays, a new one is that of the first user with the identity and
  the tenant -/
  memberships : ∀ key : MemberKey, w'.store.memberships[key]? = w.store.memberships[key]?.or
    ((users.find? fun u => w'.provider.idOf u.emailKey == key.userId &&
      u.tenant == some key.tenantId).map fun u => .carriedOver key.userId key.tenantId u)
  /-- nothing else is written -/
  others : w'.store = { w.store with
    mappings := w'.store.mappings
    targetUsers := w'.store.targetUsers
    memberships := w'.store.memberships }
  objects : w'.objects = w.objects

/-- A pass migrates those of its users who are eligible. -/
theorem Pass.allMigrated (h : Pass users w w')
    (hcreates : ∀ u ∈ eligible users, u.emailKey ∉ w.provider.failingCreates)
    (hdistinct : ((eligible users).map LegacyUser.legacyId).Nodup) :
    AllMigrated (eligible users) w w' where
  created := by
    rw [h.provider]
    exact MemoryProvider.created_learnAll hcreates
  identities := by
    rw [h.provider]
    exact MemoryProvider.extends_learnAll
  resolved u hu := by
    rw [h.provider]
    exact MemoryProvider.learnAll_knows hcreates hu
  mapped n u hu := by
    rw [h.store w'.provider fun _ _ ha => ha, MemoryTables.enrolAll_mappings _ _ hdistinct hu]
    cases w.store.mappings[u.legacyId]? <;> rfl
  unmapped _ habsent := h.enrolled.mappings_of_absent habsent
  targets id := by
    rw [h.enrolled.targetUsers_eq, findSome?_eq_map_find? fun u => MemoryTables.targetOf_eq u _ id]
  memberships key := by
    rw [h.enrolled.memberships_eq,
      findSome?_eq_map_find? fun u => MemoryTables.membershipOf_eq u _ key]
  others := h.store_frame
  objects := h.objects

/-- Every user is eligible, or has no legacy identifier, or a blank email. -/
theorem length_eligible_add (users : List LegacyUser) :
    (eligible users).length + (users.countP fun u => !isLegacyId u.legacyId) +
      (users.countP fun u => isLegacyId u.legacyId && u.emailKey.isEmpty) = users.length := by
  induction users with
  | nil => rfl
  | cons u rest ih =>
    rw [List.length_cons, ← ih]
    by_cases hlegacy : isLegacyId u.legacyId = true
    · by_cases hblank : u.emailKey = ""
      · simp [eligible, LegacyUser.isEligible, hlegacy, hblank]
        omega
      · simp [eligible, LegacyUser.isEligible, hlegacy, hblank]
        omega
    · simp [eligible, LegacyUser.isEligible, hlegacy]
      omega

/-- A calm run over users with distinct legacy identifiers whom nothing is in the way of: by age and
then by identifier, every user with a legacy identifier and an email is migrated and counted as a
success; those without a legacy identifier are skipped; the rest are errors. -/
theorem migrateUsers_result {a : Attempt φ} (hw : w.Unobstructed w.store.legacyUsers)
    (hcalm : a.IsCalm) (hdistinct : (w.store.legacyUsers.map LegacyUser.legacyId).Nodup) :
    let listed := w.store.legacyUsersByAge
    let skipped := listed.countP fun u => !isLegacyId u.legacyId
    let errors := listed.countP fun u => isLegacyId u.legacyId && u.emailKey.isEmpty
    listed.Perm w.store.legacyUsers ∧
      listed.Pairwise (fun u v => LegacyUser.le u v = true) ∧
      a.result w = .ok ⟨.users, (eligible listed).length, skipped, errors, false⟩ ∧
      (eligible listed).length + skipped + errors = listed.length ∧
      AllMigrated (eligible listed) w (a.run w) := by
  intro listed skipped errors
  have hperm : listed.Perm w.store.legacyUsers := w.store.legacyUsersByAge_perm
  obtain ⟨hpass, hresult⟩ := a.unobstructed_pass hcalm hw
  have heach : ((eligible listed).map LegacyUser.legacyId).Nodup := by
    have hlisted : (listed.map LegacyUser.legacyId).Nodup :=
      (hperm.map LegacyUser.legacyId).nodup_iff.mpr hdistinct
    exact hlisted.sublist (List.filter_sublist.map LegacyUser.legacyId)
  have hcreates : ∀ u ∈ eligible listed, u.emailKey ∉ w.provider.failingCreates := fun u hu =>
    hw.creates u (hperm.mem_iff.mp (List.mem_filter.mp hu).1) (List.mem_filter.mp hu).2
  refine ⟨hperm, w.store.legacyUsersByAge_sorted, ?_, length_eligible_add listed,
    hpass.allMigrated hcreates heach⟩
  rw [hresult]
  simp [Summary.countPass, Summary.start, listed, skipped, errors]

open Rehearsal in
/-- Two accounts of one person become one user with two memberships, somebody with an identifier of
another kind is skipped, and a legacy user without an email is an error. The tenant the store is set
to fail for is nobody's. -/
theorem migrateUsers_result_stage :
    let foreigner := { Stage.ada with legacyId := "ada", createdAt := ⟨1610000000, 0⟩ }
    let silent := { Stage.ada with
      legacyId := "Ada0000000000000000000000003", email := " ", createdAt := ⟨1620000000, 0⟩ }
    let stage := Stage.ofUsers [Stage.ada, foreigner, silent, Stage.adaAgain]
    let w := { stage with store := { stage.store with failingTenants := ["elsewhere"] } }
    let quiet : Attempt Script := ⟨Script.interference, .quiet⟩
    w.Unobstructed w.store.legacyUsers ∧ quiet.IsCalm ∧
      (w.store.legacyUsers.map LegacyUser.legacyId).Nodup ∧
      quiet.result w = .ok ⟨.users, 2, 1, 1, false⟩ ∧
      AllMigrated [Stage.ada, Stage.adaAgain] w (quiet.run w) := by
  intro foreigner silent stage w quiet
  have hlisted : w.store.legacyUsersByAge = [Stage.ada, foreigner, silent, Stage.adaAgain] :=
    List.mergeSort_of_pairwise (by decide +kernel)
  have hw : w.Unobstructed w.store.legacyUsers :=
    ⟨rfl, fun _ hkey => absurd hkey Std.ExtTreeMap.not_mem_empty, by decide, by decide +kernel,
      by decide, by decide⟩
  have hcalm : quiet.IsCalm := Script.calm_quiet
  have hdistinct : (w.store.legacyUsers.map LegacyUser.legacyId).Nodup := by decide
  have heligible : eligible [Stage.ada, foreigner, silent, Stage.adaAgain] =
      [Stage.ada, Stage.adaAgain] := by
    have hada : Stage.ada.isEligible = true := by decide +kernel
    have hforeigner : foreigner.isEligible = false := by decide +kernel
    have hsilent : silent.isEligible = false := by decide +kernel
    have hagain : Stage.adaAgain.isEligible = true := by decide +kernel
    simp [eligible, hada, hforeigner, hsilent, hagain]
  obtain ⟨-, -, hresult, -, hall⟩ := migrateUsers_result hw hcalm hdistinct
  rw [hlisted, heligible] at hresult hall
  refine ⟨hw, hcalm, hdistinct, hresult.trans ?_, hall⟩
  decide +kernel

end Result

end Rekey

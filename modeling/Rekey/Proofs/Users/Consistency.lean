import Rekey.Proofs.Text.Trim
import Rekey.Proofs.Users.Plan

/-!
# Consistent stores

`Consistent` ties the tables of a migration together: mappings and memberships stand under their
own keys, hold only what a migration writes, and belong to users with a row. Enrolling a user keeps
a store consistent and, by `Grows`, takes nothing away that was there. In a consistent store no
write meets a row that it would duplicate.
-/

namespace Rekey

open Rekey.Text (trim)

namespace MemoryTables

variable {s s' s'' : MemoryTables} {u : LegacyUser} {newId : String} {now : Timestamp}

/-- What a migration leaves in the tables. -/
structure Consistent (s : MemoryTables) : Prop where
  mapping : ∀ (k : String) (m : Mapping), s.mappings[k]? = some m →
    m.legacyId = k ∧ isLegacyId k = true ∧ m.email ≠ "" ∧ trim m.email = m.email ∧
      m.migratedAt = m.createdAt
  mapped : ∀ (k : String) (m : Mapping), s.mappings[k]? = some m → m.newId ∈ s.targetUsers
  membership : ∀ (k : MemberKey) (m : Membership), s.memberships[k]? = some m →
    m.key = k ∧ k.userId ∈ s.targetUsers ∧ k.tenantId ≠ "" ∧ trim k.tenantId = k.tenantId ∧
      m.roles ≠ [] ∧ m.status = .active

/-- Nothing was taken away: rows of users and memberships stay as they are, mappings keep their
times, and the users of the old system are the same. -/
structure Grows (s s' : MemoryTables) : Prop where
  mappings : ∀ (k : String) (m : Mapping), s.mappings[k]? = some m →
    ∃ m', s'.mappings[k]? = some m' ∧ m'.migratedAt = m.migratedAt ∧ m'.createdAt = m.createdAt
  targetUsers : ∀ (k : String) (x : TargetUser),
    s.targetUsers[k]? = some x → s'.targetUsers[k]? = some x
  memberships : ∀ (k : MemberKey) (m : Membership),
    s.memberships[k]? = some m → s'.memberships[k]? = some m
  legacyUsers : s'.legacyUsers = s.legacyUsers

/-- The tables of users, memberships and mappings are the same. -/
structure SameRecords (s s' : MemoryTables) : Prop where
  legacyUsers : s'.legacyUsers = s.legacyUsers
  targetUsers : s'.targetUsers = s.targetUsers
  memberships : s'.memberships = s.memberships
  mappings : s'.mappings = s.mappings

theorem Grows.refl (s : MemoryTables) : Grows s s :=
  ⟨fun _ m h => ⟨m, h, rfl, rfl⟩, fun _ _ h => h, fun _ _ h => h, rfl⟩

theorem Grows.trans (h : Grows s s') (h' : Grows s' s'') : Grows s s'' where
  mappings k m hm := by
    obtain ⟨m', hm', hmigrated, hcreated⟩ := h.mappings k m hm
    obtain ⟨m'', hm'', hmigrated', hcreated'⟩ := h'.mappings k m' hm'
    exact ⟨m'', hm'', hmigrated'.trans hmigrated, hcreated'.trans hcreated⟩
  targetUsers k x hx := h'.targetUsers k x (h.targetUsers k x hx)
  memberships k m hm := h'.memberships k m (h.memberships k m hm)
  legacyUsers := h'.legacyUsers.trans h.legacyUsers

theorem SameRecords.refl (s : MemoryTables) : SameRecords s s := ⟨rfl, rfl, rfl, rfl⟩

theorem SameRecords.trans (h : SameRecords s s') (h' : SameRecords s' s'') : SameRecords s s'' :=
  ⟨h'.legacyUsers.trans h.legacyUsers, h'.targetUsers.trans h.targetUsers,
    h'.memberships.trans h.memberships, h'.mappings.trans h.mappings⟩

theorem SameRecords.grows (h : SameRecords s s') : Grows s s' where
  mappings _ m hm := ⟨m, h.mappings ▸ hm, rfl, rfl⟩
  targetUsers _ _ hx := h.targetUsers ▸ hx
  memberships _ _ hm := h.memberships ▸ hm
  legacyUsers := h.legacyUsers

/-- A store stays consistent when more users get rows. -/
theorem Consistent.of_targets (h : Consistent s) (hmappings : s'.mappings = s.mappings)
    (hmemberships : s'.memberships = s.memberships)
    (htargets : ∀ k, k ∈ s.targetUsers → k ∈ s'.targetUsers) : Consistent s' where
  mapping k m hm := h.mapping k m (hmappings ▸ hm)
  mapped k m hm := htargets _ (h.mapped k m (hmappings ▸ hm))
  membership k m hm := by
    obtain ⟨hkey, huser, hrest⟩ := h.membership k m (hmemberships ▸ hm)
    exact ⟨hkey, htargets _ huser, hrest⟩

theorem Consistent.of_same (h : Consistent s) (hsame : SameRecords s s') : Consistent s' :=
  h.of_targets hsame.mappings hsame.memberships fun _ hk => hsame.targetUsers ▸ hk

theorem Consistent.membersKnown (h : Consistent s) : s.MembersKnown := by
  intro key hkey
  obtain ⟨m, hm⟩ := Option.isSome_iff_exists.mp (Std.ExtTreeMap.mem_iff_isSome_getElem?.mp hkey)
  exact (h.membership key m hm).2.1

/-! ## Enrolling -/

theorem enrol_mappings (k : String) :
    (s.enrol now u newId).mappings[k]? =
      if u.legacyId = k then some (mappingAfter now u.legacyId u.emailKey newId s.mappings[k]?)
      else s.mappings[k]? := by
  by_cases hk : u.legacyId = k
  · simp [enrol, hk]
  · simp [enrol, Std.ExtTreeMap.getElem?_insert, hk]

theorem enrol_targetUsers (k : String) :
    (s.enrol now u newId).targetUsers[k]? =
      s.targetUsers[k]?.or (if newId = k then some ⟨newId, u.emailKey, u.profile⟩ else none) :=
  getElem?_insertIfNew_or

/-- The membership that enrolling a user adds if it is new. -/
def membershipOf (u : LegacyUser) (newId : String) (key : MemberKey) : Option Membership :=
  match u.tenant with
  | none => none
  | some tenant =>
    if (⟨newId, tenant⟩ : MemberKey) = key then some (.carriedOver newId tenant u) else none

theorem enrol_memberships (key : MemberKey) :
    (s.enrol now u newId).memberships[key]? =
      s.memberships[key]?.or (membershipOf u newId key) := by
  unfold enrol membershipOf
  cases htenant : u.tenant with
  | none => simp
  | some tenant =>
    exact getElem?_insertIfNew_or

theorem mem_enrol_targetUsers (k : String) :
    k ∈ (s.enrol now u newId).targetUsers ↔ k ∈ s.targetUsers ∨ newId = k := by
  simp [enrol, Std.ExtTreeMap.mem_insertIfNew, or_comm]

/-- Enrolling a user takes nothing away. -/
theorem grows_enrol : Grows s (s.enrol now u newId) where
  mappings k m hm := by
    rw [enrol_mappings]
    by_cases hk : u.legacyId = k
    · exact ⟨mappingAfter now u.legacyId u.emailKey newId s.mappings[k]?, by simp [hk],
        by simp [hm, mappingAfter], by simp [hm, mappingAfter]⟩
    · exact ⟨m, by simp [hk, hm], rfl, rfl⟩
  targetUsers k x hx := by simp [enrol_targetUsers, hx]
  memberships k m hm := by simp [enrol_memberships, hm]
  legacyUsers := rfl

theorem membershipOf_eq_some {key : MemberKey} {m : Membership}
    (h : membershipOf u newId key = some m) :
    ∃ tenant, u.tenant = some tenant ∧ key = ⟨newId, tenant⟩ ∧
      m = .carriedOver newId tenant u := by
  unfold membershipOf at h
  split at h
  · contradiction
  · rename_i tenant htenant
    split at h
    · rename_i hkey
      exact ⟨tenant, htenant, hkey.symm, (Option.some.inj h).symm⟩
    · contradiction

/-- Enrolling a user adds a membership of no other user. -/
theorem MembersKnown.enrol (h : s.MembersKnown) : (s.enrol now u newId).MembersKnown := by
  intro key hkey
  rw [mem_enrol_targetUsers]
  rw [Std.ExtTreeMap.mem_iff_isSome_getElem?, enrol_memberships, Option.isSome_or,
    Bool.or_eq_true] at hkey
  rcases hkey with hold | hadded
  · exact .inl (h key (Std.ExtTreeMap.mem_iff_isSome_getElem?.mpr hold))
  · obtain ⟨m, hm⟩ := Option.isSome_iff_exists.mp hadded
    obtain ⟨tenant, -, rfl, -⟩ := membershipOf_eq_some hm
    exact .inr rfl

/-- The mapping that enrolling writes over `before` is the user's. -/
theorem mappingAfter_fields (now : Timestamp) (newId : String) {before : Option Mapping}
    (hbefore : ∀ m, before = some m →
    m.legacyId = u.legacyId ∧ m.migratedAt = m.createdAt) :
    let m := mappingAfter now u.legacyId u.emailKey newId before
    m.legacyId = u.legacyId ∧ m.email = u.emailKey ∧ m.newId = newId ∧
      m.migratedAt = m.createdAt := by
  cases before with
  | none => exact ⟨rfl, rfl, rfl, rfl⟩
  | some m => exact ⟨(hbefore m rfl).1, rfl, rfl, (hbefore m rfl).2⟩

/-- Enrolling a user with a legacy identifier and an email keeps a store consistent. -/
theorem Consistent.enrol (h : Consistent s) (hlegacy : isLegacyId u.legacyId = true)
    (hblank : u.emailKey ≠ "") : Consistent (s.enrol now u newId) := by
  have hwritten : ∀ m, s.mappings[u.legacyId]? = some m →
      m.legacyId = u.legacyId ∧ m.migratedAt = m.createdAt := by
    intro m hm
    obtain ⟨hkey, -, -, -, htimes⟩ := h.mapping _ m hm
    exact ⟨hkey, htimes⟩
  obtain ⟨hid, hemail, hnew, htimes⟩ := mappingAfter_fields now newId hwritten
  refine ⟨?_, ?_, ?_⟩
  · -- the mapping that is written belongs to the user, all others are as before
    intro k m hm
    rw [enrol_mappings] at hm
    split at hm
    · rename_i hk
      subst hk
      obtain rfl := Option.some.inj hm
      refine ⟨hid, hlegacy, ?_, ?_, htimes⟩
      · rw [hemail]
        exact hblank
      · rw [hemail]
        exact u.trim_emailKey
    · exact h.mapping k m hm
  · -- its user has a row, new or old
    intro k m hm
    rw [enrol_mappings] at hm
    rw [mem_enrol_targetUsers]
    split at hm
    · rename_i hk
      subst hk
      obtain rfl := Option.some.inj hm
      exact .inr hnew.symm
    · exact .inl (h.mapped k m hm)
  · -- and so has the user of the membership that may be added
    intro key m hm
    rw [enrol_memberships, Option.or_eq_some_iff] at hm
    rw [mem_enrol_targetUsers]
    rcases hm with hold | ⟨-, hadded⟩
    · obtain ⟨hkey, huser, hrest⟩ := h.membership key m hold
      exact ⟨hkey, .inl huser, hrest⟩
    · obtain ⟨tenant, htenant, rfl, rfl⟩ := membershipOf_eq_some hadded
      obtain ⟨hne, htrim⟩ := LegacyUser.tenant_eq_some htenant
      exact ⟨rfl, .inr rfl, hne, htrim, LegacyUser.grantedRoles_ne_nil htenant, rfl⟩

end MemoryTables

end Rekey

import Rekey.Proofs.Rehearsal.Session
import Rekey.Proofs.Users.Atomicity
import Rekey.Proofs.Users.Consistency

/-!
# The exact effect of migrating a record

`Registers` compares the world before and after a record was migrated, table by table: which rows
are new, what they hold, and that the two flags of the result say just that. It holds of every store
and every provider, consistent or not, and whatever else the interference has made fail.
-/

namespace Rekey

variable {φ : Type} {F : Prop} {w w' : World φ} {u : LegacyUser} {newId : String}
  {created joined : Bool}

/-- The record of `u` was migrated to `newId` between `w` and `w'`; `created` and `joined` tell
whether the user row and the membership are new. -/
structure Registers (u : LegacyUser) (newId : String) (created joined : Bool) (w w' : World φ) :
    Prop where
  /-- the provider holds the identity for the trimmed email -/
  identity : ∃ a, w'.provider.byEmail[u.emailKey]? = some a ∧ a.id = newId
  /-- and has learnt nothing, or just that identity -/
  provider : w'.provider = w.provider ∨ w.provider.Gains u.emailKey w'.provider
  /-- the clock has moved once, for the commit -/
  clock : w'.clock = w.clock.advance
  /-- a mapping that was there keeps its times, a new one has the time of the commit -/
  mapping : w'.store.mappings[u.legacyId]? = some
    (match w.store.mappings[u.legacyId]? with
      | some m => { m with email := u.emailKey, newId := newId }
      | none => ⟨u.legacyId, u.emailKey, newId, w'.clock.now, w'.clock.now⟩)
  /-- the mapping of nobody else is touched -/
  otherMappings : ∀ k, k ≠ u.legacyId → w'.store.mappings[k]? = w.store.mappings[k]?
  created_iff : created = true ↔ newId ∉ w.store.targetUsers
  /-- the user row is added if it is said to be, and nothing else -/
  targetUsers : w'.store.targetUsers =
    if created then w.store.targetUsers.insert newId ⟨newId, u.emailKey, u.profile⟩
    else w.store.targetUsers
  joined_iff : joined = true ↔
    ∃ tenant, u.tenant = some tenant ∧ (⟨newId, tenant⟩ : MemberKey) ∉ w.store.memberships
  /-- the membership in the tenant of the record is added if it is said to be -/
  memberships : ∀ tenant, joined = true → u.tenant = some tenant →
    w'.store.memberships = w.store.memberships.insert ⟨newId, tenant⟩
      ⟨newId, tenant, u.grantedRoles, none, u.createdAt, .active⟩
  /-- and nothing else -/
  unjoined : joined = false → w'.store.memberships = w.store.memberships
  /-- no other table changes -/
  others : w'.store = { w.store with
    mappings := w'.store.mappings
    targetUsers := w'.store.targetUsers
    memberships := w'.store.memberships }
  objects : w'.objects = w.objects

/-! ## What a plan creates -/

namespace MemoryTables.Planned

variable {s : MemoryTables} {t : Transaction} {written : Written}

theorem createdUser_iff (h : s.Planned u newId t written) :
    written.createdUser = true ↔ newId ∉ s.targetUsers := by
  cases h with
  | present hknown _ => simp [hknown]
  | joining hknown _ _ => simp [hknown]
  | alone hnew _ => simp [hnew]
  | created hnew _ _ => simp [hnew]

theorem membershipAdded_iff (h : s.Planned u newId t written) :
    written.membershipAdded = true ↔
      ∃ tenant, u.tenant = some tenant ∧ (⟨newId, tenant⟩ : MemberKey) ∉ s.memberships := by
  cases h with
  | present _ hjoined =>
    constructor
    · intro hadded
      contradiction
    · rintro ⟨tenant, htenant, hnew⟩
      exact absurd (hjoined tenant htenant) hnew
  | joining _ htenant hnew => exact iff_of_true rfl ⟨_, htenant, hnew⟩
  | alone _ htenant => simp [htenant]
  | created _ htenant hmember => exact iff_of_true rfl ⟨_, htenant, hmember⟩

/-- Enrolling adds the user row exactly if the plan creates it. -/
theorem enrol_targetUsers_eq (h : s.Planned u newId t written) (now : Timestamp) :
    (s.enrol now u newId).targetUsers =
      if written.createdUser then s.targetUsers.insert newId ⟨newId, u.emailKey, u.profile⟩
      else s.targetUsers := by
  split
  · rename_i hcreated
    exact insertIfNew_of_not_mem (h.createdUser_iff.mp hcreated)
  · rename_i hcreated
    exact insertIfNew_of_mem (not_not.mp (h.createdUser_iff.not.mp hcreated))

/-- Enrolling adds the membership if the plan does. -/
theorem enrol_memberships_of_added (h : s.Planned u newId t written) (now : Timestamp)
    {tenant : String} (hadded : written.membershipAdded = true) (htenant : u.tenant = some tenant) :
    (s.enrol now u newId).memberships =
      s.memberships.insert ⟨newId, tenant⟩ (.carriedOver newId tenant u) := by
  obtain ⟨tenant', htenant', hnew⟩ := h.membershipAdded_iff.mp hadded
  obtain rfl : tenant' = tenant := Option.some.inj (htenant'.symm.trans htenant)
  simp only [enrol, htenant]
  exact insertIfNew_of_not_mem hnew

theorem enrol_memberships_of_not_added (h : s.Planned u newId t written) (now : Timestamp)
    (hadded : written.membershipAdded = false) :
    (s.enrol now u newId).memberships = s.memberships := by
  have hmember : ∀ tenant, u.tenant = some tenant →
      (⟨newId, tenant⟩ : MemberKey) ∈ s.memberships := by
    intro tenant htenant
    by_contra hnew
    rw [h.membershipAdded_iff.mpr ⟨tenant, htenant, hnew⟩] at hadded
    contradiction
  cases htenant : u.tenant with
  | none => simp only [enrol, htenant]
  | some tenant =>
    simp only [enrol, htenant]
    exact insertIfNew_of_mem (hmember tenant htenant)

end MemoryTables.Planned

/-! ## What a call changes -/

/-- A user who was stored under the identity that the provider holds for the email is registered. -/
theorem Stores.registers {p : MemoryProvider} {a : Account}
    (h : Stores F { w with provider := p } u a.id (.ok (.migrated newId created joined)) w')
    (hknown : p.byEmail[u.emailKey]? = some a)
    (hprovider : p = w.provider ∨ w.provider.Gains u.emailKey p) :
    Registers u newId created joined w w' := by
  cases h with
  | enrolled hplanned =>
    exact {
      identity := ⟨a, hknown, rfl⟩
      provider := hprovider
      clock := rfl
      mapping := by
        rw [MemoryTables.enrol_mappings, if_pos rfl]
        cases w.store.mappings[u.legacyId]? <;> rfl
      otherMappings := by
        intro k hk
        rw [MemoryTables.enrol_mappings, if_neg hk.symm]
      created_iff := hplanned.createdUser_iff
      targetUsers := hplanned.enrol_targetUsers_eq _
      joined_iff := hplanned.membershipAdded_iff
      memberships := fun _ hadded htenant => hplanned.enrol_memberships_of_added _ hadded htenant
      unjoined := hplanned.enrol_memberships_of_not_added _
      others := rfl
      objects := rfl }

theorem Migrates.registers (h : Migrates F w u (.ok (.migrated newId created joined)) w') :
    Registers u newId created joined w w' := by
  cases h with
  | stored _ _ hknown hstores =>
    have hheld := (MemoryProvider.accountOf_eq_ok_iff.mp hknown).2
    exact hstores.registers hheld (MemoryProvider.learn_gains hknown)

/-- A call that answers that a record was migrated has done exactly what it answers: the provider
holds the new identifier for the email, the mapping of the record is written, the user row and the
membership are added if and only if the two flags say so, and nothing else is changed. -/
theorem migrateRecord_registers (i : Interference φ) (w : World φ) (u : LegacyUser)
    {journal : List Event}
    (h : (migrateRecord (Rehearsal.store i) Rehearsal.provider u ⟨w, journal⟩).1 =
      .ok (.migrated newId created joined)) :
    Registers u newId created joined w
      (migrateRecord (Rehearsal.store i) Rehearsal.provider u ⟨w, journal⟩).2.world := by
  have hend : Ends (migrateRecord (Rehearsal.store i) Rehearsal.provider u) ⟨w, journal⟩
      fun r run => True ∧ Migrates True w u r run.world :=
    migrateRecord_ends (P := fun _ => True) i.keeps_any trivial
  obtain ⟨-, hmigrates⟩ := hend
  rw [h] at hmigrates
  exact hmigrates.registers

open Rehearsal in
/-- The second account of a person who has an identity and a user row already, and an older mapping
of the account to another identity. -/
theorem migrateRecord_registers_stage :
    let other := { Stage.adaAgain with email := "old@example.org" }
    let earlier := (migrateRecord stageStore provider other (.start (Stage.ofUsers []))).2.world
    let w := (migrateRecord stageStore provider Stage.ada (.start earlier)).2.world
    let again := migrateRecord stageStore provider Stage.adaAgain (.start w)
    let newId := MemoryProvider.numberedId 2
    again.1 = .ok (.migrated newId false true) ∧
      Registers Stage.adaAgain newId false true w again.2.world ∧
      again.2.world.store.mappings[Stage.adaAgain.legacyId]? = some
        ⟨Stage.adaAgain.legacyId, "ada@example.org", newId, ⟨1704067201, 0⟩, ⟨1704067201, 0⟩⟩ := by
  intro other earlier w again newId
  have hresult : again.1 = .ok (.migrated newId false true) := by decide +kernel
  refine ⟨hresult, migrateRecord_registers _ w _ hresult, ?_⟩
  decide +kernel

end Rekey

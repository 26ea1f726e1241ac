import Rekey.Migration.Users
import Rekey.Proofs.Rehearsal.Temper

/-!
# The writes for a user

`MemoryTables.plan` is what the tables answer to the writes for a user when no step is made to
fail: the transaction, and what it creates. Staging under an interference follows the plan or
fails, and committing a plan enrols the user: the mapping is written, the user row and the
membership are added if they are new.
-/

namespace Rekey

open Std (ExtTreeMap)

/-! ## Rows that are added if they are new -/

section FirstEntry

variable {κ ν : Type} [Ord κ] [Std.TransOrd κ] [Std.LawfulEqOrd κ] [DecidableEq κ]
  {m : ExtTreeMap κ ν} {k a : κ} {v : ν}

/-- The first entry for a key stays. -/
theorem getElem?_insertIfNew_or :
    (m.insertIfNew k v)[a]? = m[a]?.or (if k = a then some v else none) := by
  rw [ExtTreeMap.getElem?_insertIfNew]
  by_cases hka : k = a
  · subst hka
    by_cases hmem : k ∈ m
    · simp [hmem]
    · simp [hmem]
  · simp [hka]

omit [DecidableEq κ] in
theorem insertIfNew_of_mem (h : k ∈ m) : m.insertIfNew k v = m := by
  refine ExtTreeMap.ext_getElem? fun a => ?_
  rw [ExtTreeMap.getElem?_insertIfNew, if_neg fun hk => hk.2 h]

theorem insertIfNew_of_not_mem (h : k ∉ m) : m.insertIfNew k v = m.insert k v := by
  refine ExtTreeMap.ext_getElem? fun a => ?_
  rw [ExtTreeMap.getElem?_insertIfNew, ExtTreeMap.getElem?_insert]
  simp [h]

end FirstEntry

namespace MemoryTables

variable {s : MemoryTables} {u : LegacyUser} {newId : String}

/-! ## The plan -/

/-- The membership of a user whose row exists already, unless the user is a member. -/
def joinPlan (s : MemoryTables) (u : LegacyUser) (newId : String) (t : Transaction) :
    Except StoreFault (Transaction × Written) :=
  match u.tenant with
  | none => .ok (t, ⟨false, false⟩)
  | some tenant =>
    if s.hasMembership t ⟨newId, tenant⟩ then .ok (t, ⟨false, false⟩)
    else (s.addMembership t (.carriedOver newId tenant u)).map fun t => (t, ⟨false, true⟩)

/-- The row of a new user and, when the record has a tenant, the membership. -/
def createPlan (s : MemoryTables) (u : LegacyUser) (newId : String) (t : Transaction) :
    Except StoreFault (Transaction × Written) :=
  match s.addTargetUser t ⟨newId, u.emailKey, u.profile⟩ with
  | .error e => .error e
  | .ok t =>
    match u.tenant with
    | none => .ok (t, ⟨true, false⟩)
    | some tenant =>
      (s.addMembership t (.carriedOver newId tenant u)).map fun t => (t, ⟨true, true⟩)

/-- What the tables answer to the writes for a user, and the transaction that holds them. -/
def plan (s : MemoryTables) (u : LegacyUser) (newId : String) :
    Except StoreFault (Transaction × Written) :=
  match s.putMapping [] u.legacyId u.emailKey newId with
  | .error e => .error e
  | .ok t => if s.hasTargetUser t newId then s.joinPlan u newId t else s.createPlan u newId t

/-- The tables once a user is enrolled at time `now`: the mapping is written, the user row and the
membership are added if they are new. -/
def enrol (s : MemoryTables) (now : Timestamp) (u : LegacyUser) (newId : String) :
    MemoryTables :=
  { s with
    mappings := s.mappings.insert u.legacyId
      (mappingAfter now u.legacyId u.emailKey newId s.mappings[u.legacyId]?)
    targetUsers := s.targetUsers.insertIfNew newId ⟨newId, u.emailKey, u.profile⟩
    memberships := match u.tenant with
      | none => s.memberships
      | some tenant => s.memberships.insertIfNew ⟨newId, tenant⟩ (.carriedOver newId tenant u) }

/-- The user is a member of the tenant of the record, or the record has none. -/
def Joined (s : MemoryTables) (u : LegacyUser) (newId : String) : Prop :=
  ∀ tenant, u.tenant = some tenant → ⟨newId, tenant⟩ ∈ s.memberships

/-- Every membership belongs to a user with a row. -/
def MembersKnown (s : MemoryTables) : Prop :=
  ∀ key : MemberKey, key ∈ s.memberships → key.userId ∈ s.targetUsers

/-- The transaction with the mapping alone, with which every plan begins. -/
abbrev mappingOnly (u : LegacyUser) (newId : String) : Transaction :=
  [.mapping u.legacyId u.emailKey newId]

theorem plan_of_unready (h : s.mappingsReady = false) :
    s.plan u newId = .error .mappingTableMissing := by
  simp [plan, putMapping, h]

theorem plan_of_known (hready : s.mappingsReady = true) (h : newId ∈ s.targetUsers) :
    s.plan u newId = s.joinPlan u newId (mappingOnly u newId) := by
  simp [plan, putMapping, hready, hasTargetUser, h]

theorem plan_of_new (hready : s.mappingsReady = true) (h : newId ∉ s.targetUsers) :
    s.plan u newId = s.createPlan u newId (mappingOnly u newId) := by
  simp [plan, putMapping, hready, hasTargetUser, StagedWrite.createsUser, h]

/-- What a plan that succeeds writes, and what it creates. -/
inductive Planned (s : MemoryTables) (u : LegacyUser) (newId : String) :
    Transaction → Written → Prop
  | present (hknown : newId ∈ s.targetUsers) (hjoined : s.Joined u newId) :
      Planned s u newId (mappingOnly u newId) ⟨false, false⟩
  | joining {tenant : String} (hknown : newId ∈ s.targetUsers) (htenant : u.tenant = some tenant)
      (hnew : ⟨newId, tenant⟩ ∉ s.memberships) :
      Planned s u newId
        (mappingOnly u newId ++ [.membership (.carriedOver newId tenant u)]) ⟨false, true⟩
  | alone (hnew : newId ∉ s.targetUsers) (htenant : u.tenant = none) :
      Planned s u newId
        (mappingOnly u newId ++ [.targetUser ⟨newId, u.emailKey, u.profile⟩]) ⟨true, false⟩
  | created {tenant : String} (hnew : newId ∉ s.targetUsers) (htenant : u.tenant = some tenant)
      (hmember : ⟨newId, tenant⟩ ∉ s.memberships) :
      Planned s u newId
        (mappingOnly u newId ++ [.targetUser ⟨newId, u.emailKey, u.profile⟩] ++
          [.membership (.carriedOver newId tenant u)]) ⟨true, true⟩

/-- Why a plan fails. -/
inductive Unplanned (s : MemoryTables) (u : LegacyUser) (newId : String) : StoreFault → Prop
  | unready (h : s.mappingsReady = false) : Unplanned s u newId .mappingTableMissing
  | targetFailing (hnew : newId ∉ s.targetUsers) (h : u.emailKey ∈ s.failingTargets) :
      Unplanned s u newId (.targetWriteFailed u.emailKey)
  | tenantFailing {tenant : String} (htenant : u.tenant = some tenant)
      (hopen : newId ∈ s.targetUsers → (⟨newId, tenant⟩ : MemberKey) ∉ s.memberships)
      (h : tenant ∈ s.failingTenants) : Unplanned s u newId (.membershipWriteFailed tenant)
  | duplicate {tenant : String} (hnew : newId ∉ s.targetUsers) (htenant : u.tenant = some tenant)
      (hmember : ⟨newId, tenant⟩ ∈ s.memberships) :
      Unplanned s u newId (.duplicateMembership newId tenant)

/-- A plan succeeds as `Planned` says or fails as `Unplanned` says. -/
def Answers (s : MemoryTables) (u : LegacyUser) (newId : String) :
    Except StoreFault (Transaction × Written) → Prop
  | .ok (t, written) => s.Planned u newId t written
  | .error e => s.Unplanned u newId e

theorem addMembership_cases (s : MemoryTables) (t : Transaction) (m : Membership) :
    (m.tenantId ∈ s.failingTenants ∧
        s.addMembership t m = .error (.membershipWriteFailed m.tenantId)) ∨
      (m.key ∈ s.memberships ∧
        s.addMembership t m = .error (.duplicateMembership m.userId m.tenantId)) ∨
      (m.key ∉ s.memberships ∧ s.addMembership t m = .ok (t ++ [.membership m])) := by
  unfold addMembership
  by_cases hfail : m.tenantId ∈ s.failingTenants
  · simp [hfail]
  · by_cases hmember : m.key ∈ s.memberships <;> simp [hfail, hmember]

theorem joinPlan_answers (hknown : newId ∈ s.targetUsers) :
    s.Answers u newId (s.joinPlan u newId (mappingOnly u newId)) := by
  unfold joinPlan
  cases htenant : u.tenant with
  | none => exact .present hknown (by simp [Joined, htenant])
  | some tenant =>
    dsimp only
    by_cases hmember : (⟨newId, tenant⟩ : MemberKey) ∈ s.memberships
    · rw [if_pos (by simp [hasMembership, hmember])]
      exact .present hknown (by simpa [Joined, htenant] using hmember)
    rw [if_neg (by simp [hasMembership, StagedWrite.createsMembership, hmember])]
    rcases s.addMembership_cases (mappingOnly u newId) (.carriedOver newId tenant u) with
      ⟨hfail, h⟩ | ⟨hmem, h⟩ | ⟨hnew, h⟩
    · rw [h]
      exact .tenantFailing htenant (fun _ => hmember) hfail
    · exact absurd hmem hmember
    · rw [h]
      exact .joining hknown htenant hnew

theorem createPlan_answers (hnew : newId ∉ s.targetUsers) :
    s.Answers u newId (s.createPlan u newId (mappingOnly u newId)) := by
  unfold createPlan addTargetUser
  by_cases hfail : u.emailKey ∈ s.failingTargets
  · rw [if_pos (by simpa using hfail)]
    exact .targetFailing hnew hfail
  rw [if_neg (by simpa using hfail), if_neg (by simpa using hnew)]
  cases htenant : u.tenant with
  | none => exact .alone hnew htenant
  | some tenant =>
    dsimp only
    rcases s.addMembership_cases
        (mappingOnly u newId ++ [.targetUser ⟨newId, u.emailKey, u.profile⟩])
        (.carriedOver newId tenant u) with ⟨hfail, h⟩ | ⟨hmember, h⟩ | ⟨hmember, h⟩
    · rw [h]
      exact .tenantFailing htenant (fun hknown => absurd hknown hnew) hfail
    · rw [h]
      exact .duplicate hnew htenant hmember
    · rw [h]
      exact .created hnew htenant hmember

theorem plan_answers (s : MemoryTables) (u : LegacyUser) (newId : String) :
    s.Answers u newId (s.plan u newId) := by
  cases hready : s.mappingsReady with
  | false =>
    rw [plan_of_unready hready]
    exact .unready hready
  | true =>
    by_cases hknown : newId ∈ s.targetUsers
    · rw [plan_of_known hready hknown]
      exact joinPlan_answers hknown
    · rw [plan_of_new hready hknown]
      exact createPlan_answers hknown

theorem planned_of_plan {t : Transaction} {written : Written}
    (h : s.plan u newId = .ok (t, written)) : s.Planned u newId t written := by
  have := s.plan_answers u newId
  rwa [h] at this

theorem unplanned_of_plan {e : StoreFault} (h : s.plan u newId = .error e) :
    s.Unplanned u newId e := by
  have := s.plan_answers u newId
  rwa [h] at this

/-- Committing a plan enrols the user. -/
theorem Planned.commit_eq {t : Transaction} {written : Written} (h : s.Planned u newId t written)
    (times : Readings) : s.commit times t = s.enrol (times u.legacyId) u newId := by
  cases h with
  | present hknown hjoined =>
    cases htenant : u.tenant with
    | none => simp [commit, applyWrite, enrol, insertIfNew_of_mem hknown, htenant]
    | some tenant =>
      have hmember := hjoined tenant htenant
      simp [commit, applyWrite, enrol, insertIfNew_of_mem hknown, insertIfNew_of_mem hmember,
        htenant]
  | joining hknown htenant hnew =>
    simp [commit, applyWrite, enrol, insertIfNew_of_mem hknown, insertIfNew_of_not_mem hnew,
      htenant, Membership.key, Membership.carriedOver]
  | alone hnew htenant =>
    simp [commit, applyWrite, enrol, insertIfNew_of_not_mem hnew, htenant]
  | created hnew htenant hmember =>
    simp [commit, applyWrite, enrol, insertIfNew_of_not_mem hnew,
      insertIfNew_of_not_mem hmember, htenant, Membership.key, Membership.carriedOver]

end MemoryTables

/-! ## Staging -/

/-- Staging ended as the plan says, or with a fault that was injected. -/
def Follows (mayFail : Prop) (plan : Except StoreFault (Transaction × Written)) :
    Writes Transaction → Prop
  | (t, .ok written) => plan = .ok (t, written)
  | (_, .error e) => Rehearsal.IsInjected mayFail e ∨ plan = .error e

section Staging

variable {φ : Type} {i : Interference φ} {P : φ → Prop} {F S : Prop} {w : World φ}
  {u : LegacyUser} {newId : String} {t : Transaction} {journal : List Event}

/-- The action changes the mind of the interference alone and ends as the plan says, or with a
fault that was injected. -/
def EndsAsPlanned (P : φ → Prop) (mayFail : Prop) (act : Action (World φ) (Writes Transaction))
    (w : World φ) (journal : List Event) (plan : Except StoreFault (Transaction × Written)) :
    Prop :=
  Ends act ⟨w, journal⟩ fun r run => ∃ m journal', P m ∧ run = ⟨{ w with mind := m }, journal'⟩ ∧
    Follows mayFail plan r

theorem joinTenant_ends (h : i.Keeps P F S) (hw : P w.mind) :
    EndsAsPlanned P F (joinTenant (Rehearsal.store i) u newId t) w journal
      (w.store.joinPlan u newId t) := by
  unfold EndsAsPlanned joinTenant MemoryTables.joinPlan
  cases htenant : u.tenant with
  | none => exact ⟨w.mind, journal, hw, rfl, rfl⟩
  | some tenant =>
    dsimp only
    rw [ends_bind, ends_call]
    refine (Rehearsal.ends_guarded_query h hw).mono ?_
    rintro r _ ⟨m, hm, rfl, rfl | ⟨hF, rfl⟩⟩
    · cases hmember : w.store.hasMembership t ⟨newId, tenant⟩ with
      | true => exact ⟨m, journal, hm, rfl, rfl⟩
      | false =>
        dsimp only
        rw [ends_bind, ends_call, Rehearsal.ends_addMembership]
        dsimp only
        cases hadd : w.store.addMembership t (.carriedOver newId tenant u) with
        | error e => exact ⟨m, journal, hm, rfl, .inr rfl⟩
        | ok t' => exact ⟨m, _, hm, rfl, rfl⟩
    · exact ⟨m, journal, hm, rfl, .inl ⟨hF, _, rfl⟩⟩

theorem createUser_ends (hw : P w.mind) :
    EndsAsPlanned P F (createUser (Rehearsal.store i) u newId t) w journal
      (w.store.createPlan u newId t) := by
  unfold EndsAsPlanned createUser MemoryTables.createPlan
  rw [ends_bind, ends_call, Rehearsal.ends_addTargetUser]
  dsimp only
  cases htarget : w.store.addTargetUser t ⟨newId, u.emailKey, u.profile⟩ with
  | error e => exact ⟨w.mind, journal, hw, rfl, .inr rfl⟩
  | ok t =>
    cases htenant : u.tenant with
    | none => exact ⟨w.mind, _, hw, rfl, rfl⟩
    | some tenant =>
      dsimp only
      rw [ends_bind, ends_call, Rehearsal.ends_addMembership]
      dsimp only
      cases hadd : w.store.addMembership t (.carriedOver newId tenant u) with
      | error e => exact ⟨w.mind, journal, hw, rfl, .inr rfl⟩
      | ok t' => exact ⟨w.mind, _, hw, rfl, rfl⟩

/-- Staging follows the plan of the tables, or a fault is injected. -/
theorem stageUser_ends (h : i.Keeps P F S) (hw : P w.mind) :
    EndsAsPlanned P F (stageUser (Rehearsal.store i) u newId []) w journal
      (w.store.plan u newId) := by
  unfold EndsAsPlanned stageUser MemoryTables.plan
  rw [ends_bind, ends_call, Rehearsal.ends_putMapping]
  dsimp only
  cases hput : w.store.putMapping [] u.legacyId u.emailKey newId with
  | error e => exact ⟨w.mind, journal, hw, rfl, .inr rfl⟩
  | ok t =>
    dsimp only
    rw [ends_bind, ends_tell, ends_bind, ends_tell, ends_bind, ends_call]
    refine (Rehearsal.ends_guarded_query h hw).mono ?_
    rintro r _ ⟨m, hm, rfl, rfl | ⟨hF, rfl⟩⟩
    · cases hknown : w.store.hasTargetUser t newId with
      | true => exact joinTenant_ends (w := { w with mind := m }) h hm
      | false => exact createUser_ends (w := { w with mind := m }) hm
    · exact ⟨m, _, hm, rfl, .inl ⟨hF, _, rfl⟩⟩

end Staging

end Rekey

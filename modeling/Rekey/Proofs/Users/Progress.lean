import Rekey.Proofs.Users.Batch
import Rekey.Proofs.Users.Enrolment

/-!
# Progress of a batch

In a healthy world nothing fails for good. A batch there resolves the first of its eligible users
and enrols those of them that meet no failure; without failures and stops it enrols all of them.
-/

namespace Rekey

open MemoryTables (Enrolled)

variable {φ : Type} {F S : Prop} {w w' : World φ}

/-- Nothing that stays makes a user fail: the store is set up and knows the users of its
memberships, and neither the store nor the provider is set to fail for anyone. -/
structure World.Healthy (w : World φ) : Prop where
  ready : w.store.mappingsReady = true
  membersKnown : w.store.MembersKnown
  targets : w.store.failingTargets = []
  tenants : w.store.failingTenants = []
  lookups : w.provider.failingLookups = []
  creates : w.provider.failingCreates = []

/-- Nothing that stays makes one of the users fail who are eligible: the store is set up and knows
the users of its memberships, and whoever the store or the provider is set to fail for is not among
them. -/
structure World.Unobstructed (w : World φ) (users : List LegacyUser) : Prop where
  ready : w.store.mappingsReady = true
  membersKnown : w.store.MembersKnown
  targets : ∀ u ∈ users, u.isEligible = true → u.emailKey ∉ w.store.failingTargets
  tenants : ∀ u ∈ users, u.isEligible = true →
    ∀ tenant, u.tenant = some tenant → tenant ∉ w.store.failingTenants
  lookups : ∀ u ∈ users, u.isEligible = true → u.emailKey ∉ w.provider.failingLookups
  creates : ∀ u ∈ users, u.isEligible = true → u.emailKey ∉ w.provider.failingCreates

/-! ## One record -/

section Record

variable {u : LegacyUser} {users : List LegacyUser} {newId : String} {e : StoreFault}
  {r : Except Failure UserResult}

theorem World.Healthy.of_mind (hw : w.Healthy) (m : φ) : ({ w with mind := m } : World φ).Healthy :=
  ⟨hw.ready, hw.membersKnown, hw.targets, hw.tenants, hw.lookups, hw.creates⟩

theorem World.Healthy.learn (hw : w.Healthy) (email : String) :
    ({ w with provider := w.provider.learn email } : World φ).Healthy :=
  ⟨hw.ready, hw.membersKnown, hw.targets, hw.tenants, by simp [hw.lookups], by simp [hw.creates]⟩

theorem World.Healthy.enrol (hw : w.Healthy) {m : φ} {clock : Clock} {now : Timestamp} :
    ({ w with mind := m, clock := clock, store := w.store.enrol now u newId } : World φ).Healthy :=
  ⟨hw.ready, hw.membersKnown.enrol, hw.targets, hw.tenants, hw.lookups, hw.creates⟩

/-- In a healthy world nothing is in the way of anyone. -/
theorem World.Healthy.unobstructed (hw : w.Healthy) : w.Unobstructed users where
  ready := hw.ready
  membersKnown := hw.membersKnown
  targets _ _ _ := by simp [hw.targets]
  tenants _ _ _ _ _ := by simp [hw.tenants]
  lookups _ _ _ := by simp [hw.lookups]
  creates _ _ _ := by simp [hw.creates]

namespace World.Unobstructed

theorem of_mind {m : φ} (hw : w.Unobstructed users) :
    ({ w with mind := m } : World φ).Unobstructed users :=
  ⟨hw.ready, hw.membersKnown, hw.targets, hw.tenants, hw.lookups, hw.creates⟩

/-- The writes for a user whom nothing is in the way of are answered. -/
theorem not_unplanned (hw : w.Unobstructed users) (hu : u ∈ users) (he : u.isEligible = true) :
    ¬ w.store.Unplanned u newId e := by
  intro h
  cases h with
  | unready h => simp [hw.ready] at h
  | targetFailing _ h => exact hw.targets u hu he h
  | tenantFailing htenant _ h => exact hw.tenants u hu he _ htenant h
  | duplicate hnew _ hmember => exact hnew (hw.membersKnown _ hmember)

/-- Only a blank email can keep such a user from being resolved. -/
theorem blank_of_refused (hw : w.Unobstructed users) (hu : u ∈ users)
    (hlegacy : isLegacyId u.legacyId = true)
    (h : u.emailKey = "" ∨ w.provider.Refuses u.emailKey) : u.emailKey = "" := by
  by_contra hblank
  have he := LegacyUser.isEligible_iff.mpr ⟨hlegacy, hblank⟩
  rcases h with hempty | hlookup | ⟨hcreate, -⟩
  · exact hblank hempty
  · exact hw.lookups u hu he hlookup
  · exact hw.creates u hu he hcreate

end World.Unobstructed

end Record

/-! ## Batches -/

/-- From `w` to `w'` a batch has resolved the users `seen` and enrolled the users `done`, under the
identifiers that every provider hands out that knows what the one of `w'` knows. -/
structure Progress (mayFail mayStop : Prop) (users : List LegacyUser) (w w' : World φ)
    (seen done : List LegacyUser) : Prop where
  healthy : w'.Healthy
  legacyUsers : w'.store.legacyUsers = w.store.legacyUsers
  begun : seen <+: eligible users
  sublist : done.Sublist seen
  all_done : ¬ mayFail → done = seen
  all_seen : ¬ mayStop → seen = eligible users
  provider : w'.provider = w.provider.learnAll seen
  store : ∀ p : MemoryProvider, w'.provider.Extends p →
    Enrolled (fun u => p.idOf u.emailKey) done w.store w'.store

namespace Progress

variable {u : LegacyUser} {users rest seen done done' : List LegacyUser} {w'' : World φ}

/-- A batch that resolves nobody. -/
theorem idle (hw' : w'.Healthy) (hprovider : w'.provider = w.provider)
    (hstore : w'.store = w.store) (hall : ¬ S → eligible users = []) :
    Progress F S users w w' [] [] where
  healthy := hw'
  legacyUsers := by rw [hstore]
  begun := List.nil_prefix
  sublist := .slnil
  all_done _ := rfl
  all_seen hS := (hall hS).symm
  provider := hprovider
  store _ _ := by
    rw [hstore]
    exact .nil

/-- A batch does not look at the state of mind that it finds. -/
theorem of_mind {m : φ} (h : Progress F S users { w with mind := m } w' seen done) :
    Progress F S users w w' seen done :=
  ⟨h.healthy, h.legacyUsers, h.begun, h.sublist, h.all_done, h.all_seen, h.provider, h.store⟩

theorem weaken {S' : Prop} (h : Progress F S users w w' seen done) (hS : S → S') :
    Progress F S' users w w' seen done :=
  { h with all_seen := fun hnot => h.all_seen fun hs => hnot (hS hs) }

/-- A batch goes on where all users before it were resolved. -/
theorem append (h : Progress F S users w w' (eligible users) done)
    (h' : Progress F S rest w' w'' seen done') :
    Progress F S (users ++ rest) w w'' (eligible users ++ seen) (done ++ done') where
  healthy := h'.healthy
  legacyUsers := h'.legacyUsers.trans h.legacyUsers
  begun := by
    rw [eligible_append, List.prefix_append_right_inj]
    exact h'.begun
  sublist := h.sublist.append h'.sublist
  all_done hF := by rw [h.all_done hF, h'.all_done hF]
  all_seen hS := by rw [h'.all_seen hS, eligible_append]
  provider := by rw [h'.provider, h.provider, MemoryProvider.learnAll_append]
  store p hp := by
    have hlater : w'.provider.Extends w''.provider := by
      rw [h'.provider]
      exact MemoryProvider.extends_learnAll
    exact (h.store p (hlater.trans hp)).append (h'.store p hp)

end Progress

/-- A record that is eligible is resolved, and enrolled unless the store fails. -/
theorem Migrates.progress {u : LegacyUser} {r : Except Failure UserResult}
    (h : Migrates F w u r w') (hw : w.Healthy) :
    ∃ done, Progress F S [u] w w' (eligible [u]) done := by
  cases h with
  | skipped hlegacy =>
    have hnone : eligible [u] = [] := by simp [eligible, LegacyUser.isEligible, hlegacy]
    rw [hnone]
    exact ⟨[], .idle hw rfl rfl fun _ => hnone⟩
  | unresolved hlegacy hrefused =>
    have hblank : u.emailKey = "" :=
      hw.unobstructed.blank_of_refused (List.mem_singleton_self u) hlegacy hrefused
    have hnone : eligible [u] = [] := by simp [eligible, LegacyUser.isEligible, hblank]
    rw [hnone]
    exact ⟨[], .idle hw rfl rfl fun _ => hnone⟩
  | stored hlegacy hblank hknown hstore =>
    have heligible : u.isEligible = true := LegacyUser.isEligible_iff.mpr ⟨hlegacy, hblank⟩
    have hone : eligible [u] = [u] := by simp [eligible, heligible]
    have hbegun : [u] <+: eligible [u] := by simp [hone]
    have hlearnt := hw.learn u.emailKey
    rw [hone]
    cases hstore with
    | failed he =>
      -- only a failure that was injected is left, and it leaves the user unenrolled
      rcases he with ⟨hF, -⟩ | hunplanned
      · exact ⟨[], hlearnt.of_mind _, rfl, hbegun, List.nil_sublist _,
          fun hnot => absurd hF hnot, fun _ => hone.symm, rfl, fun _ _ => .nil⟩
      · exact absurd hunplanned
          (hlearnt.unobstructed.not_unplanned (List.mem_singleton_self u) heligible)
    | @enrolled m t written _ =>
      refine ⟨[u], hlearnt.enrol, rfl, hbegun, List.Sublist.refl _, fun _ => rfl,
        fun _ => hone.symm, rfl, fun p hp => ?_⟩
      -- the identifier handed out now is the one that every later provider knows
      have hfound := (MemoryProvider.accountOf_eq_ok_iff.mp hknown).2
      rw [← MemoryProvider.Extends.idOf_eq hp hfound]
      exact .cons _ .nil

/-- A batch makes progress in a healthy world. -/
theorem Batch.progress {s s' : Summary} {users : List LegacyUser}
    (h : Batch F S w s users s' w') (hw : w.Healthy) :
    ∃ seen done, Progress F S users w w' seen done := by
  induction h with
  | finished => exact ⟨[], [], .idle hw rfl rfl fun _ => rfl⟩
  | stopped hS => exact ⟨[], [], .idle (hw.of_mind _) rfl rfl fun hnot => absurd hS hnot⟩
  | @next w w₁ w₂ _ _ u rest m _ hrecord _ ih =>
    obtain ⟨done, hfirst⟩ := hrecord.progress (S := S) (hw.of_mind m)
    obtain ⟨seen, done', hlater⟩ := ih hfirst.healthy
    exact ⟨_, _, (hfirst.append hlater).of_mind⟩

/-- So does the migration of all users, unless they cannot be listed. -/
theorem UserPhase.progress {r : Except Failure Summary} (h : UserPhase F S w r w')
    (hw : w.Healthy) :
    ∃ seen done, Progress F (F ∨ S) w.store.legacyUsersByAge w w' seen done := by
  cases h with
  | unlisted hF => exact ⟨[], [], .idle (hw.of_mind _) rfl rfl fun hnot => absurd (.inl hF) hnot⟩
  | listed hbatch =>
    obtain ⟨seen, done, h⟩ := hbatch.progress (hw.of_mind _)
    exact ⟨seen, done, h.of_mind.weaken .inr⟩

end Rekey

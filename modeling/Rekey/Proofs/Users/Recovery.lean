import Mathlib.Data.List.Nodup
import Rekey.Proofs.Rehearsal.Session
import Rekey.Proofs.Users.Progress

/-!
# Recovery

A migration of all users that was stopped or met failures is completed by running it once more.
The runs hand out the same identifiers, since asking the provider again teaches it nothing
(`learnAll_replay`), so together they enrol the users that one run would have enrolled.
-/

namespace Rekey

open MemoryTables (Enrolled)

variable {φ : Type} {F S : Prop}

/-- A run of the migration of all users: what interferes with it, and the state of mind in which
that begins. -/
structure Attempt (φ : Type) where
  interference : Interference φ
  mind : φ

namespace Attempt

/-- The world after a run. -/
def run (a : Attempt φ) (w : World φ) : World φ :=
  (migrateUsers (Rehearsal.store a.interference) Rehearsal.provider
    (Rehearsal.stopRequested a.interference) (.start { w with mind := a.mind })).2.world

/-- How a run ends. -/
def result (a : Attempt φ) (w : World φ) : Except Failure Summary :=
  (migrateUsers (Rehearsal.store a.interference) Rehearsal.provider
    (Rehearsal.stopRequested a.interference) (.start { w with mind := a.mind })).1

/-- The world after runs in order. -/
def runAll (attempts : List (Attempt φ)) (w : World φ) : World φ :=
  attempts.foldl (fun w a => a.run w) w

/-- What a run makes of users once it has listed them. -/
def batch (a : Attempt φ) (w : World φ) (users : List LegacyUser) : Summary × Run (World φ) :=
  migrateEach (Rehearsal.store a.interference) Rehearsal.provider
    (Rehearsal.stopRequested a.interference) users.length 0 (.start .users) users
    ⟨{ w with mind := (a.interference.fails .legacyUsersByAge none a.mind).2 },
      [.usersBegun users.length "memory"]⟩

/-- No step of the run is made to fail. -/
def IsUnfailing (a : Attempt φ) : Prop := a.interference.Unfailing a.mind

/-- No step of the run is made to fail, and it is not stopped. -/
def IsCalm (a : Attempt φ) : Prop := a.interference.Calm a.mind

variable {a : Attempt φ} {w : World φ}

/-- A run that can list the users migrates them. -/
theorem listed {users : List LegacyUser} (hlisted : w.store.legacyUsersByAge = users)
    (hpass : (a.interference.fails .legacyUsersByAge none a.mind).1 = false) :
    a.result w = .ok (a.batch w users).1 ∧ a.run w = (a.batch w users).2.world := by
  subst hlisted
  obtain ⟨hresult, hworld, -⟩ := migrateUsers_run (w := { w with mind := a.mind }) hpass []
  exact ⟨hresult, hworld⟩

theorem run_progress {P : φ → Prop} (ha : P a.mind) (h : a.interference.Keeps P F S)
    (hw : w.Healthy) :
    ∃ seen done, Progress F (F ∨ S) w.store.legacyUsersByAge w (a.run w) seen done := by
  have hend := migrateUsers_ends h [] (w := { w with mind := a.mind }) ha
  obtain ⟨seen, done, hprogress⟩ := hend.2.progress (hw.of_mind a.mind)
  exact ⟨seen, done, hprogress.of_mind⟩

end Attempt

namespace World

/-- The users that one run of the migration would enrol. -/
def toEnrol (w : World φ) : List LegacyUser := eligible w.store.legacyUsersByAge

/-- The provider once it was asked for all of them. -/
def taught (w : World φ) : MemoryProvider := w.provider.learnAll w.toEnrol

/-- The identifier that a user is enrolled under. -/
def newIdOf (w : World φ) (u : LegacyUser) : String := w.taught.idOf u.emailKey

end World

/-- `w` is reached from `w₀` by runs that have enrolled the users `done`. -/
structure Underway (w₀ w : World φ) (done : List LegacyUser) : Prop where
  healthy : w.Healthy
  legacyUsers : w.store.legacyUsers = w₀.store.legacyUsers
  taught : w.taught = w₀.taught
  store : Enrolled w₀.newIdOf done w₀.store w.store
  among : ∀ u ∈ done, u ∈ w₀.toEnrol

namespace Underway

variable {w₀ w w' : World φ} {done seen new : List LegacyUser}

theorem start (h : w₀.Healthy) : Underway w₀ w₀ [] :=
  ⟨h, rfl, rfl, .nil, fun _ hu => nomatch hu⟩

theorem toEnrol_eq (h : Underway w₀ w done) : w.toEnrol = w₀.toEnrol := by
  simp [World.toEnrol, MemoryTables.legacyUsersByAge, h.legacyUsers]

/-- A run leads on, whatever it meets. -/
theorem step (h : Underway w₀ w done)
    (hrun : Progress F S w.store.legacyUsersByAge w w' seen new) :
    Underway w₀ w' (done ++ new) := by
  have hseen : seen <+: w.toEnrol := hrun.begun
  have hto : w'.toEnrol = w.toEnrol := by
    simp [World.toEnrol, MemoryTables.legacyUsersByAge, hrun.legacyUsers]
  have htaught : w'.taught = w.taught := by
    unfold World.taught
    rw [hto, hrun.provider, MemoryProvider.learnAll_replay h.healthy.creates hseen]
  -- what the run was told is still true in the end
  have hknown : w'.provider.Extends w₀.taught := by
    rw [← h.taught, ← htaught]
    exact MemoryProvider.extends_learnAll
  refine ⟨hrun.healthy, hrun.legacyUsers.trans h.legacyUsers, htaught.trans h.taught,
    h.store.append (hrun.store _ hknown), fun u hu => ?_⟩
  rcases List.mem_append.mp hu with hold | hnew
  · exact h.among u hold
  · rw [← h.toEnrol_eq]
    exact hseen.subset (hrun.sublist.subset hnew)

/-- A calm run completes the migration. -/
theorem complete (h : Underway w₀ w done) {a : Attempt φ} (ha : a.IsCalm) :
    (a.run w).provider = w₀.taught ∧
      Enrolled w₀.newIdOf (done ++ w₀.toEnrol) w₀.store (a.run w).store := by
  obtain ⟨P, hm, hkeeps⟩ := ha
  obtain ⟨seen, new, hrun⟩ := Attempt.run_progress hm hkeeps h.healthy
  have hnew : new = seen := hrun.all_done id
  have hseen : seen = w.toEnrol := hrun.all_seen (by simp)
  subst hnew hseen
  constructor
  · rw [← h.taught]
    exact hrun.provider
  · rw [← h.toEnrol_eq]
    exact (h.step hrun).store

end Underway

/-- Looking through `users` finds the same with and without `done` in front. -/
def Leads (users done : List LegacyUser) : Prop :=
  ∀ {β : Type} (f : LegacyUser → Option β), (done ++ users).findSome? f = users.findSome? f

theorem Leads.append_prefix {users done new : List LegacyUser} (h : Leads users done)
    (hnew : new <+: users) : Leads users (done ++ new) := by
  intro β f
  have hfirst : (new ++ users).findSome? f = users.findSome? f := by
    obtain ⟨rest, rfl⟩ := hnew
    simp only [List.findSome?_append]
    cases new.findSome? f <;> rfl
  rw [List.append_assoc, List.findSome?_append, hfirst, ← List.findSome?_append, h]

section Runs

variable {w₀ w : World φ} {done : List LegacyUser}

/-- Runs lead on, whatever they meet. -/
theorem Underway.runAll (h : Underway w₀ w done) (attempts : List (Attempt φ)) :
    ∃ done', Underway w₀ (Attempt.runAll attempts w) done' := by
  induction attempts generalizing w done with
  | nil => exact ⟨done, h⟩
  | cons a rest ih =>
    obtain ⟨seen, new, hrun⟩ := Attempt.run_progress trivial a.interference.keeps_any h.healthy
    exact ih (h.step hrun)

/-- Runs without failures enrol the first users, in order. -/
theorem Underway.runAll_unfailing {attempts : List (Attempt φ)} (h : Underway w₀ w done)
    (hleads : Leads w₀.toEnrol done)
    (hunfailing : ∀ a ∈ attempts, a.IsUnfailing) :
    ∃ done', Underway w₀ (Attempt.runAll attempts w) done' ∧ Leads w₀.toEnrol done' := by
  induction attempts generalizing w done with
  | nil => exact ⟨done, h, hleads⟩
  | cons a rest ih =>
    obtain ⟨P, hm, hkeeps⟩ := hunfailing a List.mem_cons_self
    obtain ⟨seen, new, hrun⟩ := Attempt.run_progress hm hkeeps h.healthy
    have hnew : new <+: w₀.toEnrol := by
      rw [hrun.all_done id, ← h.toEnrol_eq]
      exact hrun.begun
    exact ih (h.step hrun) (hleads.append_prefix hnew) fun b hb =>
      hunfailing b (List.mem_cons_of_mem a hb)

end Runs

/-- Users with the same legacy identifier are the same user if the store says so. -/
theorem World.toEnrol_injective {w : World φ} {u v : LegacyUser}
    (h : (w.store.legacyUsers.map LegacyUser.legacyId).Nodup) (hu : u ∈ w.toEnrol)
    (hv : v ∈ w.toEnrol) (hid : u.legacyId = v.legacyId) : u = v := by
  have hstored : ∀ x ∈ w.toEnrol, x ∈ w.store.legacyUsers := fun x hx =>
    List.mem_mergeSort.mp (List.mem_of_mem_filter hx)
  exact List.inj_on_of_nodup_map h (hstored u hu) (hstored v hv) hid

/-- However often a migration was stopped or met failures before, a calm run ends with the provider
that a single calm run would have ended with, with the same mappings up to their times, and with
rows for the same users and memberships; the rows themselves are the same if nothing failed. -/
theorem migrateUsers_recovers {w : World φ} (earlier : List (Attempt φ))
    {last single : Attempt φ} (hw : w.Healthy)
    (hdistinct : (w.store.legacyUsers.map LegacyUser.legacyId).Nodup)
    (hlast : last.IsCalm) (hsingle : single.IsCalm) :
    let recovered := last.run (Attempt.runAll earlier w)
    let direct := single.run w
    recovered.provider = direct.provider ∧
      (∀ legacyId : String, (recovered.store.mappings[legacyId]?).map Mapping.untimed =
        (direct.store.mappings[legacyId]?).map Mapping.untimed) ∧
      (∀ id : String, id ∈ recovered.store.targetUsers ↔ id ∈ direct.store.targetUsers) ∧
      (∀ key : MemberKey,
        key ∈ recovered.store.memberships ↔ key ∈ direct.store.memberships) ∧
      ((∀ a ∈ earlier, a.IsUnfailing) →
        recovered.store.targetUsers = direct.store.targetUsers ∧
          recovered.store.memberships = direct.store.memberships) := by
  intro recovered direct
  have hstart : Underway w w [] := .start hw
  obtain ⟨hdirect, hrows⟩ := hstart.complete hsingle
  rw [List.nil_append] at hrows
  -- the earlier runs have enrolled some of the users that the single run enrols
  obtain ⟨done, hunderway⟩ := hstart.runAll earlier
  obtain ⟨hprovider, hrecovered⟩ := hunderway.complete hlast
  have hmem : ∀ u, u ∈ done ++ w.toEnrol ↔ u ∈ w.toEnrol := fun u =>
    ⟨fun hu => (List.mem_append.mp hu).elim (hunderway.among u) id, List.mem_append_right done⟩
  have halone : ∀ u ∈ done ++ w.toEnrol, ∀ v ∈ done ++ w.toEnrol,
      u.legacyId = v.legacyId → u = v := fun u hu v hv =>
    World.toEnrol_injective hdistinct ((hmem u).mp hu) ((hmem v).mp hv)
  refine ⟨hprovider.trans hdirect.symm, hrecovered.same_untimed hrows hmem halone,
    hrecovered.same_targets hrows hmem, hrecovered.same_members hrows hmem, fun hunfailing => ?_⟩
  -- without failures every earlier run has enrolled the first users, in order
  obtain ⟨done', hstopped, hleads⟩ := hstart.runAll_unfailing (fun _ => rfl) hunfailing
  exact (hstopped.complete hlast).2.same_rows hrows hleads

/-- The same users are listed after runs as before. -/
theorem Attempt.legacyUsersByAge_runAll {w : World φ} (hw : w.Healthy)
    (attempts : List (Attempt φ)) :
    (Attempt.runAll attempts w).store.legacyUsersByAge = w.store.legacyUsersByAge := by
  obtain ⟨done, h⟩ := (Underway.start hw).runAll attempts
  rw [MemoryTables.legacyUsersByAge, h.legacyUsers, MemoryTables.legacyUsersByAge]

open Rehearsal in
theorem healthy_ofUsers (users : List LegacyUser) : (Stage.ofUsers users).Healthy where
  ready := rfl
  membersKnown _ hkey := absurd hkey Std.ExtTreeMap.not_mem_empty
  targets := rfl
  tenants := rfl
  lookups := rfl
  creates := rfl

open Rehearsal in
/-- Two accounts of one person. A run in which both commits fail, and then one that is stopped after
its first commit, are completed by a third. -/
theorem migrateUsers_recovers_stage :
    let users := [Stage.ada, Stage.adaAgain]
    let w := Stage.ofUsers users
    let quiet : Attempt Script := ⟨Script.interference, .quiet⟩
    let stopping : Attempt Script := ⟨Script.interference, Script.quiet.stopAfter .commit 1⟩
    let failing : Attempt Script := ⟨Script.interference, ⟨[(.commit, none)], [], false⟩⟩
    let recovered := quiet.run (Attempt.runAll [failing, stopping] w)
    let newId := "user_000000000000000000000001"
    w.Healthy ∧ (w.store.legacyUsers.map LegacyUser.legacyId).Nodup ∧ quiet.IsCalm ∧
      stopping.IsUnfailing ∧
      failing.result w = .ok ⟨.users, 0, 0, 2, false⟩ ∧
      stopping.result (failing.run w) = .ok ⟨.users, 1, 0, 0, true⟩ ∧
      recovered.provider = (quiet.run w).provider ∧
      (quiet.run (Attempt.runAll [stopping] w)).store.targetUsers =
        (quiet.run w).store.targetUsers ∧
      (∀ u ∈ users, (recovered.store.mappings[u.legacyId]?).map Mapping.newId = some newId) ∧
      recovered.store.targetUsers.keys = [newId] ∧
      recovered.store.memberships.keys = [⟨newId, "acme"⟩, ⟨newId, "globex"⟩] := by
  intro users w quiet stopping failing recovered newId
  have hw : w.Healthy := healthy_ofUsers _
  have hdistinct : (w.store.legacyUsers.map LegacyUser.legacyId).Nodup := by decide
  have hquiet : quiet.IsCalm := Script.calm_quiet
  have hstopping : stopping.IsUnfailing := Script.unfailing rfl
  obtain ⟨hprovider, -⟩ :=
    migrateUsers_recovers [failing, stopping] hw hdistinct hquiet hquiet
  obtain ⟨-, -, -, -, hrows⟩ :=
    migrateUsers_recovers [stopping] hw hdistinct hquiet hquiet
  have hunfailing : ∀ a ∈ [stopping], a.IsUnfailing := List.forall_mem_singleton.mpr hstopping
  -- each run lists both accounts
  have hlisted : ∀ attempts : List (Attempt Script),
      (Attempt.runAll attempts w).store.legacyUsersByAge = users := fun attempts =>
    (Attempt.legacyUsersByAge_runAll hw attempts).trans
      (List.mergeSort_of_pairwise (by decide +kernel))
  have hfirst := Attempt.listed (a := failing) (w := w) (hlisted []) rfl
  have hsecond := Attempt.listed (a := stopping) (w := failing.run w) (hlisted [failing]) rfl
  have hthird := Attempt.listed (a := quiet) (w := stopping.run (failing.run w))
    (hlisted [failing, stopping]) rfl
  have hrecovered : recovered = (quiet.batch (stopping.batch (failing.batch w users).2.world
      users).2.world users).2.world := by
    rw [← hfirst.2, ← hsecond.2, ← hthird.2]
    rfl
  refine ⟨hw, hdistinct, hquiet, hstopping, ?_, ?_, hprovider, (hrows hunfailing).1, ?_, ?_, ?_⟩
  · rw [hfirst.1]
    decide +kernel
  · rw [hsecond.1, hfirst.2]
    decide +kernel
  · rw [hrecovered]
    decide +kernel
  · rw [hrecovered]
    decide +kernel
  · rw [hrecovered]
    decide +kernel

end Rekey

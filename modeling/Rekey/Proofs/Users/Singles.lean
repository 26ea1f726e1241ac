import Rekey.Proofs.Memory.Commit
import Rekey.Proofs.Rehearsal.Agreement
import Rekey.Proofs.Rehearsal.Session
import Rekey.Proofs.Users.Atomicity
import Rekey.Proofs.Users.Result

/-!
# Users in a batch and one by one

A batch of all users leaves the store and the provider as single calls do that migrate the same
users in the same order, and its summary counts what those calls answer. Both migrate records
alike, since a record sees the world and not who asks for it; they differ only in how they find a
record and in how they answer one that is not of the old shape.
-/

namespace Rekey

open Rekey.Text (trim)

variable {φ α : Type} {i : Interference φ} {P : φ → Prop} {failing : Point → Bool}
  {users : List LegacyUser} {u : LegacyUser} {w w' : World φ}

/-! ## Failures that stay -/

/-- While its mind is in `P` the interference makes the same steps of the store fail every time, and
requests no stop. -/
structure Interference.KeepsFailing (i : Interference φ) (P : φ → Prop) (failing : Point → Bool) :
    Prop where
  keeps : i.Keeps P True False
  fails : ∀ {m}, P m → ∀ point, (i.fails point none m).1 = failing point

/-- From this state of mind on the same steps of the store fail every time, and no stop is
requested. -/
def Interference.Steady (i : Interference φ) (failing : Point → Bool) (m : φ) : Prop :=
  ∃ P : φ → Prop, P m ∧ i.KeepsFailing P failing

/-- A script that counts no steps and has no stop set keeps its faults. -/
theorem Rehearsal.Script.steady {s : Script} (hcounts : s.countdowns = [])
    (hstopped : s.stopped = false) :
    interference.Steady (fun point => s.fails point none) s := by
  have hsame : ∀ point, s.count point = s := by
    intro point
    obtain ⟨faults, countdowns, stopped⟩ := s
    obtain rfl : countdowns = [] := hcounts
    simp [Script.count]
  refine ⟨(· = s), rfl, ⟨?_, ?_, ?_⟩, ?_⟩
  · rintro _ rfl point path
    exact ⟨rfl, fun _ => trivial⟩
  · rintro _ rfl point
    exact hsame point
  · rintro _ rfl
    exact ⟨rfl, fun h => Bool.false_ne_true (hstopped ▸ h)⟩
  · rintro _ rfl point
    rfl

/-- Two worlds that differ at most in the minds of the interference, which are in `P`, and whose
store holds the given users. -/
structure World.Alike (P : φ → Prop) (users : List LegacyUser) (w w' : World φ) : Prop where
  left : P w.mind
  right : P w'.mind
  rest : w' = { w with mind := w'.mind }
  legacyUsers : w.store.legacyUsers = users

namespace World.Alike

theorem of_mind (h : w.Alike P users w') {m m' : φ} (hm : P m) (hm' : P m') :
    World.Alike P users { w with mind := m } { w' with mind := m' } where
  left := hm
  right := hm'
  rest := by rw [h.rest]
  legacyUsers := h.legacyUsers

theorem store_eq (h : w.Alike P users w') : w'.store = w.store := by rw [h.rest]

theorem provider_eq (h : w.Alike P users w') : w'.provider = w.provider := by rw [h.rest]

theorem clock_eq (h : w.Alike P users w') : w'.clock = w.clock := by rw [h.rest]

end World.Alike

/-! ## Steps over worlds that are alike -/

section Steps

variable {point : Point}

/-- The action does the same in worlds that are alike. -/
abbrev AgreeAlike (P : φ → Prop) (users : List LegacyUser) (act : StateM (World φ) α) : Prop :=
  Agree (World.Alike P users) act act

theorem agree_fails (h : i.KeepsFailing P failing) :
    AgreeAlike P users (Rehearsal.ask (i.fails point none)) := by
  intro w w' hw
  refine ⟨?_, hw.of_mind (h.keeps.fails hw.left point none).1 (h.keeps.fails hw.right point none).1⟩
  exact (h.fails hw.left point).trans (h.fails hw.right point).symm

theorem agree_succeeded (h : i.KeepsFailing P failing) :
    AgreeAlike P users (Rehearsal.ask (i.succeeded point)) :=
  fun _ _ hw => ⟨rfl, hw.of_mind (h.keeps.succeeded hw.left point)
    (h.keeps.succeeded hw.right point)⟩

theorem agree_query {f : MemoryTables → Except StoreFault α} :
    AgreeAlike P users (Rehearsal.query f) := by
  intro w w' hw
  exact ⟨congrArg f hw.store_eq.symm, hw⟩

theorem agree_commitNow (t : Transaction) : AgreeAlike P users (Rehearsal.commitNow t) := by
  intro w w' hw
  obtain ⟨hleft, hright, hrest, husers⟩ := hw
  refine ⟨rfl, hleft, hright, ?_, (MemoryTables.commit_legacyUsers ..).trans husers⟩
  rw [hrest]
  rfl

end Steps

/-- The transactions of a rehearsal do the same in worlds that are alike. -/
theorem store_agrees (h : i.KeepsFailing P failing) :
    (Rehearsal.store i).Agrees (World.Alike P users) (Rehearsal.store i) where
  beginTransaction := Rehearsal.agree_hooked (agree_fails h) .pure
  putMapping _ _ _ _ := agree_query
  hasTargetUser _ _ := Rehearsal.agree_hooked (agree_fails h) agree_query
  addTargetUser _ _ := agree_query
  hasMembership _ _ _ := Rehearsal.agree_hooked (agree_fails h) agree_query
  addMembership _ _ := agree_query
  commit t := Rehearsal.agree_watched (agree_succeeded h)
    (Rehearsal.agree_hooked (agree_fails h) (agree_commitNow t))
  rollback _ := Rehearsal.agree_watched (agree_succeeded h)
    (Rehearsal.agree_hooked (agree_fails h) .pure)

theorem provider_agrees :
    (Rehearsal.provider (φ := φ)).Agrees (World.Alike P users) Rehearsal.provider := by
  refine Rehearsal.provider_agrees (fun w w' hw => hw.provider_eq.symm) fun w w' p hw => ?_
  obtain ⟨hleft, hright, hrest, husers⟩ := hw
  exact ⟨hleft, hright, by rw [hrest], husers⟩

/-! ## One user -/

/-- How a batch ends a record and how a single call for it answers. -/
inductive Matches : Except Failure UserResult → Except Failure UserResult → Prop
  | skipped {id : String} : Matches (.ok .skipped) (.error (.notLegacyFormat id))
  | migrated {newId : String} {created joined : Bool} :
      Matches (.ok (.migrated newId created joined)) (.ok (.migrated newId created joined))
  | failed {f : Failure} (h : f.kind = .resolution ∨ f.kind = .transaction) :
      Matches (.error f) (.error f)

/-- The call answers that the user was migrated. -/
def isMigrated : Except Failure UserResult → Bool
  | .ok (.migrated _ _ _) => true
  | _ => false

/-- The call answers with a failure of one of these kinds. -/
def failsAs (kinds : List FailureKind) : Except Failure UserResult → Bool
  | .error f => kinds.contains f.kind
  | .ok _ => false

/-- A summary with the answers of single calls: users that were migrated, identifiers that are not
of the old shape, and users that were not resolved or whose transaction failed. -/
def Summary.countAnswers (s : Summary) (answers : List (Except Failure UserResult)) : Summary :=
  { s with
    success := s.success + answers.countP isMigrated
    skipped := s.skipped + answers.countP (failsAs [.notLegacyFormat])
    errors := s.errors + answers.countP (failsAs [.resolution, .transaction]) }

theorem Summary.countAnswers_start (answers : List (Except Failure UserResult)) :
    (Summary.start .users).countAnswers answers = ⟨.users, answers.countP isMigrated,
      answers.countP (failsAs [.notLegacyFormat]),
      answers.countP (failsAs [.resolution, .transaction]), false⟩ := by
  simp [countAnswers, Summary.start]

theorem Summary.countAnswers_cons (s : Summary) {r a : Except Failure UserResult}
    (h : Matches r a) (answers : List (Except Failure UserResult)) :
    (s.countUser r).countAnswers answers = s.countAnswers (a :: answers) := by
  cases h with
  | skipped =>
    simp [countAnswers, countUser, isMigrated, failsAs, Failure.kind]
    omega
  | migrated =>
    simp [countAnswers, countUser, isMigrated, failsAs, List.countP_cons]
    omega
  | failed h =>
    rcases h with h | h <;> simp [countAnswers, countUser, isMigrated, failsAs, h] <;> omega

theorem Matches.answer {r a : Except Failure UserResult} (h : Matches r a) :
    isMigrated a = true ∨ failsAs [.notLegacyFormat, .resolution, .transaction] a = true := by
  cases h with
  | skipped => exact .inr rfl
  | migrated => exact .inl rfl
  | failed h => rcases h with h | h <;> exact .inr (by simp [failsAs, h])

/-- A record of the old shape is migrated, or fails to be resolved or stored. -/
theorem Migrates.matches_self {F : Prop} {r : Except Failure UserResult}
    (h : Migrates F w u r w') (hlegacy : isLegacyId u.legacyId = true) : Matches r r := by
  cases h with
  | skipped hnot => rw [hlegacy] at hnot; contradiction
  | unresolved _ _ => exact .failed (.inl rfl)
  | stored _ _ _ hstore =>
    cases hstore with
    | failed _ => exact .failed (.inr rfl)
    | enrolled _ => exact .migrated

/-- Where no two users share an identifier the store finds each by its own. -/
theorem MemoryTables.legacyUserById_of_mem {s : MemoryTables} (hu : u ∈ s.legacyUsers)
    (hids : (s.legacyUsers.map LegacyUser.legacyId).Nodup) :
    s.legacyUserById u.legacyId = some u := by
  unfold legacyUserById
  cases hfound : s.legacyUsers.find? (·.legacyId == u.legacyId) with
  | none => simpa using List.find?_eq_none.mp hfound u hu
  | some v =>
    have hsame : v.legacyId = u.legacyId := by simpa using List.find?_some hfound
    rw [List.inj_on_of_nodup_map hids (List.mem_of_find?_eq_some hfound) hu hsame]

section One

variable {run run' : Run (World φ)}

/-- A single call for a user does in a world what a batch does with the record in a world alike. -/
theorem migrateById_alike (run : Run (World φ)) (h : i.KeepsFailing P failing)
    (hfind : failing .legacyUserById = false)
    (hids : (users.map LegacyUser.legacyId).Nodup) (hu : u ∈ users)
    (htrim : trim u.legacyId = u.legacyId) (hrun : World.Alike P users run.world run'.world) :
    Ends (migrateById (Rehearsal.store i) Rehearsal.provider u.legacyId) run' fun a after =>
      Ends (migrateRecord (Rehearsal.store i) Rehearsal.provider u) run fun r after' =>
        World.Alike P users after'.world after.world ∧ Matches r a := by
  unfold migrateById
  dsimp only
  rw [htrim]
  by_cases hlegacy : isLegacyId u.legacyId = true
  · rw [if_pos hlegacy, ends_bind, ends_call]
    have hpass : (i.fails .legacyUserById none run'.world.mind).1 = false :=
      (h.fails hrun.right _).trans hfind
    refine (Rehearsal.ends_query_of_passes hpass).mono ?_
    rintro _ _ ⟨rfl, rfl⟩
    have hfound : run'.world.store.legacyUserById u.legacyId = some u := by
      rw [hrun.store_eq]
      exact MemoryTables.legacyUserById_of_mem (hrun.legacyUsers ▸ hu) (hrun.legacyUsers ▸ hids)
    -- from here on both migrate the record
    have hafter := hrun.of_mind hrun.left (h.keeps.fails hrun.right .legacyUserById none).1
    obtain ⟨hresult, hend, -⟩ := agree_migrateRecord joinsTelling_any (store_agrees h)
      provider_agrees u run ⟨_, run'.journal⟩ ⟨hafter, trivial⟩
    have hrecord : Ends (migrateRecord (Rehearsal.store i) Rehearsal.provider u) run
        fun r after => P after.world.mind ∧ Migrates True run.world u r after.world :=
      migrateRecord_ends h.keeps hrun.left
    have hmatch := hrecord.2.matches_self hlegacy
    rw [hfound]
    dsimp only
    rw [ends_bind]
    refine Ends.mono (Q := fun a after =>
      Ends (migrateRecord (Rehearsal.store i) Rehearsal.provider u) run fun r after' =>
        World.Alike P users after'.world after.world ∧ Matches r a) ⟨hend, ?_⟩ ?_
    · exact hresult ▸ hmatch
    · rintro (f | ⟨_ | _⟩) after hend
      · exact hend
      · exact hend
      · exact hend
  · rw [if_neg hlegacy, ends_pure]
    unfold migrateRecord
    rw [ends_bind, ends_tell, if_neg hlegacy]
    exact ⟨hrun, .skipped⟩

end One

/-! ## All users -/

theorem tellUser_run (u : LegacyUser) (r : Except Failure UserResult) (run : Run (World φ)) :
    ∃ journal, tellUser u r run = ((), ⟨run.world, journal⟩) := by
  unfold tellUser
  split <;> exact ⟨_, rfl⟩

/-- A batch that is not stopped migrates its first record and goes on with the others. -/
theorem migrateEach_cons (hstop : (i.stopRequested w.mind).1 = false) (total processed : Nat)
    (s : Summary) (u : LegacyUser) (rest : List LegacyUser) (journal : List Event) :
    let ended := migrateRecord (Rehearsal.store i) Rehearsal.provider u
      ⟨{ w with mind := (i.stopRequested w.mind).2 }, journal⟩
    ∃ journal', migrateEach (Rehearsal.store i) Rehearsal.provider (Rehearsal.stopRequested i) total
        processed s (u :: rest) ⟨w, journal⟩ =
      migrateEach (Rehearsal.store i) Rehearsal.provider (Rehearsal.stopRequested i) total
        (processed + 1) (s.countUser ended.1) rest ⟨ended.2.world, journal'⟩ := by
  intro ended
  have hasked : Rehearsal.stopRequested i w =
      (false, { w with mind := (i.stopRequested w.mind).2 }) := by
    rw [← hstop]
    rfl
  rw [migrateEach, bind_of_eq (call_of_eq hasked), if_neg (by simp)]
  obtain ⟨journal', htold⟩ := tellUser_run u ended.1 ended.2
  rw [bind_of_eq (show migrateRecord _ _ u _ = (ended.1, ended.2) from rfl), bind_of_eq htold]
  split
  · exact ⟨_, bind_of_eq rfl⟩
  · exact ⟨_, rfl⟩

/-- Single calls for users, in order, do what a batch of them does. -/
theorem migrateEach_alike (h : i.KeepsFailing P failing) (hfind : failing .legacyUserById = false)
    (hids : (users.map LegacyUser.legacyId).Nodup) {rest : List LegacyUser}
    (hrest : ∀ u ∈ rest, u ∈ users ∧ trim u.legacyId = u.legacyId) (total processed : Nat)
    (s : Summary) (journal journal' : List Event) (hw : World.Alike P users w w') :
    Ends (rest.mapM fun u => migrateById (Rehearsal.store i) Rehearsal.provider u.legacyId)
        ⟨w', journal'⟩ fun answers after =>
      Ends (migrateEach (Rehearsal.store i) Rehearsal.provider (Rehearsal.stopRequested i) total
          processed s rest) ⟨w, journal⟩ fun s' after' =>
        World.Alike P users after'.world after.world ∧ s' = s.countAnswers answers ∧
          ∀ a ∈ answers,
            isMigrated a = true ∨
              failsAs [.notLegacyFormat, .resolution, .transaction] a = true := by
  induction rest generalizing processed s journal journal' w w' with
  | nil => exact ⟨hw, rfl, fun _ ha => nomatch ha⟩
  | cons u rest ih =>
    obtain ⟨hu, htrim⟩ := hrest u List.mem_cons_self
    -- the batch goes on, for no stop is requested
    obtain ⟨hm, hgoes⟩ := h.keeps.stopRequested hw.left
    obtain ⟨journal₁, hbatch⟩ :=
      migrateEach_cons (by simpa using hgoes) total processed s u rest journal
    rw [List.mapM_cons, ends_bind]
    refine (migrateById_alike ⟨_, journal⟩ h hfind hids hu htrim
      (hw.of_mind hm hw.right)).mono ?_
    rintro a ⟨w₁, journal₁'⟩ ⟨halike, hmatch⟩
    rw [ends_bind]
    let ended := migrateRecord (Rehearsal.store i) Rehearsal.provider u
      ⟨{ w with mind := (i.stopRequested w.mind).2 }, journal⟩
    refine (ih (fun u hu => hrest u (List.mem_cons_of_mem _ hu)) (processed + 1)
      (s.countUser ended.1) journal₁ journal₁' halike).mono ?_
    rintro answers after ⟨hend, hsummary, hanswers⟩
    rw [ends_pure, Ends, hbatch]
    refine ⟨hend, hsummary.trans (Summary.countAnswers_cons s hmatch answers), ?_⟩
    intro b hb
    rcases List.mem_cons.mp hb with rfl | hb
    · exact hmatch.answer
    · exact hanswers b hb

/-- Calls for one user after another. -/
def Campaign.migrateEachById {σ τ : Type} (c : Campaign σ τ) (legacyIds : List String) :
    Action σ (List (Except Failure UserResult)) :=
  legacyIds.mapM c.migrateById

/-- A campaign that is set up to migrate the users of a rehearsal, in a dry run or not. -/
structure Enrols (i : Interference φ) (c : Campaign (World φ) Transaction) : Prop where
  store : c.store = Rehearsal.store i
  provider : c.provider = some Rehearsal.provider
  stopRequested : c.stopRequested = Rehearsal.stopRequested i
  ready : c.ready = true

namespace Enrols

variable {c : Campaign (World φ) Transaction}

theorem provider?_eq (hc : Enrols i c) : c.provider? = .ok Rehearsal.provider := by
  simp [Campaign.provider?, hc.ready, hc.provider]

theorem migrateUsers_eq (hc : Enrols i c) :
    c.migrateUsers =
      migrateUsers (Rehearsal.store i) Rehearsal.provider (Rehearsal.stopRequested i) := by
  simp [Campaign.migrateUsers, hc.provider?_eq, hc.store, hc.stopRequested]

theorem migrateById_eq (hc : Enrols i c) (legacyId : String) :
    c.migrateById legacyId = migrateById (Rehearsal.store i) Rehearsal.provider legacyId := by
  simp [Campaign.migrateById, hc.provider?_eq, hc.store]

end Enrols

/-- The end of a batch agrees with the end of single calls: the store, the provider and the clock
are the same, and the batch counts as success the calls that migrated the user, as skipped those
that refused the identifier, and as errors those that failed to resolve or store the user. There are
no other answers. -/
structure AgreesWithCalls (batch : Except Failure Summary × Run (World φ))
    (calls : List (Except Failure UserResult) × Run (World φ)) : Prop where
  store : calls.2.world.store = batch.2.world.store
  provider : calls.2.world.provider = batch.2.world.provider
  clock : calls.2.world.clock = batch.2.world.clock
  summary : batch.1 = .ok ⟨.users, calls.1.countP isMigrated,
    calls.1.countP (failsAs [.notLegacyFormat]),
    calls.1.countP (failsAs [.resolution, .transaction]), false⟩
  answers : ∀ a ∈ calls.1,
    isMigrated a = true ∨ failsAs [.notLegacyFormat, .resolution, .transaction] a = true

/-- A batch and single calls agree. Where the same steps of the store fail every time, users can be
listed and looked up, no stop is requested, and the identifiers of the users are different and have
no blanks around them, a batch of all users agrees with single calls in the order of the batch. -/
theorem migrateUsers_agrees {c : Campaign (World φ) Transaction} (hc : Enrols i c)
    (hsteady : i.Steady failing w.mind) (hlist : failing .legacyUsersByAge = false)
    (hfind : failing .legacyUserById = false)
    (hids : (w.store.legacyUsers.map LegacyUser.legacyId).Nodup)
    (htrim : ∀ u ∈ w.store.legacyUsers, trim u.legacyId = u.legacyId) :
    AgreesWithCalls (c.migrateUsers (.start w))
      (c.migrateEachById (w.store.legacyUsersByAge.map LegacyUser.legacyId) (.start w)) := by
  obtain ⟨P, hm, hkeeps⟩ := hsteady
  have hcalls : c.migrateEachById (w.store.legacyUsersByAge.map LegacyUser.legacyId) =
      w.store.legacyUsersByAge.mapM fun u =>
        migrateById (Rehearsal.store i) Rehearsal.provider u.legacyId := by
    simp only [Campaign.migrateEachById, List.mapM_map, Function.comp_def, hc.migrateById_eq]
  rw [hc.migrateUsers_eq, hcalls]
  have hlisted : ∀ u ∈ w.store.legacyUsersByAge,
      u ∈ w.store.legacyUsers ∧ trim u.legacyId = u.legacyId := by
    intro u hu
    have hmem := List.mem_mergeSort.mp hu
    exact ⟨hmem, htrim u hmem⟩
  obtain ⟨hresult, hworld, -⟩ :=
    migrateUsers_run (i := i) ((hkeeps.fails hm _).trans hlist) ([] : List Event)
  have halike : World.Alike P w.store.legacyUsers
      { w with mind := (i.fails .legacyUsersByAge none w.mind).2 } w :=
    ⟨(hkeeps.keeps.fails hm _ _).1, hm, rfl, rfl⟩
  obtain ⟨hend, hsummary, hanswers⟩ := migrateEach_alike hkeeps hfind hids hlisted
    w.store.legacyUsersByAge.length 0 (.start .users) _ [] halike
  rw [← hworld] at hend
  rw [hsummary, Summary.countAnswers_start] at hresult
  exact ⟨hend.store_eq, hend.provider_eq, hend.clock_eq, hresult, hanswers⟩

open Rehearsal in
/-- Two accounts of one person of which the second cannot be joined, because memberships can never
be asked for, after an identifier of another shape and a blank email. -/
theorem migrateUsers_agrees_stage :
    let other : LegacyUser := { Stage.ada with legacyId := "bob", createdAt := ⟨0, 0⟩ }
    let blank : LegacyUser := { Stage.ada with
      legacyId := "Ada0000000000000000000000003", email := " ", createdAt := ⟨1, 0⟩ }
    let users := [other, blank, Stage.ada, Stage.adaAgain]
    let script : Script := { Script.quiet with faults := [(.hasMembership, none)] }
    let w : Stage := { Stage.ofUsers users with mind := script }
    let failing : Point → Bool := fun point => script.fails point none
    let calls := Stage.campaign.migrateEachById (users.map LegacyUser.legacyId) (.start w)
    Enrols Script.interference Stage.campaign ∧ Script.interference.Steady failing w.mind ∧
      failing .legacyUsersByAge = false ∧ failing .legacyUserById = false ∧
      (w.store.legacyUsers.map LegacyUser.legacyId).Nodup ∧
      (∀ u ∈ w.store.legacyUsers, trim u.legacyId = u.legacyId) ∧
      w.store.legacyUsersByAge = users ∧
      AgreesWithCalls (Stage.campaign.migrateUsers (.start w))
        (Stage.campaign.migrateEachById (w.store.legacyUsersByAge.map LegacyUser.legacyId)
          (.start w)) ∧
      calls.1.map isMigrated = [false, false, true, false] ∧
      calls.1.map (failsAs [.transaction]) = [false, false, false, true] ∧
      calls.2.world.clock.now = ⟨1704067201, 0⟩ := by
  intro other blank users script w failing calls
  have hc : Enrols Script.interference Stage.campaign := ⟨rfl, rfl, rfl, rfl⟩
  have hsteady : Script.interference.Steady failing w.mind := Script.steady rfl rfl
  have hlist : failing .legacyUsersByAge = false := by decide
  have hfind : failing .legacyUserById = false := by decide
  have hids : (w.store.legacyUsers.map LegacyUser.legacyId).Nodup := by decide
  have htrim : ∀ u ∈ w.store.legacyUsers, trim u.legacyId = u.legacyId := by decide +kernel
  have hlisted : w.store.legacyUsersByAge = users :=
    List.mergeSort_of_pairwise (by decide +kernel)
  refine ⟨hc, hsteady, hlist, hfind, hids, htrim, hlisted,
    migrateUsers_agrees hc hsteady hlist hfind hids htrim, ?_, ?_, ?_⟩
  · decide +kernel
  · decide +kernel
  · decide +kernel

end Rekey

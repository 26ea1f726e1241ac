import Rekey.Proofs.Users.Journal
import Rekey.Proofs.Users.Pass

/-!
# Idempotence

A migration of all users that ran to its end without errors has settled all of them. Running it
again passes over the same users: nothing is added for anyone, and the rows that are written again
end as they were (`Enrolled.again`), also those of a legacy identifier that several users have.
-/

namespace Rekey

/-- The event tells that a user of a batch failed, or that something was added for the user. -/
def Event.tellsNews : Event → Bool
  | .userFailed _ _ => true
  | .userMigrated _ _ createdUser membershipAdded => createdUser || membershipAdded
  | _ => false

theorem Event.tellsNews_of_isRecordStep {e : Event} (h : e.isRecordStep = true) :
    e.tellsNews = false := by
  cases e with
  | userFailed _ _ => contradiction
  | userMigrated _ _ _ _ => contradiction
  | _ => rfl

variable {φ : Type} {i : Interference φ} {P : φ → Prop} {F S : Prop} {w w₁ w₂ : World φ}
  {users : List LegacyUser} {u : LegacyUser}

/-! ## Passing over users again -/

/-- Passing over users whom the provider knows teaches nothing, and passing over the same users
again writes nothing new. -/
theorem Pass.again (h : Pass users w w₁) (h' : Pass users w₁ w₂)
    (hknows : ∀ u ∈ eligible users, w₁.provider.Knows u) :
    w₂.provider = w₁.provider ∧ w₂.store = w₁.store := by
  have hprovider : w₂.provider = w₁.provider := by
    rw [h'.provider, MemoryProvider.learnAll_of_knows hknows]
  refine ⟨hprovider, ?_⟩
  have hsecond := h'.enrolled
  rw [hprovider] at hsecond
  obtain ⟨hmappings, htargets, hmemberships⟩ := h.enrolled.again hsecond
  rw [h'.store_frame, hmappings, htargets, hmemberships]

theorem World.Settled.knows (h : w.Settled u) (hu : u.isEligible = true) : w.provider.Knows u := by
  obtain ⟨-, a, hknown, -⟩ := h (LegacyUser.isEligible_iff.mp hu).1
  exact ⟨a, (MemoryProvider.accountOf_eq_ok_iff.mp hknown).2⟩

/-! ## What is told of users who are settled -/

/-- The migration of a record that is settled tells of its steps, and ends without news. -/
theorem migrateRecord_settled (h : i.Keeps P False S) {journal : List Event} (hw : P w.mind)
    (hready : w.store.mappingsReady = true) (hu : w.Settled u)
    (hquiet : ∀ e ∈ journal, e.tellsNews = false) :
    Ends (migrateRecord (Rehearsal.store i) Rehearsal.provider u) ⟨w, journal⟩ fun r run =>
      P run.world.mind ∧ Served w u r run.world ∧
        (r = .ok .skipped ∨ ∃ newId, r = .ok (.migrated newId false false)) ∧
        ∀ e ∈ run.journal, e.tellsNews = false := by
  have hsteps : TellsSteps ⟨w, journal⟩
      (migrateRecord (Rehearsal.store i) Rehearsal.provider u ⟨w, journal⟩).2 :=
    tells_migrateRecord _
  have hend : Ends (migrateRecord (Rehearsal.store i) Rehearsal.provider u) ⟨w, journal⟩ _ :=
    migrateRecord_ends h hw
  obtain ⟨hP, hrecord⟩ := hend
  obtain ⟨hserved, hresult⟩ := hrecord.served_of_settled hready hu
  refine ⟨hP, hserved, hresult, fun e he => ?_⟩
  rcases hsteps e he with hold | hstep
  · exact hquiet e hold
  · exact Event.tellsNews_of_isRecordStep hstep

/-- A batch of users who are settled tells no news. -/
theorem migrateEach_settled (h : i.Keeps P False False) {total processed : Nat} {s : Summary}
    {users : List LegacyUser} {journal : List Event} (hw : P w.mind)
    (hready : w.store.mappingsReady = true) (hsettled : ∀ u ∈ users, w.Settled u)
    (hquiet : ∀ e ∈ journal, e.tellsNews = false) :
    Ends (migrateEach (Rehearsal.store i) Rehearsal.provider (Rehearsal.stopRequested i)
        total processed s users) ⟨w, journal⟩ fun _ run =>
      ∀ e ∈ run.journal, e.tellsNews = false := by
  induction users generalizing w journal processed s with
  | nil => exact hquiet
  | cons u rest ih =>
    unfold migrateEach
    rw [ends_bind, ends_call]
    refine (Rehearsal.ends_stopRequested h hw).mono ?_
    rintro stopped _ ⟨m, hm, rfl, hstop⟩
    cases stopped with
    | true => exact (hstop rfl).elim
    | false =>
      rw [if_neg (by simp), ends_bind]
      refine (migrateRecord_settled (w := { w with mind := m }) h hm hready
        (hsettled u List.mem_cons_self) hquiet).mono ?_
      rintro r ⟨w', journal'⟩ ⟨hw', hserved, hr, hquiet'⟩
      have hready' : w'.store.mappingsReady = true := hserved.ready hready
      have hrest : ∀ v ∈ rest, w'.Settled v := fun v hv =>
        hserved.keeps (hsettled v (List.mem_cons_of_mem u hv))
      rw [ends_bind]
      -- the outcome of the record is told, and it is no news
      have htold : Ends (tellUser u r) (⟨w', journal'⟩ : Run (World φ)) fun _ run =>
          run.world = w' ∧ ∀ e ∈ run.journal, e.tellsNews = false := by
        rcases hr with rfl | ⟨newId, rfl⟩
        · exact ⟨rfl, hquiet'⟩
        · exact ⟨rfl, List.forall_mem_cons.mpr ⟨rfl, hquiet'⟩⟩
      refine htold.mono ?_
      rintro _ ⟨_, journal''⟩ ⟨rfl, hquiet''⟩
      dsimp only
      split
      · rw [ends_bind, ends_tell]
        exact ih hw' hready' hrest (List.forall_mem_cons.mpr ⟨rfl, hquiet''⟩)
      · exact ih hw' hready' hrest hquiet''

/-! ## Runs -/

namespace Attempt

variable {a : Attempt φ}

/-- A calm run over users who are settled tells no news. -/
theorem events_settled (ha : P a.mind) (h : a.interference.Keeps P False False)
    (hready : w.store.mappingsReady = true)
    (hsettled : ∀ u ∈ w.store.legacyUsersByAge, w.Settled u) :
    ∀ e ∈ a.events w, e.tellsNews = false := by
  show Ends (migrateUsers _ _ _) _ fun _ run => ∀ e ∈ run.journal, e.tellsNews = false
  unfold migrateUsers
  rw [ends_bind, ends_call]
  refine (Rehearsal.ends_guarded_query h ha).mono ?_
  rintro listed _ ⟨m, hm, rfl, rfl | ⟨hF, -⟩⟩
  swap
  · exact hF.elim
  dsimp only
  rw [ends_bind, ends_tell, ends_bind]
  have hbegun : ∀ e ∈ [Event.usersBegun w.store.legacyUsersByAge.length "memory"],
      e.tellsNews = false := List.forall_mem_singleton.mpr rfl
  refine (migrateEach_settled (w := { w with mind := m }) h hm hready hsettled hbegun).mono ?_
  intro s run hquiet
  rw [ends_bind, ends_tell]
  exact List.forall_mem_cons.mpr ⟨rfl, hquiet⟩

end Attempt

/-- A migration that ended without errors and was not stopped is repeated by a calm run with the
same summary: nobody fails, nothing is added for anyone, and the provider and the store, with every
time in it, end as they were. -/
theorem migrateUsers_idempotent {w : World φ} {first second : Attempt φ} {s : Summary}
    (hready : w.store.mappingsReady = true) (hcalm : second.IsCalm)
    (hfirst : first.result w = .ok s) (herrors : s.errors = 0) (hwhole : s.interrupted = false) :
    let once := first.run w
    let twice := second.run once
    second.result once = .ok s ∧ (∀ e ∈ second.events once, e.tellsNews = false) ∧
      twice.provider = once.provider ∧ twice.store = once.store := by
  intro once twice
  obtain ⟨hpass, hsummary, hsettled⟩ := Attempt.clean_pass hfirst herrors hwhole
  have husers : once.store.legacyUsersByAge = w.store.legacyUsersByAge := hpass.legacyUsersByAge
  have hready' : once.store.mappingsReady = true := hpass.mappingsReady.trans hready
  rw [← husers] at hpass hsummary hsettled
  obtain ⟨hagain, hresult⟩ := Attempt.settled_pass hcalm hready' hsettled
  obtain ⟨hprovider, hstore⟩ := hpass.again hagain fun u hu =>
    (hsettled u (List.mem_of_mem_filter hu)).knows (List.of_mem_filter hu)
  refine ⟨by rw [hresult, ← hsummary], ?_, hprovider, hstore⟩
  obtain ⟨P, hm, hkeeps⟩ := hcalm
  exact Attempt.events_settled hm hkeeps hready' hsettled

open Rehearsal in
/-- A legacy identifier that is listed twice, with two emails of which one is known already and must
not be created: each run moves its mapping to the first identity and on to the second. -/
theorem migrateUsers_idempotent_stage :
    let older := Stage.ada
    let newer := { Stage.adaAgain with legacyId := older.legacyId, email := "ada@example.com" }
    let known := { MemoryProvider.empty.insert "known" "ada@example.org" with
      failingCreates := ["ada@example.org"] }
    let w := { Stage.ofUsers [older, newer] with provider := known }
    let quiet : Attempt Script := ⟨Script.interference, .quiet⟩
    let once := quiet.run w
    w.store.mappingsReady = true ∧ quiet.IsCalm ∧
      quiet.result w = .ok ⟨.users, 2, 0, 0, false⟩ ∧
      quiet.result once = .ok ⟨.users, 2, 0, 0, false⟩ ∧
      (∀ e ∈ quiet.events once, e.tellsNews = false) ∧
      (quiet.run once).store = once.store := by
  intro older newer known w quiet once
  have hlisted : w.store.legacyUsersByAge = [older, newer] :=
    List.mergeSort_of_pairwise (by decide +kernel)
  have hfirst : quiet.result w = .ok ⟨.users, 2, 0, 0, false⟩ := by
    rw [(Attempt.listed hlisted rfl).1]
    decide +kernel
  have hcalm : quiet.IsCalm := Script.calm_quiet
  obtain ⟨hagain, hquiet, -, hstore⟩ := migrateUsers_idempotent (w := w) rfl hcalm hfirst rfl rfl
  exact ⟨rfl, hcalm, hfirst, hagain, hquiet, hstore⟩

end Rekey

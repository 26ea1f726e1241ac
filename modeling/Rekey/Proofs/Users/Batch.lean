import Rekey.Proofs.Users.Record

/-!
# Batches

How a batch of users may end in a rehearsal. `Batch` follows the recursion over the users: each
user is migrated as `Migrates` says, and the batch may be stopped before each of them. `UserPhase`
adds the listing that a batch begins with.
-/

namespace Rekey

variable {φ : Type} {i : Interference φ} {P : φ → Prop} {F S : Prop}

/-- How migrating users one after another may end, from a world and a summary. Between two users
only the mind of the interference changes. -/
inductive Batch (mayFail mayStop : Prop) :
    World φ → Summary → List LegacyUser → Summary → World φ → Prop
  | finished {w : World φ} {s : Summary} : Batch mayFail mayStop w s [] s w
  | stopped {w : World φ} {s : Summary} {users : List LegacyUser} {m : φ} (h : mayStop) :
      Batch mayFail mayStop w s users { s with interrupted := true } { w with mind := m }
  | next {w w' w'' : World φ} {s s' : Summary} {u : LegacyUser} {rest : List LegacyUser} {m : φ}
      {r : Except Failure UserResult} (h : Migrates mayFail { w with mind := m } u r w')
      (hrest : Batch mayFail mayStop w' (s.countUser r) rest s' w'') :
      Batch mayFail mayStop w s (u :: rest) s' w''

/-- How migrating all users may end: the users cannot be listed, or a batch of them ends. -/
inductive UserPhase (mayFail mayStop : Prop) (w : World φ) :
    Except Failure Summary → World φ → Prop
  | unlisted {m : φ} (h : mayFail) :
      UserPhase mayFail mayStop w
        (.error (.store (Rehearsal.injected .legacyUsersByAge))) { w with mind := m }
  | listed {m : φ} {s : Summary} {w' : World φ}
      (h : Batch mayFail mayStop { w with mind := m } (.start .users) w.store.legacyUsersByAge
        s w') :
      UserPhase mayFail mayStop w (.ok s) w'

/-- What every record keeps, a batch keeps. -/
theorem Batch.preserves {I : World φ → Prop} (hmind : ∀ w m, I w → I { w with mind := m })
    (hrecord : ∀ w u r w', Migrates F w u r w' → I w → I w') {w w' : World φ} {s s' : Summary}
    {users : List LegacyUser} (h : Batch F S w s users s' w') (hw : I w) : I w' := by
  induction h with
  | finished => exact hw
  | stopped _ => exact hmind _ _ hw
  | next hone _ ih => exact ih (hrecord _ _ _ _ hone (hmind _ _ hw))

theorem UserPhase.preserves {I : World φ → Prop} (hmind : ∀ w m, I w → I { w with mind := m })
    (hrecord : ∀ w u r w', Migrates F w u r w' → I w → I w') {w w' : World φ}
    {r : Except Failure Summary} (h : UserPhase F S w r w') (hw : I w) : I w' := by
  cases h with
  | unlisted _ => exact hmind _ _ hw
  | listed hbatch => exact hbatch.preserves hmind hrecord (hmind _ _ hw)

/-- A phase that ends with a summary is a batch of the users listed. -/
theorem UserPhase.batch {w w' : World φ} {s : Summary} (h : UserPhase F S w (.ok s) w') :
    ∃ m, Batch F S { w with mind := m } (.start .users) w.store.legacyUsersByAge s w' := by
  cases h with
  | listed hbatch => exact ⟨_, hbatch⟩

/-- Without failures the users can be listed. -/
theorem UserPhase.summary_of_unfailing {w w' : World φ} {r : Except Failure Summary}
    (h : UserPhase False S w r w') : ∃ s, r = .ok s := by
  cases h with
  | unlisted h => exact h.elim
  | listed _ => exact ⟨_, rfl⟩

theorem ends_tellUser {u : LegacyUser} {r : Except Failure UserResult} {run : Run (World φ)}
    {Q : World φ → Prop} (h : Q run.world) :
    Ends (tellUser u r) run fun _ run' => Q run'.world := by
  unfold tellUser
  split <;> exact h

/-- Migrating users in order ends as `Batch` says. -/
theorem migrateEach_ends (h : i.Keeps P F S) {total processed : Nat} {s : Summary}
    {users : List LegacyUser} {w : World φ} {journal : List Event} (hw : P w.mind) :
    Ends (migrateEach (Rehearsal.store i) Rehearsal.provider (Rehearsal.stopRequested i)
        total processed s users) ⟨w, journal⟩ fun s' run =>
      P run.world.mind ∧ Batch F S w s users s' run.world := by
  induction users generalizing w journal processed s with
  | nil => exact ⟨hw, .finished⟩
  | cons u rest ih =>
    unfold migrateEach
    rw [ends_bind, ends_call]
    refine (Rehearsal.ends_stopRequested h hw).mono ?_
    rintro stopped _ ⟨m, hm, rfl, hS⟩
    cases stopped with
    | true => exact ⟨hm, .stopped (hS rfl)⟩
    | false =>
      rw [if_neg (by simp), ends_bind]
      refine (migrateRecord_ends (w := { w with mind := m }) h hm).mono ?_
      rintro r ⟨w', journal'⟩ ⟨hw', hr⟩
      rw [ends_bind]
      refine Ends.mono (ends_tellUser (Q := (· = w')) rfl) ?_
      rintro _ ⟨_, journal''⟩ rfl
      -- telling the progress leaves the world alone
      dsimp only
      split
      · rw [ends_bind, ends_tell]
        refine (ih hw').mono fun s' run hend => ?_
        exact ⟨hend.1, .next hr hend.2⟩
      · refine (ih hw').mono fun s' run hend => ?_
        exact ⟨hend.1, .next hr hend.2⟩

/-- Migrating all users ends as `UserPhase` says. -/
theorem migrateUsers_ends (h : i.Keeps P F S) (journal : List Event) {w : World φ}
    (hw : P w.mind) :
    Ends (migrateUsers (Rehearsal.store i) Rehearsal.provider (Rehearsal.stopRequested i))
        ⟨w, journal⟩ fun r run =>
      P run.world.mind ∧ UserPhase F S w r run.world := by
  unfold migrateUsers
  rw [ends_bind, ends_call]
  refine (Rehearsal.ends_guarded_query h hw).mono ?_
  rintro listed _ ⟨m, hm, rfl, rfl | ⟨hF, rfl⟩⟩
  · dsimp only
    rw [ends_bind, ends_tell, ends_bind]
    refine (migrateEach_ends (w := { w with mind := m }) h hm).mono ?_
    exact fun s run hend => ⟨hend.1, .listed hend.2⟩
  · exact ⟨hm, .unlisted hF⟩

/-- Where the users can be listed they are migrated one after another. -/
theorem migrateUsers_run {w : World φ}
    (hpass : (i.fails .legacyUsersByAge none w.mind).1 = false) (journal : List Event) :
    Ends (migrateUsers (Rehearsal.store i) Rehearsal.provider (Rehearsal.stopRequested i))
        ⟨w, journal⟩ fun r run =>
      Ends (migrateEach (Rehearsal.store i) Rehearsal.provider (Rehearsal.stopRequested i)
          w.store.legacyUsersByAge.length 0 (.start .users) w.store.legacyUsersByAge)
        ⟨{ w with mind := (i.fails .legacyUsersByAge none w.mind).2 },
          .usersBegun w.store.legacyUsersByAge.length "memory" :: journal⟩ fun s run' =>
          r = .ok s ∧ run.world = run'.world ∧
            run.journal = .usersFinished s :: run'.journal := by
  unfold migrateUsers
  rw [ends_bind, ends_call]
  refine (Rehearsal.ends_query_of_passes hpass).mono ?_
  rintro _ _ ⟨rfl, rfl⟩
  exact ⟨rfl, rfl, rfl⟩

end Rekey

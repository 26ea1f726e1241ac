import Rekey.Proofs.Users.Plan
import Rekey.Proofs.Users.Resolution

/-!
# One record

How the migration of one record may end in a rehearsal, and what it leaves behind. `Stores` and
`Migrates` say everything that a call can do: which worlds it can end in, with which results, and
for which reasons it fails. All statements about batches are derived from them.
-/

namespace Rekey

open Rekey.Text (trim)

variable {φ : Type} {i : Interference φ} {P : φ → Prop} {F S : Prop} {w : World φ}
  {u : LegacyUser} {newId : String} {journal : List Event}

/-- How storing a user may end: nothing but the mind of the interference is changed, or the user
is enrolled. -/
inductive Stores (mayFail : Prop) (w : World φ) (u : LegacyUser) (newId : String) :
    Except Failure UserResult → World φ → Prop
  | failed {m : φ} {e : StoreFault}
      (h : Rehearsal.IsInjected mayFail e ∨ w.store.Unplanned u newId e) :
      Stores mayFail w u newId (.error (.transaction u.legacyId e)) { w with mind := m }
  | enrolled {m : φ} {t : Transaction} {written : Written}
      (h : w.store.Planned u newId t written) :
      Stores mayFail w u newId
        (.ok (.migrated newId written.createdUser written.membershipAdded))
        { w with
          mind := m
          clock := w.clock.advance
          store := w.store.enrol w.clock.advance.now u newId }

/-- How storing a user may end does not hang on the mind of the interference. -/
theorem Stores.of_mind {m : φ} {r : Except Failure UserResult} {w' : World φ}
    (h : Stores F { w with mind := m } u newId r w') : Stores F w u newId r w' := by
  cases h with
  | failed h => exact .failed h
  | enrolled h => exact .enrolled h

theorem endTransaction_ends (h : i.Keeps P F S) (hw : P w.mind) {r : Writes Transaction}
    (hr : Follows F (w.store.plan u newId) r) :
    Ends (endTransaction (Rehearsal.store i) u newId r) ⟨w, journal⟩ fun r run =>
      P run.world.mind ∧ Stores F w u newId r run.world := by
  rcases r with ⟨t, e | written⟩
  · -- a write has failed, so the transaction is taken back
    have he : Rehearsal.IsInjected F e ∨ w.store.Unplanned u newId e :=
      hr.imp_right MemoryTables.unplanned_of_plan
    dsimp only [endTransaction]
    rw [ends_bind, ends_call]
    refine (Rehearsal.ends_rollback h hw t).mono ?_
    rintro (r | _) _ ⟨m, hm, rfl, -⟩ <;> exact ⟨hm, .failed he⟩
  · have hplanned := MemoryTables.planned_of_plan hr
    dsimp only [endTransaction]
    rw [ends_bind, ends_call]
    refine (Rehearsal.ends_commit h hw t).mono ?_
    rintro r _ ⟨m, hm, ⟨rfl, rfl⟩ | ⟨hF, rfl, rfl⟩⟩
    · rw [hplanned.commit_eq]
      exact ⟨hm, .enrolled hplanned⟩
    · exact ⟨hm, .failed (.inl ⟨hF, _, rfl⟩)⟩

/-- Storing a user enrols the user or leaves the world alone. -/
theorem storeUser_ends (h : i.Keeps P F S) (hw : P w.mind) :
    Ends (storeUser (Rehearsal.store i) u newId) ⟨w, journal⟩ fun r run =>
      P run.world.mind ∧ Stores F w u newId r run.world := by
  unfold storeUser
  rw [ends_bind, ends_call]
  refine (Rehearsal.ends_begin h hw).mono ?_
  rintro r _ ⟨m, hm, rfl, rfl | ⟨hF, rfl⟩⟩
  · dsimp only
    rw [ends_bind, ends_tell, ends_bind]
    refine (stageUser_ends (w := { w with mind := m }) h hm).mono ?_
    rintro writes _ ⟨m', journal', hm', rfl, hwrites⟩
    refine (endTransaction_ends (w := { w with mind := m' }) h hm' hwrites).mono ?_
    exact fun _ _ hend => ⟨hend.1, hend.2.of_mind⟩
  · exact ⟨hm, .failed (.inl ⟨hF, _, rfl⟩)⟩

/-- How the migration of a record may end. Resolving comes before storing, so a failure to store
leaves behind what the provider has learnt. -/
inductive Migrates (mayFail : Prop) (w : World φ) (u : LegacyUser) :
    Except Failure UserResult → World φ → Prop
  | skipped (hlegacy : isLegacyId u.legacyId = false) : Migrates mayFail w u (.ok .skipped) w
  | unresolved {cause : ProviderFault} (hlegacy : isLegacyId u.legacyId = true)
      (h : u.emailKey = "" ∨ w.provider.Refuses u.emailKey) :
      Migrates mayFail w u (.error (.resolution u.emailKey cause)) w
  | stored {a : Account} {r : Except Failure UserResult} {w' : World φ}
      (hlegacy : isLegacyId u.legacyId = true) (hblank : u.emailKey ≠ "")
      (hknown : (w.provider.learn u.emailKey).accountOf u.emailKey = .ok a)
      (h : Stores mayFail { w with provider := w.provider.learn u.emailKey } u a.id r w') :
      Migrates mayFail w u r w'

/-- Migrating a record in a rehearsal ends as `Migrates` says. -/
theorem migrateRecord_ends (h : i.Keeps P F S) (hw : P w.mind) :
    Ends (migrateRecord (Rehearsal.store i) Rehearsal.provider u) ⟨w, journal⟩ fun r run =>
      P run.world.mind ∧ Migrates F w u r run.world := by
  unfold migrateRecord
  rw [ends_bind, ends_tell]
  by_cases hlegacy : isLegacyId u.legacyId = true
  · rw [if_pos hlegacy, ends_bind, ends_tell, ends_bind]
    refine (resolveIdentity_ends w _ u.email).mono ?_
    rintro r _ ⟨p, journal', rfl, hresolved⟩
    cases hresolved with
    | refused hrefused => exact ⟨hw, .unresolved hlegacy hrefused⟩
    | known hblank hknown =>
      dsimp only
      rw [ends_bind, ends_tell]
      refine (storeUser_ends (w := { w with provider := w.provider.learn u.emailKey }) h hw).mono ?_
      exact fun _ _ hend => ⟨hend.1, .stored hlegacy hblank hknown hend.2⟩
  · rw [if_neg hlegacy]
    exact ⟨hw, .skipped (by simpa using hlegacy)⟩

end Rekey

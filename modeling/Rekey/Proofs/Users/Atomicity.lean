import Rekey.Proofs.Users.Record

/-!
# Migrating a record is atomic

Whatever fails, a record that is not migrated leaves the store as it was. Only the provider may
keep what a failed call has done, and then it is the one identity that the next call looks up.
-/

namespace Rekey

variable {φ : Type} {F : Prop} {w w' : World φ} {u : LegacyUser} {newId : String}
  {r : Except Failure UserResult}

/-- Storing a user does not touch the provider. -/
theorem Stores.provider_eq (h : Stores F w u newId r w') : w'.provider = w.provider := by
  cases h <;> rfl

/-- A user that is not enrolled leaves the store as it was. -/
theorem Stores.store_eq (h : Stores F w u newId r w')
    (hr : ∀ newId created joined, r ≠ .ok (.migrated newId created joined)) :
    w'.store = w.store := by
  cases h with
  | failed _ => rfl
  | enrolled _ => exact absurd rfl (hr _ _ _)

/-- A failure to store a user is a failure of its transaction. -/
theorem Stores.kind_of_error {f : Failure} (h : Stores F w u newId (.error f) w') :
    f.kind = .transaction := by
  cases h
  rfl

/-- A record that is not migrated leaves the store as it was. -/
theorem Migrates.store_eq (h : Migrates F w u r w')
    (hr : ∀ newId created joined, r ≠ .ok (.migrated newId created joined)) :
    w'.store = w.store := by
  cases h with
  | skipped _ => rfl
  | unresolved _ _ => rfl
  | stored _ _ _ hstore => exact hstore.store_eq hr

/-- A record that was skipped or not resolved leaves the provider as it was. -/
theorem Migrates.provider_eq (h : Migrates F w u r w')
    (hr : r = .ok .skipped ∨ ∃ email cause, r = .error (.resolution email cause)) :
    w'.provider = w.provider := by
  cases h with
  | skipped _ => rfl
  | unresolved _ _ => rfl
  | stored _ _ _ hstore =>
    cases hstore with
    | failed _ => simp at hr
    | enrolled _ => simp at hr

/-- Migrating a record teaches the provider at most the identity of the record's email. -/
theorem Migrates.provider_gains (h : Migrates F w u r w') :
    w'.provider = w.provider ∨ w.provider.Gains u.emailKey w'.provider := by
  cases h with
  | skipped _ => exact .inl rfl
  | unresolved _ _ => exact .inl rfl
  | stored _ _ hknown hstore =>
    rw [hstore.provider_eq]
    exact MemoryProvider.learn_gains hknown

/-- A record fails to be resolved or its transaction fails; nothing else goes wrong. -/
theorem Migrates.kind_of_error {f : Failure} (h : Migrates F w u (.error f) w') :
    f.kind = .resolution ∨ f.kind = .transaction := by
  cases h with
  | unresolved _ _ => exact .inl rfl
  | stored _ _ _ hstore => exact .inr hstore.kind_of_error

/-- Under every pattern of failures, a record that is not migrated leaves the whole
store as it was; one that is skipped or not resolved leaves the provider as it was too; and one
whose transaction fails leaves behind at most the one identity that a later lookup of its email
answers. -/
theorem migrateRecord_atomic (i : Interference φ) (w : World φ) (u : LegacyUser)
    (journal : List Event) :
    let ended := migrateRecord (Rehearsal.store i) Rehearsal.provider u ⟨w, journal⟩
    let result := ended.1
    let after := ended.2.world
    ((∀ newId created joined, result ≠ .ok (.migrated newId created joined)) →
      after.store = w.store) ∧
    ((result = .ok .skipped ∨ ∃ email cause, result = .error (.resolution email cause)) →
      after.provider = w.provider) ∧
    (∀ legacyId cause, result = .error (.transaction legacyId cause) →
      after.provider = w.provider ∨ w.provider.Gains u.emailKey after.provider) ∧
    (∀ f, result = .error f → f.kind = .resolution ∨ f.kind = .transaction) := by
  intro ended result after
  have hrecord : Ends (migrateRecord (Rehearsal.store i) Rehearsal.provider u) ⟨w, journal⟩
      fun r run => True ∧ Migrates True w u r run.world := migrateRecord_ends i.keeps_any trivial
  have hend : Migrates True w u result after := hrecord.2
  refine ⟨hend.store_eq, hend.provider_eq, fun _ _ _ => hend.provider_gains, ?_⟩
  intro f hf
  rw [hf] at hend
  exact hend.kind_of_error

end Rekey

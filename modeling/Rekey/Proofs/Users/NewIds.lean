import Rekey.Proofs.Users.Batch
import Rekey.Proofs.Users.Consistency

/-!
# New identifiers

A provider in memory that hands out only the identifiers it has numbered itself never hands out one
of the old shape, and no mapping ever points to one.
-/

namespace Rekey

variable {φ : Type} {F S : Prop} {w w' : World φ} {u : LegacyUser} {r : Except Failure UserResult}

/-- A numbered identifier has not the old shape. -/
theorem isLegacyId_numberedId (n : Nat) : isLegacyId (MemoryProvider.numberedId n) = false := by
  rw [Bool.eq_false_iff]
  intro h
  have hmark : '_' ∈ (MemoryProvider.numberedId n).toList := by simp [MemoryProvider.numberedId]
  have halnum : '_'.isAlphanum = true := (isLegacyId_iff.mp h).2 '_' hmark
  exact absurd halnum (by decide)

/-- Neither the provider nor a mapping names a new identifier of the old shape. -/
structure World.IdsNew (w : World φ) : Prop where
  accounts : ∀ (email : String) (a : Account), w.provider.byEmail[email]? = some a →
    isLegacyId a.id = false
  mappings : ∀ (legacyId : String) (m : Mapping), w.store.mappings[legacyId]? = some m →
    isLegacyId m.newId = false

theorem World.IdsNew.learn (h : w.IdsNew) (email : String) :
    ({ w with provider := w.provider.learn email } : World φ).IdsNew := by
  refine ⟨fun known a ha => ?_, h.mappings⟩
  rcases MemoryProvider.learn_cases w.provider email with hsame | ⟨hcreate, hnew⟩
  · exact h.accounts known a (hsame ▸ ha)
  · rw [MemoryProvider.learn_of_unknown hcreate hnew] at ha
    simp only [Std.ExtTreeMap.getElem?_insert] at ha
    split at ha
    · obtain rfl := Option.some.inj ha
      exact isLegacyId_numberedId _
    · exact h.accounts known a ha

theorem MemoryTables.newId_of_enrol {s : MemoryTables} {now : Timestamp} {newId legacyId : String}
    {m : Mapping} (h : (s.enrol now u newId).mappings[legacyId]? = some m) :
    m.newId = newId ∨ s.mappings[legacyId]? = some m := by
  rw [MemoryTables.enrol_mappings] at h
  split at h
  · obtain rfl := Option.some.inj h
    cases s.mappings[legacyId]? <;> exact .inl rfl
  · exact .inr h

theorem Migrates.idsNew (h : Migrates F w u r w') (hw : w.IdsNew) : w'.IdsNew := by
  cases h with
  | skipped _ => exact hw
  | unresolved _ _ => exact hw
  | stored _ _ hknown hstore =>
    have hlearnt := hw.learn u.emailKey
    cases hstore with
    | failed _ => exact ⟨hlearnt.accounts, hlearnt.mappings⟩
    | enrolled _ =>
      refine ⟨hlearnt.accounts, fun legacyId m hm => ?_⟩
      rcases MemoryTables.newId_of_enrol hm with hnew | hold
      · rw [hnew]
        exact hlearnt.accounts _ _ (MemoryProvider.accountOf_eq_ok_iff.mp hknown).2
      · exact hw.mappings legacyId m hold

theorem UserPhase.idsNew {res : Except Failure Summary} (h : UserPhase F S w res w')
    (hw : w.IdsNew) : w'.IdsNew :=
  h.preserves (fun _ _ hw => ⟨hw.accounts, hw.mappings⟩) (fun _ _ _ _ h hw => h.idsNew hw) hw

end Rekey

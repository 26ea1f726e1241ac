import Rekey.Migration.Campaign
import Rekey.Proofs.Columns.Index
import Rekey.Proofs.Columns.Sweep
import Rekey.Proofs.Users.Batch
import Rekey.Proofs.Users.Singles

/-!
# Campaigns of a rehearsal

How the phases of a campaign end when it is set up over the collaborators of a rehearsal.
-/

namespace Rekey

variable {φ : Type} {i : Interference φ} {P : φ → Prop} {F S : Prop} {w : World φ}
  {c : Campaign (World φ) Transaction} {ds : List Descriptor}

/-- A campaign that is set up over the collaborators of a rehearsal and makes no dry runs. -/
structure Rehearses (i : Interference φ) (c : Campaign (World φ) Transaction) : Prop where
  store : c.store = Rehearsal.store i
  provider : c.provider = some Rehearsal.provider
  stopRequested : c.stopRequested = Rehearsal.stopRequested i
  ready : c.ready = true
  real : c.dryRun = false

/-- A campaign that is set up over all collaborators of a rehearsal, in a dry run or not. -/
structure Conducts (i : Interference φ) (c : Campaign (World φ) Transaction) : Prop
    extends Enrols i c where
  storage : c.storage = some (Rehearsal.storage i)

theorem Conducts.relocateFiles_eq (hc : Conducts i c) :
    c.relocateFiles = relocateFiles (Rehearsal.store i) (Rehearsal.storage i) c.layout c.dryRun
      (Rehearsal.stopRequested i) := by
  simp [Campaign.relocateFiles, Campaign.storage?, hc.ready, hc.storage, hc.store,
    hc.stopRequested]

namespace Rehearses

theorem migrateUsers_eq (hc : Rehearses i c) :
    c.migrateUsers =
      migrateUsers (Rehearsal.store i) Rehearsal.provider (Rehearsal.stopRequested i) := by
  simp [Campaign.migrateUsers, Campaign.provider?, hc.ready, hc.provider, hc.store,
    hc.stopRequested]

theorem migrateUsers_ends (hc : Rehearses i c) (h : i.Keeps P F S) (journal : List Event)
    (hw : P w.mind) :
    Ends c.migrateUsers ⟨w, journal⟩ fun r run =>
      P run.world.mind ∧ UserPhase F S w r run.world := by
  rw [hc.migrateUsers_eq]
  exact Rekey.migrateUsers_ends h journal hw

/-- The columns are swept by the index of the mappings stored now, if these can be listed. -/
theorem replaceKeys_ends (hc : Rehearses i c) (h : i.Keeps P F S) (journal : List Event)
    (hkeys : ∀ d ∈ ds, d.key = none) (hw : P w.mind) (hplaces : w.store.Located) :
    Ends (c.replaceKeys ds) ⟨w, journal⟩ fun r run => P run.world.mind ∧
      ((F ∧ r = .error (.store (Rehearsal.injected .mappingsByAge)) ∧
          ∃ m, run.world = { w with mind := m }) ∨
        ∃ report m s, r = .ok report ∧ SweepsAll S w.store.index w.store .start ds report s ∧
          run.world = { w with mind := m, store := s }) := by
  unfold Campaign.replaceKeys loadIndex
  rw [if_pos hc.ready, hc.store, hc.stopRequested, hc.real, ends_bind, ends_bind, ends_call]
  refine (Rehearsal.ends_guarded_query h hw).mono ?_
  rintro listed _ ⟨m, hm, rfl, rfl | ⟨hF, rfl⟩⟩
  · dsimp only
    rw [ends_bind, ends_tell, ends_pure]
    dsimp only
    rw [ends_bind]
    refine (replaceInColumns_ends (w := { w with mind := m }) h hkeys hm hplaces).mono ?_
    rintro report ⟨w', journal'⟩ ⟨hend, m', s, hsweep, rfl⟩
    exact ⟨hend, .inr ⟨report, m', s, rfl, hsweep, rfl⟩⟩
  · exact ⟨hm, .inl ⟨hF, rfl, m, rfl⟩⟩

end Rehearses

end Rekey

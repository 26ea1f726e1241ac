import Rekey.Proofs.Rehearsal.Session

/-!
# Reachable stores

`Reached w` says that `w` comes from a store without mappings and memberships by adding users of
either system and by operations of campaigns, in any order and under any interference. What is not
a record, such as the tables of cells or what shall fail, may change freely in between. Every
reachable store is consistent, and no operation on it takes anything away.
-/

namespace Rekey

variable {φ : Type} {w w' : World φ}

/-- The worlds that operations on a store lead to. -/
inductive Reached : World φ → Prop
  | fresh {w : World φ} (hmappings : w.store.mappings = ∅)
      (hmemberships : w.store.memberships = ∅) : Reached w
  | addLegacyUser {w : World φ} (u : LegacyUser) (h : Reached w) :
      Reached { w with store := w.store.addLegacyUser u }
  | putTargetUser {w : World φ} (x : TargetUser) (h : Reached w) :
      Reached { w with store := w.store.putTargetUser x }
  | operation {w : World φ} {i : Interference φ} {c : Campaign (World φ) Transaction}
      (hc : Serves i c) (o : Operation) (h : Reached w) :
      Reached (c.perform o (.start w)).2.world
  | elsewhere {w w' : World φ} (hsame : World.SameRecords w w') (h : Reached w) : Reached w'

namespace MemoryTables

variable {s : MemoryTables}

/-- Nothing is wrong with rows that are not there. -/
theorem consistent_fresh (hmappings : s.mappings = ∅) (hmemberships : s.memberships = ∅) :
    s.Consistent where
  mapping k m hm := by simp [hmappings] at hm
  mapped k m hm := by simp [hmappings] at hm
  membership k m hm := by simp [hmemberships] at hm

theorem Consistent.putTargetUser (h : s.Consistent) (x : TargetUser) :
    (s.putTargetUser x).Consistent := by
  refine h.of_targets rfl rfl fun k hk => ?_
  simp [MemoryTables.putTargetUser, hk]

end MemoryTables

theorem Sound.start (h : w.store.Consistent) : Sound (.start w) :=
  ⟨h, fun _ he => nomatch he⟩

/-- Every step that leads to a store keeps it consistent. -/
theorem Reached.consistent (h : Reached w) : w.store.Consistent := by
  induction h with
  | fresh hmappings hmemberships => exact MemoryTables.consistent_fresh hmappings hmemberships
  | addLegacyUser u _ ih => exact ih.of_targets rfl rfl fun _ hk => hk
  | putTargetUser x _ ih => exact ih.putTargetUser x
  | operation hc o _ ih => exact (hc.perform_advances o _ (.start ih)).1.consistent
  | elsewhere hsame _ ih => exact ih.of_same hsame

/-- A reachable store is consistent. Whatever a campaign does to it takes no row away and leaves
the users and memberships that are there and the times of mappings as they are, and no user fails
on a key that the store holds already. -/
theorem reached_sound (h : Reached w) :
    w.store.Consistent ∧
      ∀ (i : Interference φ) (c : Campaign (World φ) Transaction), Serves i c →
        (∀ o, w.store.Grows (c.perform o (.start w)).2.world.store ∧
          ∀ e ∈ (c.perform o (.start w)).2.journal, e.tellsDuplicate = false) ∧
        (∀ legacyId, MeetsNoDuplicate (c.migrateById legacyId (.start w)).1) ∧
        ∀ (p : Provider (World φ)) (u : LegacyUser), p.IsSparing →
          MeetsNoDuplicate (migrateRecord (Rehearsal.store i) p u (.start w)).1 := by
  have hstart : Sound (.start w) := .start h.consistent
  refine ⟨h.consistent, fun i c hc => ⟨fun o => ?_, fun legacyId => ?_, fun p u hp => ?_⟩⟩
  · obtain ⟨hsound, hgrows⟩ := hc.perform_advances o _ hstart
    exact ⟨hgrows, hsound.journal⟩
  · exact (hc.migrateById_sound legacyId hstart).2
  · exact (migrateRecord_sound hp hstart).2

open Rehearsal in
/-- Two accounts of one person, migrated one by one, share a row and are migrated again without a
duplicate. -/
theorem reached_sound_shared_row :
    let w₁ := (Stage.campaign.perform (.migrateById Stage.ada.legacyId)
      (.start (.ofUsers [Stage.ada, Stage.adaAgain]))).2.world
    let w := (Stage.campaign.perform (.migrateById Stage.adaAgain.legacyId) (.start w₁)).2.world
    Reached w ∧ w.store.targetUsers.size = 1 ∧
      w.store.memberships.size = 2 ∧ w.store.Consistent ∧
      Serves Script.interference Stage.campaign ∧
      w.store.Grows (Stage.campaign.perform .migrateUsers (.start w)).2.world.store ∧
      MeetsNoDuplicate (Stage.campaign.migrateById Stage.ada.legacyId (.start w)).1 := by
  intro w₁ w
  have hfirst : Reached w₁ := .operation Stage.serves_campaign _ (.fresh rfl rfl)
  have hreached : Reached w := .operation Stage.serves_campaign _ hfirst
  obtain ⟨hcons, hsound⟩ := reached_sound hreached
  obtain ⟨hperform, hsingle, -⟩ := hsound _ _ Stage.serves_campaign
  exact ⟨hreached, by decide +kernel, by decide +kernel, hcons,
    Stage.serves_campaign, (hperform .migrateUsers).1, hsingle _⟩

end Rekey

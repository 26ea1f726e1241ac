import Rekey.Proofs.Campaign.Soundness
import Rekey.Rehearsal.Session

/-!
# Campaigns of a session

How the interference of a script behaves: it makes a step fail only if a fault is set, and stops
only if a stop is set or counted. Stages and a campaign over them stand for concrete sessions.
-/

namespace Rekey.Rehearsal

namespace Script

variable {s : Script}

/-- Without faults no step is made to fail, however many stops are set. -/
theorem unfailing (h : s.faults = []) : interference.Unfailing s := by
  refine ⟨fun s => s.faults = [], h, ?_, fun hs _ => hs, fun hs => ⟨hs, fun _ => trivial⟩⟩
  intro s hs point path
  refine ⟨hs, fun hfails => ?_⟩
  replace hfails : s.fails point path = true := hfails
  simp [Script.fails, hs] at hfails

/-- A quiet script stays quiet. -/
theorem calm_quiet : interference.Calm .quiet := by
  refine ⟨(· = .quiet), rfl, ?_, ?_, ?_⟩
  · rintro _ rfl point path
    refine ⟨rfl, fun hfails => ?_⟩
    replace hfails : Script.quiet.fails point path = true := hfails
    simp [Script.fails, quiet] at hfails
  · rintro _ rfl point
    rfl
  · rintro _ rfl
    exact ⟨rfl, fun hstopped => nomatch (show false = true from hstopped)⟩

/-- A stop that a script has set stays set. -/
theorem latches : interference.Latches fun s => s.stopped = true := by
  refine ⟨⟨fun hs _ _ => ⟨hs, fun _ => trivial⟩, fun hs point => ?_, fun hs => ⟨hs, fun _ => trivial⟩⟩,
    fun _ => Iff.rfl⟩
  show (_ || _) = true
  rw [hs, Bool.true_or]

end Script

namespace Stage

/-- A stage whose store is set up and holds users of the old system. -/
def ofUsers (users : List LegacyUser) : Stage :=
  { Stage.start with
    store := { MemoryTables.empty with mappingsReady := true, legacyUsers := users } }

/-- A user of the old system, with a tenant. -/
def ada : LegacyUser where
  legacyId := "Ada0000000000000000000000001"
  profile := none
  email := " ada@example.org"
  tenantId := some "acme "
  roles := []
  createdAt := ⟨1600000000, 0⟩

/-- A later account of the same person, in another tenant. -/
def adaAgain : LegacyUser :=
  { ada with
    legacyId := "Ada0000000000000000000000002"
    email := "ada@example.org "
    tenantId := some "globex"
    createdAt := ⟨1650000000, 0⟩ }

/-- A stage whose store maps users of the old system to new identifiers. -/
def ofMapped (users : List (LegacyUser × String)) (objects : MemoryObjects) : Stage :=
  let stage := ofUsers (users.map Prod.fst)
  { stage with
    store := stage.store.commit default
      (users.map fun u => .mapping u.1.legacyId u.1.email u.2)
    objects := objects }

/-- A campaign that is set up and has all collaborators. -/
def campaign : Campaign Stage Transaction where
  store := stageStore
  provider := some Rehearsal.provider
  storage := some stageStorage
  stopRequested := Rehearsal.stopRequested Script.interference
  layout := .standard
  dryRun := false
  ready := true

theorem serves_campaign : Serves Script.interference campaign where
  store := rfl
  provider p hp := by
    obtain rfl := Option.some.inj hp
    exact isSparing_provider
  storage s hs := by
    obtain rfl := Option.some.inj hs
    exact isSparing_storage
  stopRequested := spares_stopRequested

end Stage

end Rekey.Rehearsal

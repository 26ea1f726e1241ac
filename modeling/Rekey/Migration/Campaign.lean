import Rekey.Migration.Columns
import Rekey.Migration.Files
import Rekey.Migration.Users

/-!
# Campaigns

A campaign joins the collaborators of a migration with its settings. It must be set up before
anything else is asked of it, and it answers an operation without a collaborator that the operation
needs with a failure.
-/

namespace Rekey

open Rekey.Text (trim)

variable {σ τ : Type}

/-- What a campaign can be asked to do. -/
inductive Operation where
  | setUp
  | migrateUsers
  | migrateById (legacyId : String)
  | lookup (identifier : String)
  | list
  | replaceKeys (ds : List Descriptor)
  | relocateFiles
deriving DecidableEq, Repr, Inhabited

/-- What a campaign answers when an operation succeeds. -/
inductive Answer where
  | done
  | summary (s : Summary)
  | outcome (legacyId : String) (o : UserResult)
  | mapping (m : Mapping)
  | mappings (ms : List Mapping)
  | report (r : ReplacementReport)
deriving DecidableEq, Repr, Inhabited

/-- The collaborators at hand. -/
structure Collaborators (σ τ : Type) where
  store : Option (Store σ τ)
  provider : Option (Provider σ)
  storage : Option (ObjectStorage σ)
  stopRequested : StateM σ Bool

/-- A campaign. -/
structure Campaign (σ τ : Type) where
  store : Store σ τ
  provider : Option (Provider σ)
  storage : Option (ObjectStorage σ)
  stopRequested : StateM σ Bool
  layout : Layout
  dryRun : Bool
  ready : Bool

namespace Campaign

/-- A campaign that is not set up yet. It needs a store. -/
def assemble (c : Collaborators σ τ) (layout : Layout) (dryRun : Bool) :
    Except Failure (Campaign σ τ) :=
  match c.store with
  | none => .error (.config .storeMissing)
  | some store => .ok ⟨store, c.provider, c.storage, c.stopRequested, layout, dryRun, false⟩

/-- Prepares the store, once. -/
def setUp (c : Campaign σ τ) : Action σ (Except Failure Unit × Campaign σ τ) :=
  if c.ready then pure (.ok (), c)
  else do
    match ← call c.store.prepareMappings with
    | .error e => pure (.error (.store e), c)
    | .ok _ =>
      tell .mappingTableReady
      pure (.ok (), { c with ready := true })

/-- The provider of a campaign that is set up. -/
def provider? (c : Campaign σ τ) : Except Failure (Provider σ) :=
  if c.ready then
    match c.provider with
    | some p => .ok p
    | none => .error (.config .providerMissing)
  else .error (.config .notInitialized)

/-- The object storage of a campaign that is set up. -/
def storage? (c : Campaign σ τ) : Except Failure (ObjectStorage σ) :=
  if c.ready then
    match c.storage with
    | some s => .ok s
    | none => .error (.config .storageMissing)
  else .error (.config .notInitialized)

/-- Migrates all users. -/
def migrateUsers (c : Campaign σ τ) : Action σ (Except Failure Summary) :=
  match c.provider? with
  | .error f => pure (.error f)
  | .ok p => Rekey.migrateUsers c.store p c.stopRequested

/-- Migrates one user. -/
def migrateById (c : Campaign σ τ) (legacyId : String) : Action σ (Except Failure UserResult) :=
  match c.provider? with
  | .error f => pure (.error f)
  | .ok p => Rekey.migrateById c.store p legacyId

/-- The mapping of a legacy identifier or an email. -/
def lookup (c : Campaign σ τ) (identifier : String) : Action σ (Except Failure Mapping) :=
  if c.ready then do
    match ← call (c.store.latestMapping (trim identifier)) with
    | .error e => pure (.error (.store e))
    | .ok none => pure (.error (.notFound (.mapping (trim identifier))))
    | .ok (some m) => pure (.ok m)
  else pure (.error (.config .notInitialized))

/-- All mappings. -/
def list (c : Campaign σ τ) : Action σ (Except Failure (List Mapping)) :=
  if c.ready then do
    match ← call c.store.mappingsByAge with
    | .error e => pure (.error (.store e))
    | .ok ms => pure (.ok ms)
  else pure (.error (.config .notInitialized))

/-- Replaces identifiers in the described columns by the mappings stored now. -/
def replaceKeys (c : Campaign σ τ) (ds : List Descriptor) :
    Action σ (Except Failure ReplacementReport) :=
  if c.ready then do
    match ← loadIndex c.store with
    | .error f => pure (.error f)
    | .ok index =>
      let report ← replaceInColumns c.store c.stopRequested c.dryRun index ds
      pure (.ok report)
  else pure (.error (.config .notInitialized))

/-- Moves the files of all migrated users. -/
def relocateFiles (c : Campaign σ τ) : Action σ (Except Failure Summary) :=
  match c.storage? with
  | .error f => pure (.error f)
  | .ok s => Rekey.relocateFiles c.store s c.layout c.dryRun c.stopRequested

/-- Does one operation. -/
def perform (c : Campaign σ τ) : Operation → Action σ (Except Failure Answer × Campaign σ τ)
  | .setUp => do
    let (r, c) ← c.setUp
    pure (r.map fun _ => .done, c)
  | .migrateUsers => do
    let r ← c.migrateUsers
    pure (r.map .summary, c)
  | .migrateById legacyId => do
    let r ← c.migrateById legacyId
    pure (r.map (.outcome (trim legacyId)), c)
  | .lookup identifier => do
    let r ← c.lookup identifier
    pure (r.map .mapping, c)
  | .list => do
    let r ← c.list
    pure (r.map .mappings, c)
  | .replaceKeys ds => do
    let r ← c.replaceKeys ds
    pure (r.map .report, c)
  | .relocateFiles => do
    let r ← c.relocateFiles
    pure (r.map .summary, c)

end Campaign

end Rekey

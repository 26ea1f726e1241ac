import Rekey.Rehearsal.Step
import Rekey.Rehearsal.World

/-!
# Rehearsal sessions

A session is a script of steps over one world: it fills the world, sets what shall fail and when a
stop is requested, and runs campaigns or single operations of their collaborators.
-/

namespace Rekey.Rehearsal

/-! ## A scripted interference -/

/-- What a script has set: the faults, after how many further successes of which steps to stop, and
whether a stop is requested. A fault without a path concerns every path. -/
structure Script where
  faults : List (Point × Option String)
  countdowns : List (Point × Int)
  stopped : Bool
deriving DecidableEq, Repr, Inhabited

namespace Script

/-- A script that lets everything pass. -/
def quiet : Script := ⟨[], [], false⟩

/-- Whether a step at a path shall fail. -/
def fails (s : Script) (point : Point) (path : Option String) : Bool :=
  s.faults.contains (point, none) || (path.isSome && s.faults.contains (point, path))

/-- Stops after `n` further successes of a step, whatever was set for that step before. -/
def stopAfter (s : Script) (point : Point) (n : Int) : Script :=
  { s with countdowns := (point, n) :: s.countdowns.filter (·.1 != point) }

/-- Counts a success. The stop comes with the success that the count of its step waits for. -/
def count (s : Script) (point : Point) : Script where
  faults := s.faults
  countdowns := s.countdowns.map fun c => if c.1 = point then (c.1, c.2 - 1) else c
  stopped := s.stopped || s.countdowns.contains (point, 1)

/-- The interference of a script. -/
def interference : Interference Script where
  fails point path := do pure ((← get).fails point path)
  succeeded point := modify (·.count point)
  stopRequested := do pure (← get).stopped

end Script

/-- The world of a session. -/
abbrev Stage := World Script

/-- The beginning of a session. -/
def Stage.start : Stage where
  store := .empty
  provider := .empty
  objects := .empty
  clock := ⟨⟨1704067200, 0⟩, 1000⟩
  mind := .quiet

/-- The store of a session. -/
abbrev stageStore : Store Stage Transaction := store Script.interference

/-- The object storage of a session. -/
abbrev stageStorage : ObjectStorage Stage := storage Script.interference

/-- How a campaign of a session is built. -/
structure Setup where
  store : Bool
  provider : Bool
  storage : Bool
  setUp : Bool
  dryRun : Bool
  layout : Layout
deriving DecidableEq, Repr, Inhabited

/-- A session. -/
structure Session where
  stage : Stage
  campaign : Option (Campaign Stage Transaction)
  layout : Layout
  dryRun : Bool
  transactions : List (String × Transaction)

/-! ## Steps -/

/-- A step of a session. -/
inductive Step where
  | rebuild (setup : Setup)
  | setClock (t : Timestamp)
  | setTick (ms : Int)
  | stop
  | stopAfter (point : Point) (n : Int)
  | fault (point : Point) (path : Option String) (on : Bool)
  | failTargetWrites (email : String)
  | failMemberships (tenantId : String)
  | failRowUpdate (table : String) (locator : Locator)
  | failScan (table : String)
  | addLegacyUser (u : LegacyUser)
  | putTargetUser (u : TargetUser)
  | addRow (table : String) (values : List (String × Cell))
  | cellAt (table : String) (locator : Locator) (column : String)
  | providerInsert (id email : String)
  | providerFailLookups (email : String)
  | providerFailCreates (email : String)
  | providerGet (email : String)
  | providerCreate (email : String)
  | providerCounts
  | resolve (email : String)
  | operation (o : Operation)
  | migrateRecord (u : LegacyUser)
  | tasks
  | relocate (task : FileTask)
  | store (step : StoreStep)
  | indexLookup (ids : List String)
  | begin (name : String)
  | within (name : String) (step : TransactionStep)
  | putFile (path data : String)
  | fileExists (path : String)
  | copyFile (target source : String)
  | renameFile (target source : String)
  | files
  | state
deriving Repr, Inhabited

namespace Session

/-- The collaborators that a setup asks for. -/
def collaborators (setup : Setup) : Collaborators Stage Transaction where
  store := if setup.store then some stageStore else none
  provider := if setup.provider then some Rehearsal.provider else none
  storage := if setup.storage then some stageStorage else none
  stopRequested := Rehearsal.stopRequested Script.interference

/-- Builds a campaign over a stage whose stop is no longer requested. -/
def installCampaign (s : Session) (setup : Setup) :
    Action Stage (Except StepFailure Reply × Session) :=
  let s : Session := { s with layout := setup.layout, dryRun := setup.dryRun, campaign := none }
  match Campaign.assemble (collaborators setup) setup.layout setup.dryRun with
  | .error f => pure (.error (.failure f), s)
  | .ok c =>
    if setup.setUp then do
      let (r, c) ← c.setUp
      pure ((r.map fun _ => Reply.done).mapError .failure, { s with campaign := some c })
    else pure (.ok .done, { s with campaign := some c })

/-- A change of the stage that cannot fail. -/
def arrange (f : Stage → Stage) : Action Stage Outcome := fun r =>
  (.ok .done, { r with world := f r.world })

/-- A step of a migration. -/
def onMigration {α : Type} (reply : α → Reply) (act : Action Stage (Except Failure α)) :
    Action Stage Outcome := do
  pure (((← act).map reply).mapError .failure)

/-- What is left of a stage. -/
def remains (w : Stage) : Remains where
  mappingTable := w.store.mappingsReady
  mappings := w.store.mappings.values
  targetUsers := w.store.targetUsers.values
  memberships := w.store.memberships.values
  identities := w.provider.size
  identitiesCreated := w.provider.created
  stopped := w.mind.stopped
  files := w.objects.list

/-- Adds or removes a fault. -/
def setFault (fault : Point × Option String) (on : Bool) (s : Script) : Script :=
  let others := s.faults.filter (· != fault)
  { s with faults := if on then fault :: others else others }

/-- A step that concerns the stage and no campaign. -/
def performStage (s : Session) : Step → Action Stage Outcome
  | .setClock t => arrange fun w => { w with clock := { w.clock with now := t } }
  | .setTick ms => arrange fun w => { w with clock := { w.clock with tick := ms } }
  | .stop => arrange fun w => { w with mind := { w.mind with stopped := true } }
  | .stopAfter point n =>
    arrange fun w => { w with mind := w.mind.stopAfter point n }
  | .fault point path on => arrange fun w => { w with mind := setFault (point, path) on w.mind }
  | .failTargetWrites email => arrange fun w =>
    { w with store := { w.store with failingTargets := email :: w.store.failingTargets } }
  | .failMemberships tenantId => arrange fun w =>
    { w with store := { w.store with failingTenants := tenantId :: w.store.failingTenants } }
  | .failRowUpdate table locator => arrange fun w =>
    { w with store := { w.store with failingRows := (table, locator) :: w.store.failingRows } }
  | .failScan table => arrange fun w =>
    { w with store := { w.store with failingScans := table :: w.store.failingScans } }
  | .addLegacyUser u => arrange fun w => { w with store := w.store.addLegacyUser u }
  | .putTargetUser u => arrange fun w => { w with store := w.store.putTargetUser u }
  | .addRow table values => fun r =>
    let (locator, store) := r.world.store.addRow table values
    (.ok (.text locator), { r with world := { r.world with store := store } })
  | .cellAt table locator column => do
    pure (.ok (.cell ((← get).world.store.cellAt table locator column)))
  | .providerInsert id email => arrange fun w => { w with provider := w.provider.insert id email }
  | .providerFailLookups email => arrange fun w =>
    { w with provider :=
        { w.provider with failingLookups := email :: w.provider.failingLookups } }
  | .providerFailCreates email => arrange fun w =>
    { w with provider :=
        { w.provider with failingCreates := email :: w.provider.failingCreates } }
  | .providerGet email => call (outcomeOf .identity .provider (provider.accountOf email))
  | .providerCreate email => call (outcomeOf .identity .provider (provider.createAccount email))
  | .providerCounts => do
    let p := (← get).world.provider
    pure (.ok (.counts p.size p.created))
  | .resolve email => onMigration .text (resolveIdentity provider email)
  | .migrateRecord u => onMigration .userResult (migrateRecord stageStore provider u)
  | .tasks => onMigration .tasks (fileTasks stageStore s.layout)
  | .relocate task =>
    onMigration .fileResult (relocateFile stageStorage s.layout s.dryRun task)
  | .store step => call (storeOutcome stageStore step)
  | .indexLookup ids =>
    onMigration (fun index => .found index.size (ids.map index.lookup)) (loadIndex stageStore)
  | .putFile path data => arrange fun w => { w with objects := w.objects.insert path data }
  | .fileExists path => call (outcomeOf .flag .object (stageStorage.contains path))
  | .copyFile target source =>
    call (outcomeOf (fun _ => .done) .object (stageStorage.copy target source))
  | .renameFile target source =>
    call (outcomeOf (fun _ => .done) .object (stageStorage.move target source))
  | .files => do pure (.ok (.files (← get).world.objects.list))
  | .state => do pure (.ok (.state (remains (← get).world)))
  | _ => pure (.ok .done)

/-- Keeps an open transaction under a name, or forgets the name. -/
def keep (s : Session) (name : String) (t : Option Transaction) : Session :=
  let others := s.transactions.filter (·.1 != name)
  match t with
  | some t => { s with transactions := (name, t) :: others }
  | none => { s with transactions := others }

/-- A step of a session. -/
def act (s : Session) : Step → Action Stage (Outcome × Session)
  | .rebuild setup => do
    let _ ← arrange fun w => { w with mind := { w.mind with stopped := false } }
    s.installCampaign setup
  | .operation o =>
    match s.campaign with
    | none => pure (.error .noCampaign, s)
    | some c => do
      let (r, c) ← c.perform o
      pure ((r.map .answer).mapError .failure, { s with campaign := some c })
  | .begin name => do
    match ← call stageStore.beginTransaction with
    | .error e => pure (.error (.store e), s)
    | .ok t => pure (.ok .done, s.keep name (some t))
  | .within name step =>
    match s.transactions.lookup name with
    | none => pure (.error .noTransaction, s)
    | some t => do
      let (r, t) ← call (transactionOutcome stageStore t step)
      pure (r, s.keep name t)
  | step => do pure (← s.performStage step, s)

/-- Runs an action of a session: its result, the events it told, and the session after it. -/
def run {α : Type} (s : Session) (action : Action Stage (α × Session)) :
    α × List Event × Session :=
  let ((a, s'), r) := action (.start s.stage)
  (a, r.events, { s' with stage := r.world })

/-- A session before its first campaign. -/
def empty : Session := ⟨Stage.start, none, .standard, false, []⟩

/-- Begins a session. -/
def start (setup : Setup) : Outcome × List Event × Session :=
  empty.run (empty.installCampaign setup)

/-- Does one step. -/
def perform (s : Session) (step : Step) : Outcome × List Event × Session :=
  s.run (s.act step)

end Session

end Rekey.Rehearsal

import Rekey.Migration.Campaign

/-!
# Single steps of a store

What a store and its transactions can be asked one step at a time, and what they answer.
-/

namespace Rekey.Rehearsal

/-- A step of a store outside transactions. -/
inductive StoreStep where
  | prepareMappings
  | latestMapping (identifier : String)
  | mappingsByAge
  | legacyUsersByAge
  | legacyUserById (legacyId : String)
  | mappedUsers
  | scan (d : Descriptor)
  | update (d : Descriptor) (locator : Locator) (cell : Cell)
deriving Repr, Inhabited

/-- A step inside a transaction. -/
inductive TransactionStep where
  | putMapping (legacyId email newId : String)
  | hasTargetUser (id : String)
  | addTargetUser (u : TargetUser)
  | hasMembership (userId tenantId : String)
  | addMembership (m : Membership)
  | commit
  | rollback
deriving Repr, Inhabited

/-- What is left at the end of a session. -/
structure Remains where
  mappingTable : Bool
  mappings : List Mapping
  targetUsers : List TargetUser
  memberships : List Membership
  identities : Nat
  identitiesCreated : Nat
  stopped : Bool
  files : List (String × String)
deriving Repr, Inhabited

/-- What a step answers when it succeeds. -/
inductive Reply where
  | done
  | text (s : String)
  | flag (b : Bool)
  | cell (c : Option Cell)
  | identity (i : Account)
  | counts (size created : Nat)
  | answer (a : Answer)
  | userResult (o : UserResult)
  | fileResult (o : FileResult)
  | tasks (ts : List FileTask)
  | mapping (m : Option Mapping)
  | mappings (ms : List Mapping)
  | legacyUsers (us : List LegacyUser)
  | legacyUser (u : Option LegacyUser)
  | migratedUsers (us : List MappedUser)
  | rows (rs : List ScannedRow)
  | found (size : Nat) (ids : List (Option String))
  | files (fs : List (String × String))
  | state (r : Remains)
deriving Repr, Inhabited

/-- Why a step did not succeed. -/
inductive StepFailure where
  | failure (f : Failure)
  | store (e : StoreFault)
  | provider (e : ProviderFault)
  | object (e : ObjectFault)
  | noCampaign
  | noTransaction
deriving DecidableEq, Repr, Inhabited

/-- The result of a step. -/
abbrev Outcome := Except StepFailure Reply

variable {σ τ α ε : Type}

/-- The outcome of an action of a collaborator. -/
def outcomeOf (reply : α → Reply) (failure : ε → StepFailure) (act : StateM σ (Except ε α)) :
    StateM σ Outcome := do
  pure (((← act).map reply).mapError failure)

/-- Does a step of a store. -/
def storeOutcome (store : Store σ τ) : StoreStep → StateM σ Outcome
  | .prepareMappings => outcomeOf (fun _ => .done) .store store.prepareMappings
  | .latestMapping identifier => outcomeOf .mapping .store (store.latestMapping identifier)
  | .mappingsByAge => outcomeOf .mappings .store store.mappingsByAge
  | .legacyUsersByAge => outcomeOf .legacyUsers .store store.legacyUsersByAge
  | .legacyUserById legacyId => outcomeOf .legacyUser .store (store.legacyUserById legacyId)
  | .mappedUsers => outcomeOf .migratedUsers .store store.mappedUsers
  | .scan d => outcomeOf .rows .store (store.scan d)
  | .update d locator cell => outcomeOf (fun _ => .done) .store (store.update d locator cell)

/-- Keeps the transaction that a write answers, or the one before it if the write fails. -/
def afterWrite (t : τ) (act : StateM σ (Except StoreFault τ)) : StateM σ (Outcome × Option τ) := do
  match ← act with
  | .error e => pure (.error (.store e), some t)
  | .ok t => pure (.ok .done, some t)

/-- Does a step of a transaction. The end of a transaction leaves none. -/
def transactionOutcome (store : Store σ τ) (t : τ) :
    TransactionStep → StateM σ (Outcome × Option τ)
  | .putMapping legacyId email newId =>
    afterWrite t (store.putMapping t legacyId email newId)
  | .hasTargetUser id => do
    pure (← outcomeOf .flag .store (store.hasTargetUser t id), some t)
  | .addTargetUser u => afterWrite t (store.addTargetUser t u)
  | .hasMembership userId tenantId => do
    pure (← outcomeOf .flag .store (store.hasMembership t userId tenantId), some t)
  | .addMembership m => afterWrite t (store.addMembership t m)
  | .commit => do pure (← outcomeOf (fun _ => .done) .store (store.commit t), none)
  | .rollback => do pure (← outcomeOf (fun _ => .done) .store (store.rollback t), none)

end Rekey.Rehearsal

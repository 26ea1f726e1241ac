import Rekey.LegacyId
import Rekey.Migration.Collaborator

/-!
# Migrating users

A user gets the identity that the provider holds for the user's email, or a new one. The mapping,
the user row and the membership are then written in one transaction, so that a failure leaves the
store as it was.
-/

namespace Rekey

open Rekey.Text (trim)

variable {σ τ : Type}

/-- The identity of an email: the one that the provider knows, else a new one. A blank email has
none. -/
def resolveIdentity (provider : Provider σ) (email : String) : Action σ (Except Failure String) :=
  let email := trim email
  if email.isEmpty then pure (.error (.resolution "" (.invalidResponse .noEmail)))
  else do
    match ← call (provider.accountOf email) with
    | .ok identity =>
      tell (.identityFound email identity.id)
      pure (.ok identity.id)
    | .error .notFound =>
      match ← call (provider.createAccount email) with
      | .ok identity =>
        tell (.identityCreated email identity.id provider.name)
        pure (.ok identity.id)
      | .error cause => pure (.error (.resolution email cause))
    | .error cause => pure (.error (.resolution email cause))

/-- What was written for a user: whether the user row and whether a membership is new. -/
structure Written where
  createdUser : Bool
  membershipAdded : Bool
deriving DecidableEq, Repr, Inhabited

/-- A transaction as the last successful write left it, and how the writes ended. -/
abbrev Writes (τ : Type) := τ × Except StoreFault Written

/-- Adds a user whose row exists already to the tenant of the record, unless it is a member. -/
def joinTenant (store : Store σ τ) (u : LegacyUser) (newId : String) (t : τ) :
    Action σ (Writes τ) :=
  match u.tenant with
  | none => pure (t, .ok ⟨false, false⟩)
  | some tenant => do
    match ← call (store.hasMembership t newId tenant) with
    | .error e => pure (t, .error e)
    | .ok true => pure (t, .ok ⟨false, false⟩)
    | .ok false =>
      match ← call (store.addMembership t (.carriedOver newId tenant u)) with
      | .error e => pure (t, .error e)
      | .ok t =>
        tell (.userState u.legacyId .membershipAdded)
        pure (t, .ok ⟨false, true⟩)

/-- Creates the user row and, when the record has a tenant, the membership. -/
def createUser (store : Store σ τ) (u : LegacyUser) (newId : String) (t : τ) :
    Action σ (Writes τ) := do
  match ← call (store.addTargetUser t ⟨newId, u.emailKey, u.profile⟩) with
  | .error e => pure (t, .error e)
  | .ok t =>
    match u.tenant with
    | none =>
      tell (.userState u.legacyId .targetCreated)
      pure (t, .ok ⟨true, false⟩)
    | some tenant =>
      match ← call (store.addMembership t (.carriedOver newId tenant u)) with
      | .error e => pure (t, .error e)
      | .ok t =>
        tell (.userState u.legacyId .targetCreated)
        pure (t, .ok ⟨true, true⟩)

/-- All writes for a user in an open transaction. -/
def stageUser (store : Store σ τ) (u : LegacyUser) (newId : String) (t : τ) :
    Action σ (Writes τ) := do
  match ← call (store.putMapping t u.legacyId u.emailKey newId) with
  | .error e => pure (t, .error e)
  | .ok t =>
    tell (.userState u.legacyId .mappingUpserted)
    tell (.userState u.legacyId .existenceCheck)
    match ← call (store.hasTargetUser t newId) with
    | .error e => pure (t, .error e)
    | .ok true =>
      tell (.userState u.legacyId .alreadyExists)
      joinTenant store u newId t
    | .ok false =>
      tell (.userState u.legacyId .notExists)
      createUser store u newId t

/-- Ends the transaction of a user: commits it if all writes succeeded, else takes it back. -/
def endTransaction (store : Store σ τ) (u : LegacyUser) (newId : String) :
    Writes τ → Action σ (Except Failure UserResult)
  | (t, .ok w) => do
    match ← call (store.commit t) with
    | .ok _ =>
      tell (.userState u.legacyId .committed)
      pure (.ok (.migrated newId w.createdUser w.membershipAdded))
    | .error e =>
      tell (.userState u.legacyId .rolledBack)
      pure (.error (.transaction u.legacyId e))
  | (t, .error e) => do
    match ← call (store.rollback t) with
    | .ok _ => pure ()
    | .error r => tell (.rollbackFailed u.legacyId r)
    tell (.userState u.legacyId .rolledBack)
    pure (.error (.transaction u.legacyId e))

/-- Stores a user under the identity `newId` in a transaction of its own. -/
def storeUser (store : Store σ τ) (u : LegacyUser) (newId : String) :
    Action σ (Except Failure UserResult) := do
  match ← call store.beginTransaction with
  | .error e =>
    tell (.userState u.legacyId .rolledBack)
    pure (.error (.transaction u.legacyId e))
  | .ok t =>
    tell (.userState u.legacyId .txOpen)
    let writes ← stageUser store u newId t
    endTransaction store u newId writes

/-- Migrates one user. A record whose identifier has not the old shape is skipped. -/
def migrateRecord (store : Store σ τ) (provider : Provider σ) (u : LegacyUser) :
    Action σ (Except Failure UserResult) := do
  tell (.userState u.legacyId .start)
  if isLegacyId u.legacyId then
    tell (.userState u.legacyId .resolving)
    match ← resolveIdentity provider u.email with
    | .ok newId =>
      tell (.userState u.legacyId .resolved)
      storeUser store u newId
    | .error f =>
      tell (.userState u.legacyId .resolutionFailed)
      pure (.error f)
  else
    tell (.userState u.legacyId .skipped)
    pure (.ok .skipped)

/-- A summary with one more user. -/
def Summary.countUser (s : Summary) : Except Failure UserResult → Summary
  | .ok .skipped => { s with skipped := s.skipped + 1 }
  | .ok (.migrated _ _ _) => { s with success := s.success + 1 }
  | .error _ => { s with errors := s.errors + 1 }

/-- Tells how the migration of a user of a batch ended. -/
def tellUser (u : LegacyUser) : Except Failure UserResult → Action σ Unit
  | .ok .skipped => pure ()
  | .ok (.migrated newId createdUser membershipAdded) =>
    tell (.userMigrated u.legacyId newId createdUser membershipAdded)
  | .error f => tell (.userFailed u.legacyId f)

/-- After how many users a batch tells its progress. -/
def reportEvery : Nat := 100

/-- Migrates users in order until a stop is requested. `processed` of `total` are done. -/
def migrateEach (store : Store σ τ) (provider : Provider σ) (stopRequested : StateM σ Bool)
    (total : Nat) (processed : Nat) (s : Summary) : List LegacyUser → Action σ Summary
  | [] => pure s
  | u :: rest => do
    if ← call stopRequested then
      tell (.usersStopped processed total)
      pure { s with interrupted := true }
    else
      let outcome ← migrateRecord store provider u
      tellUser u outcome
      if (processed + 1) % reportEvery = 0 then
        tell (.usersProgress (processed + 1) total)
      migrateEach store provider stopRequested total (processed + 1) (s.countUser outcome) rest

/-- Migrates all users of the old system. -/
def migrateUsers (store : Store σ τ) (provider : Provider σ) (stopRequested : StateM σ Bool) :
    Action σ (Except Failure Summary) := do
  match ← call store.legacyUsersByAge with
  | .error e => pure (.error (.store e))
  | .ok users =>
    tell (.usersBegun users.length provider.name)
    let s ← migrateEach store provider stopRequested users.length 0 (.start .users) users
    tell (.usersFinished s)
    pure (.ok s)

/-- Migrates the user with the given identifier. -/
def migrateById (store : Store σ τ) (provider : Provider σ) (identifier : String) :
    Action σ (Except Failure UserResult) :=
  let legacyId := trim identifier
  if isLegacyId legacyId then do
    match ← call (store.legacyUserById legacyId) with
    | .error e => pure (.error (.store e))
    | .ok none => pure (.error (.notFound (.legacyUser legacyId)))
    | .ok (some u) =>
      match ← migrateRecord store provider u with
      | .error f => pure (.error f)
      | .ok .skipped => pure (.ok .skipped)
      | .ok (.migrated newId createdUser membershipAdded) =>
        tell (.singleUserMigrated legacyId newId)
        pure (.ok (.migrated newId createdUser membershipAdded))
  else pure (.error (.notLegacyFormat legacyId))

end Rekey

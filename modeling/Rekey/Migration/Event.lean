import Rekey.Failure.Basic
import Rekey.Report.Basic

/-!
# Events

What a migration tells of its progress, in order. An event has a level, a message and named
fields.
-/

namespace Rekey

/-- The states that the migration of one user passes through. -/
inductive MigrationState where
  | start
  | skipped
  | resolving
  | resolutionFailed
  | resolved
  | txOpen
  | mappingUpserted
  | existenceCheck
  | alreadyExists
  | membershipAdded
  | notExists
  | targetCreated
  | committed
  | rolledBack
deriving DecidableEq, Repr, Inhabited

namespace MigrationState

/-- All states in the order of the process. -/
def all : List MigrationState :=
  [start, skipped, resolving, resolutionFailed, resolved, txOpen, mappingUpserted, existenceCheck,
    alreadyExists, membershipAdded, notExists, targetCreated, committed, rolledBack]

/-- The name of a state. -/
def text : MigrationState → String
  | start => "start"
  | skipped => "skipped"
  | resolving => "resolving"
  | resolutionFailed => "resolution_failed"
  | resolved => "resolved"
  | txOpen => "tx_open"
  | mappingUpserted => "mapping_upserted"
  | existenceCheck => "existence_check"
  | alreadyExists => "already_exists"
  | membershipAdded => "membership_added"
  | notExists => "not_exists"
  | targetCreated => "target_created"
  | committed => "committed"
  | rolledBack => "rolled_back"

/-- The states in which the migration of a user ends. -/
def isFinal : MigrationState → Bool
  | skipped | resolutionFailed | committed | rolledBack => true
  | _ => false

end MigrationState

/-- How much an event matters. -/
inductive Level where
  | debug
  | info
  | warn
deriving DecidableEq, Repr, Inhabited

/-- The name of a level. -/
def Level.text : Level → String
  | debug => "DEBUG"
  | info => "INFO"
  | warn => "WARN"

/-- Something that a migration tells. -/
inductive Event where
  | mappingTableReady
  | indexLoaded (entries : Nat)
  | identityFound (email newId : String)
  | identityCreated (email newId provider : String)
  | userState (legacyId : String) (state : MigrationState)
  | rollbackFailed (legacyId : String) (cause : StoreFault)
  | usersBegun (total : Nat) (provider : String)
  | usersStopped (processed total : Nat)
  | userMigrated (legacyId newId : String) (createdUser membershipAdded : Bool)
  | userFailed (legacyId : String) (failure : Failure)
  | usersProgress (processed total : Nat)
  | usersFinished (summary : Summary)
  | singleUserMigrated (legacyId newId : String)
  | columnsBegun (descriptors mappings : Nat) (dryRun : Bool)
  | scanFailed (table column : String) (cause : StoreFault)
  | rowWouldChange (table : String) (locator : Locator)
  | rowFailed (failure : Failure)
  | columnFinished (report : ColumnReport)
  | columnsStopped
  | columnsFinished (summary : Summary)
  | filesBegun (tasks : Nat) (dryRun : Bool)
  | fileMissing (legacyId path : String)
  | fileWouldMove (path backup new : String)
  | fileMoved (legacyId newId new : String)
  | fileFailed (legacyId : String) (failure : Failure)
  | filesStopped (processed total : Nat)
  | filesFinished (summary : Summary)
  | databaseConnected (maxConnections : Nat)
  | providerReady (provider : String)
  | storageReady (url : String)
deriving DecidableEq, Repr, Inhabited

namespace Event

/-- The level of an event. -/
def level : Event → Level
  | mappingTableReady | identityFound _ _ | userState _ _ | rowWouldChange _ _
  | fileMissing _ _ => .debug
  | rollbackFailed _ _ | usersStopped _ _ | userFailed _ _ | scanFailed _ _ _ | rowFailed _
  | columnsStopped | fileFailed _ _ | filesStopped _ _ => .warn
  | _ => .info

/-- The message of an event. -/
def message : Event → String
  | mappingTableReady => "mapping table ready"
  | indexLoaded _ => "loaded mapping cache"
  | identityFound _ _ => "found existing identity"
  | identityCreated _ _ _ => "created identity"
  | userState _ _ => "user state"
  | rollbackFailed _ _ => "rollback failed"
  | usersBegun _ _ => "migrating legacy users"
  | usersStopped _ _ => "stop requested, ending user migration"
  | userMigrated _ _ _ _ | singleUserMigrated _ _ => "migrated user"
  | userFailed _ _ => "user migration failed"
  | usersProgress _ _ => "user migration progress"
  | usersFinished _ => "user migration finished"
  | columnsBegun _ _ _ => "rewriting foreign keys"
  | scanFailed _ _ _ => "column scan failed"
  | rowWouldChange _ _ => "would update row"
  | rowFailed _ => "row update failed"
  | columnFinished _ => "column rewritten"
  | columnsStopped => "stop requested, ending foreign key rewrite"
  | columnsFinished _ => "foreign key rewrite finished"
  | filesBegun _ _ => "relocating user files"
  | fileMissing _ _ => "no file to relocate"
  | fileWouldMove _ _ _ => "would relocate file"
  | fileMoved _ _ _ => "relocated file"
  | fileFailed _ _ => "file relocation failed"
  | filesStopped _ _ => "stop requested, ending file relocation"
  | filesFinished _ => "file relocation finished"
  | databaseConnected _ => "database connected"
  | providerReady _ => "identity provider ready"
  | storageReady _ => "object storage ready"

open Json (Value)

/-- The fields of an event. Counts are numbers; everything but counts and truth values is text. -/
def fields : Event → List (String × Value)
  | mappingTableReady | columnsStopped => []
  | indexLoaded entries => [("entries", .nat entries)]
  | identityFound email newId => [("email", .string email), ("new_id", .string newId)]
  | identityCreated email newId provider =>
    [("email", .string email), ("new_id", .string newId), ("provider", .string provider)]
  | userState legacyId state =>
    [("legacy_id", .string legacyId), ("state", .string state.text),
      ("terminal", .bool state.isFinal)]
  | rollbackFailed legacyId cause =>
    [("legacy_id", .string legacyId), ("error", .string cause.message)]
  | usersBegun total provider => [("total", .nat total), ("provider", .string provider)]
  | usersStopped processed total | usersProgress processed total | filesStopped processed total =>
    [("processed", .nat processed), ("total", .nat total)]
  | userMigrated legacyId newId createdUser membershipAdded =>
    [("legacy_id", .string legacyId), ("new_id", .string newId),
      ("created_user", .bool createdUser), ("membership_added", .bool membershipAdded)]
  | userFailed legacyId failure | fileFailed legacyId failure =>
    [("legacy_id", .string legacyId), ("error", .string failure.message)]
  | usersFinished s =>
    [("success", .nat s.success), ("skipped", .nat s.skipped), ("errors", .nat s.errors),
      ("interrupted", .bool s.interrupted)]
  | singleUserMigrated legacyId newId =>
    [("legacy_id", .string legacyId), ("new_id", .string newId)]
  | columnsBegun descriptors mappings dryRun =>
    [("descriptors", .nat descriptors), ("mappings", .nat mappings), ("dry_run", .bool dryRun)]
  | scanFailed table column cause =>
    [("table", .string table), ("column", .string column), ("error", .string cause.message)]
  | rowWouldChange table locator => [("table", .string table), ("locator", .string locator)]
  | rowFailed failure => [("error", .string failure.message)]
  | columnFinished r =>
    [("table", .string r.table), ("column", .string r.column), ("kind", .string r.kind.text),
      ("scanned", .nat r.scanned), ("updated", .nat r.updated), ("unchanged", .nat r.unchanged),
      ("errors", .nat r.errors)]
  | columnsFinished s =>
    [("updated", .nat s.success), ("unchanged", .nat s.skipped), ("errors", .nat s.errors),
      ("interrupted", .bool s.interrupted)]
  | filesBegun tasks dryRun => [("tasks", .nat tasks), ("dry_run", .bool dryRun)]
  | fileMissing legacyId path => [("legacy_id", .string legacyId), ("path", .string path)]
  | fileWouldMove path backup new =>
    [("path", .string path), ("backup", .string backup), ("new", .string new)]
  | fileMoved legacyId newId new =>
    [("legacy_id", .string legacyId), ("new_id", .string newId), ("path", .string new)]
  | filesFinished s =>
    [("moved", .nat s.success), ("missing", .nat s.skipped), ("errors", .nat s.errors),
      ("interrupted", .bool s.interrupted)]
  | databaseConnected n => [("max_connections", .nat n)]
  | providerReady provider => [("provider", .string provider)]
  | storageReady url => [("storage_url", .string url)]

end Event

end Rekey

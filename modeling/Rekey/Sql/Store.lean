import Rekey.Migration.Collaborator
import Rekey.Sql.Connection

/-!
# A store in a database

The operations of a store as statements. The types of key columns are asked for once and kept. A
transaction whose end fails is rolled back once more before the next statement.
-/

namespace Rekey.Sql

variable {ρ : Type}

/-- A database as a store sees it: the server, the key column types known by table and key, and
whether a transaction is left open. -/
structure Database (ρ : Type) where
  server : ρ
  columnTypes : List ((String × String) × String)
  leftOpen : Bool

namespace Database

/-- A database that nothing has been asked of. -/
def fresh (server : ρ) : Database ρ := ⟨server, [], false⟩

/-- The type of a key column that was asked for before. -/
def columnType? (db : Database ρ) (table key : String) : Option String :=
  db.columnTypes.lookup (table, key)

end Database

/-- An action on the server alone. -/
def onServer {α : Type} (act : StateM ρ α) : StateM (Database ρ) α := fun db =>
  let (a, server) := act db.server
  (a, { db with server := server })

/-- Takes back a transaction that was left open. Whether that succeeds does not matter. -/
def cleanUp (send : Sender ρ) : StateM (Database ρ) Unit := do
  if (← get).leftOpen then
    let _ ← onServer (send rollbackStatement)
    modify fun db => { db with leftOpen := false }

/-- Sends a statement. -/
def execute (send : Sender ρ) (q : Statement) : StateM (Database ρ) (Except StoreFault Result) := do
  cleanUp send
  pure ((← onServer (send q)).mapError .database)

/-- Sends a statement that answers nothing. -/
def perform (send : Sender ρ) (q : Statement) : StateM (Database ρ) (Except StoreFault Unit) := do
  pure ((← execute send q).map fun _ => ())

/-- Sends a statement and reads its rows. -/
def select {α : Type} (send : Sender ρ) (q : Statement)
    (read : List Row → Except StoreFault α) : StateM (Database ρ) (Except StoreFault α) := do
  match ← execute send q with
  | .error e => pure (.error e)
  | .ok r => pure (read r.rows)

/-- Reads what a database answered. -/
def reading {α : Type} (read : List Row → Except DatabaseFault α) (rows : List Row) :
    Except StoreFault α :=
  (read rows).mapError .database

/-- Sends the statements that make the table of mappings and its index. -/
def ensureMappings (send : Sender ρ) (table : String) :
    StateM (Database ρ) (Except StoreFault Unit) := do
  match ← perform send (mappingTableStatement table) with
  | .error e => pure (.error e)
  | .ok _ => perform send (mappingIndexStatement table)

/-- The type of a key column: the one kept, else the one that the database declares, which is then
kept. -/
def columnType (send : Sender ρ) (table key : String) :
    StateM (Database ρ) (Except StoreFault String) := do
  match (← get).columnType? table key with
  | some t => pure (.ok t)
  | none =>
    match ← select send (columnTypeStatement table key) (reading readColumnType) with
    | .error e => pure (.error e)
    | .ok none => pure (.error (.unknownColumn table key))
    | .ok (some t) =>
      modify fun db => { db with columnTypes := ((table, key), t) :: db.columnTypes }
      pure (.ok t)

/-- Sends the statement that writes a cell. A row that is no longer there is an error. -/
def updateCell (send : Sender ρ) (d : Descriptor) (columnType : Option String) (locator : Locator)
    (cell : Cell) : StateM (Database ρ) (Except StoreFault Unit) := do
  match ← execute send (updateStatement d columnType locator cell) with
  | .error e => pure (.error e)
  | .ok r => pure (if r.affected = 0 then .error (.rowMissing locator d.table) else .ok ())

/-- Writes a cell. -/
def update (send : Sender ρ) (d : Descriptor) (locator : Locator) (cell : Cell) :
    StateM (Database ρ) (Except StoreFault Unit) :=
  match d.key with
  | none => updateCell send d none locator cell
  | some key => do
    match ← columnType send d.table key with
    | .error e => pure (.error e)
    | .ok t => updateCell send d (some t) locator cell

/-- Ends a transaction; if that fails the transaction is left open. -/
def endTransaction (send : Sender ρ) (q : Statement) :
    StateM (Database ρ) (Except StoreFault Unit) := do
  match ← perform send q with
  | .ok _ => pure (.ok ())
  | .error e =>
    modify fun db => { db with leftOpen := true }
    pure (.error e)

/-- The store in a database. -/
def store (send : Sender ρ) (tables : Schema) : Store (Database ρ) Unit where
  prepareMappings := ensureMappings send tables.mappings
  latestMapping identifier :=
    select send (latestMappingStatement tables.mappings identifier)
      (reading (readFirst readMapping))
  mappingsByAge :=
    select send (mappingsByAgeStatement tables.mappings) (reading (readRows readMapping))
  legacyUsersByAge :=
    select send (legacyUsersByAgeStatement tables.legacyUsers) (reading (readRows readLegacyUser))
  legacyUserById legacyId :=
    select send (legacyUserByIdStatement tables.legacyUsers legacyId)
      (reading (readFirst readLegacyUser))
  mappedUsers :=
    select send (mappedUsersStatement tables.legacyUsers tables.mappings)
      (reading (readRows readMappedUser))
  scan d := select send (scanStatement d) (readRows (readScannedRow d))
  update d locator cell := update send d locator cell
  beginTransaction := perform send beginStatement
  putMapping _ legacyId email newId :=
    perform send (putMappingStatement tables.mappings legacyId email newId)
  hasTargetUser _ id :=
    select send (hasTargetUserStatement tables.targetUsers id) (reading readTruth)
  addTargetUser _ u := perform send (addTargetUserStatement tables.targetUsers u)
  hasMembership _ userId tenantId :=
    select send (hasMembershipStatement tables.memberships userId tenantId) (reading readTruth)
  addMembership _ m := perform send (addMembershipStatement tables.memberships m)
  commit _ := endTransaction send commitStatement
  rollback _ := endTransaction send rollbackStatement

end Rekey.Sql

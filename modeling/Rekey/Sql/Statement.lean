import Rekey.Column.Basic
import Rekey.Record.Basic
import Rekey.Sql.Identifier

/-!
# Statements

The statements that a migration sends to its database. The text of a statement is made of words
that are always the same, of quoted names, and of the type of a key column as the database spells
it; values are bound as parameters and never written into the text.
-/

namespace Rekey.Sql

/-- A part of the text of a statement. -/
inductive Fragment where
  | words (s : String)
  | name (s : String)
  | columnType (s : String)
deriving DecidableEq, Repr

/-- The text of a part. -/
def Fragment.text : Fragment → String
  | words s => s
  | name s => quotedName s
  | columnType s => s

/-- The text of a statement. -/
def textOf (fs : List Fragment) : String :=
  String.join (fs.map Fragment.text)

/-- Lines of a text after its first one, each set in by `n` blanks. -/
def setIn (n : Nat) (lines : List String) : String :=
  String.join (lines.map fun line => String.ofList ('\n' :: List.replicate n ' ') ++ line)

/-- A value bound to a statement, by the type it is bound with. -/
inductive Param where
  | text (s : Option String)
  | textArray (items : Option (List (Option String)))
  | timestamp (t : Timestamp)
  | json (v : Option Json.Value)
deriving Repr, BEq, Inhabited

/-- A statement with its bound values. -/
structure Statement where
  text : String
  params : List Param
deriving Repr, BEq, Inhabited

/-! ## Columns -/

/-- The expression that addresses a row. -/
def locatorFragments (d : Descriptor) : List Fragment :=
  match d.key with
  | some key => [.name key, .words "::text"]
  | none => [.words "ctid::text"]

/-- The type that a column is read as. -/
def castWords : CellKind → String
  | .scalar => "text"
  | .array => "text[]"

/-- Reads a column with the locators of its rows. -/
def scanFragments (d : Descriptor) : List Fragment :=
  [.words "SELECT "] ++ locatorFragments d ++
    [.words " AS locator, ", .name d.column, .words ("::" ++ castWords d.kind ++ " AS value FROM "),
      .name d.table]

/-- The condition that selects the row to write. The locator is read as the type of the key column,
so that the comparison can use the key's index. -/
def rowFragments (d : Descriptor) (columnType : Option String) : List Fragment :=
  match d.key with
  | some key => [.name key, .words " = $2::text::", .columnType (columnType.getD "text")]
  | none => [.words "ctid = $2::tid"]

/-- Writes one cell. -/
def updateFragments (d : Descriptor) (columnType : Option String) : List Fragment :=
  [.words "UPDATE ", .name d.table, .words " SET ", .name d.column, .words " = $1 WHERE "] ++
    rowFragments d columnType

/-- The value that a cell is bound as. -/
def cellParam : Cell → Param
  | .scalar value => .text value
  | .array items => .textArray items

/-- Reads a column. -/
def scanStatement (d : Descriptor) : Statement := ⟨textOf (scanFragments d), []⟩

/-- Writes one cell of the row at a locator. -/
def updateStatement (d : Descriptor) (columnType : Option String) (locator : Locator)
    (cell : Cell) : Statement :=
  ⟨textOf (updateFragments d columnType), [cellParam cell, .text (some locator)]⟩

/-- Asks for the declared type of a column. -/
def columnTypeStatement (table key : String) : Statement where
  text := "SELECT format_type(a.atttypid, a.atttypmod)" ++
    setIn 5 ["FROM pg_attribute a", "WHERE a.attrelid = $1::regclass AND a.attname = $2"] ++
    setIn 7 ["AND a.attnum > 0 AND NOT a.attisdropped"]
  params := [.text (some (quotedName table)), .text (some key)]

/-! ## Mappings -/

/-- Makes the table of mappings. -/
def mappingTableFragments (table : String) : List Fragment :=
  [.words "CREATE TABLE IF NOT EXISTS ", .name table,
    .words (" (" ++
      setIn 12 ["legacy_id TEXT PRIMARY KEY,", "email TEXT NOT NULL,", "new_id TEXT NOT NULL,",
        "migrated_at TIMESTAMPTZ NOT NULL DEFAULT now(),",
        "created_at TIMESTAMPTZ NOT NULL DEFAULT now()"] ++
      setIn 8 [")"])]

/-- Makes the index of emails. -/
def mappingIndexFragments (table : String) : List Fragment :=
  [.words "CREATE INDEX IF NOT EXISTS ", .name (lastPart table ++ "_email_idx"), .words " ON ",
    .name table, .words " (email)"]

/-- The columns of a mapping. -/
def mappingColumns : String := "legacy_id, email, new_id, migrated_at, created_at"

/-- Makes the table of mappings. -/
def mappingTableStatement (table : String) : Statement := ⟨textOf (mappingTableFragments table), []⟩

/-- Makes the index of emails. -/
def mappingIndexStatement (table : String) : Statement := ⟨textOf (mappingIndexFragments table), []⟩

/-- The latest mapping of an identifier. -/
def latestMappingStatement (table identifier : String) : Statement where
  text := textOf [.words ("SELECT " ++ mappingColumns ++ " FROM "), .name table,
    .words (setIn 13 ["WHERE legacy_id = $1 OR email = $1", "ORDER BY migrated_at DESC LIMIT 1"])]
  params := [.text (some identifier)]

/-- All mappings, the latest first. -/
def mappingsByAgeStatement (table : String) : Statement where
  text := textOf [.words ("SELECT " ++ mappingColumns ++ " FROM "), .name table,
    .words (setIn 13 ["ORDER BY migrated_at DESC, legacy_id ASC"])]
  params := []

/-- Writes a mapping; the times of an existing one stay. -/
def putMappingStatement (table legacyId email newId : String) : Statement where
  text := textOf [.words "INSERT INTO ", .name table,
    .words (" (legacy_id, email, new_id) VALUES ($1, $2, $3)" ++
      setIn 13 ["ON CONFLICT (legacy_id)",
        "DO UPDATE SET email = EXCLUDED.email, new_id = EXCLUDED.new_id"])]
  params := [.text (some legacyId), .text (some email), .text (some newId)]

/-! ## Users and memberships -/

/-- The users of the old system. -/
def legacyUserFragments (table : String) : List Fragment :=
  [.words "SELECT id, profile, email, tenant_id, roles, created_at FROM ", .name table]

/-- All users of the old system in the order in which they are migrated. -/
def legacyUsersByAgeStatement (table : String) : Statement :=
  ⟨textOf (legacyUserFragments table ++ [.words " ORDER BY created_at ASC, id ASC"]), []⟩

/-- One user of the old system. -/
def legacyUserByIdStatement (table legacyId : String) : Statement :=
  ⟨textOf (legacyUserFragments table ++ [.words " WHERE id = $1"]), [.text (some legacyId)]⟩

/-- All users of the old system who have a mapping. -/
def mappedUsersStatement (legacyUsers mappings : String) : Statement where
  text := textOf [
    .words ("SELECT u.id AS legacy_id, m.new_id, u.tenant_id" ++ setIn 13 ["FROM "]),
    .name legacyUsers, .words " u JOIN ", .name mappings,
    .words (" m ON m.legacy_id = u.id" ++ setIn 13 ["ORDER BY u.id ASC"])]
  params := []

/-- Whether a user exists in the new system. -/
def hasTargetUserStatement (table id : String) : Statement where
  text := textOf [.words "SELECT EXISTS (SELECT 1 FROM ", .name table, .words " WHERE id = $1)"]
  params := [.text (some id)]

/-- Creates a user of the new system. -/
def addTargetUserStatement (table : String) (u : TargetUser) : Statement where
  text := textOf [.words "INSERT INTO ", .name table,
    .words " (id, email, profile) VALUES ($1, $2, $3)"]
  params := [.text (some u.id), .text (some u.email), .json u.profile]

/-- Whether a membership exists. -/
def hasMembershipStatement (table userId tenantId : String) : Statement where
  text := textOf [.words "SELECT EXISTS (SELECT 1 FROM ", .name table,
    .words " WHERE user_id = $1 AND tenant_id = $2)"]
  params := [.text (some userId), .text (some tenantId)]

/-- Creates a membership. -/
def addMembershipStatement (table : String) (m : Membership) : Statement where
  text := textOf [.words "INSERT INTO ", .name table,
    .words (" (user_id, tenant_id, roles, invited_by, invited_at, status)" ++
      setIn 13 ["VALUES ($1, $2, $3, $4, $5, $6)"])]
  params := [.text (some m.userId), .text (some m.tenantId),
    .textArray (some (m.roles.map some)), .text m.invitedBy, .timestamp m.invitedAt,
    .text (some m.status.text)]

/-! ## Transactions -/

/-- Opens a transaction. -/
def beginStatement : Statement := ⟨"BEGIN", []⟩

/-- Makes the writes of a transaction last. -/
def commitStatement : Statement := ⟨"COMMIT", []⟩

/-- Takes the writes of a transaction back. -/
def rollbackStatement : Statement := ⟨"ROLLBACK", []⟩

end Rekey.Sql

import Rekey.Failure.Causes
import Rekey.Record.Reading
import Rekey.Sql.Statement

/-!
# Answers of a database

What a database answers to a statement, and how the rows of an answer are read. Reading a row stops
at the first column whose value may not be null and is.
-/

namespace Rekey.Sql

/-- The values of a row in the order of the statement's columns. -/
abbrev Row := List Json.Value

/-- The answer to a statement: the rows it selects, or how many it has written. -/
structure Result where
  rows : List Row
  affected : Nat
deriving Repr, BEq, Inhabited

/-- How statements are sent to a database of a world `ρ`. -/
abbrev Sender (ρ : Type) := Statement → StateM ρ (Except DatabaseFault Result)

/-! ## Values -/

/-- The value of a column; a missing one is null. -/
def Row.value (row : Row) (i : Nat) : Json.Value := (row[i]?).getD .null

/-- A text that may be null. -/
def Row.text? (row : Row) (i : Nat) : Option String :=
  match Row.value row i with
  | .string s => some s
  | _ => none

/-- A text that may not be null, in a column of this name. -/
def Row.text (row : Row) (i : Nat) (column : String) : Except DatabaseFault String :=
  match Row.text? row i with
  | some s => .ok s
  | none => .error (.nullIn column)

/-- A point in time that may not be null, in a column of this name. -/
def Row.time (row : Row) (i : Nat) (column : String) : Except DatabaseFault Timestamp :=
  match (Row.text? row i).bind Timestamp.ofText? with
  | some t => .ok t
  | none => .error (.nullIn column)

/-- A stored value that may be null. -/
def Row.stored (row : Row) (i : Nat) : Option Json.Value :=
  match Row.value row i with
  | .null => none
  | v => some v

/-- Texts that may each be null. -/
def nullableTexts (items : List Json.Value) : List (Option String) :=
  items.map fun v =>
    match v with
    | .string s => some s
    | _ => none

/-- An array that may be null, as may its elements. -/
def Row.texts? (row : Row) (i : Nat) : Option (List (Option String)) :=
  match Row.value row i with
  | .array items => some (nullableTexts items)
  | _ => none

/-- An array that counts as empty when it is null, and whose elements may not be null. -/
def Row.texts (row : Row) (i : Nat) (column : String) : Except DatabaseFault (List String) :=
  match Row.texts? row i with
  | none => .ok []
  | some items =>
    match items.mapM id with
    | some xs => .ok xs
    | none => .error (.nullIn column)

/-! ## Rows -/

/-- Reads a mapping. -/
def readMapping (row : Row) : Except DatabaseFault Mapping := do
  let legacyId ← Row.text row 0 "legacy_id"
  let email ← Row.text row 1 "email"
  let newId ← Row.text row 2 "new_id"
  let migratedAt ← Row.time row 3 "migrated_at"
  let createdAt ← Row.time row 4 "created_at"
  pure ⟨legacyId, email, newId, migratedAt, createdAt⟩

/-- Reads a user of the old system. An email that is null counts as empty. -/
def readLegacyUser (row : Row) : Except DatabaseFault LegacyUser := do
  let legacyId ← Row.text row 0 "id"
  let roles ← Row.texts row 4 "roles"
  let createdAt ← Row.time row 5 "created_at"
  pure ⟨legacyId, Row.stored row 1, (Row.text? row 2).getD "", Row.text? row 3, roles, createdAt⟩

/-- Reads a user of the old system who has a mapping. -/
def readMappedUser (row : Row) : Except DatabaseFault MappedUser := do
  let legacyId ← Row.text row 0 "legacy_id"
  let newId ← Row.text row 1 "new_id"
  pure ⟨legacyId, newId, Row.text? row 2⟩

/-- Reads a row of a scan. -/
def readScannedRow (d : Descriptor) (row : Row) : Except StoreFault ScannedRow :=
  match Row.text? row 0 with
  | none => .error (.locatorMissing d.table)
  | some locator =>
    match d.kind with
    | .scalar => .ok ⟨locator, .scalar (Row.text? row 1)⟩
    | .array => .ok ⟨locator, .array (Row.texts? row 1)⟩

/-- Reads rows in order, up to the first that cannot be read. -/
def readRows {ε α : Type} (read : Row → Except ε α) : List Row → Except ε (List α)
  | [] => .ok []
  | row :: rest =>
    match read row with
    | .error e => .error e
    | .ok a => (readRows read rest).map (a :: ·)

/-- Reads the first row, if there is one. -/
def readFirst {ε α : Type} (read : Row → Except ε α) : List Row → Except ε (Option α)
  | [] => .ok none
  | row :: _ => (read row).map some

/-- Reads the only value of the only row of a question that has an answer. -/
def readTruth : List Row → Except DatabaseFault Bool
  | [] => .error .noRow
  | row :: _ =>
    match Row.value row 0 with
    | .bool b => .ok b
    | _ => .error .nullResult

/-- Reads the type of a column, if there is such a column. -/
def readColumnType : List Row → Except DatabaseFault (Option String)
  | [] => .ok none
  | row :: _ =>
    match Row.text? row 0 with
    | some t => .ok (some t)
    | none => .error .nullResult

end Rekey.Sql

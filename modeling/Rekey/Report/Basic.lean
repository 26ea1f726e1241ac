import Rekey.Column.Basic

/-!
# Reports

Each phase of a migration ends with a summary that counts its units by how they ended. The phase
that replaces identifiers in columns also reports on every column.
-/

namespace Rekey

/-- The phases of a migration. -/
inductive Phase where
  | users
  | foreignKeys
  | files
deriving DecidableEq, Repr, Inhabited

/-- The name of a phase. -/
def Phase.text : Phase → String
  | users => "users"
  | foreignKeys => "foreign_keys"
  | files => "files"

/-- What became of the units of a phase, and whether the phase was stopped before its end. -/
structure Summary where
  phase : Phase
  success : Nat
  skipped : Nat
  errors : Nat
  interrupted : Bool
deriving DecidableEq, Repr, Inhabited

namespace Summary

/-- The summary of a phase that has not begun. -/
def start (phase : Phase) : Summary := ⟨phase, 0, 0, 0, false⟩

/-- How many units were handled. -/
def total (s : Summary) : Nat := s.success + s.skipped + s.errors

/-- Every unit was handled and none failed. -/
def isClean (s : Summary) : Bool := s.errors == 0 && !s.interrupted

/-- The line that tells a summary. -/
def text (s : Summary) : String :=
  s.phase.text ++ ": " ++ toString s.success ++ " succeeded, " ++ toString s.skipped ++
    " skipped, " ++ toString s.errors ++ " failed" ++ if s.interrupted then " (interrupted)" else ""

/-- The written form of a summary. -/
def toJson (s : Summary) : Json.Value := .object [
  ("phase", .string s.phase.text),
  ("success", .nat s.success),
  ("skipped", .nat s.skipped),
  ("errors", .nat s.errors),
  ("interrupted", .bool s.interrupted)]

end Summary

/-- What became of the rows of one column. -/
structure ColumnReport where
  table : String
  column : String
  kind : CellKind
  scanned : Nat
  updated : Nat
  errors : Nat
  unchanged : Nat
  scanFailed : Bool
deriving DecidableEq, Repr, Inhabited

namespace ColumnReport

/-- The report on a column of which nothing has been scanned. -/
def start (d : Descriptor) : ColumnReport := ⟨d.table, d.column, d.kind, 0, 0, 0, 0, false⟩

/-- The written form of a report on a column. -/
def toJson (r : ColumnReport) : Json.Value := .object [
  ("table", .string r.table),
  ("column", .string r.column),
  ("kind", .string r.kind.text),
  ("scanned", .nat r.scanned),
  ("updated", .nat r.updated),
  ("errors", .nat r.errors),
  ("unchanged", .nat r.unchanged),
  ("scan_failed", .bool r.scanFailed)]

end ColumnReport

/-- The summary of the phase that replaces identifiers and the reports on the columns it began. -/
structure ReplacementReport where
  summary : Summary
  columns : List ColumnReport
deriving DecidableEq, Repr, Inhabited

/-- The written form of a report. -/
def ReplacementReport.toJson (r : ReplacementReport) : Json.Value := .object [
  ("summary", r.summary.toJson),
  ("tables", .array (r.columns.map ColumnReport.toJson))]

/-- How the migration of one user ended when nothing failed. -/
inductive UserResult where
  | skipped
  | migrated (newId : String) (createdUser membershipAdded : Bool)
deriving DecidableEq, Repr, Inhabited

/-- How the move of one file ended when nothing failed. -/
inductive FileResult where
  | missing
  | moved
deriving DecidableEq, Repr, Inhabited

end Rekey

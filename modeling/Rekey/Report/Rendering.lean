import Rekey.Migration.Campaign
import Rekey.Record.Written
import Rekey.Report.Table

/-!
# What the program prints

Every answer of a campaign can be printed as a table or a line for people, as JSON, or as
comma-separated values.
-/

namespace Rekey

/-- A format of the output. -/
inductive PrintFormat where
  | table
  | json
  | csv
deriving DecidableEq, Repr, Inhabited

/-- The name of a format. -/
def PrintFormat.text : PrintFormat → String
  | table => "table"
  | json => "json"
  | csv => "csv"

/-- The formats by name. -/
def PrintFormat.named : List (String × PrintFormat) :=
  [table, json, csv].map fun f => (f.text, f)

/-- The text of a truth value. -/
def truthText (b : Bool) : String :=
  if b then "true" else "false"

/-! ## Comma-separated values -/

/-- A line of fields that are written as they are. -/
def plainRecord (fields : List String) : String :=
  ",".intercalate fields ++ "\n"

/-- A field between quotes, in which a quote is written twice. -/
def quotedField (s : String) : String :=
  String.ofList ('"' :: s.toList.flatMap (fun c => if c = '"' then ['"', '"'] else [c]) ++ ['"'])

/-! ## Mappings -/

/-- The header of listings of mappings. -/
def mappingHeader : List String := ["legacy_id", "email", "new_id", "migrated_at"]

/-- Mappings as a table. -/
def mappingsTable (ms : List Mapping) : String :=
  if ms.isEmpty then "No mappings"
  else
    let table : TextTable := ⟨mappingHeader,
      ms.map fun m => [m.legacyId, m.email, m.newId, m.migratedAt.offsetText]⟩
    table.text ++ "\n" ++ toString ms.length ++ " mapping(s)"

/-- Mappings as comma-separated values. Only the email is quoted. -/
def mappingsCsv (ms : List Mapping) : String :=
  plainRecord mappingHeader ++ String.join (ms.map fun m =>
    plainRecord [m.legacyId, quotedField m.email, m.newId, m.migratedAt.offsetText])

/-- Mappings in a format. -/
def renderMappings (ms : List Mapping) : PrintFormat → String
  | .table => mappingsTable ms
  | .json => (Json.Value.array (ms.map Mapping.toJson)).pretty
  | .csv => mappingsCsv ms

/-! ## One user -/

/-- The outcome of one user as a line. -/
def outcomeLine (legacyId : String) : UserResult → String
  | .skipped => legacyId ++ ": not a legacy id, skipped"
  | .migrated newId createdUser membershipAdded =>
    legacyId ++ " -> " ++ newId ++ (if createdUser then " (user created)" else "") ++
      if membershipAdded then " (membership added)" else ""

/-- The parts of an outcome: its name, the new identifier, and what was created. -/
def UserResult.parts : UserResult → String × String × Bool × Bool
  | .skipped => ("skipped", "", false, false)
  | .migrated newId createdUser membershipAdded =>
    ("migrated", newId, createdUser, membershipAdded)

/-- The outcome of one user in a format. An empty new identifier shows as null in JSON. -/
def renderOutcome (legacyId : String) (o : UserResult) : PrintFormat → String
  | .table => outcomeLine legacyId o
  | .json =>
    let (status, newId, createdUser, membershipAdded) := o.parts
    (Json.Value.object [
      ("created_user", .bool createdUser),
      ("legacy_id", .string legacyId),
      ("membership_added", .bool membershipAdded),
      ("new_id", if newId.isEmpty then .null else .string newId),
      ("status", .string status)]).compact
  | .csv =>
    let (status, newId, createdUser, membershipAdded) := o.parts
    plainRecord ["legacy_id", "status", "new_id", "created_user", "membership_added"] ++
      plainRecord [legacyId, status, newId, truthText createdUser, truthText membershipAdded]

/-! ## Summaries and reports -/

/-- A summary in a format. -/
def renderSummary (s : Summary) : PrintFormat → String
  | .table => s.text
  | .json => s.toJson.pretty
  | .csv =>
    plainRecord ["phase", "success", "skipped", "errors", "interrupted"] ++
      plainRecord [s.phase.text, toString s.success, toString s.skipped, toString s.errors,
        truthText s.interrupted]

/-- A report as a table with the summary below it. -/
def reportTable (r : ReplacementReport) : String :=
  let table : TextTable := ⟨["table", "column", "kind", "scanned", "updated", "errors"],
    r.columns.map fun c => [c.table, c.column, c.kind.text,
      if c.scanFailed then "scan failed" else toString c.scanned,
      toString c.updated, toString c.errors]⟩
  table.text ++ "\n" ++ r.summary.text

/-- The fields of a report on a column as comma-separated values. -/
def ColumnReport.csvFields (c : ColumnReport) : List String :=
  [c.table, c.column, c.kind.text, toString c.scanned, toString c.updated, toString c.errors,
    truthText c.scanFailed]

/-- A report in a format. -/
def renderReport (r : ReplacementReport) : PrintFormat → String
  | .table => reportTable r
  | .json => r.toJson.pretty
  | .csv =>
    plainRecord ["table", "column", "kind", "scanned", "updated", "errors", "scan_failed"] ++
      String.join (r.columns.map fun c => plainRecord c.csvFields)

/-- An answer in a format. -/
def Answer.render (a : Answer) (format : PrintFormat) : String :=
  match a with
  | .done => ""
  | .summary s => renderSummary s format
  | .outcome legacyId o => renderOutcome legacyId o format
  | .mapping m => renderMappings [m] format
  | .mappings ms => renderMappings ms format
  | .report r => renderReport r format

end Rekey

import Rekey.Column.Replacement
import Rekey.Migration.Collaborator

/-!
# Replacing identifiers in columns

Every described column is scanned once, and each row that holds an old identifier with a mapping is
updated. A row that fails is counted and the next one is tried.
-/

namespace Rekey

variable {σ τ : Type}

/-- Goes through the rows of a scan in order until a stop is requested. A dry run counts the updates
and makes none. -/
def replaceInRows (store : Store σ τ) (stopRequested : StateM σ Bool) (dryRun : Bool)
    (index : MappingIndex) (d : Descriptor) (r : ColumnReport) :
    List ScannedRow → Action σ ColumnReport
  | [] => pure r
  | row :: rest => do
    if ← call stopRequested then pure r
    else
      match replaceCell index row.cell with
      | none =>
        let r := { r with unchanged := r.unchanged + 1 }
        replaceInRows store stopRequested dryRun index d r rest
      | some cell =>
        if dryRun then
          tell (.rowWouldChange d.table row.locator)
          let r := { r with updated := r.updated + 1 }
          replaceInRows store stopRequested dryRun index d r rest
        else
          match ← call (store.update d row.locator cell) with
          | .ok _ =>
            let r := { r with updated := r.updated + 1 }
            replaceInRows store stopRequested dryRun index d r rest
          | .error e =>
            tell (.rowFailed (.rowUpdate d.table d.column row.locator e.message))
            let r := { r with errors := r.errors + 1 }
            replaceInRows store stopRequested dryRun index d r rest

/-- Replaces the identifiers in one column. -/
def replaceInColumn (store : Store σ τ) (stopRequested : StateM σ Bool) (dryRun : Bool)
    (index : MappingIndex) (d : Descriptor) : Action σ ColumnReport := do
  match ← call (store.scan d) with
  | .error e =>
    tell (.scanFailed d.table d.column e)
    pure { ColumnReport.start d with scanFailed := true }
  | .ok rows =>
    let r ← replaceInRows store stopRequested dryRun index d
      { ColumnReport.start d with scanned := rows.length } rows
    tell (.columnFinished r)
    pure r

/-- A summary with one more column. -/
def Summary.countColumn (s : Summary) (r : ColumnReport) : Summary :=
  { s with
    success := s.success + r.updated
    errors := s.errors + r.errors + if r.scanFailed then 1 else 0
    skipped := s.skipped + r.unchanged }

/-- A report with one more column. -/
def ReplacementReport.add (report : ReplacementReport) (r : ColumnReport) : ReplacementReport :=
  ⟨report.summary.countColumn r, report.columns ++ [r]⟩

/-- A report of a phase that was stopped. -/
def ReplacementReport.interrupt (report : ReplacementReport) : ReplacementReport :=
  ⟨{ report.summary with interrupted := true }, report.columns⟩

/-- Goes through columns in order until a stop is requested before or during one of them. -/
def replaceInEach (store : Store σ τ) (stopRequested : StateM σ Bool) (dryRun : Bool)
    (index : MappingIndex) (report : ReplacementReport) :
    List Descriptor → Action σ ReplacementReport
  | [] => pure report
  | d :: rest => do
    if ← call stopRequested then pure report.interrupt
    else
      let r ← replaceInColumn store stopRequested dryRun index d
      if ← call stopRequested then pure (report.add r).interrupt
      else replaceInEach store stopRequested dryRun index (report.add r) rest

/-- Replaces the identifiers in all described columns. -/
def replaceInColumns (store : Store σ τ) (stopRequested : StateM σ Bool) (dryRun : Bool)
    (index : MappingIndex) (ds : List Descriptor) : Action σ ReplacementReport := do
  tell (.columnsBegun ds.length index.size dryRun)
  let report ← replaceInEach store stopRequested dryRun index ⟨.start .foreignKeys, []⟩ ds
  if report.summary.interrupted then
    tell .columnsStopped
  tell (.columnsFinished report.summary)
  pure report

/-- The index of all stored mappings. -/
def loadIndex (store : Store σ τ) : Action σ (Except Failure MappingIndex) := do
  match ← call store.mappingsByAge with
  | .error e => pure (.error (.store e))
  | .ok ms =>
    let index := MappingIndex.ofMappings ms
    tell (.indexLoaded index.size)
    pure (.ok index)

end Rekey

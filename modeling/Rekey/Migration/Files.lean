import Rekey.Migration.Collaborator

/-!
# Moving files

A file is copied to the backup path and then renamed to the new path, unless a file stands there
already: of users who share a new identifier the first one keeps the place.
-/

namespace Rekey

variable {σ τ : Type}

/-- A failure of the object storage at a path. -/
def fileFailure (path : String) (e : ObjectFault) : Failure :=
  .file path e.message

/-- Copies a file to its backup path and moves it to its new path. -/
def moveFile (storage : ObjectStorage σ) (task : FileTask) (old backup new : String) :
    Action σ (Except Failure FileResult) := do
  match ← call (storage.copy backup old) with
  | .error e => pure (.error (fileFailure backup e))
  | .ok _ =>
    match ← call (storage.move new old) with
    | .error e => pure (.error (fileFailure new e))
    | .ok _ =>
      tell (.fileMoved task.legacyId task.newId new)
      pure (.ok .moved)

/-- Moves the file of one task, if there is one and its new place is free. A dry run only looks. -/
def relocateFile (storage : ObjectStorage σ) (layout : Layout) (dryRun : Bool)
    (task : FileTask) : Action σ (Except Failure FileResult) := do
  let old := layout.old task.tenantId task.legacyId
  let backup := layout.backup task.tenantId task.legacyId
  let new := layout.new task.newId
  match ← call (storage.contains old) with
  | .error e => pure (.error (fileFailure old e))
  | .ok false =>
    tell (.fileMissing task.legacyId old)
    pure (.ok .missing)
  | .ok true =>
    match ← call (storage.contains new) with
    | .error e => pure (.error (fileFailure new e))
    | .ok true =>
      pure (.error (.file new ("already holds a file, " ++ old ++ " left in place")))
    | .ok false =>
      if dryRun then
        tell (.fileWouldMove old backup new)
        pure (.ok .moved)
      else moveFile storage task old backup new

/-- A summary with one more file. -/
def Summary.countFile (s : Summary) : Except Failure FileResult → Summary
  | .ok .moved => { s with success := s.success + 1 }
  | .ok .missing => { s with skipped := s.skipped + 1 }
  | .error _ => { s with errors := s.errors + 1 }

/-- Tells of a move that failed. -/
def tellFile (task : FileTask) : Except Failure FileResult → Action σ Unit
  | .ok _ => pure ()
  | .error f => tell (.fileFailed task.legacyId f)

/-- Moves files in order until a stop is requested. -/
def relocateEach (storage : ObjectStorage σ) (layout : Layout) (dryRun : Bool)
    (stopRequested : StateM σ Bool) (total : Nat) (s : Summary) :
    List FileTask → Action σ Summary
  | [] => pure s
  | task :: rest => do
    if ← call stopRequested then
      tell (.filesStopped s.total total)
      pure { s with interrupted := true }
    else
      let outcome ← relocateFile storage layout dryRun task
      tellFile task outcome
      relocateEach storage layout dryRun stopRequested total (s.countFile outcome) rest

/-- The files of all users who have a mapping. -/
def fileTasks (store : Store σ τ) (layout : Layout) :
    Action σ (Except Failure (List FileTask)) := do
  match ← call store.mappedUsers with
  | .error e => pure (.error (.store e))
  | .ok users => pure (.ok (users.map layout.task))

/-- Moves the files of all users who have a mapping. -/
def relocateFiles (store : Store σ τ) (storage : ObjectStorage σ) (layout : Layout)
    (dryRun : Bool) (stopRequested : StateM σ Bool) : Action σ (Except Failure Summary) := do
  match ← fileTasks store layout with
  | .error f => pure (.error f)
  | .ok tasks =>
    tell (.filesBegun tasks.length dryRun)
    let s ← relocateEach storage layout dryRun stopRequested tasks.length (.start .files) tasks
    tell (.filesFinished s)
    pure (.ok s)

end Rekey

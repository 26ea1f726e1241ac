import Rekey.Failure.Basic
import Rekey.Text.Blank

/-!
# Storage addresses

An address of an object storage names a bucket, a directory or the memory of the program.
-/

namespace Rekey

open Rekey.Text (trimChars)

/-- Where objects are kept. -/
inductive StorageLocation where
  | memory
  | bucket (name : String)
  | directory (path : String)
deriving DecidableEq, Repr, Inhabited

/-- Why a storage cannot be opened, if it cannot: by the bucket or the directory that an address
names. -/
structure StorageFaults where
  bucket : String → Option String
  directory : String → Option String

/-- Every bucket can be opened, and the directories that satisfy `isDirectory`. -/
def StorageFaults.ofDirectories (isDirectory : String → Bool) : StorageFaults where
  bucket _ := none
  directory path :=
    if isDirectory path then none
    else some ("Generic LocalFileSystem error: Unable to canonicalize filesystem root: " ++ path)

namespace StorageLocation

/-- What follows a given beginning of a character list. -/
def after? : List Char → List Char → Option (List Char)
  | [], cs => some cs
  | _ :: _, [] => none
  | p :: ps, c :: cs => if p = c then after? ps cs else none

/-- A character list without the slashes at its end. -/
def withoutEndSlashes (cs : List Char) : List Char :=
  (cs.reverse.dropWhile (· == '/')).reverse

/-- How a location is shown. A directory is shown without the slashes at its end. -/
def text : StorageLocation → String
  | memory => "InMemory"
  | bucket name => "AmazonS3(" ++ name ++ ")"
  | directory path =>
    let shown := withoutEndSlashes path.toList
    "LocalFileSystem(file://" ++ (if shown.isEmpty then "/" else String.ofList shown) ++ ")"

/-- The location of a trimmed address. -/
def ofChars (faults : StorageFaults) (cs : List Char) : Except Failure StorageLocation :=
  let url := String.ofList cs
  match after? "s3://".toList cs with
  | some rest =>
    let name := withoutEndSlashes rest
    if name.isEmpty then .error (.config (.bucketMissing url))
    else
      let bucket := String.ofList name
      match faults.bucket bucket with
      | some reason => .error (.config (.bucketUnusable bucket reason))
      | none => .ok (.bucket bucket)
  | none =>
    match after? "file://".toList cs with
    | some rest =>
      let path := String.ofList rest
      match faults.directory path with
      | some reason => .error (.config (.directoryUnusable path reason))
      | none => .ok (.directory path)
    | none =>
      if url = "memory://" then .ok .memory
      else .error (.config (.storageUrlUnsupported url))

/-- The location of an address; white space around it does not count. -/
def ofUrl (faults : StorageFaults) (url : String) : Except Failure StorageLocation :=
  ofChars faults (trimChars url.toList)

end StorageLocation

end Rekey

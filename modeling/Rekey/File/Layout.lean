import Rekey.Json.Reading
import Rekey.Record.Basic

/-!
# Where files stand

A user's file stands under the user's tenant before the migration and under the user's new
identifier after it. A copy of it is kept in a backup namespace of the tenant.
-/

namespace Rekey

/-- The names that paths of files are made of. -/
structure Layout where
  fileName : String
  adminSegment : String
  backupSegment : String
  usersSegment : String
deriving DecidableEq, Repr, Inhabited

/-- A file to move: whose it is, and the tenant it stands under. -/
structure FileTask where
  legacyId : String
  newId : String
  tenantId : String
deriving DecidableEq, Repr, Inhabited

namespace Layout

/-- The usual layout. -/
def standard : Layout where
  fileName := "profile_picture"
  adminSegment := "admin"
  backupSegment := "backup"
  usersSegment := "users"

/-- The segment of a tenant; users without one stand under the administrators' segment. -/
def segmentOf (layout : Layout) (tenantId : Option String) : String :=
  (tenantOf tenantId).getD layout.adminSegment

/-- Where the file stands before the migration. -/
def old (layout : Layout) (tenant legacyId : String) : String :=
  tenant ++ "/" ++ legacyId ++ "/" ++ layout.fileName

/-- Where the copy is kept. -/
def backup (layout : Layout) (tenant legacyId : String) : String :=
  tenant ++ "/" ++ layout.backupSegment ++ "/" ++ legacyId ++ "/" ++ layout.fileName

/-- Where the file stands after the migration. -/
def new (layout : Layout) (newId : String) : String :=
  layout.usersSegment ++ "/" ++ newId ++ "/" ++ layout.fileName

/-- The task for a user who has a mapping. -/
def task (layout : Layout) (u : MappedUser) : FileTask where
  legacyId := u.legacyId
  newId := u.newId
  tenantId := layout.segmentOf u.tenantId

/-- The written form of a layout. -/
def toJson (layout : Layout) : Json.Value := .object [
  ("file_name", .string layout.fileName),
  ("admin_segment", .string layout.adminSegment),
  ("backup_segment", .string layout.backupSegment),
  ("users_segment", .string layout.usersSegment)]

/-- Reads a layout. -/
def read : Json.Reader Layout := fun d => do
  let found ← Json.readFields [
    .required "file_name" Json.readText,
    .required "admin_segment" Json.readText,
    .required "backup_segment" Json.readText,
    .required "users_segment" Json.readText] d
  pure {
    fileName := ← found.get "file_name" Json.readText
    adminSegment := ← found.get "admin_segment" Json.readText
    backupSegment := ← found.get "backup_segment" Json.readText
    usersSegment := ← found.get "users_segment" Json.readText }

end Layout

end Rekey

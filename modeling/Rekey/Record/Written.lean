import Rekey.Record.Basic

/-!
# Records as JSON

Each record is an object with its fields in the order of their declaration.
-/

namespace Rekey

open Json (Value)

/-- A list of texts as JSON. -/
def Json.Value.texts (items : List String) : Value :=
  .array (items.map .string)

/-- A stored value that may be absent. -/
def Json.Value.stored (v : Option Value) : Value :=
  v.getD .null

/-- The stored form of a user of the old system. -/
def LegacyUser.toJson (u : LegacyUser) : Value := .object [
  ("legacy_id", .string u.legacyId),
  ("profile", .stored u.profile),
  ("email", .string u.email),
  ("tenant_id", .optional u.tenantId),
  ("roles", .texts u.roles),
  ("created_at", .string u.createdAt.text)]

/-- The stored form of a mapping. -/
def Mapping.toJson (m : Mapping) : Value := .object [
  ("legacy_id", .string m.legacyId),
  ("email", .string m.email),
  ("new_id", .string m.newId),
  ("migrated_at", .string m.migratedAt.text),
  ("created_at", .string m.createdAt.text)]

/-- The stored form of a user of the new system. -/
def TargetUser.toJson (u : TargetUser) : Value := .object [
  ("id", .string u.id),
  ("email", .string u.email),
  ("profile", .stored u.profile)]

/-- The stored form of a membership. -/
def Membership.toJson (m : Membership) : Value := .object [
  ("user_id", .string m.userId),
  ("tenant_id", .string m.tenantId),
  ("roles", .texts m.roles),
  ("invited_by", .optional m.invitedBy),
  ("invited_at", .string m.invitedAt.text),
  ("status", .string m.status.text)]

/-- The stored form of an account. -/
def Account.toJson (i : Account) : Value := .object [
  ("id", .string i.id),
  ("email", .optional i.email)]

/-- The stored form of table names. -/
def Schema.toJson (t : Schema) : Value := .object [
  ("legacy_users", .string t.legacyUsers),
  ("target_users", .string t.targetUsers),
  ("memberships", .string t.memberships),
  ("mappings", .string t.mappings)]

end Rekey

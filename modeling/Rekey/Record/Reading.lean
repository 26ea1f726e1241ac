import Rekey.Json.Reading
import Rekey.Record.Basic
import Rekey.Time.Reading

/-!
# Reading records from JSON
-/

namespace Rekey

open Json

/-- Reads a point in time. -/
def Timestamp.read : Reader Timestamp
  | .string (some s) =>
    match Timestamp.ofText? s with
    | some t => .ok t
    | none => .error .malformed
  | _ => .error .malformed

/-- Reads a profile of a record that stands by itself. -/
def readProfile : Reader Value :=
  readValue 1

/-- Reads a user of the old system. -/
def LegacyUser.read : Reader LegacyUser := fun d => do
  let found ← readFields [
    .required "legacy_id" readText,
    .optional "profile" readProfile,
    .required "email" readText,
    .optional "tenant_id" readText,
    .required "roles" (readList readText),
    .required "created_at" Timestamp.read] d
  pure {
    legacyId := ← found.get "legacy_id" readText
    profile := ← found.get? "profile" readProfile
    email := ← found.get "email" readText
    tenantId := ← found.get? "tenant_id" readText
    roles := ← found.get "roles" (readList readText)
    createdAt := ← found.get "created_at" Timestamp.read }

/-- Reads a mapping. -/
def Mapping.read : Reader Mapping := fun d => do
  let found ← readFields [
    .required "legacy_id" readText,
    .required "email" readText,
    .required "new_id" readText,
    .required "migrated_at" Timestamp.read,
    .required "created_at" Timestamp.read] d
  pure {
    legacyId := ← found.get "legacy_id" readText
    email := ← found.get "email" readText
    newId := ← found.get "new_id" readText
    migratedAt := ← found.get "migrated_at" Timestamp.read
    createdAt := ← found.get "created_at" Timestamp.read }

/-- Reads a user of the new system. -/
def TargetUser.read : Reader TargetUser := fun d => do
  let found ← readFields [
    .required "id" readText,
    .required "email" readText,
    .optional "profile" readProfile] d
  pure {
    id := ← found.get "id" readText
    email := ← found.get "email" readText
    profile := ← found.get? "profile" readProfile }

/-- Reads a membership. -/
def Membership.read : Reader Membership := fun d => do
  let found ← readFields [
    .required "user_id" readText,
    .required "tenant_id" readText,
    .required "roles" (readList readText),
    .optional "invited_by" readText,
    .required "invited_at" Timestamp.read,
    .required "status" (readChoice Standing.named)] d
  pure {
    userId := ← found.get "user_id" readText
    tenantId := ← found.get "tenant_id" readText
    roles := ← found.get "roles" (readList readText)
    invitedBy := ← found.get? "invited_by" readText
    invitedAt := ← found.get "invited_at" Timestamp.read
    status := ← found.get "status" (readChoice Standing.named) }

/-- Reads an account. -/
def Account.read : Reader Account := fun d => do
  let found ← readFields [
    .required "id" readText,
    .trailing "email" readText] d
  pure {
    id := ← found.get "id" readText
    email := ← found.get? "email" readText }

/-- Reads table names. -/
def Schema.read : Reader Schema := fun d => do
  let found ← readFields [
    .required "legacy_users" readText,
    .required "target_users" readText,
    .required "memberships" readText,
    .required "mappings" readText] d
  pure {
    legacyUsers := ← found.get "legacy_users" readText
    targetUsers := ← found.get "target_users" readText
    memberships := ← found.get "memberships" readText
    mappings := ← found.get "mappings" readText }

end Rekey

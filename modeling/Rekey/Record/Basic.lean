import Rekey.Json.Value
import Rekey.Text.Blank
import Rekey.Time.Timestamp

/-!
# Records

The rows a migration reads and writes: users of the old system, mappings from their old to their
new identifiers, users of the new system, and memberships of users in tenants.
-/

namespace Rekey

open Rekey.Text (trim)

/-- A user of the old system. -/
structure LegacyUser where
  legacyId : String
  profile : Option Json.Value
  email : String
  tenantId : Option String
  roles : List String
  createdAt : Timestamp
deriving Repr, BEq, Inhabited

/-- The role of a member whose record names none. -/
def memberRole : String := "USER"

/-- A tenant as it is compared and stored: without surrounding white space, and none when that
leaves nothing. -/
def tenantOf (tenantId : Option String) : Option String :=
  (tenantId.map trim).filter (! ·.isEmpty)

namespace LegacyUser

/-- The tenant that the user belongs to. -/
def tenant (u : LegacyUser) : Option String :=
  tenantOf u.tenantId

/-- The roles that the user gets in the tenant. -/
def grantedRoles (u : LegacyUser) : List String :=
  if u.tenant.isSome && u.roles.isEmpty then [memberRole] else u.roles

/-- The email that identifies the user. -/
def emailKey (u : LegacyUser) : String :=
  trim u.email

/-- The order in which users are migrated: by age, then by identifier. -/
def le (a b : LegacyUser) : Bool :=
  ((Timestamp.cmp a.createdAt b.createdAt).then (compare a.legacyId b.legacyId)).isLE

end LegacyUser

/-- The new identifier of a user of the old system. -/
structure Mapping where
  legacyId : String
  email : String
  newId : String
  migratedAt : Timestamp
  createdAt : Timestamp
deriving DecidableEq, Repr, Inhabited

/-- The order of listings: the latest first, equal times by legacy identifier. -/
def Mapping.le (a b : Mapping) : Bool :=
  ((Timestamp.cmp b.migratedAt a.migratedAt).then (compare a.legacyId b.legacyId)).isLE

/-- A user of the new system. -/
structure TargetUser where
  id : String
  email : String
  profile : Option Json.Value
deriving Repr, BEq, Inhabited

/-- How a membership stands. -/
inductive Standing where
  | active
  | invited
  | disabled
deriving DecidableEq, Repr, Inhabited

namespace Standing

/-- The stored text of a status. -/
def text : Standing → String
  | active => "ACTIVE"
  | invited => "INVITED"
  | disabled => "DISABLED"

/-- All statuses by their stored texts. -/
def named : List (String × Standing) :=
  [active, invited, disabled].map fun s => (s.text, s)

/-- The status with this text. -/
def ofText? (s : String) : Option Standing :=
  named.lookup s

/-- What is said of a text that is no status. -/
def unknownText (s : String) : String :=
  "unknown membership status '" ++ s ++ "'"

end Standing

/-- A user's membership in a tenant. -/
structure Membership where
  userId : String
  tenantId : String
  roles : List String
  invitedBy : Option String
  invitedAt : Timestamp
  status : Standing
deriving DecidableEq, Repr, Inhabited

/-- The membership that a migrated user gets: active from the day of the old account, by nobody's
invitation. -/
def Membership.carriedOver (userId tenantId : String) (u : LegacyUser) : Membership where
  userId := userId
  tenantId := tenantId
  roles := u.grantedRoles
  invitedBy := none
  invitedAt := u.createdAt
  status := .active

/-- A user of the old system who has a mapping. -/
structure MappedUser where
  legacyId : String
  newId : String
  tenantId : Option String
deriving DecidableEq, Repr, Inhabited

/-- An account of the identity provider. The provider may leave out the email. -/
structure Account where
  id : String
  email : Option String
deriving DecidableEq, Repr, Inhabited

/-- The names of the tables that a migration works on. -/
structure Schema where
  legacyUsers : String
  targetUsers : String
  memberships : String
  mappings : String
deriving DecidableEq, Repr, Inhabited

/-- The usual table names. -/
def Schema.standard : Schema where
  legacyUsers := "users"
  targetUsers := "shared_users"
  memberships := "tenant_users"
  mappings := "user_id_mappings"

end Rekey

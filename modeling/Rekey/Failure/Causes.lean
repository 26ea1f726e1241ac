import Rekey.Column.Basic
import Rekey.Json.Reading
import Rekey.Sql.Location

/-!
# What can go wrong with a collaborator

The store, the identity provider and the object storage each fail for causes of their own. Every
cause has one message.
-/

namespace Rekey

/-! ## The store -/

/-- Why a database did not do what it was asked. -/
inductive DatabaseFault where
  /-- the address does not say where the database is -/
  | misconfigured (fault : Sql.LocationFault)
  /-- no connection -/
  | unreachable (fault : LinkFault)
  /-- the server answered with an error -/
  | refused (text : String)
  /-- a null where a value is required, in a column given by its name -/
  | nullIn (column : String)
  /-- a null where a value is required, in the only column of a query -/
  | nullResult
  /-- a query that must answer a row answered none -/
  | noRow
deriving DecidableEq, Repr, Inhabited

/-- What is said of a null that cannot be stored. -/
def unexpectedNullText (column : String) : String :=
  "error occurred while decoding column " ++ column ++
    ": unexpected null; try decoding as an \x60Option\x60"

/-- The message of a fault. -/
def DatabaseFault.message : DatabaseFault → String
  | misconfigured fault => fault.message
  | unreachable fault => "error communicating with database: " ++ fault.message
  | refused text => "error returned from database: " ++ text
  | nullIn column => unexpectedNullText ("\"" ++ column ++ "\"")
  | nullResult => unexpectedNullText "0"
  | noRow => "no rows returned by a query that expected to return at least one row"

/-- The kinds of store errors. -/
inductive StoreFaultKind where
  | database
  | backend
  | invalidData
  | unknownColumn
deriving DecidableEq, Repr

/-- Why the store did not do what it was asked. -/
inductive StoreFault where
  | database (fault : DatabaseFault)
  | backend (text : String)
  | mappingTableMissing
  | targetWriteFailed (email : String)
  | duplicateTargetUser (id : String)
  | membershipWriteFailed (tenantId : String)
  | duplicateMembership (userId tenantId : String)
  | scanCancelled (table : String)
  | rowWriteFailed (locator : Locator) (table : String)
  | invalidData (text : String)
  | rowMissing (locator : Locator) (table : String)
  | keyMissing (locator : Locator) (table key : String)
  | locatorMissing (table : String)
  | unknownColumn (table column : String)
deriving DecidableEq, Repr, Inhabited

namespace StoreFault

/-- The kind of an error. -/
def kind : StoreFault → StoreFaultKind
  | database _ => .database
  | backend _ | mappingTableMissing | targetWriteFailed _ | duplicateTargetUser _
  | membershipWriteFailed _ | duplicateMembership _ _ | scanCancelled _
  | rowWriteFailed _ _ => .backend
  | invalidData _ | rowMissing _ _ | keyMissing _ _ _ | locatorMissing _ => .invalidData
  | unknownColumn _ _ => .unknownColumn

/-- What is said of an error, without its kind. -/
def detail : StoreFault → String
  | database fault => fault.message
  | backend text => text
  | mappingTableMissing => "mapping table does not exist"
  | targetWriteFailed email => "insert into target users failed for " ++ email
  | duplicateTargetUser id => "duplicate key value violates unique constraint: id=" ++ id
  | membershipWriteFailed tenantId => "insert into memberships failed for tenant " ++ tenantId
  | duplicateMembership userId tenantId =>
    "duplicate membership for (" ++ userId ++ ", " ++ tenantId ++ ")"
  | scanCancelled table => "scan of " ++ table ++ " cancelled by statement timeout"
  | rowWriteFailed locator table => "could not update row " ++ locator ++ " of " ++ table
  | invalidData text => text
  | rowMissing locator table => "no row at " ++ locator ++ " in " ++ table
  | keyMissing locator table key =>
    "row " ++ locator ++ " of " ++ table ++ " has no scalar key " ++ key
  | locatorMissing table => "row of " ++ table ++ " has a null locator"
  | unknownColumn table column => table ++ "." ++ column

/-- The message of an error. -/
def message (e : StoreFault) : String :=
  match e.kind with
  | .database => "database error: " ++ e.detail
  | .backend => "backend error: " ++ e.detail
  | .invalidData => "invalid data: " ++ e.detail
  | .unknownColumn => "unknown column " ++ e.detail

end StoreFault

/-! ## The identity provider -/

/-- Why a request was not answered. -/
inductive RequestFault where
  /-- the address or the credentials cannot be put into a request -/
  | unusable
  /-- requests cannot be sent to addresses like this one -/
  | unusableAddress (url : String)
  /-- the request was sent in vain -/
  | unanswered (url : String)
  | stated (text : String)
deriving DecidableEq, Repr, Inhabited

/-- The message of a fault. -/
def RequestFault.message : RequestFault → String
  | unusable => "builder error"
  | unusableAddress url => "builder error for url (" ++ url ++ ")"
  | unanswered url => "error sending request for url (" ++ url ++ ")"
  | stated text => text

/-- Why an answer is of no use. -/
inductive AnswerFault where
  | noEmail
  | undecodable
  | emptyId
  | stated (text : String)
deriving DecidableEq, Repr, Inhabited

/-- The message of a fault. -/
def AnswerFault.message : AnswerFault → String
  | noEmail => "legacy record has no email"
  | undecodable => "error decoding response body"
  | emptyId => "created identity has an empty id"
  | stated text => text

/-- Why the identity provider did not give an identity. -/
inductive ProviderFault where
  | notFound
  | request (fault : RequestFault)
  | rejected (status : Nat) (text : String)
  | invalidResponse (fault : AnswerFault)
deriving DecidableEq, Repr, Inhabited

/-- The message of an error. -/
def ProviderFault.message : ProviderFault → String
  | notFound => "identity not found"
  | request fault => "request failed: " ++ fault.message
  | rejected status text =>
    "provider rejected request with status " ++ toString status ++ ": " ++ text
  | invalidResponse fault => "invalid provider response: " ++ fault.message

/-! ## The object storage -/

/-- Why the object storage did not do what it was asked. -/
inductive ObjectFault where
  | notFound (path : String)
  | notImplemented
  | other (text : String)
deriving DecidableEq, Repr, Inhabited

/-- The message of an error. -/
def ObjectFault.message : ObjectFault → String
  | notFound path =>
    "Object at location " ++ path ++ " not found: No data in memory found. Location: " ++ path
  | notImplemented => "Operation not yet implemented."
  | other text => text

end Rekey

import Rekey.Failure.Causes

/-!
# Failures of a migration

A failure is fatal when it lies in the configuration, the files or the texts given to the program,
so that trying again cannot help.
-/

namespace Rekey

/-- What is wrong with the configuration. -/
inductive ConfigFault where
  | storeMissing
  | notInitialized
  | providerMissing
  | storageMissing
  | endpointMissing
  | apiKeyMissing
  | storageUrlMissing
  | clientUnusable (reason : String)
  | bucketMissing (url : String)
  | bucketUnusable (bucket reason : String)
  | storageUrlUnsupported (url : String)
  | directoryUnusable (directory reason : String)
  | databaseUnusable (cause : StoreFault)
  | descriptorIncomplete (descriptor : Descriptor)
  | descriptorFileUnreadable (path reason : String)
  | stated (text : String)
deriving DecidableEq, Repr, Inhabited

/-- The message of a fault. -/
def ConfigFault.message : ConfigFault → String
  | storeMissing => "a relational store is required"
  | notInitialized => "orchestrator used before initialize()"
  | providerMissing => "no identity provider configured"
  | storageMissing => "no object storage configured"
  | endpointMissing => "identity provider endpoint is not configured"
  | apiKeyMissing => "identity provider API key is not configured"
  | storageUrlMissing => "relocate-files needs --storage-url or STORAGE_URL"
  | clientUnusable reason => "failed to build identity API client: " ++ reason
  | bucketMissing url => "storage url '" ++ url ++ "' has no bucket"
  | bucketUnusable bucket reason => "cannot configure S3 bucket " ++ bucket ++ ": " ++ reason
  | storageUrlUnsupported url =>
    "unsupported storage url '" ++ url ++ "' (expected s3://, file:// or memory://)"
  | directoryUnusable directory reason =>
    "cannot open storage directory " ++ directory ++ ": " ++ reason
  | databaseUnusable cause => "cannot connect to database: " ++ cause.message
  | descriptorIncomplete descriptor =>
    "descriptor " ++ descriptor.fullText ++ " needs a table and a column"
  | descriptorFileUnreadable path reason =>
    "cannot read descriptor file " ++ path ++ ": " ++ reason
  | stated text => text

/-- What was looked for in vain. -/
inductive Absent where
  | mapping (identifier : String)
  | legacyUser (legacyId : String)
  | stated (text : String)
deriving DecidableEq, Repr, Inhabited

/-- How the absent thing is named. -/
def Absent.message : Absent → String
  | mapping identifier => "no mapping for '" ++ identifier ++ "'"
  | legacyUser legacyId => "legacy user '" ++ legacyId ++ "'"
  | stated text => text

/-- The kinds of failures. -/
inductive FailureKind where
  | config
  | resolution
  | transaction
  | rowUpdate
  | file
  | notFound
  | notLegacyFormat
  | store
  | storage
  | io
  | json
deriving DecidableEq, Repr

/-- Why a migration, or a part of it, did not succeed. -/
inductive Failure where
  | config (fault : ConfigFault)
  | resolution (email : String) (cause : ProviderFault)
  | transaction (legacyId : String) (cause : StoreFault)
  | rowUpdate (table column : String) (locator : Locator) (reason : String)
  | file (path reason : String)
  | notFound (what : Absent)
  | notLegacyFormat (id : String)
  | store (cause : StoreFault)
  | storage (cause : ObjectFault)
  | io (text : String)
  | json (problem : Json.Problem)
deriving DecidableEq, Repr, Inhabited

namespace Failure

/-- The kind of a failure. -/
def kind : Failure → FailureKind
  | config _ => .config
  | resolution _ _ => .resolution
  | transaction _ _ => .transaction
  | rowUpdate _ _ _ _ => .rowUpdate
  | file _ _ => .file
  | notFound _ => .notFound
  | notLegacyFormat _ => .notLegacyFormat
  | store _ => .store
  | storage _ => .storage
  | io _ => .io
  | json _ => .json

/-- The message of a failure, with the message of its cause. -/
def message : Failure → String
  | config fault => "configuration error: " ++ fault.message
  | resolution email cause =>
    "identity resolution failed for " ++ email ++ ": " ++ cause.message
  | transaction legacyId cause =>
    "transaction for legacy user " ++ legacyId ++ " rolled back: " ++ cause.message
  | rowUpdate table column locator reason =>
    "update of " ++ table ++ "." ++ column ++ " at " ++ locator ++ " failed: " ++ reason
  | file path reason => "file operation on " ++ path ++ " failed: " ++ reason
  | notFound what => "not found: " ++ what.message
  | notLegacyFormat id => "not a legacy identifier: " ++ id
  | store cause => "store error: " ++ cause.message
  | storage cause => "object storage error: " ++ cause.message
  | io text => "io error: " ++ text
  | json problem => "json error: " ++ problem.detail.getD "malformed text"

/-- Trying again cannot help. -/
def isFatal (f : Failure) : Bool :=
  match f.kind with
  | .config | .io | .json => true
  | _ => false

end Failure

end Rekey

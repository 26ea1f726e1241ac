import Rekey.CommandLine.Grammar
import Rekey.File.Layout
import Rekey.Identity.Settings
import Rekey.Report.Rendering
import Rekey.Text.Count
import Rekey.Text.Quoted

/-!
# Command-line settings

The commands of the program and the settings they run with. A setting comes from its option, else
from the environment where it has a variable there, else from its usual value.
-/

namespace Rekey.CommandLine

/-- What the program is asked to do. -/
inductive Command where
  | migrate (user : Option String)
  | lookup (identifier : String)
  | list
  | replaceKeys (descriptors : String) (dryRun : Bool)
  | relocateFiles (dryRun : Bool)
deriving DecidableEq, Repr, Inhabited

namespace Command

/-- Nothing shall be changed. -/
def dryRun : Command → Bool
  | replaceKeys _ dryRun | relocateFiles dryRun => dryRun
  | _ => false

/-- The command needs the identity provider. -/
def needsProvider : Command → Bool
  | migrate _ => true
  | _ => false

/-- The command needs the object storage. -/
def needsStorage : Command → Bool
  | relocateFiles _ => true
  | _ => false

/-- The full text of a command. -/
def text : Command → String
  | migrate user => "Migrate \x7b user: " ++ Text.quotedOption user ++ " \x7d"
  | lookup identifier => "Lookup \x7b identifier: " ++ Text.quoted identifier ++ " \x7d"
  | list => "List"
  | replaceKeys descriptors dryRun =>
    "RewriteKeys \x7b descriptors: " ++ Text.quoted descriptors ++ ", dry_run: " ++
      truthText dryRun ++ " \x7d"
  | relocateFiles dryRun => "RelocateFiles \x7b dry_run: " ++ truthText dryRun ++ " \x7d"

/-- What a campaign is asked to do for a command; the descriptors of a file are read before. -/
def operation (descriptors : List Descriptor) : Command → Operation
  | migrate none => .migrateUsers
  | migrate (some user) => .migrateById user
  | lookup identifier => .lookup identifier
  | list => .list
  | replaceKeys _ _ => .replaceKeys descriptors
  | relocateFiles _ => .relocateFiles

end Command

/-- The settings of one run of the program. -/
structure Settings where
  databaseUrl : String
  maxConnections : Nat
  provider : ProviderSettings
  storageUrl : Option String
  tables : Schema
  layout : Layout
  format : PrintFormat
  command : Command
deriving DecidableEq, Repr, Inhabited

/-- Nothing shall be changed. -/
def Settings.dryRun (s : Settings) : Bool := s.command.dryRun

/-! ## Values -/

/-- A number of connections: at most 32 bits, where minus zero is zero too. -/
def readConnections (s : String) : Option Nat :=
  let zeros (cs : List Char) : Bool := !cs.isEmpty && cs.all (· == '0')
  match s.toList with
  | '-' :: r => if zeros r then some 0 else none
  | cs => (Text.readCount (UInt32.size - 1) cs).toOption

/-- A number of seconds: at most 64 bits. -/
def readSeconds (s : String) : Option Nat :=
  (Text.readCount (UInt64.size - 1) s.toList).toOption

/-- Any text will do. -/
def anyText (_ : String) : Option UsageError := none

/-- One of the given names. -/
def oneOf (names : List String) (s : String) : Option UsageError :=
  if names.contains s then none else some .invalidValue

/-- A number that a reader takes. -/
def numberBy (read : String → Option Nat) (s : String) : Option UsageError :=
  if (read s).isSome then none else some .valueValidation

/-- A path must not be empty. -/
def pathText (s : String) : Option UsageError :=
  if s.isEmpty then some .invalidValue else none

/-! ## Grammars -/

/-- The names of the commands, and the one that explains them. -/
def commandNames : List String :=
  ["migrate", "lookup", "list", "rewrite-keys", "relocate-files", "help"]

/-- What may come before the command. -/
def mainGrammar : Grammar where
  options := [
    ⟨"database-url", anyText⟩,
    ⟨"identity-provider", oneOf (IdentityBackend.named.map Prod.fst)⟩,
    ⟨"identity-url", anyText⟩,
    ⟨"identity-api-key", anyText⟩,
    ⟨"storage-url", anyText⟩,
    ⟨"legacy-users-table", anyText⟩,
    ⟨"target-users-table", anyText⟩,
    ⟨"memberships-table", anyText⟩,
    ⟨"mapping-table", anyText⟩,
    ⟨"file-name", anyText⟩,
    ⟨"admin-segment", anyText⟩,
    ⟨"backup-segment", anyText⟩,
    ⟨"users-segment", anyText⟩,
    ⟨"format", oneOf (PrintFormat.named.map Prod.fst)⟩,
    ⟨"max-connections", numberBy readConnections⟩,
    ⟨"timeout", numberBy readSeconds⟩]
  flags := []
  positionals := []
  subcommands := commandNames
  hasVersion := true

/-- What may come after a command. -/
def commandGrammar (name : String) : Grammar where
  options :=
    if name == "migrate" then [⟨"user", anyText⟩]
    else if name == "rewrite-keys" then [⟨"descriptors", pathText⟩]
    else []
  flags := if name == "rewrite-keys" || name == "relocate-files" then ["dry-run"] else []
  positionals := if name == "lookup" then ["identifier"] else []
  subcommands := []
  hasVersion := false

/-- The options that can also be given in the environment. -/
def environmentNames : List (String × String) :=
  [("database-url", "DATABASE_URL"), ("identity-url", "IDENTITY_API_URL"),
    ("identity-api-key", "IDENTITY_API_KEY"), ("storage-url", "STORAGE_URL")]

/-! ## Reading settings -/

/-- The command with this name and the values given to it. -/
def commandOf (name : String) (given : Given) : Except UsageError Command :=
  let dryRun := (given.lookup "dry-run").isSome
  if name == "migrate" then .ok (.migrate (given.lookup "user"))
  else if name == "lookup" then
    match given.lookup "identifier" with
    | some identifier => .ok (.lookup identifier)
    | none => .error .missingRequiredArgument
  else if name == "rewrite-keys" then
    match given.lookup "descriptors" with
    | some path => .ok (.replaceKeys path dryRun)
    | none => .error .missingRequiredArgument
  else if name == "relocate-files" then .ok (.relocateFiles dryRun)
  else .ok .list

/-- Reads a command and its words. -/
def readCommand (name : String) (words : List String) : Except UsageError Command :=
  let g := commandGrammar name
  match g.parse words with
  | .error e => .error e
  | .ok parsed =>
    match g.settle parsed.progress with
    | .error e => .error e
    | .ok p => commandOf name p.given

/-- Adds what the environment gives to options that were not given. -/
def addEnvironment (env : List (String × String)) (given : Given) : Given :=
  environmentNames.foldl (fun given (name, var) =>
    match given.lookup name, env.lookup var with
    | none, some value => given ++ [(name, value)]
    | _, _ => given) given

/-- The usual number of connections. -/
def standardConnections : Nat := 2

/-- The settings that given values and a command make. -/
def settingsOf (given : Given) (databaseUrl : String) (command : Command) : Settings :=
  let value (name usual : String) : String := (given.lookup name).getD usual
  let tables := Schema.standard
  let layout := Layout.standard
  { databaseUrl := databaseUrl
    maxConnections :=
      ((given.lookup "max-connections").bind readConnections).getD standardConnections
    provider := {
      kind := ((given.lookup "identity-provider").bind (IdentityBackend.named.lookup ·)).getD .rest
      endpoint := given.lookup "identity-url"
      apiKey := given.lookup "identity-api-key"
      timeoutMillis :=
        ((given.lookup "timeout").bind readSeconds).getD ProviderSettings.standardTimeout * 1000 }
    storageUrl := (given.lookup "storage-url").filter (!Text.isBlankText ·)
    tables := {
      legacyUsers := value "legacy-users-table" tables.legacyUsers
      targetUsers := value "target-users-table" tables.targetUsers
      memberships := value "memberships-table" tables.memberships
      mappings := value "mapping-table" tables.mappings }
    layout := {
      fileName := value "file-name" layout.fileName
      adminSegment := value "admin-segment" layout.adminSegment
      backupSegment := value "backup-segment" layout.backupSegment
      usersSegment := value "users-segment" layout.usersSegment }
    format := ((given.lookup "format").bind (PrintFormat.named.lookup ·)).getD .table
    command := command }

/-- Joins what came before a command with the command. -/
def complete (given : Given) : Option Command → Except UsageError Settings
  | none => if given.isEmpty then .error .nothingGiven else .error .missingSubcommand
  | some command =>
    match given.lookup "database-url" with
    | none => .error .missingRequiredArgument
    | some url => .ok (settingsOf given url command)

/-- Reads a command that may be missing. -/
def readCommand? : Option (String × List String) → Except UsageError (Option Command)
  | none => .ok none
  | some (name, words) => (readCommand name words).map some

/-- The settings of a command line without the name of the program, and of an environment. What
comes after the command is looked at before what came before it. -/
def Settings.read (env : List (String × String)) (words : List String) :
    Except UsageError Settings :=
  match mainGrammar.parse words with
  | .error e => .error e
  | .ok parsed =>
    match readCommand? parsed.subcommand with
    | .error e => .error e
    | .ok command =>
      match mainGrammar.settle parsed.progress with
      | .error e => .error e
      | .ok p => complete (addEnvironment env p.given) command

end Rekey.CommandLine

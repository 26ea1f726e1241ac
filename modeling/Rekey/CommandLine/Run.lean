import Rekey.Column.File
import Rekey.CommandLine.Settings
import Rekey.File.StorageUrl
import Rekey.Identity.Rest
import Rekey.Memory.Collaborators
import Rekey.Migration.Part
import Rekey.Sql.Playback
import Rekey.Sql.Store

/-!
# Running a command

A command connects to its database, gets ready the collaborators it needs and the table of
mappings, and then does one operation of a campaign. What is wrong with the settings comes to light
in this order, before anything is done.
-/

namespace Rekey.CommandLine

/-- What a command finds around it: the network, a database and a server of identities on it, what
is wrong with a client for requests and with storages of objects, files, and whether a stop is
requested. -/
structure Host where
  link : Link
  clientFault : Option String
  storageFaults : StorageFaults
  refusal : Option String
  database : Sql.Database Sql.Playback
  server : Network.ScriptedServer
  provider : MemoryProvider
  objects : MemoryObjects
  fileContent : String → Except String ByteArray
  stopRequested : Bool

namespace Host

/-- The database of a host. -/
def databasePart : Part Host (Sql.Database Sql.Playback) :=
  ⟨Host.database, fun d h => { h with database := d }⟩

/-- The server of identities of a host. -/
def serverPart : Part Host Network.ScriptedServer :=
  ⟨Host.server, fun s h => { h with server := s }⟩

/-- The identities that a host keeps itself. -/
def providerPart : Part Host MemoryProvider :=
  ⟨Host.provider, fun p h => { h with provider := p }⟩

/-- The objects of a host. -/
def objectsPart : Part Host MemoryObjects :=
  ⟨Host.objects, fun o h => { h with objects := o }⟩

/-- A host without a network, in which nothing stands. -/
def isolated (fileContent : String → Except String ByteArray) : Host where
  link := .down
  clientFault := none
  storageFaults := .ofDirectories fun _ => false
  refusal := none
  database := .fresh ⟨[], []⟩
  server := ⟨.down, [], []⟩
  provider := .empty
  objects := .empty
  fileContent := fileContent
  stopRequested := false

end Host

/-- An object storage that cannot be reached. -/
def unreachableStorage : ObjectStorage Host where
  contains _ := pure (.error (.other "no connection to the bucket"))
  copy _ _ := pure (.error (.other "no connection to the bucket"))
  move _ _ := pure (.error (.other "no connection to the bucket"))

/-- Connects to the database of the settings. -/
def connectStore (s : Settings) : Action Host (Except Failure (Store Host Unit)) := do
  let host := (← get).world
  match Sql.connect host.link host.refusal s.databaseUrl with
  | .error e => pure (.error (.config (.databaseUnusable e)))
  | .ok _ =>
    tell (.databaseConnected s.maxConnections)
    pure (.ok (Host.databasePart.store (Sql.store Sql.Playback.send s.tables)))

/-- The provider of a choice. -/
def providerOf : ProviderChoice → Provider Host
  | .memory => Host.providerPart.provider MemoryProvider.collaborator
  | .rest endpoint apiKey =>
    Host.serverPart.provider (Rest.provider Network.ScriptedServer.send endpoint apiKey)

/-- The object storage at a location. -/
def storageOf : StorageLocation → ObjectStorage Host
  | .bucket _ => unreachableStorage
  | _ => Host.objectsPart.storage MemoryObjects.collaborator

/-- What stands behind the settings of a command: the provider of each choice and the object storage
at each location. -/
structure Services where
  provider : ProviderChoice → Provider Host
  storage : StorageLocation → ObjectStorage Host

/-- The services that a host offers. -/
def Services.ofHost : Services := ⟨providerOf, storageOf⟩

/-- Gets the identity provider ready if the command needs it. -/
def prepareProvider (services : Services) (s : Settings) :
    Action Host (Except Failure (Option (Provider Host))) :=
  if s.command.needsProvider then do
    let host := (← get).world
    match s.provider.choose host.clientFault with
    | .error f => pure (.error f)
    | .ok choice =>
      tell (.providerReady choice.name)
      pure (.ok (some (services.provider choice)))
  else pure (.ok none)

/-- Gets the object storage ready if the command needs it. -/
def prepareStorage (services : Services) (s : Settings) :
    Action Host (Except Failure (Option (ObjectStorage Host))) :=
  if s.command.needsStorage then
    match s.storageUrl with
    | none => pure (.error (.config .storageUrlMissing))
    | some url => do
      let host := (← get).world
      match StorageLocation.ofUrl host.storageFaults url with
      | .error f => pure (.error f)
      | .ok location =>
        tell (.storageReady url)
        pure (.ok (some (services.storage location)))
  else pure (.ok none)

/-- The campaign of a command with the collaborators it needs, set up. -/
def prepare (services : Services) (s : Settings) :
    Action Host (Except Failure (Campaign Host Unit)) := do
  match ← connectStore s with
  | .error f => pure (.error f)
  | .ok store =>
    match ← prepareProvider services s with
    | .error f => pure (.error f)
    | .ok provider =>
      match ← prepareStorage services s with
      | .error f => pure (.error f)
      | .ok storage =>
        let stopRequested : StateM Host Bool := do pure (← get).stopRequested
        let helpers := ⟨some store, provider, storage, stopRequested⟩
        match Campaign.assemble helpers s.layout s.dryRun with
        | .error f => pure (.error f)
        | .ok c =>
          match ← c.setUp with
          | (.error f, _) => pure (.error f)
          | (.ok _, c) => pure (.ok c)

/-- The descriptors that a command works on. -/
def readDescriptors (command : Command) : Action Host (Except Failure (List Descriptor)) :=
  match command with
  | .replaceKeys path _ => do
    let host := (← get).world
    pure (Descriptor.loadList path (host.fileContent path))
  | _ => pure (.ok [])

/-- Runs a command with the given services and answers what it prints. -/
def runWith (services : Services) (s : Settings) : Action Host (Except Failure String) := do
  match ← prepare services s with
  | .error f => pure (.error f)
  | .ok c =>
    match ← readDescriptors s.command with
    | .error f => pure (.error f)
    | .ok ds =>
      let (r, _) ← c.perform (s.command.operation ds)
      pure (r.map (·.render s.format))

/-- Runs a command with the services of its host. -/
def run (s : Settings) : Action Host (Except Failure String) :=
  runWith .ofHost s

/-- What became of a command line. -/
inductive Ending where
  | printed (text : String)
  | failed (f : Failure)
  | misused (e : UsageError)
deriving Repr, Inhabited

/-- Runs a command line without the name of the program. -/
def runLine (env : List (String × String)) (words : List String) (host : Host) : Ending × Host :=
  match Settings.read env words with
  | .error e => (.misused e, host)
  | .ok s =>
    match run s (.start host) with
    | (.ok text, r) => (.printed text, r.world)
    | (.error f, r) => (.failed f, r.world)

end Rekey.CommandLine

import Rekey.Memory.Collaborators
import Rekey.Memory.Tables
import Rekey.Migration.Part

/-!
# Rehearsals

A rehearsal runs a migration over collaborators in memory. Between the migration and the
collaborators stands an interference, which may make a step fail before it does anything, sees
every success, and decides when a stop is requested. A clock moves before every commit.
-/

namespace Rekey

/-- The steps that an interference can see. -/
inductive Point where
  | prepareMappings
  | beginTransaction
  | latestMapping
  | mappingsByAge
  | legacyUsersByAge
  | legacyUserById
  | mappedUsers
  | hasTargetUser
  | hasMembership
  | commit
  | rollback
  | scan
  | update
  | objectExists
  | objectCopy
  | objectRename
deriving DecidableEq, Repr, Inhabited

namespace Point

/-- All steps. -/
def all : List Point :=
  [prepareMappings, beginTransaction, latestMapping, mappingsByAge, legacyUsersByAge,
    legacyUserById, mappedUsers, hasTargetUser, hasMembership, commit, rollback, scan, update,
    objectExists, objectCopy, objectRename]

/-- The name of a step. -/
def text : Point → String
  | prepareMappings => "ensure_mapping_table"
  | beginTransaction => "begin"
  | latestMapping => "find_mapping"
  | mappingsByAge => "list_mappings"
  | legacyUsersByAge => "list_legacy_users"
  | legacyUserById => "get_legacy_user"
  | mappedUsers => "list_migrated_users"
  | hasTargetUser => "target_user_exists"
  | hasMembership => "membership_exists"
  | commit => "commit"
  | rollback => "rollback"
  | scan => "scan"
  | update => "update"
  | objectExists => "exists"
  | objectCopy => "copy"
  | objectRename => "rename"

/-- The step with this name. -/
def ofText? (s : String) : Option Point :=
  all.find? (·.text == s)

end Point

/-- A clock and how many milliseconds it moves before a commit. -/
structure Clock where
  now : Timestamp
  tick : Int
deriving DecidableEq, Repr, Inhabited

/-- The clock at the next commit. -/
def Clock.advance (c : Clock) : Clock :=
  { c with now := c.now.addMillis c.tick }

/-- What comes between a migration and its collaborators. `φ` is whatever it keeps in mind. -/
structure Interference (φ : Type) where
  /-- whether a step, which concerns the given path if it concerns one, fails now -/
  fails (point : Point) (path : Option String) : StateM φ Bool
  /-- a step has succeeded -/
  succeeded (point : Point) : StateM φ Unit
  /-- whether a stop is requested now -/
  stopRequested : StateM φ Bool

/-- Everything that a rehearsal keeps. -/
structure World (φ : Type) where
  store : MemoryTables
  provider : MemoryProvider
  objects : MemoryObjects
  clock : Clock
  mind : φ

namespace Rehearsal

variable {φ ε α : Type}

/-- An action of the interference. -/
def ask (act : StateM φ α) : StateM (World φ) α := fun w =>
  let (a, mind) := act w.mind
  (a, { w with mind := mind })

/-- A step that the interference may make fail with `e`. -/
def hooked (i : Interference φ) (point : Point) (path : Option String) (e : ε)
    (act : StateM (World φ) (Except ε α)) : StateM (World φ) (Except ε α) := do
  if ← ask (i.fails point path) then pure (.error e) else act

/-- A step of the store that the interference may make fail. -/
def guarded (i : Interference φ) (point : Point) (act : StateM (World φ) (Except StoreFault α)) :
    StateM (World φ) (Except StoreFault α) :=
  hooked i point none (.backend ("injected " ++ point.text)) act

/-- A step whose success the interference sees. -/
def watched (i : Interference φ) (point : Point) (act : StateM (World φ) (Except ε α)) :
    StateM (World φ) (Except ε α) := do
  match ← act with
  | .error e => pure (.error e)
  | .ok a =>
    ask (i.succeeded point)
    pure (.ok a)

/-- A question to the store. -/
def query (f : MemoryTables → Except StoreFault α) : StateM (World φ) (Except StoreFault α) :=
  fun w => (f w.store, w)

/-- A change of the store, which stays as it is when the change fails. -/
def change (f : MemoryTables → Except StoreFault MemoryTables) :
    StateM (World φ) (Except StoreFault Unit) := fun w =>
  match f w.store with
  | .error e => (.error e, w)
  | .ok s => (.ok (), { w with store := s })

/-- Moves the clock and applies the writes of a transaction, during which the clock stands still. -/
def commitNow (t : Transaction) : StateM (World φ) (Except StoreFault Unit) := fun w =>
  let clock := w.clock.advance
  (.ok (), { w with clock := clock, store := w.store.commit (fun _ => clock.now) t })

/-- The store of a rehearsal. -/
def store (i : Interference φ) : Store (World φ) Transaction where
  prepareMappings :=
    guarded i .prepareMappings (change fun s => .ok { s with mappingsReady := true })
  latestMapping identifier :=
    guarded i .latestMapping (query fun s => .ok (s.latestMapping identifier))
  mappingsByAge := guarded i .mappingsByAge (query fun s => .ok s.mappingsByAge)
  legacyUsersByAge := guarded i .legacyUsersByAge (query fun s => .ok s.legacyUsersByAge)
  legacyUserById legacyId :=
    guarded i .legacyUserById (query fun s => .ok (s.legacyUserById legacyId))
  mappedUsers := guarded i .mappedUsers (query fun s => .ok s.mappedUsers)
  scan d := watched i .scan (query (·.scan d))
  update d locator cell := watched i .update (change (·.update d locator cell))
  beginTransaction := guarded i .beginTransaction (pure (.ok []))
  putMapping t legacyId email newId := query (·.putMapping t legacyId email newId)
  hasTargetUser t id :=
    guarded i .hasTargetUser (query fun s => .ok (s.hasTargetUser t id))
  addTargetUser t u := query (·.addTargetUser t u)
  hasMembership t userId tenantId :=
    guarded i .hasMembership (query fun s => .ok (s.hasMembership t ⟨userId, tenantId⟩))
  addMembership t m := query (·.addMembership t m)
  commit t := watched i .commit (guarded i .commit (commitNow t))
  rollback _ := watched i .rollback (guarded i .rollback (pure (.ok ())))

/-- The identity provider of a rehearsal. -/
def provider : Provider (World φ) :=
  Part.provider ⟨World.provider, fun p w => { w with provider := p }⟩ MemoryProvider.collaborator

/-- An action on the objects alone. -/
def onObjects (act : StateM MemoryObjects α) : StateM (World φ) α :=
  Part.lift ⟨World.objects, fun o w => { w with objects := o }⟩ act

/-- A step of the object storage at a path. -/
def objectStep (i : Interference φ) (point : Point) (path : String)
    (act : StateM (World φ) (Except ObjectFault α)) : StateM (World φ) (Except ObjectFault α) :=
  watched i point (hooked i point (some path) .notImplemented act)

/-- The object storage of a rehearsal. -/
def storage (i : Interference φ) : ObjectStorage (World φ) where
  contains path :=
    objectStep i .objectExists path (onObjects (MemoryObjects.collaborator.contains path))
  copy target source :=
    objectStep i .objectCopy target (onObjects (MemoryObjects.collaborator.copy target source))
  move target source :=
    objectStep i .objectRename target (onObjects (MemoryObjects.collaborator.move target source))

/-- Whether a stop of the rehearsal is requested. -/
def stopRequested (i : Interference φ) : StateM (World φ) Bool :=
  ask i.stopRequested

end Rehearsal

end Rekey

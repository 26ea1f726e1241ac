import Rekey.CommandLine.Run
import Rekey.Proofs.Campaign.Failing
import Rekey.Proofs.Sql.Sending

/-!
# Commands fail early or not at all

A failure that lies in the configuration, in a file or in a text comes to light before a command has
done more than to prepare the table of mappings. A command on many users, rows or files that has
listed them succeeds, whatever becomes of the single ones; so it fails only while the mappings are
prepared or on the list itself.
-/

namespace Rekey

namespace CommandLine

variable {σ τ : Type}

namespace Command

/-- The commands on many users, rows or files. -/
def isBatch : Command → Bool
  | migrate none | replaceKeys _ _ | relocateFiles _ => true
  | _ => false

/-- The fault with which the list fails that a batch begins with. -/
def listFault (store : Store σ τ) : Command → StateM σ (Option StoreFault)
  | replaceKeys _ _ => faultIn store.mappingsByAge
  | relocateFiles _ => faultIn store.mappedUsers
  | _ => faultIn store.legacyUsersByAge

/-- The statement that lists what a batch works on. -/
def listStatement (tables : Schema) : Command → Sql.Statement
  | replaceKeys _ _ => Sql.mappingsByAgeStatement tables.mappings
  | relocateFiles _ => Sql.mappedUsersStatement tables.legacyUsers tables.mappings
  | _ => Sql.legacyUsersByAgeStatement tables.legacyUsers

end Command

/-- A campaign that is set up and has what a command needs. -/
structure Fits (cmd : Command) (c : Campaign σ τ) : Prop where
  ready : c.ready = true
  provider : cmd.needsProvider = true → ∃ p, c.provider = some p
  storage : cmd.needsStorage = true → ∃ s, c.storage = some s

variable {cmd : Command} {c : Campaign σ τ}

theorem Fits.provider? (h : Fits cmd c) (hneeds : cmd.needsProvider = true) :
    ∃ p, c.provider? = .ok p := by
  obtain ⟨p, hp⟩ := h.provider hneeds
  exact ⟨p, by simp [Campaign.provider?, h.ready, hp]⟩

theorem Fits.storage? (h : Fits cmd c) (hneeds : cmd.needsStorage = true) :
    ∃ s, c.storage? = .ok s := by
  obtain ⟨s, hs⟩ := h.storage hneeds
  exact ⟨s, by simp [Campaign.storage?, h.ready, hs]⟩

theorem Fits.migrateUsers (h : Fits cmd c) (hneeds : cmd.needsProvider = true) :
    FailsOnList c.store.legacyUsersByAge c.migrateUsers := by
  obtain ⟨p, hp⟩ := h.provider? hneeds
  rw [Campaign.migrateUsers, hp]
  exact migrateUsers_failsOnList c.store p c.stopRequested

theorem Fits.migrateById (h : Fits cmd c) (hneeds : cmd.needsProvider = true)
    (legacyId : String) : NeverFatal (c.migrateById legacyId) := by
  obtain ⟨p, hp⟩ := h.provider? hneeds
  rw [Campaign.migrateById, hp]
  exact migrateById_neverFatal c.store p legacyId

theorem Fits.lookup (h : Fits cmd c) (identifier : String) :
    NeverFatal (c.lookup identifier) := by
  rw [Campaign.lookup, if_pos h.ready]
  refine .bind fun found => ?_
  split
  · exact .error rfl
  · exact .error rfl
  · exact .ok

theorem Fits.list (h : Fits cmd c) : NeverFatal c.list := by
  rw [Campaign.list, if_pos h.ready]
  refine .bind fun listed => ?_
  split
  · exact .error rfl
  · exact .ok

theorem Fits.relocateFiles (h : Fits cmd c) (hneeds : cmd.needsStorage = true) :
    FailsOnList c.store.mappedUsers c.relocateFiles := by
  obtain ⟨s, hs⟩ := h.storage? hneeds
  rw [Campaign.relocateFiles, hs]
  exact relocateFiles_failsOnList c.store s c.layout c.dryRun c.stopRequested

/-- No operation of a command is fatal. -/
theorem Fits.not_fatal (h : Fits cmd c) (ds : List Descriptor) (r : Run σ) :
    NotFatal (c.perform (cmd.operation ds) r).1.1 := by
  cases cmd with
  | migrate user =>
    cases user with
    | none => exact ((h.migrateUsers rfl).neverFatal r).map _
    | some user => exact (h.migrateById rfl user r).map _
  | lookup identifier => exact (h.lookup identifier r).map _
  | list => exact (h.list r).map _
  | replaceKeys path dryRun =>
    exact ((Campaign.replaceKeys_failsOnList h.ready ds).neverFatal r).map _
  | relocateFiles dryRun => exact ((h.relocateFiles rfl).neverFatal r).map _

/-- How a batch ends: as its list fails, or well. -/
theorem Fits.batch (h : Fits cmd c) (hbatch : cmd.isBatch = true) (ds : List Descriptor)
    (r : Run σ) :
    match cmd.listFault c.store r.world with
    | (some e, w) => c.perform (cmd.operation ds) r = ((.error (.store e), c), ⟨w, r.journal⟩)
    | (none, _) => ∃ a, (c.perform (cmd.operation ds) r).1.1 = .ok a := by
  cases cmd with
  | migrate user =>
    cases user with
    | none => exact (h.migrateUsers rfl).wrapped _ c r
    | some user => contradiction
  | lookup identifier => contradiction
  | list => contradiction
  | replaceKeys path dryRun => exact (Campaign.replaceKeys_failsOnList h.ready ds).wrapped _ c r
  | relocateFiles dryRun => exact (h.relocateFiles rfl).wrapped _ c r

/-! ## Getting ready -/

open Sql (ensureMappings preparation Sent)

/-- The store of a command. -/
def hostStore (s : Settings) : Store Host Unit :=
  Host.databasePart.store (Sql.store Sql.Playback.send s.tables)

/-- How getting ready may end, for all services alike: something is wrong with the settings and
nothing was done, or the mappings cannot be prepared, or there is a campaign for the command. -/
inductive Preparing (s : Settings) (host : Host) :
    (Services → Except Failure (Campaign Host Unit)) → Host → Prop
  | refused {f : Failure} (h : f.isFatal = true) : Preparing s host (fun _ => .error f) host
  | unprepared {e : StoreFault} {db : Sql.Database Sql.Playback}
      (h : ensureMappings Sql.Playback.send s.tables.mappings host.database = (.error e, db)) :
      Preparing s host (fun _ => .error (.store e)) { host with database := db }
  | ready {c : Services → Campaign Host Unit} {db : Sql.Database Sql.Playback}
      (h : ensureMappings Sql.Playback.send s.tables.mappings host.database = (.ok (), db))
      (hfits : ∀ services, Fits s.command (c services))
      (hstore : ∀ services, (c services).store = hostStore s) :
      Preparing s host (fun services => .ok (c services)) { host with database := db }

variable {s : Settings} {r : Run Host}

theorem connectStore_cases (s : Settings) (r : Run Host) :
    (∃ f, f.isFatal = true ∧ connectStore s r = (.error f, r)) ∨
      connectStore s r =
        (.ok (hostStore s), ⟨r.world, .databaseConnected s.maxConnections :: r.journal⟩) := by
  unfold connectStore
  rw [get_bind]
  cases Sql.connect r.world.link r.world.refusal s.databaseUrl with
  | error e => exact .inl ⟨_, rfl, rfl⟩
  | ok _ => exact .inr rfl

theorem choose_fatal {p : ProviderSettings} {clientFault : Option String} {f : Failure}
    (h : p.choose clientFault = .error f) : f.isFatal = true := by
  unfold ProviderSettings.choose at h
  split at h
  · contradiction
  split at h
  · obtain rfl := Except.error.inj h
    rfl
  split at h
  · obtain rfl := Except.error.inj h
    rfl
  split at h
  · obtain rfl := Except.error.inj h
    rfl
  · contradiction

theorem prepareProvider_cases (s : Settings) (r : Run Host) :
    (∃ f, f.isFatal = true ∧ ∀ services, prepareProvider services s r = (.error f, r)) ∨
      ∃ choice? : Option ProviderChoice, ∃ journal,
        (s.command.needsProvider = true → choice?.isSome = true) ∧
        ∀ services,
          prepareProvider services s r =
            (.ok (choice?.map services.provider), ⟨r.world, journal⟩) := by
  unfold prepareProvider
  cases hneeds : s.command.needsProvider with
  | false => exact .inr ⟨none, r.journal, nofun, fun _ => rfl⟩
  | true =>
    simp only [if_true, get_bind]
    cases hchoose : s.provider.choose r.world.clientFault with
    | error f => exact .inl ⟨f, choose_fatal hchoose, fun _ => rfl⟩
    | ok choice => exact .inr ⟨some choice, _, fun _ => rfl, fun _ => rfl⟩

theorem ofUrl_fatal {faults : StorageFaults} {url : String} {f : Failure}
    (h : StorageLocation.ofUrl faults url = .error f) : f.isFatal = true := by
  unfold StorageLocation.ofUrl StorageLocation.ofChars at h
  dsimp only at h
  split at h
  · split at h
    · obtain rfl := Except.error.inj h
      rfl
    split at h
    · obtain rfl := Except.error.inj h
      rfl
    · contradiction
  split at h
  · split at h
    · obtain rfl := Except.error.inj h
      rfl
    · contradiction
  split at h
  · contradiction
  · obtain rfl := Except.error.inj h
    rfl

theorem prepareStorage_cases (s : Settings) (r : Run Host) :
    (∃ f, f.isFatal = true ∧ ∀ services, prepareStorage services s r = (.error f, r)) ∨
      ∃ location? : Option StorageLocation, ∃ journal,
        (s.command.needsStorage = true → location?.isSome = true) ∧
        ∀ services,
          prepareStorage services s r =
            (.ok (location?.map services.storage), ⟨r.world, journal⟩) := by
  unfold prepareStorage
  cases hneeds : s.command.needsStorage with
  | false => exact .inr ⟨none, r.journal, nofun, fun _ => rfl⟩
  | true =>
    cases hurl : s.storageUrl with
    | none => exact .inl ⟨_, rfl, fun _ => rfl⟩
    | some url =>
      simp only [if_true, get_bind]
      cases hlocation : StorageLocation.ofUrl r.world.storageFaults url with
      | error f => exact .inl ⟨f, ofUrl_fatal hlocation, fun _ => rfl⟩
      | ok location => exact .inr ⟨some location, _, fun _ => rfl, fun _ => rfl⟩

/-- The store of a command prepares the mappings in the database of the host. -/
theorem prepareMappings_hostStore {host : Host} {a : Except StoreFault Unit}
    {db : Sql.Database Sql.Playback}
    (h : ensureMappings Sql.Playback.send s.tables.mappings host.database = (a, db)) :
    (hostStore s).prepareMappings host = (a, { host with database := db }) := by
  change (Host.databasePart.lift (ensureMappings Sql.Playback.send s.tables.mappings)) host = _
  simp only [Part.lift, Host.databasePart, h]

/-- The campaign of a command before it is set up. -/
def unready (s : Settings) (choice? : Option ProviderChoice) (location? : Option StorageLocation)
    (services : Services) : Campaign Host Unit where
  store := hostStore s
  provider := choice?.map services.provider
  storage := location?.map services.storage
  stopRequested := do pure (← get).stopRequested
  layout := s.layout
  dryRun := s.dryRun
  ready := false

/-! Getting ready is connecting, choosing a provider, finding a storage, and setting up. -/

section Steps

variable {services : Services} {f : Failure} {choice? : Option ProviderChoice}
  {location? : Option StorageLocation} {r₁ r₂ r₃ r' : Run Host}

theorem prepare_of_unconnected (h : connectStore s r = (.error f, r')) :
    prepare services s r = (.error f, r') := by
  rw [prepare, bind_of_eq h]
  rfl

theorem prepare_of_unchosen (hconnect : connectStore s r = (.ok (hostStore s), r₁))
    (h : prepareProvider services s r₁ = (.error f, r')) :
    prepare services s r = (.error f, r') := by
  rw [prepare, bind_of_eq hconnect]
  exact bind_of_eq h

theorem prepare_of_unlocated (hconnect : connectStore s r = (.ok (hostStore s), r₁))
    (hchoose : prepareProvider services s r₁ = (.ok (choice?.map services.provider), r₂))
    (h : prepareStorage services s r₂ = (.error f, r')) :
    prepare services s r = (.error f, r') := by
  rw [prepare, bind_of_eq hconnect]
  dsimp only
  rw [bind_of_eq hchoose]
  exact bind_of_eq h

theorem prepare_of_setUp (hconnect : connectStore s r = (.ok (hostStore s), r₁))
    (hchoose : prepareProvider services s r₁ = (.ok (choice?.map services.provider), r₂))
    (hlocate : prepareStorage services s r₂ = (.ok (location?.map services.storage), r₃))
    {a : Except Failure Unit} {c : Campaign Host Unit}
    (h : (unready s choice? location? services).setUp r₃ = ((a, c), r')) :
    prepare services s r = (a.map fun _ => c, r') := by
  rw [prepare, bind_of_eq hconnect]
  dsimp only
  rw [bind_of_eq hchoose]
  dsimp only
  rw [bind_of_eq hlocate]
  refine (bind_of_eq h).trans ?_
  cases a <;> rfl

end Steps

/-- Getting ready ends in one of the ways of `Preparing`. -/
theorem prepare_ends (s : Settings) (host : Host) :
    ∃ result host' journal, Preparing s host result host' ∧
      ∀ services, prepare services s (.start host) = (result services, ⟨host', journal⟩) := by
  obtain ⟨f, hfatal, hfailed⟩ | hconnect := connectStore_cases s (.start host)
  · exact ⟨_, _, [], .refused hfatal, fun _ => prepare_of_unconnected hfailed⟩
  obtain ⟨f, hfatal, hfailed⟩ | ⟨choice?, journal, hprovider, hchoose⟩ :=
    prepareProvider_cases s ⟨host, [.databaseConnected s.maxConnections]⟩
  · exact ⟨_, _, _, .refused hfatal,
      fun services => prepare_of_unchosen hconnect (hfailed services)⟩
  obtain ⟨f, hfatal, hfailed⟩ | ⟨location?, journal', hstorage, hlocate⟩ :=
    prepareStorage_cases s ⟨host, journal⟩
  · exact ⟨_, _, _, .refused hfatal,
      fun services => prepare_of_unlocated hconnect (hchoose services) (hfailed services)⟩
  match hensure : ensureMappings Sql.Playback.send s.tables.mappings host.database with
  | (.error e, db) =>
    have hsetUp := fun services => (unready s choice? location? services).setUp_failed rfl
      (prepareMappings_hostStore hensure) journal'
    exact ⟨_, _, _, .unprepared hensure, fun services =>
      prepare_of_setUp hconnect (hchoose services) (hlocate services) (hsetUp services)⟩
  | (.ok (), db) =>
    have hsetUp := fun services => (unready s choice? location? services).setUp_done rfl
      (prepareMappings_hostStore hensure) journal'
    refine ⟨_, _, _, .ready hensure (fun services => ?_) fun services => ?_, fun services =>
      prepare_of_setUp hconnect (hchoose services) (hlocate services) (hsetUp services)⟩
    · refine ⟨rfl, fun hneeds => ?_, fun hneeds => ?_⟩
      · obtain ⟨choice, rfl⟩ := Option.isSome_iff_exists.mp (hprovider hneeds)
        exact ⟨_, rfl⟩
      · obtain ⟨location, rfl⟩ := Option.isSome_iff_exists.mp (hstorage hneeds)
        exact ⟨_, rfl⟩
    · rfl

/-! ## Running -/

theorem loadList_fatal {path : String} {content : Except String ByteArray} {f : Failure}
    (h : Descriptor.loadList path content = .error f) : f.isFatal = true := by
  unfold Descriptor.loadList at h
  split at h
  · obtain rfl := Except.error.inj h
    rfl
  split at h
  · unfold Descriptor.parseList at h
    split at h
    · obtain rfl := Except.error.inj h
      rfl
    unfold Descriptor.checkAll at h
    split at h
    · obtain rfl := Except.error.inj h
      rfl
    · contradiction
  · obtain rfl := Except.error.inj h
    rfl

theorem readDescriptors_cases (cmd : Command) (r : Run Host) :
    (∃ f, f.isFatal = true ∧ readDescriptors cmd r = (.error f, r)) ∨
      ∃ ds, readDescriptors cmd r = (.ok ds, r) := by
  cases cmd with
  | replaceKeys path dryRun =>
    cases hload : Descriptor.loadList path (r.world.fileContent path) with
    | error f => exact .inl ⟨f, loadList_fatal hload, congrArg (·, r) hload⟩
    | ok ds => exact .inr ⟨ds, congrArg (·, r) hload⟩
  | _ => exact .inr ⟨[], rfl⟩

/-- What a command does not reach is left alone: with other services it would have gone the same
way, nothing of the host but its database was touched, and the database was sent these statements or
the first of them. -/
structure StoppedEarly (services : Services) (s : Settings) (host : Host)
    (allowed : List Sql.Statement) : Prop where
  unasked : ∀ others, runWith others s (.start host) = runWith services s (.start host)
  untouched : (runWith services s (.start host)).2.world =
    { host with database := (runWith services s (.start host)).2.world.database }
  sent : ∃ sent, sent <+: allowed ∧
    Sent sent host.database (runWith services s (.start host)).2.world.database

variable {services : Services} {host : Host} {allowed sent : List Sql.Statement}

/-- A command that ends in the same way with all services, having sent some statements. -/
theorem StoppedEarly.of_eq {result : Except Failure String} {db : Sql.Database Sql.Playback}
    {journal : List Event}
    (hrun : ∀ services, runWith services s (.start host) =
      (result, ⟨{ host with database := db }, journal⟩))
    (hsent : Sent sent host.database db) (hallowed : sent <+: allowed) :
    StoppedEarly services s host allowed where
  unasked others := (hrun others).trans (hrun services).symm
  untouched := by rw [hrun services]
  sent := ⟨sent, hallowed, by rw [hrun services]; exact hsent⟩

/-- The list of a command in the database of its host. -/
theorem listFault_hostStore (cmd : Command) (s : Settings) (host : Host) :
    cmd.listFault (hostStore s) host =
      let listed := cmd.listFault (Sql.store Sql.Playback.send s.tables) host.database
      (listed.1, { host with database := listed.2 }) := by
  cases cmd <;> rfl

/-- A list is one statement. -/
theorem listFault_sends (cmd : Command) (tables : Schema) {db : Sql.Database Sql.Playback}
    (h : db.leftOpen = false) :
    Ends (cmd.listFault (Sql.store Sql.Playback.send tables)) db fun _ db' =>
      Sent [cmd.listStatement tables] db db' := by
  cases cmd with
  | replaceKeys _ _ => exact Sql.select_sends h _ _
  | relocateFiles _ => exact Sql.select_sends h _ _
  | _ => exact Sql.select_sends h _ _

/-! A run is what getting ready, reading descriptors and one operation make of it. -/

theorem runWith_of_unprepared {f : Failure} {r r' : Run Host}
    (h : prepare services s r = (.error f, r')) : runWith services s r = (.error f, r') := by
  rw [runWith, bind_of_eq h]
  rfl

theorem runWith_of_unread {c : Campaign Host Unit} {f : Failure} {r r' : Run Host}
    (h : prepare services s r = (.ok c, r'))
    (hread : readDescriptors s.command r' = (.error f, r')) :
    runWith services s r = (.error f, r') := by
  rw [runWith, bind_of_eq h]
  exact bind_of_eq hread

theorem runWith_of_performed {c c' : Campaign Host Unit} {ds : List Descriptor}
    {a : Except Failure Answer} {r r' r'' : Run Host} (h : prepare services s r = (.ok c, r'))
    (hread : readDescriptors s.command r' = (.ok ds, r'))
    (hperform : c.perform (s.command.operation ds) r' = ((a, c'), r'')) :
    runWith services s r = (a.map fun a : Answer => a.render s.format, r'') := by
  rw [runWith, bind_of_eq h]
  dsimp only
  rw [bind_of_eq hread]
  exact bind_of_eq hperform

/-- What a failure of a command says. A fatal one came up before anything was done but to prepare
the mappings, and any other one of a batch is that of the statements which prepare the mappings or
of the statement which lists what the batch works on. -/
structure FailsEarly (services : Services) (s : Settings) (host : Host) (f : Failure) : Prop where
  fatal : f.isFatal = true → StoppedEarly services s host (preparation s.tables.mappings)
  batch : s.command.isBatch = true → f.isFatal = false →
    StoppedEarly services s host
      (preparation s.tables.mappings ++ [s.command.listStatement s.tables]) ∧
    ∃ e, f = .store e ∧
      ((ensureMappings Sql.Playback.send s.tables.mappings host.database).1 = .error e ∨
        ∃ db, ensureMappings Sql.Playback.send s.tables.mappings host.database = (.ok (), db) ∧
          (s.command.listFault (Sql.store Sql.Playback.send s.tables) db).1 = some e)

variable {f : Failure}

theorem FailsEarly.of_fatal (hfatal : f.isFatal = true)
    (h : StoppedEarly services s host (preparation s.tables.mappings)) :
    FailsEarly services s host f :=
  ⟨fun _ => h, fun _ hnot => absurd hfatal (Bool.eq_false_iff.mp hnot)⟩

/-- The mappings are prepared and the descriptors are read, so that only the operation can fail. -/
theorem performed_fails_early {c : Services → Campaign Host Unit}
    {db : Sql.Database Sql.Playback} {journal : List Event} {ds : List Descriptor}
    (hprepare : ∀ services, prepare services s (.start host) =
      (.ok (c services), ⟨{ host with database := db }, journal⟩))
    (hread : readDescriptors s.command ⟨{ host with database := db }, journal⟩ =
      (.ok ds, ⟨{ host with database := db }, journal⟩))
    (hfits : ∀ services, Fits s.command (c services))
    (hstore : ∀ services, (c services).store = hostStore s)
    (hensure : ensureMappings Sql.Playback.send s.tables.mappings host.database = (.ok (), db))
    (hsent : Sent (preparation s.tables.mappings) host.database db)
    (hrun : (runWith services s (.start host)).1 = .error f) :
    FailsEarly services s host f := by
  have hperformed : (runWith services s (.start host)).1 =
      ((c services).perform (s.command.operation ds)
        ⟨{ host with database := db }, journal⟩).1.1.map fun a => a.render s.format :=
    congrArg Prod.fst (runWith_of_performed (hprepare services) hread rfl)
  refine ⟨fun hfatal => ?_, fun hbatch _ => ?_⟩
  · -- no operation ends in a fatal failure
    rw [hperformed] at hrun
    have hnot := ((hfits services).not_fatal ds _).map _ f hrun
    exact absurd hfatal (Bool.eq_false_iff.mp hnot)
  · have hlisted := listFault_sends s.command s.tables hsent.closed
    have hends := fun services => (hfits services).batch hbatch ds
      ⟨{ host with database := db }, journal⟩
    simp only [hstore, listFault_hostStore] at hends
    rw [Ends] at hlisted
    rcases hfault : s.command.listFault (Sql.store Sql.Playback.send s.tables) db with
      ⟨_ | e, db'⟩
    · -- the batch has its list, so it succeeds
      simp only [hfault] at hends
      obtain ⟨a, ha⟩ := hends services
      rw [hperformed, ha] at hrun
      contradiction
    · rw [hfault] at hlisted
      simp only [hfault] at hends
      have hall := fun services => runWith_of_performed (hprepare services) hread (hends services)
      rw [hall services] at hrun
      obtain rfl := Except.error.inj hrun
      exact ⟨.of_eq hall (hsent.append hlisted) (List.prefix_refl _), e, rfl,
        .inr ⟨db, hensure, by rw [hfault]⟩⟩

/-- Commands fail early or not at all, whatever the settings, the services, the answers of the
database and the files are. -/
theorem run_fails_early (services : Services) (s : Settings) (host : Host)
    (hclosed : host.database.leftOpen = false) (f : Failure)
    (hrun : (runWith services s (.start host)).1 = .error f) :
    FailsEarly services s host f := by
  obtain ⟨result, host', journal, hpreparing, hprepare⟩ := prepare_ends s host
  have hensured := Sql.ensureMappings_sends hclosed s.tables.mappings
  cases hpreparing with
  | refused hfatal =>
    -- nothing was sent
    have hall := fun services => runWith_of_unprepared (hprepare services)
    rw [hall services] at hrun
    obtain rfl := Except.error.inj hrun
    exact .of_fatal hfatal (.of_eq hall (.nil hclosed) List.nil_prefix)
  | @unprepared e db hensure =>
    have hall := fun services => runWith_of_unprepared (hprepare services)
    rw [hall services] at hrun
    obtain rfl := Except.error.inj hrun
    rw [Ends, hensure] at hensured
    obtain ⟨sent, hsent, hprefix, -⟩ := hensured
    -- a failure of the store is not fatal, and what was sent belongs to the preparation
    refine ⟨fun hfatal => ?_, fun _ _ => ⟨.of_eq hall hsent ?_, e, rfl, .inl (by rw [hensure])⟩⟩
    · contradiction
    · exact hprefix.trans (List.prefix_append _ _)
  | @ready c db hensure hfits hstore =>
    rw [Ends, hensure] at hensured
    obtain ⟨sent, hsent, -, hdone⟩ := hensured
    obtain rfl := hdone rfl
    obtain ⟨f', hfatal, hread⟩ | ⟨ds, hread⟩ :=
      readDescriptors_cases s.command ⟨{ host with database := db }, journal⟩
    · have hall := fun services => runWith_of_unread (hprepare services) hread
      rw [hall services] at hrun
      obtain rfl := Except.error.inj hrun
      exact .of_fatal hfatal (.of_eq hall hsent (List.prefix_refl _))
    · exact performed_fails_early hprepare hread hfits hstore hensure hsent hrun

/-- Settings for a command over a database on this machine. -/
def Settings.over (cmd : Command) : Settings where
  databaseUrl := "postgres://localhost/app"
  maxConnections := standardConnections
  provider := ⟨.memory, none, none, 30000⟩
  storageUrl := some "memory://"
  tables := .standard
  layout := .standard
  format := .json
  command := cmd

/-- A host without files, with a database that prepares the mappings and refuses what comes next. -/
def Host.refusing : Host :=
  { Host.isolated (fun _ => .error "No such file") with
    link := .up
    database := .fresh
      ⟨[⟨none, .result ⟨[], 0⟩⟩, ⟨none, .result ⟨[], 0⟩⟩,
        ⟨none, .refused "permission denied"⟩], []⟩ }

/-- The failure that a run answers. -/
def failure? (a : Except Failure String) : Option Failure :=
  match a with
  | .error f => some f
  | .ok _ => none

theorem eq_error_of_failure? {a : Except Failure String} (h : failure? a = some f) :
    a = .error f := by
  cases a with
  | error g => exact congrArg _ (Option.some.inj h)
  | ok _ => contradiction

/-- A missing file of descriptors ends a command after the two statements that prepare the mappings,
and a refused list ends a batch after one more. -/
theorem run_fails_early_refusing :
    let unread := runWith .ofHost (.over (.replaceKeys "columns.json" false)) (.start .refusing)
    let unlisted := runWith .ofHost (.over (.relocateFiles false)) (.start .refusing)
    Host.refusing.database.leftOpen = false ∧
    unread.1 =
      .error (.config (.descriptorFileUnreadable "columns.json" "No such file")) ∧
    FailsEarly .ofHost (.over (.replaceKeys "columns.json" false)) .refusing
      (.config (.descriptorFileUnreadable "columns.json" "No such file")) ∧
    unread.2.world.database.server.statements.length = 2 ∧
    unlisted.1 = .error (.store (.database (.refused "permission denied"))) ∧
    FailsEarly .ofHost (.over (.relocateFiles false)) .refusing
      (.store (.database (.refused "permission denied"))) ∧
    unlisted.2.world.database.server.statements.length = 3 := by
  intro unread unlisted
  have hunread : unread.1 =
      .error (.config (.descriptorFileUnreadable "columns.json" "No such file")) :=
    eq_error_of_failure? (by decide +kernel)
  have hunlisted : unlisted.1 = .error (.store (.database (.refused "permission denied"))) :=
    eq_error_of_failure? (by decide +kernel)
  exact ⟨rfl, hunread, run_fails_early .ofHost _ .refusing rfl _ hunread, by decide +kernel,
    hunlisted, run_fails_early .ofHost _ .refusing rfl _ hunlisted, by decide +kernel⟩

end CommandLine

end Rekey

import Rekey.Migration.Campaign
import Rekey.Proofs.Users.Agreement

/-!
# Campaigns over collaborators that agree

Two campaigns agree when their settings are the same and the calls of their collaborators agree.
They then answer every operation alike, and what relates their worlds relates them afterwards. So
what a campaign asks of its collaborators can be observed through collaborators that do the same
and take notes.
-/

namespace Rekey

variable {σ σ' τ : Type}

/-- Two stores that answer alike outside of transactions from worlds related by `W`. Preparing the
mappings is left out: that is what sets a campaign up. -/
structure Store.AgreesOutside (W : σ → σ' → Prop) (store : Store σ τ) (store' : Store σ' τ) :
    Prop where
  latestMapping : ∀ identifier,
    Agree W (store.latestMapping identifier) (store'.latestMapping identifier)
  mappingsByAge : Agree W store.mappingsByAge store'.mappingsByAge
  legacyUsersByAge : Agree W store.legacyUsersByAge store'.legacyUsersByAge
  legacyUserById : ∀ legacyId,
    Agree W (store.legacyUserById legacyId) (store'.legacyUserById legacyId)
  mappedUsers : Agree W store.mappedUsers store'.mappedUsers
  scan : ∀ d, Agree W (store.scan d) (store'.scan d)
  update : ∀ d locator cell,
    Agree W (store.update d locator cell) (store'.update d locator cell)

/-- Two object storages that answer alike from worlds related by `W`. -/
structure ObjectStorage.Agrees (W : σ → σ' → Prop) (storage : ObjectStorage σ)
    (storage' : ObjectStorage σ') : Prop where
  contains : ∀ path, Agree W (storage.contains path) (storage'.contains path)
  copy : ∀ target source, Agree W (storage.copy target source) (storage'.copy target source)
  move : ∀ target source, Agree W (storage.move target source) (storage'.move target source)

/-- An object storage answers as it does. -/
theorem ObjectStorage.Agrees.self (storage : ObjectStorage σ) : storage.Agrees Eq storage :=
  ⟨fun _ => .self, fun _ _ => .self, fun _ _ => .self⟩

/-- Two campaigns of the same settings whose collaborators answer alike. -/
structure Campaign.Agrees (W : σ → σ' → Prop) (c : Campaign σ τ) (c' : Campaign σ' τ) :
    Prop where
  transactions : c.store.Agrees W c'.store
  outside : c.store.AgreesOutside W c'.store
  provider : Option.Rel (Provider.Agrees W) c.provider c'.provider
  storage : Option.Rel (ObjectStorage.Agrees W) c.storage c'.storage
  stopRequested : Agree W c.stopRequested c'.stopRequested
  layout : c.layout = c'.layout
  dryRun : c.dryRun = c'.dryRun
  ready : c.ready = c'.ready

variable {W : σ → σ' → Prop} {J : List Event → List Event → Prop} {store : Store σ τ}
  {store' : Store σ' τ} {provider : Provider σ} {provider' : Provider σ'}
  {storage : ObjectStorage σ} {storage' : ObjectStorage σ'} {stop : StateM σ Bool}
  {stop' : StateM σ' Bool}

/-! ## Users -/

theorem agree_tellUser (hJ : JoinsTelling J) (u : LegacyUser) (r : Except Failure UserResult) :
    Agree (Run.Alike W J) (tellUser u r) (tellUser u r) := by
  match r with
  | .ok .skipped => exact .pure
  | .ok (.migrated _ _ _) => exact agree_tell hJ _
  | .error _ => exact agree_tell hJ _

theorem agree_migrateEach (hJ : JoinsTelling J) (hs : store.Agrees W store')
    (hp : provider.Agrees W provider') (hstop : Agree W stop stop') (total processed : Nat)
    (s : Summary) (users : List LegacyUser) :
    Agree (Run.Alike W J) (migrateEach store provider stop total processed s users)
      (migrateEach store' provider' stop' total processed s users) := by
  induction users generalizing processed s with
  | nil => exact .pure
  | cons u rest ih =>
    unfold migrateEach
    refine .bind (agree_call hstop) fun stopped => ?_
    split
    · exact .bind (agree_tell hJ _) fun _ => .pure
    · refine .bind (agree_migrateRecord hJ hs hp u) fun outcome => ?_
      refine .bind (agree_tellUser hJ u outcome) fun _ => ?_
      dsimp only
      split
      · exact .bind (agree_tell hJ _) fun _ => ih _ _
      · exact ih _ _

theorem agree_migrateUsers (hJ : JoinsTelling J) (hs : store.Agrees W store')
    (hout : store.AgreesOutside W store') (hp : provider.Agrees W provider')
    (hstop : Agree W stop stop') :
    Agree (Run.Alike W J) (migrateUsers store provider stop)
      (migrateUsers store' provider' stop') := by
  unfold migrateUsers
  refine .bind (agree_call hout.legacyUsersByAge) fun listed => ?_
  split
  · exact .pure
  · rw [hp.name]
    refine .bind (agree_tell hJ _) fun _ => ?_
    exact .bind (agree_migrateEach hJ hs hp hstop _ _ _ _) fun s =>
      .bind (agree_tell hJ _) fun _ => .pure

theorem agree_migrateById (hJ : JoinsTelling J) (hs : store.Agrees W store')
    (hout : store.AgreesOutside W store') (hp : provider.Agrees W provider')
    (identifier : String) :
    Agree (Run.Alike W J) (migrateById store provider identifier)
      (migrateById store' provider' identifier) := by
  unfold migrateById
  dsimp only
  split
  · refine .bind (agree_call (hout.legacyUserById _)) fun found => ?_
    split
    · exact .pure
    · exact .pure
    · refine .bind (agree_migrateRecord hJ hs hp _) fun outcome => ?_
      split
      · exact .pure
      · exact .pure
      · exact .bind (agree_tell hJ _) fun _ => .pure
  · exact .pure

/-! ## Columns -/

section Columns

variable {dryRun : Bool} {index : MappingIndex}

theorem Store.AgreesOutside.replaceInRows (hJ : JoinsTelling J)
    (hs : store.AgreesOutside W store') (hstop : Agree W stop stop') (d : Descriptor)
    (report : ColumnReport) (rows : List ScannedRow) :
    Agree (Run.Alike W J) (replaceInRows store stop dryRun index d report rows)
      (Rekey.replaceInRows store' stop' dryRun index d report rows) := by
  induction rows generalizing report with
  | nil => exact .pure
  | cons row rest ih =>
    unfold Rekey.replaceInRows
    refine .bind (agree_call hstop) fun stopped => ?_
    split
    · exact .pure
    split
    · exact ih _
    · split
      · exact .bind (agree_tell hJ _) fun _ => ih _
      · refine .bind (agree_call (hs.update _ _ _)) fun written => ?_
        split
        · exact ih _
        · exact .bind (agree_tell hJ _) fun _ => ih _

theorem Store.AgreesOutside.replaceInColumn (hJ : JoinsTelling J)
    (hs : store.AgreesOutside W store') (hstop : Agree W stop stop') (d : Descriptor) :
    Agree (Run.Alike W J) (replaceInColumn store stop dryRun index d)
      (Rekey.replaceInColumn store' stop' dryRun index d) := by
  unfold Rekey.replaceInColumn
  refine .bind (agree_call (hs.scan d)) fun scanned => ?_
  split
  · exact .bind (agree_tell hJ _) fun _ => .pure
  · exact .bind (hs.replaceInRows hJ hstop _ _ _) fun _ => .bind (agree_tell hJ _) fun _ => .pure

theorem Store.AgreesOutside.replaceInEach (hJ : JoinsTelling J)
    (hs : store.AgreesOutside W store') (hstop : Agree W stop stop') (report : ReplacementReport)
    (ds : List Descriptor) :
    Agree (Run.Alike W J) (replaceInEach store stop dryRun index report ds)
      (Rekey.replaceInEach store' stop' dryRun index report ds) := by
  induction ds generalizing report with
  | nil => exact .pure
  | cons d rest ih =>
    unfold Rekey.replaceInEach
    refine .bind (agree_call hstop) fun stopped => ?_
    split
    · exact .pure
    · refine .bind (hs.replaceInColumn hJ hstop d) fun r => ?_
      refine .bind (agree_call hstop) fun stopped => ?_
      split
      · exact .pure
      · exact ih _

theorem Store.AgreesOutside.replaceInColumns (hJ : JoinsTelling J)
    (hs : store.AgreesOutside W store') (hstop : Agree W stop stop') (ds : List Descriptor) :
    Agree (Run.Alike W J) (replaceInColumns store stop dryRun index ds)
      (Rekey.replaceInColumns store' stop' dryRun index ds) := by
  unfold Rekey.replaceInColumns
  refine .bind (agree_tell hJ _) fun _ => .bind (hs.replaceInEach hJ hstop _ ds) fun report => ?_
  dsimp only
  split
  · exact .bind (agree_tell hJ _) fun _ => .bind (agree_tell hJ _) fun _ => .pure
  · exact .bind (agree_tell hJ _) fun _ => .pure

theorem Store.AgreesOutside.loadIndex (hJ : JoinsTelling J) (hs : store.AgreesOutside W store') :
    Agree (Run.Alike W J) (loadIndex store) (Rekey.loadIndex store') := by
  unfold Rekey.loadIndex
  refine .bind (agree_call hs.mappingsByAge) fun listed => ?_
  split
  · exact .pure
  · exact .bind (agree_tell hJ _) fun _ => .pure

end Columns

/-! ## Files -/

section Files

variable {layout : Layout} {dryRun : Bool}

theorem ObjectStorage.Agrees.moveFile (hJ : JoinsTelling J) (hs : storage.Agrees W storage')
    (task : FileTask) (old backup new : String) :
    Agree (Run.Alike W J) (moveFile storage task old backup new)
      (Rekey.moveFile storage' task old backup new) := by
  unfold Rekey.moveFile
  refine .bind (agree_call (hs.copy _ _)) fun copied => ?_
  split
  · exact .pure
  · refine .bind (agree_call (hs.move _ _)) fun moved => ?_
    split
    · exact .pure
    · exact .bind (agree_tell hJ _) fun _ => .pure

theorem ObjectStorage.Agrees.relocateFile (hJ : JoinsTelling J) (hs : storage.Agrees W storage')
    (task : FileTask) :
    Agree (Run.Alike W J) (relocateFile storage layout dryRun task)
      (Rekey.relocateFile storage' layout dryRun task) := by
  unfold Rekey.relocateFile
  dsimp only
  refine .bind (agree_call (hs.contains _)) fun found => ?_
  split
  · exact .pure
  · exact .bind (agree_tell hJ _) fun _ => .pure
  · refine .bind (agree_call (hs.contains _)) fun taken => ?_
    split
    · exact .pure
    · exact .pure
    · split
      · exact .bind (agree_tell hJ _) fun _ => .pure
      · exact hs.moveFile hJ task _ _ _

theorem agree_tellFile (hJ : JoinsTelling J) (task : FileTask) (r : Except Failure FileResult) :
    Agree (Run.Alike W J) (tellFile task r) (tellFile task r) := by
  cases r with
  | ok _ => exact .pure
  | error _ => exact agree_tell hJ _

theorem ObjectStorage.Agrees.relocateEach (hJ : JoinsTelling J) (hs : storage.Agrees W storage')
    (hstop : Agree W stop stop') (total : Nat) (s : Summary) (tasks : List FileTask) :
    Agree (Run.Alike W J) (relocateEach storage layout dryRun stop total s tasks)
      (Rekey.relocateEach storage' layout dryRun stop' total s tasks) := by
  induction tasks generalizing s with
  | nil => exact .pure
  | cons task rest ih =>
    unfold Rekey.relocateEach
    refine .bind (agree_call hstop) fun stopped => ?_
    split
    · exact .bind (agree_tell hJ _) fun _ => .pure
    · exact .bind (hs.relocateFile hJ task) fun outcome =>
        .bind (agree_tellFile hJ task outcome) fun _ => ih _

theorem Store.AgreesOutside.fileTasks (hs : store.AgreesOutside W store') :
    Agree (Run.Alike W J) (fileTasks store layout) (Rekey.fileTasks store' layout) := by
  unfold Rekey.fileTasks
  refine .bind (agree_call hs.mappedUsers) fun listed => ?_
  split <;> exact .pure

theorem agree_relocateFiles (hJ : JoinsTelling J) (hout : store.AgreesOutside W store')
    (hs : storage.Agrees W storage') (hstop : Agree W stop stop') :
    Agree (Run.Alike W J) (relocateFiles store storage layout dryRun stop)
      (relocateFiles store' storage' layout dryRun stop') := by
  unfold relocateFiles
  refine .bind hout.fileTasks fun tasks => ?_
  split
  · exact .pure
  · refine .bind (agree_tell hJ _) fun _ => ?_
    exact .bind (hs.relocateEach hJ hstop _ _ _) fun s => .bind (agree_tell hJ _) fun _ => .pure

end Files

/-! ## Operations -/

/-- Actions that agree still do when their results are wrapped and taken out again. -/
theorem agree_answered {α β κ κ' : Type} {R : σ → σ' → Prop} {act : StateM σ α}
    {act' : StateM σ' α} {f : α → β} {k : κ} {k' : κ'} (h : Agree R act act') :
    Agree R (Prod.fst <$> do let a ← act; pure (f a, k))
      (Prod.fst <$> do let a ← act'; pure (f a, k')) := by
  intro s s' hs
  obtain ⟨hresult, hend⟩ := h s s' hs
  exact ⟨congrArg f hresult, hend⟩

namespace Campaign

variable {c : Campaign σ τ} {c' : Campaign σ' τ}

/-- The provider of both campaigns, or the one reason why neither has one to work with. -/
theorem Agrees.provider? (h : c.Agrees W c') :
    (∃ f, c.provider? = .error f ∧ c'.provider? = .error f) ∨
      ∃ p p', c.provider? = .ok p ∧ c'.provider? = .ok p' ∧ p.Agrees W p' := by
  unfold Campaign.provider?
  rw [← h.ready]
  cases c.ready with
  | false => exact .inl ⟨_, rfl, rfl⟩
  | true =>
    have hrel := h.provider
    generalize c.provider = p, c'.provider = p' at hrel ⊢
    cases hrel with
    | some hp => exact .inr ⟨_, _, rfl, rfl, hp⟩
    | none => exact .inl ⟨_, rfl, rfl⟩

theorem Agrees.storage? (h : c.Agrees W c') :
    (∃ f, c.storage? = .error f ∧ c'.storage? = .error f) ∨
      ∃ s s', c.storage? = .ok s ∧ c'.storage? = .ok s' ∧ s.Agrees W s' := by
  unfold Campaign.storage?
  rw [← h.ready]
  cases c.ready with
  | false => exact .inl ⟨_, rfl, rfl⟩
  | true =>
    have hrel := h.storage
    generalize c.storage = s, c'.storage = s' at hrel ⊢
    cases hrel with
    | some hs => exact .inr ⟨_, _, rfl, rfl, hs⟩
    | none => exact .inl ⟨_, rfl, rfl⟩

theorem Agrees.migrateUsers (hJ : JoinsTelling J) (h : c.Agrees W c') :
    Agree (Run.Alike W J) c.migrateUsers c'.migrateUsers := by
  unfold Campaign.migrateUsers
  obtain ⟨f, hf, hf'⟩ | ⟨p, p', hp, hp', hagrees⟩ := h.provider?
  · rw [hf, hf']
    exact .pure
  · rw [hp, hp']
    exact agree_migrateUsers hJ h.transactions h.outside hagrees h.stopRequested

theorem Agrees.migrateById (hJ : JoinsTelling J) (h : c.Agrees W c') (legacyId : String) :
    Agree (Run.Alike W J) (c.migrateById legacyId) (c'.migrateById legacyId) := by
  unfold Campaign.migrateById
  obtain ⟨f, hf, hf'⟩ | ⟨p, p', hp, hp', hagrees⟩ := h.provider?
  · rw [hf, hf']
    exact .pure
  · rw [hp, hp']
    exact agree_migrateById hJ h.transactions h.outside hagrees legacyId

theorem Agrees.lookup (h : c.Agrees W c') (identifier : String) :
    Agree (Run.Alike W J) (c.lookup identifier) (c'.lookup identifier) := by
  unfold Campaign.lookup
  rw [h.ready]
  split
  · refine .bind (agree_call (h.outside.latestMapping _)) fun found => ?_
    split <;> exact .pure
  · exact .pure

theorem Agrees.list (h : c.Agrees W c') : Agree (Run.Alike W J) c.list c'.list := by
  unfold Campaign.list
  rw [h.ready]
  split
  · refine .bind (agree_call h.outside.mappingsByAge) fun listed => ?_
    split <;> exact .pure
  · exact .pure

theorem Agrees.replaceKeys (hJ : JoinsTelling J) (h : c.Agrees W c') (ds : List Descriptor) :
    Agree (Run.Alike W J) (c.replaceKeys ds) (c'.replaceKeys ds) := by
  unfold Campaign.replaceKeys
  rw [h.ready, h.dryRun]
  split
  · refine .bind (h.outside.loadIndex hJ) fun loaded => ?_
    split
    · exact .pure
    · exact .bind (h.outside.replaceInColumns hJ h.stopRequested ds) fun _ => .pure
  · exact .pure

theorem Agrees.relocateFiles (hJ : JoinsTelling J) (h : c.Agrees W c') :
    Agree (Run.Alike W J) c.relocateFiles c'.relocateFiles := by
  unfold Campaign.relocateFiles
  obtain ⟨f, hf, hf'⟩ | ⟨s, s', hs, hs', hagrees⟩ := h.storage?
  · rw [hf, hf']
    exact .pure
  · rw [hs, hs', h.layout, h.dryRun]
    exact agree_relocateFiles hJ h.outside hagrees h.stopRequested

/-- What an operation answers, without the campaign that goes on. -/
def answer (c : Campaign σ τ) (o : Operation) : Action σ (Except Failure Answer) :=
  Prod.fst <$> c.perform o

/-- Only setting up changes a campaign. -/
theorem perform_eq {o : Operation} (ho : o ≠ .setUp) (r : Run σ) :
    c.perform o r = (((c.answer o r).1, c), (c.answer o r).2) := by
  cases o with
  | setUp => exact absurd rfl ho
  | _ => rfl

/-- Campaigns that agree answer an operation alike, and their worlds are related afterwards. -/
theorem Agrees.answer (hJ : JoinsTelling J) (h : c.Agrees W c') {o : Operation}
    (ho : o ≠ .setUp) : Agree (Run.Alike W J) (c.answer o) (c'.answer o) := by
  cases o with
  | setUp => exact absurd rfl ho
  | migrateUsers => exact agree_answered (h.migrateUsers hJ)
  | migrateById legacyId => exact agree_answered (h.migrateById hJ legacyId)
  | lookup identifier => exact agree_answered (h.lookup identifier)
  | list => exact agree_answered h.list
  | replaceKeys ds => exact agree_answered (h.replaceKeys hJ ds)
  | relocateFiles => exact agree_answered (h.relocateFiles hJ)

end Campaign

end Rekey

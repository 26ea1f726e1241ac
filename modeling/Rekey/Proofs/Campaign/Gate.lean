import Rekey.Proofs.Campaign.Watching
import Rekey.Proofs.Memory.Commit
import Rekey.Proofs.Rehearsal.Session

/-!
# The gate of a campaign

A campaign opens when it is set up successfully for the first time. Until then it answers every
other operation with a failure of its configuration and asks nothing of its collaborators; the
mappings are prepared successfully at most once; and afterwards an operation without its
collaborator fails in the same way. Since an open campaign has prepared its mappings, the store in
memory never misses the table of mappings when a campaign writes to it.
-/

namespace Rekey

variable {σ τ φ : Type}

/-! ## Histories -/

/-- An operation, and what happens to the world before it: what shall fail may be set, and others
may use the collaborators. -/
structure Turn (σ : Type) where
  before : σ → σ
  operation : Operation

/-- What is seen of a campaign over a sequence of turns. -/
def Campaign.history (c : Campaign σ τ) (w : σ) : List (Turn σ) → List Observation
  | [] => []
  | turn :: rest =>
    let ((_, c'), r) := c.perform turn.operation (.start (turn.before w))
    c.observe turn.operation (turn.before w) :: c'.history r.world rest

namespace Operation

/-- The operations that ask for identities. -/
def needsProvider : Operation → Bool
  | migrateUsers | migrateById _ => true
  | _ => false

/-- The operations on files. -/
def needsStorage : Operation → Bool
  | relocateFiles => true
  | _ => false

end Operation

/-- A call that has prepared the mappings. -/
def StoreCall.prepares (call : StoreCall) : Bool :=
  match call.request with
  | .outside .prepareMappings => call.fault.isNone
  | _ => false

theorem StoreCall.request_of_prepares {call : StoreCall} (h : call.prepares = true) :
    call.request = .outside .prepareMappings := by
  unfold StoreCall.prepares at h
  split at h
  · assumption
  · contradiction

namespace Observation

/-- No collaborator was asked for anything. -/
def Silent (e : Observation) : Prop :=
  e.calls = [] ∧ e.others = 0

/-- The operation has set the campaign up. -/
def Opens (e : Observation) : Prop :=
  e.operation = .setUp ∧ e.result = .ok .done

/-- The operation failed on the configuration, and no collaborator was asked for anything. -/
def Refuses (e : Observation) (fault : ConfigFault) : Prop :=
  e.result = .error (.config fault) ∧ e.Silent

/-- What an open campaign keeps to: it is not set up again, and it refuses to work without the
collaborator that the operation needs. -/
structure Opened (c : Campaign σ τ) (e : Observation) : Prop where
  setUp : e.operation = .setUp → e.result = .ok .done ∧ e.Silent
  provider : e.operation.needsProvider = true → c.provider = none → e.Refuses .providerMissing
  storage : e.operation.needsStorage = true → c.storage = none → e.Refuses .storageMissing

end Observation

/-- A history that keeps to the gate. -/
structure Gated (c : Campaign σ τ) (h : List Observation) : Prop where
  /-- Until the campaign was set up everything else is refused. -/
  closed : ∀ before e after, h = before ++ e :: after → (∀ b ∈ before, ¬ b.Opens) →
    e.operation ≠ .setUp → e.Refuses .notInitialized
  /-- The mappings are prepared at most once. -/
  prepared : (h.flatMap Observation.calls).countP StoreCall.prepares ≤ 1
  /-- After the campaign was set up. -/
  opened : ∀ before e after, h = before ++ e :: after → (∃ b ∈ before, b.Opens) → e.Opened c

namespace Campaign

variable {c : Campaign σ τ} {w : σ} {o : Operation}

/-! ## One turn -/

/-- A campaign that is not set up refuses everything else and stays as it is. -/
theorem perform_unready (h : c.ready = false) (ho : o ≠ .setUp) :
    c.perform o = pure (.error (.config .notInitialized), c) := by
  cases o with
  | setUp => exact absurd rfl ho
  | migrateUsers => simp [perform, migrateUsers, provider?, h, Except.map]
  | migrateById legacyId => simp [perform, migrateById, provider?, h, Except.map]
  | lookup identifier => simp [perform, lookup, h, Except.map]
  | list => simp [perform, list, h, Except.map]
  | replaceKeys ds => simp [perform, replaceKeys, h, Except.map]
  | relocateFiles => simp [perform, relocateFiles, storage?, h, Except.map]

theorem perform_without_provider (h : c.ready = true) (hp : c.provider = none)
    (ho : o.needsProvider = true) :
    c.perform o = pure (.error (.config .providerMissing), c) := by
  cases o with
  | migrateUsers => simp [perform, migrateUsers, provider?, h, hp, Except.map]
  | migrateById legacyId => simp [perform, migrateById, provider?, h, hp, Except.map]
  | _ => contradiction

theorem perform_without_storage (h : c.ready = true) (hs : c.storage = none)
    (ho : o.needsStorage = true) :
    c.perform o = pure (.error (.config .storageMissing), c) := by
  cases o with
  | relocateFiles => simp [perform, relocateFiles, storage?, h, hs, Except.map]
  | _ => contradiction

/-- A watched campaign that refuses an operation asks nothing of its collaborators. -/
theorem observe_refuses {fault : ConfigFault}
    (h : c.watched.perform o = pure (.error (.config fault), c.watched)) :
    (c.observe o w).Refuses fault := by
  rw [observe, h]
  exact ⟨rfl, rfl, rfl⟩

/-- An open campaign keeps to what is asked of one, and prepares nothing. -/
theorem observe_opened (h : c.ready = true) :
    (c.observe o w).Opened c ∧ (c.observe o w).calls.countP StoreCall.prepares = 0 := by
  refine ⟨⟨?_, fun ho hp => ?_, fun ho hs => ?_⟩, ?_⟩
  · rintro rfl
    rw [(observe_setUp_of_ready h).1]
    exact ⟨rfl, rfl, rfl⟩
  · refine observe_refuses (perform_without_provider h ?_ ho)
    rw [watched, hp, Option.map_none]
  · refine observe_refuses (perform_without_storage h ?_ ho)
    rw [watched, hs, Option.map_none]
  · by_cases ho : o = .setUp
    · subst ho
      rw [(observe_setUp_of_ready h).1]
      rfl
    · obtain ⟨hrequests, -⟩ := c.keeps_requests.observe (w := w) ho trivial
      exact List.countP_eq_zero.mpr fun call hcall hprepares =>
        hrequests call hcall (StoreCall.request_of_prepares hprepares)

/-- An open campaign stays as it is. -/
theorem perform_opened (h : c.ready = true) (r : Run σ) : (c.perform o r).1.2 = c := by
  by_cases ho : o = .setUp
  · subst ho
    rw [perform, setUp_of_ready h]
    rfl
  · rw [perform_eq ho]

/-! ## All turns -/

theorem history_cons (turn : Turn σ) (rest : List (Turn σ)) :
    c.history w (turn :: rest) =
      c.observe turn.operation (turn.before w) ::
        (c.perform turn.operation (.start (turn.before w))).1.2.history
          (c.perform turn.operation (.start (turn.before w))).2.world rest := rfl

theorem history_opened (h : c.ready = true) (turns : List (Turn σ)) :
    ∀ e ∈ c.history w turns, e.Opened c ∧ e.calls.countP StoreCall.prepares = 0 := by
  induction turns generalizing w with
  | nil => exact fun _ he => nomatch he
  | cons turn rest ih =>
    rw [history_cons, perform_opened h]
    intro e he
    rcases List.mem_cons.mp he with rfl | hrest
    · exact observe_opened h
    · exact ih e hrest

end Campaign

namespace Gated

variable {c : Campaign σ τ} {e₀ : Observation} {h : List Observation}

theorem nil : Gated c [] where
  closed before e after heq := by simp at heq
  prepared := Nat.zero_le 1
  opened before e after heq := by simp at heq

/-- A history that begins with a turn that does not set the campaign up. -/
theorem cons_closed (hrefused : e₀.operation ≠ .setUp → e₀.Refuses .notInitialized)
    (hopens : ¬ e₀.Opens) (hprepares : e₀.calls.countP StoreCall.prepares = 0)
    (hrest : Gated c h) : Gated c (e₀ :: h) where
  closed before e after heq hbefore ho := by
    cases before with
    | nil =>
      obtain ⟨rfl, -⟩ := List.cons.inj heq
      exact hrefused ho
    | cons b before =>
      obtain ⟨-, heq⟩ := List.cons.inj heq
      exact hrest.closed before e after heq (fun b hb => hbefore b (List.mem_cons_of_mem _ hb)) ho
  prepared := by
    rw [List.flatMap_cons, List.countP_append, hprepares, Nat.zero_add]
    exact hrest.prepared
  opened before e after heq hbefore := by
    obtain ⟨b, hb, hbopens⟩ := hbefore
    cases before with
    | nil => exact nomatch hb
    | cons b₀ before =>
      obtain ⟨rfl, htail⟩ := List.cons.inj heq
      rcases List.mem_cons.mp hb with rfl | hb
      · exact absurd hbopens hopens
      · exact hrest.opened before e after htail ⟨b, hb, hbopens⟩

/-- A history that begins with the turn that sets the campaign up. -/
theorem cons_open (hopens : e₀.Opens) (hprepares : e₀.calls.countP StoreCall.prepares = 1)
    (hrest : ∀ e ∈ h, e.Opened c ∧ e.calls.countP StoreCall.prepares = 0) :
    Gated c (e₀ :: h) where
  closed before e after heq hbefore ho := by
    cases before with
    | nil =>
      obtain ⟨rfl, -⟩ := List.cons.inj heq
      exact absurd hopens.1 ho
    | cons b before =>
      obtain ⟨rfl, -⟩ := List.cons.inj heq
      exact absurd hopens (hbefore _ List.mem_cons_self)
  prepared := by
    have hnone : (h.flatMap Observation.calls).countP StoreCall.prepares = 0 := by
      rw [List.countP_eq_zero]
      intro call hcall
      obtain ⟨e, he, hcall⟩ := List.mem_flatMap.mp hcall
      exact List.countP_eq_zero.mp (hrest e he).2 call hcall
    rw [List.flatMap_cons, List.countP_append, hprepares, hnone]
  opened before e after heq hbefore := by
    cases before with
    | nil =>
      obtain ⟨b, hb, -⟩ := hbefore
      exact nomatch hb
    | cons b before =>
      obtain ⟨-, rfl⟩ := List.cons.inj heq
      exact (hrest e (List.mem_append_right _ List.mem_cons_self)).1

end Gated

/-- A campaign is not set up when it is assembled. -/
theorem Campaign.ready_of_assemble {k : Collaborators σ τ} {layout : Layout} {dryRun : Bool}
    {c : Campaign σ τ} (h : Campaign.assemble k layout dryRun = .ok c) : c.ready = false := by
  unfold Campaign.assemble at h
  split at h
  · contradiction
  · obtain rfl := Except.ok.inj h
    rfl

/-- The history of a campaign that is not set up yet keeps to the gate. -/
theorem Campaign.history_gated {c : Campaign σ τ} (h : c.ready = false) (w : σ)
    (turns : List (Turn σ)) : Gated c (c.history w turns) := by
  induction turns generalizing w with
  | nil => exact .nil
  | cons turn rest ih =>
    obtain ⟨before, o⟩ := turn
    rw [history_cons]
    dsimp only
    by_cases ho : o = .setUp
    · subst ho
      match hcall : c.store.prepareMappings (before w) with
      | (.error e, w') =>
        obtain ⟨hseen, hfailed⟩ := observe_setUp_failed h hcall
        rw [hseen, hfailed]
        exact .cons_closed (fun hne => absurd rfl hne) (fun hopens => nomatch hopens.2) rfl (ih _)
      | (.ok (), w') =>
        obtain ⟨hseen, hdone⟩ := observe_setUp_done h hcall
        rw [hseen, hdone]
        -- the campaign that goes on is open, and has the collaborators it had
        refine .cons_open ⟨rfl, rfl⟩ rfl fun e he => ?_
        obtain ⟨hopened, hprepares⟩ := history_opened rfl rest e he
        exact ⟨⟨hopened.setUp, hopened.provider, hopened.storage⟩, hprepares⟩
    · have hrefuses := observe_refuses (w := before w) (perform_unready (c := c.watched) h ho)
      rw [perform_unready h ho]
      refine .cons_closed (fun _ => hrefuses) (fun hopens => ho hopens.1) ?_ (ih _)
      rw [hrefuses.2.1]
      rfl

/-! ## The table of mappings -/

/-- The store of the world has a table of mappings. -/
def World.HasTable (w : World φ) : Prop :=
  w.store.mappingsReady = true

/-- The call did not fail for want of a table of mappings. -/
def StoreCall.MeetsTable (call : StoreCall) : Prop :=
  call.fault ≠ some .mappingTableMissing

namespace MemoryTables

theorem update_mappingsReady {s s' : MemoryTables} {d : Descriptor} {locator : Locator}
    {cell : Cell} (h : s.update d locator cell = .ok s') :
    s'.mappingsReady = s.mappingsReady := by
  unfold update at h
  split at h
  · contradiction
  split at h
  · contradiction
  split at h
  · contradiction
  · obtain rfl := Except.ok.inj h
    rfl

/-- Rows fail to be scanned for want of a key. -/
theorem scanRows_fault (d : Descriptor) (rows : List StoredRow) :
    faultOf (scanRows d rows) ≠ some .mappingTableMissing := by
  induction rows with
  | nil => exact nofun
  | cons row rest ih =>
    have hrow : ∀ e, scanRow d row = .error e → e ≠ .mappingTableMissing := by
      rintro e he rfl
      unfold scanRow addressOf at he
      split at he
      · rename_i e' haddress
        obtain rfl := Except.error.inj he
        split at haddress
        · contradiction
        split at haddress <;> exact nomatch haddress
      · contradiction
    unfold scanRows
    split
    · rename_i e he
      exact fun hfault => hrow e he (Option.some.inj hfault)
    · cases hrest : scanRows d rest with
      | error e => rwa [hrest] at ih
      | ok rs => exact nofun

theorem scan_fault (s : MemoryTables) (d : Descriptor) :
    faultOf (s.scan d) ≠ some .mappingTableMissing := by
  unfold scan
  split
  · exact nofun
  split
  · exact nofun
  · exact scanRows_fault d _

theorem update_fault (s : MemoryTables) (d : Descriptor) (locator : Locator) (cell : Cell) :
    faultOf (s.update d locator cell) ≠ some .mappingTableMissing := by
  unfold update
  split
  · exact nofun
  split
  · exact nofun
  split <;> exact nofun

theorem putMapping_fault {s : MemoryTables} (hs : s.mappingsReady = true) (t : Transaction)
    (legacyId email newId : String) :
    faultOf (s.putMapping t legacyId email newId) ≠ some .mappingTableMissing := by
  rw [putMapping, if_pos hs]
  exact (Option.some_ne_none _).symm

theorem addTargetUser_fault (s : MemoryTables) (t : Transaction) (u : TargetUser) :
    faultOf (s.addTargetUser t u) ≠ some .mappingTableMissing := by
  unfold addTargetUser
  split
  · exact nofun
  split <;> exact nofun

theorem addMembership_fault (s : MemoryTables) (t : Transaction) (m : Membership) :
    faultOf (s.addMembership t m) ≠ some .mappingTableMissing := by
  unfold addMembership
  split
  · exact nofun
  split <;> exact nofun

end MemoryTables

namespace Rehearsal

variable {i : Interference φ} {request : StoreRequest} {point : Point} {α : Type}

/-- A call that finds a table of mappings leaves it, and does not fail for want of one. -/
abbrev FindsTable (request : StoreRequest) (act : StateM (World φ) (Except StoreFault α)) : Prop :=
  Permits World.HasTable StoreCall.MeetsTable request act

theorem findsTable_query {f : MemoryTables → Except StoreFault α}
    (h : ∀ s, s.mappingsReady = true → faultOf (f s) ≠ some .mappingTableMissing) :
    FindsTable request (query (φ := φ) f) :=
  fun w hw => ⟨hw, h w.store hw⟩

/-- Reading the tables does not fail. -/
theorem findsTable_read {f : MemoryTables → α} :
    FindsTable request (query (φ := φ) fun s => .ok (f s)) :=
  fun _ hw => ⟨hw, nofun⟩

theorem findsTable_pure {a : α} : FindsTable (φ := φ) request (pure (.ok a)) :=
  fun _ hw => ⟨hw, nofun⟩

theorem findsTable_guarded {act : StateM (World φ) (Except StoreFault α)}
    (h : FindsTable request act) : FindsTable request (guarded i point act) :=
  fun _ hw => ends_hooked i.keeps_any trivial (fun _ _ _ => ⟨hw, nofun⟩) fun _ _ => h _ hw

theorem findsTable_watched {act : StateM (World φ) (Except StoreFault α)}
    (h : FindsTable request act) : FindsTable request (watched i point act) := by
  intro w hw
  refine ends_watched i.keeps_any ((h w hw).mono ?_)
  rintro (e | a) w' hend
  · exact hend
  · exact ⟨trivial, fun _ _ => hend⟩

theorem findsTable_update (d : Descriptor) (locator : Locator) (cell : Cell) :
    FindsTable request ((store i).update d locator cell) := by
  refine findsTable_watched fun w hw => ?_
  rw [ends_change]
  have hfault := w.store.update_fault d locator cell
  split
  · rename_i e he
    rw [he] at hfault
    exact ⟨hw, hfault⟩
  · rename_i s hs
    exact ⟨(MemoryTables.update_mappingsReady hs).trans hw, nofun⟩

theorem findsTable_commit (t : Transaction) : FindsTable request ((store i).commit t) :=
  findsTable_watched (findsTable_guarded fun w hw =>
    ⟨(MemoryTables.commit_mappingsReady _ w.store t).trans hw, nofun⟩)

/-- Once the mappings are prepared, the store in memory never misses their table. -/
theorem store_findsTable (i : Interference φ) :
    (store i).Keeps World.HasTable StoreCall.MeetsTable where
  latestMapping _ := findsTable_guarded findsTable_read
  mappingsByAge := findsTable_guarded findsTable_read
  legacyUsersByAge := findsTable_guarded findsTable_read
  legacyUserById _ := findsTable_guarded findsTable_read
  mappedUsers := findsTable_guarded findsTable_read
  scan d := findsTable_watched (findsTable_query fun s _ => s.scan_fault d)
  update d locator cell := findsTable_update d locator cell
  beginTransaction := findsTable_guarded findsTable_pure
  putMapping t _ _ _ := findsTable_query fun _ hs => MemoryTables.putMapping_fault hs t _ _ _
  hasTargetUser _ _ := findsTable_guarded findsTable_read
  addTargetUser t u := findsTable_query fun s _ => s.addTargetUser_fault t u
  hasMembership _ _ _ := findsTable_guarded findsTable_read
  addMembership t m := findsTable_query fun s _ => s.addMembership_fault t m
  commit t := findsTable_commit t
  rollback _ := findsTable_watched (findsTable_guarded findsTable_pure)

/-- Preparing the mappings makes their table, or fails as it was made to. -/
theorem prepareMappings_cases (i : Interference φ) (w : World φ) :
    Ends (store i).prepareMappings w fun r w' =>
      r = .ok () ∧ w'.HasTable ∨ r = .error (injected .prepareMappings) :=
  ends_hooked i.keeps_any trivial (fun _ _ _ => .inr rfl) fun _ _ => .inl ⟨rfl, rfl⟩

end Rehearsal

/-- A campaign over the store in memory that has prepared the mappings if it is open. -/
structure OverTables (i : Interference φ) (c : Campaign (World φ) Transaction) (w : World φ) :
    Prop where
  store : c.store = Rehearsal.store i
  others : c.OthersPreserve World.HasTable
  table : c.ready = true → w.HasTable

namespace OverTables

variable {i : Interference φ} {c : Campaign (World φ) Transaction} {w w' : World φ} {o : Operation}

/-- A campaign that is not open asks nothing of the world. -/
theorem of_unready (h : OverTables i c w) (hready : c.ready = false) : OverTables i c w' :=
  ⟨h.store, h.others, fun hopen => absurd (hready.symm.trans hopen) Bool.false_ne_true⟩

theorem opened (h : OverTables i c w) (hw' : w'.HasTable) :
    OverTables i { c with ready := true } w' where
  store := h.store
  others := ⟨h.others.accountOf, h.others.createAccount, h.others.contains, h.others.copy,
    h.others.move, h.others.stopRequested⟩
  table _ := hw'

/-- Setting a campaign up meets no missing table, and opens it only when the table is there. -/
theorem setUp (h : OverTables i c w) :
    (∀ call ∈ (c.observe .setUp w).calls, call.MeetsTable) ∧
      OverTables i (c.perform .setUp (.start w)).1.2 (c.perform .setUp (.start w)).2.world := by
  cases hready : c.ready with
  | true =>
    obtain ⟨hseen, hdone⟩ := Campaign.observe_setUp_of_ready (w := w) hready
    rw [hseen, hdone]
    exact ⟨fun _ hcall => (nomatch hcall), h⟩
  | false =>
    have hcases := Rehearsal.prepareMappings_cases i w
    unfold Ends at hcases
    rw [← h.store] at hcases
    match hcall : c.store.prepareMappings w with
    | (.error e, w') =>
      obtain ⟨hseen, hfailed⟩ := Campaign.observe_setUp_failed hready hcall
      rw [hcall] at hcases
      obtain ⟨hok, -⟩ | hinjected := hcases
      · exact nomatch hok
      -- the only failure is one that the store was made to show
      obtain rfl := Except.error.inj hinjected
      rw [hseen, hfailed]
      refine ⟨?_, h.of_unready hready⟩
      simp [StoreCall.MeetsTable, Rehearsal.injected]
    | (.ok (), w') =>
      obtain ⟨hseen, hdone⟩ := Campaign.observe_setUp_done hready hcall
      rw [hcall] at hcases
      obtain ⟨-, htable⟩ | hinjected := hcases
      · rw [hseen, hdone]
        refine ⟨?_, h.opened htable⟩
        simp [StoreCall.MeetsTable]
      · exact nomatch hinjected

/-- No operation meets a missing table. -/
theorem perform (h : OverTables i c w) (o : Operation) :
    (∀ call ∈ (c.observe o w).calls, call.MeetsTable) ∧
      OverTables i (c.perform o (.start w)).1.2 (c.perform o (.start w)).2.world := by
  by_cases ho : o = .setUp
  · exact ho ▸ h.setUp
  cases hready : c.ready with
  | true =>
    -- what is kept by every call of the store is kept by whatever the operation asks for
    have hkeeps : c.Keeps World.HasTable StoreCall.MeetsTable :=
      ⟨h.store ▸ Rehearsal.store_findsTable i, h.others⟩
    obtain ⟨hcalls, hgood⟩ := hkeeps.observe ho (h.table hready)
    rw [Campaign.perform_eq ho] at hgood ⊢
    exact ⟨hcalls, h.store, h.others, fun _ => hgood⟩
  | false =>
    have hrefuses := Campaign.observe_refuses (w := w)
      (Campaign.perform_unready (c := c.watched) hready ho)
    rw [Campaign.perform_unready hready ho, hrefuses.2.1]
    exact ⟨fun _ hcall => (nomatch hcall), h⟩

/-- No operation of a history meets a missing table, if what happens in between removes none. -/
theorem history (h : OverTables i c w) (turns : List (Turn (World φ)))
    (hturns : ∀ turn ∈ turns, ∀ w : World φ, w.HasTable → (turn.before w).HasTable) :
    ∀ e ∈ c.history w turns, ∀ call ∈ e.calls, call.MeetsTable := by
  induction turns generalizing c w with
  | nil => exact fun _ he => nomatch he
  | cons turn rest ih =>
    have hbefore : OverTables i c (turn.before w) :=
      ⟨h.store, h.others, fun hopen => hturns turn List.mem_cons_self w (h.table hopen)⟩
    obtain ⟨hcalls, hafter⟩ := hbefore.perform turn.operation
    rw [Campaign.history_cons]
    refine List.forall_mem_cons.mpr ⟨hcalls, ih hafter fun turn hturn => ?_⟩
    exact hturns turn (List.mem_cons_of_mem _ hturn)

end OverTables

/-- The gate of a campaign. Whatever is asked of a campaign that was assembled, over whatever
collaborators: it is refused without a call until the campaign is set up, the mappings are prepared
once, and what lacks its collaborator is refused without a call afterwards. Over the store in
memory, whatever it is made to fail at, no call fails for want of the table of mappings. What is
observed of an operation is what the operation answers. -/
theorem campaign_gate :
    (∀ {σ τ : Type} (c : Campaign σ τ) (o : Operation) (w : σ),
      (c.observe o w).result = (c.perform o (.start w)).1.1) ∧
    (∀ {σ τ : Type} (k : Collaborators σ τ) (layout : Layout) (dryRun : Bool)
      (c : Campaign σ τ) (w : σ) (turns : List (Turn σ)),
      Campaign.assemble k layout dryRun = .ok c → Gated c (c.history w turns)) ∧
    ∀ {φ : Type} (i : Interference φ) (k : Collaborators (World φ) Transaction) (layout : Layout)
      (dryRun : Bool) (c : Campaign (World φ) Transaction) (w : World φ)
      (turns : List (Turn (World φ))),
      Campaign.assemble k layout dryRun = .ok c → c.store = Rehearsal.store i →
      c.OthersPreserve World.HasTable →
      (∀ turn ∈ turns, ∀ w : World φ, w.HasTable → (turn.before w).HasTable) →
      ∀ e ∈ c.history w turns, ∀ call ∈ e.calls, call.MeetsTable := by
  refine ⟨Campaign.observe_result, fun k layout dryRun c w turns h => ?_,
    fun i k layout dryRun c w turns h hstore hothers hturns => ?_⟩
  · exact Campaign.history_gated (Campaign.ready_of_assemble h) w turns
  · have hover : OverTables i c w :=
      ⟨hstore, hothers, fun hopen =>
        absurd hopen (Bool.eq_false_iff.mp (Campaign.ready_of_assemble h))⟩
    exact hover.history turns hturns

namespace Rehearsal

/-- The collaborators of a session without an object storage. -/
def Stage.gatekeepers : Collaborators Stage Transaction :=
  Session.collaborators ⟨true, true, false, false, false, .standard⟩

/-- A campaign over them that is not set up. -/
def Stage.shut : Campaign Stage Transaction :=
  { Stage.campaign with storage := none, ready := false }

/-- A user is asked for too early, setting up fails and then succeeds, and the user is migrated.
Then the campaign is set up again, and files are asked for. -/
def Stage.turns : List (Turn Stage) :=
  [⟨id, .migrateById Stage.ada.legacyId⟩,
    ⟨fun w => { w with mind := Session.setFault (.prepareMappings, none) true w.mind }, .setUp⟩,
    ⟨fun w => { w with mind := Session.setFault (.prepareMappings, none) false w.mind }, .setUp⟩,
    ⟨id, .migrateById Stage.ada.legacyId⟩, ⟨id, .setUp⟩, ⟨id, .relocateFiles⟩]

/-- A stage without a table of mappings. -/
def Stage.unprepared : Stage :=
  { Stage.start with store := { MemoryTables.empty with legacyUsers := [Stage.ada] } }

theorem Stage.shut_othersPreserve : Stage.shut.OthersPreserve World.HasTable where
  accountOf p hp _ _ hw := by
    obtain rfl := Option.some.inj hp
    exact hw
  createAccount p hp _ _ hw := by
    obtain rfl := Option.some.inj hp
    exact hw
  contains _ hs := nomatch hs
  copy _ hs := nomatch hs
  move _ hs := nomatch hs
  stopRequested _ hw := hw

/-- Six turns: a refusal, a failed and a successful attempt to set up, a user in seven calls, and
two turns without a call. -/
theorem campaign_gate_turns :
    let history := Stage.shut.history Stage.unprepared Stage.turns
    Campaign.assemble Stage.gatekeepers .standard false = .ok Stage.shut ∧
      Gated Stage.shut history ∧ (∀ e ∈ history, ∀ call ∈ e.calls, call.MeetsTable) ∧
      history.map (fun e => (e.calls.length, e.others)) =
        [(0, 0), (1, 0), (1, 0), (7, 2), (0, 0), (0, 0)] := by
  obtain ⟨-, hgated, htable⟩ := campaign_gate
  refine ⟨rfl, hgated Stage.gatekeepers .standard false Stage.shut Stage.unprepared Stage.turns rfl,
    htable Script.interference Stage.gatekeepers .standard false Stage.shut Stage.unprepared
      Stage.turns rfl rfl Stage.shut_othersPreserve ?_, ?_⟩
  · intro turn hturn w hw
    simp only [Stage.turns, List.mem_cons, List.not_mem_nil, or_false] at hturn
    rcases hturn with rfl | rfl | rfl | rfl | rfl | rfl <;> exact hw
  · decide +kernel

end Rehearsal

end Rekey

import Rekey.Proofs.Campaign.Agreement
import Rekey.Proofs.Campaign.Failing

/-!
# Watching a campaign

A campaign is watched through collaborators that do what its own do and take notes: the calls of
the store one by one, and the number of calls of the provider and the object storage. Watching
changes no answer and no world. What every call of the store keeps and allows, whatever the
campaign asks, then holds of the notes.
-/

namespace Rekey

variable {σ τ α : Type}

/-- A world with the calls of the store and the number of calls of the other collaborators. -/
structure Watched (σ : Type) where
  store : Recorded σ
  others : Nat

namespace Watched

/-- A world in which no call was made. -/
def start (w : σ) : Watched σ := ⟨.start w, 0⟩

/-- The store with its calls. -/
def storePart : Part (Watched σ) (Recorded σ) :=
  ⟨Watched.store, fun r v => { v with store := r }⟩

/-- The world alone. -/
def worldPart : Part (Watched σ) σ :=
  ⟨fun v => v.store.world, fun w v => { v with store := { v.store with world := w } }⟩

/-- A call that is counted. -/
def counted (act : StateM σ α) : StateM (Watched σ) α := fun v =>
  let (a, v) := worldPart.lift act v
  (a, { v with others := v.others + 1 })

end Watched

/-- The provider with its calls counted. -/
def Provider.watched (p : Provider σ) : Provider (Watched σ) where
  name := p.name
  accountOf email := Watched.counted (p.accountOf email)
  createAccount email := Watched.counted (p.createAccount email)

/-- The object storage with its calls counted. -/
def ObjectStorage.watched (s : ObjectStorage σ) : ObjectStorage (Watched σ) where
  contains path := Watched.counted (s.contains path)
  copy target source := Watched.counted (s.copy target source)
  move target source := Watched.counted (s.move target source)

/-- The campaign with its collaborators watched. -/
def Campaign.watched (c : Campaign σ τ) : Campaign (Watched σ) τ where
  store := Watched.storePart.store c.store.recorded
  provider := c.provider.map .watched
  storage := c.storage.map .watched
  stopRequested := Watched.worldPart.lift c.stopRequested
  layout := c.layout
  dryRun := c.dryRun
  ready := c.ready

/-! ## What the notes say -/

/-- In a good world the call leads to a good world and is allowed. -/
def Permits (Good : σ → Prop) (Allowed : StoreCall → Prop) (request : StoreRequest)
    (act : StateM σ (Except StoreFault α)) : Prop :=
  ∀ w, Good w → Ends act w fun r w' => Good w' ∧ Allowed ⟨request, faultOf r⟩

/-- In good worlds every call of the store, apart from preparing the mappings, is allowed, and the
world stays good. -/
structure Store.Keeps (Good : σ → Prop) (Allowed : StoreCall → Prop) (s : Store σ τ) : Prop where
  latestMapping : ∀ identifier,
    Permits Good Allowed (.outside (.latestMapping identifier)) (s.latestMapping identifier)
  mappingsByAge : Permits Good Allowed (.outside .mappingsByAge) s.mappingsByAge
  legacyUsersByAge : Permits Good Allowed (.outside .legacyUsersByAge) s.legacyUsersByAge
  legacyUserById : ∀ legacyId,
    Permits Good Allowed (.outside (.legacyUserById legacyId)) (s.legacyUserById legacyId)
  mappedUsers : Permits Good Allowed (.outside .mappedUsers) s.mappedUsers
  scan : ∀ d, Permits Good Allowed (.outside (.scan d)) (s.scan d)
  update : ∀ d locator cell,
    Permits Good Allowed (.outside (.update d locator cell)) (s.update d locator cell)
  beginTransaction : Permits Good Allowed .begin s.beginTransaction
  putMapping : ∀ t legacyId email newId,
    Permits Good Allowed (.within (.putMapping legacyId email newId))
      (s.putMapping t legacyId email newId)
  hasTargetUser : ∀ t id, Permits Good Allowed (.within (.hasTargetUser id)) (s.hasTargetUser t id)
  addTargetUser : ∀ t u, Permits Good Allowed (.within (.addTargetUser u)) (s.addTargetUser t u)
  hasMembership : ∀ t userId tenantId,
    Permits Good Allowed (.within (.hasMembership userId tenantId))
      (s.hasMembership t userId tenantId)
  addMembership : ∀ t m, Permits Good Allowed (.within (.addMembership m)) (s.addMembership t m)
  commit : ∀ t, Permits Good Allowed (.within .commit) (s.commit t)
  rollback : ∀ t, Permits Good Allowed (.within .rollback) (s.rollback t)

/-- The action keeps the world good. -/
def Preserves (Good : σ → Prop) (act : StateM σ α) : Prop :=
  ∀ w, Good w → Good (act w).2

/-- The collaborators of a campaign beside the store keep the world good. -/
structure Campaign.OthersPreserve (Good : σ → Prop) (c : Campaign σ τ) : Prop where
  accountOf : ∀ p, c.provider = some p → ∀ email, Preserves Good (p.accountOf email)
  createAccount : ∀ p, c.provider = some p → ∀ email, Preserves Good (p.createAccount email)
  contains : ∀ s, c.storage = some s → ∀ path, Preserves Good (s.contains path)
  copy : ∀ s, c.storage = some s → ∀ target source, Preserves Good (s.copy target source)
  move : ∀ s, c.storage = some s → ∀ target source, Preserves Good (s.move target source)
  stopRequested : Preserves Good c.stopRequested

/-- The calls of all collaborators keep the world good, and those of the store are allowed. -/
structure Campaign.Keeps (Good : σ → Prop) (Allowed : StoreCall → Prop) (c : Campaign σ τ) :
    Prop where
  store : c.store.Keeps Good Allowed
  others : c.OthersPreserve Good

/-- The notes belong to this world, it is good, and all calls so far are allowed. -/
structure Tracks (Good : σ → Prop) (Allowed : StoreCall → Prop) (v : Watched σ) (w : σ) :
    Prop where
  world : v.store.world = w
  good : Good w
  calls : ∀ call ∈ v.store.calls, Allowed call

section Tracking

variable {Good : σ → Prop} {Allowed : StoreCall → Prop}

theorem Tracks.start {w : σ} (h : Good w) : Tracks Good Allowed (.start w) w :=
  ⟨rfl, h, fun _ hcall => nomatch hcall⟩

theorem agree_watched_call {request : StoreRequest} {act : StateM σ (Except StoreFault α)}
    (h : Permits Good Allowed request act) :
    Agree (Tracks Good Allowed) (Watched.storePart.lift (recorded request act)) act := by
  rintro v _ ⟨rfl, hgood, hcalls⟩
  obtain ⟨hgood', hallowed⟩ := h _ hgood
  refine ⟨rfl, rfl, hgood', fun call hcall => ?_⟩
  rcases List.mem_append.mp hcall with hold | hnew
  · exact hcalls call hold
  · obtain rfl := List.mem_singleton.mp hnew
    exact hallowed

theorem agree_counted {act : StateM σ α} (h : Preserves Good act) :
    Agree (Tracks Good Allowed) (Watched.counted act) act := by
  rintro v _ ⟨rfl, hgood, hcalls⟩
  exact ⟨rfl, rfl, h _ hgood, hcalls⟩

theorem agree_worldPart {act : StateM σ α} (h : Preserves Good act) :
    Agree (Tracks Good Allowed) (Watched.worldPart.lift act) act := by
  rintro v _ ⟨rfl, hgood, hcalls⟩
  exact ⟨rfl, rfl, h _ hgood, hcalls⟩

/-- A watched campaign agrees with the campaign, and its notes with what the calls keep. -/
theorem Campaign.Keeps.agrees {c : Campaign σ τ} (h : c.Keeps Good Allowed) :
    c.watched.Agrees (Tracks Good Allowed) c where
  transactions :=
    { beginTransaction := agree_watched_call h.store.beginTransaction
      putMapping t l e n := agree_watched_call (h.store.putMapping t l e n)
      hasTargetUser t id := agree_watched_call (h.store.hasTargetUser t id)
      addTargetUser t u := agree_watched_call (h.store.addTargetUser t u)
      hasMembership t u n := agree_watched_call (h.store.hasMembership t u n)
      addMembership t m := agree_watched_call (h.store.addMembership t m)
      commit t := agree_watched_call (h.store.commit t)
      rollback t := agree_watched_call (h.store.rollback t) }
  outside :=
    { latestMapping i := agree_watched_call (h.store.latestMapping i)
      mappingsByAge := agree_watched_call h.store.mappingsByAge
      legacyUsersByAge := agree_watched_call h.store.legacyUsersByAge
      legacyUserById l := agree_watched_call (h.store.legacyUserById l)
      mappedUsers := agree_watched_call h.store.mappedUsers
      scan d := agree_watched_call (h.store.scan d)
      update d l x := agree_watched_call (h.store.update d l x) }
  provider := by
    unfold Campaign.watched
    cases hp : c.provider with
    | none => exact .none
    | some p =>
      exact .some ⟨rfl, fun email => agree_counted (h.others.accountOf p hp email),
        fun email => agree_counted (h.others.createAccount p hp email)⟩
  storage := by
    unfold Campaign.watched
    cases hs : c.storage with
    | none => exact .none
    | some s =>
      exact .some ⟨fun path => agree_counted (h.others.contains s hs path),
        fun target source => agree_counted (h.others.copy s hs target source),
        fun target source => agree_counted (h.others.move s hs target source)⟩
  stopRequested := agree_worldPart h.others.stopRequested
  layout := rfl
  dryRun := rfl
  ready := rfl

end Tracking

/-! ## Observations -/

/-- What was seen of an operation: its result, the calls of the store, and how many calls the other
collaborators had. -/
structure Observation where
  operation : Operation
  result : Except Failure Answer
  calls : List StoreCall
  others : Nat

namespace Campaign

/-- Does an operation and takes notes. -/
def observe (c : Campaign σ τ) (o : Operation) (w : σ) : Observation :=
  let ((result, _), r) := c.watched.perform o (.start (.start w))
  ⟨o, result, r.world.store.calls, r.world.others⟩

variable {Good : σ → Prop} {Allowed : StoreCall → Prop} {c : Campaign σ τ} {o : Operation} {w : σ}

/-- The calls that an operation makes are allowed, and it leaves the world good. -/
theorem Keeps.observe (h : c.Keeps Good Allowed) (ho : o ≠ .setUp) (hw : Good w) :
    (∀ call ∈ (c.observe o w).calls, Allowed call) ∧ Good (c.perform o (.start w)).2.world := by
  obtain ⟨-, hend⟩ := h.agrees.answer joinsTelling_eq ho (.start (.start w)) (.start w)
    ⟨.start hw, rfl⟩
  exact ⟨hend.world.calls, hend.world.good⟩

/-- Every store keeps to the requests that are not for preparing the mappings. -/
theorem keeps_requests (c : Campaign σ τ) :
    c.Keeps (fun _ => True) fun call => call.request ≠ .outside .prepareMappings where
  store := by
    constructor <;> intros <;> exact fun _ _ => ⟨trivial, nofun⟩
  others := by
    constructor <;> intros <;> exact fun _ _ => trivial

/-- What is seen of setting up a campaign that is set up. -/
theorem observe_setUp_of_ready (h : c.ready = true) :
    c.observe .setUp w = ⟨.setUp, .ok .done, [], 0⟩ ∧
      c.perform .setUp (.start w) = ((.ok .done, c), .start w) := by
  have hwatched : c.watched.ready = true := h
  simp only [observe, perform, setUp_of_ready h, setUp_of_ready hwatched]
  exact ⟨rfl, rfl⟩

/-- What is seen of a campaign that cannot be set up: the call that failed. -/
theorem observe_setUp_failed (h : c.ready = false) {e : StoreFault} {w' : σ}
    (hcall : c.store.prepareMappings w = (.error e, w')) :
    c.observe .setUp w =
        ⟨.setUp, .error (.store e), [⟨.outside .prepareMappings, some e⟩], 0⟩ ∧
      c.perform .setUp (.start w) = ((.error (.store e), c), .start w') := by
  have hwatched : c.watched.ready = false := h
  have hnoted : c.watched.store.prepareMappings (.start w) =
      (.error e, ⟨⟨w', [⟨.outside .prepareMappings, some e⟩]⟩, 0⟩) := by
    simp [watched, Part.store, Part.lift, Store.recorded, recorded, Watched.storePart,
      Watched.start, Recorded.start, faultOf, hcall]
  refine ⟨?_, bind_of_eq (setUp_failed c h hcall [])⟩
  rw [observe, perform, Run.start, bind_of_eq (setUp_failed _ hwatched hnoted [])]
  rfl

/-- What is seen of a campaign that is set up: the call that succeeded. -/
theorem observe_setUp_done (h : c.ready = false) {w' : σ}
    (hcall : c.store.prepareMappings w = (.ok (), w')) :
    c.observe .setUp w = ⟨.setUp, .ok .done, [⟨.outside .prepareMappings, none⟩], 0⟩ ∧
      c.perform .setUp (.start w) =
        ((.ok .done, { c with ready := true }), ⟨w', [.mappingTableReady]⟩) := by
  have hwatched : c.watched.ready = false := h
  have hnoted : c.watched.store.prepareMappings (.start w) =
      (.ok (), ⟨⟨w', [⟨.outside .prepareMappings, none⟩]⟩, 0⟩) := by
    simp [watched, Part.store, Part.lift, Store.recorded, recorded, Watched.storePart,
      Watched.start, Recorded.start, faultOf, hcall]
  refine ⟨?_, bind_of_eq (setUp_done c h hcall [])⟩
  rw [observe, perform, Run.start, bind_of_eq (setUp_done _ hwatched hnoted [])]
  rfl

/-- The answer of an observed operation is the answer of the operation. -/
theorem observe_result (c : Campaign σ τ) (o : Operation) (w : σ) :
    (c.observe o w).result = (c.perform o (.start w)).1.1 := by
  by_cases ho : o = .setUp
  · subst ho
    cases h : c.ready with
    | true =>
      obtain ⟨hseen, hdone⟩ := observe_setUp_of_ready (w := w) h
      rw [hseen, hdone]
    | false =>
      match hcall : c.store.prepareMappings w with
      | (.error e, w') =>
        obtain ⟨hseen, hfailed⟩ := observe_setUp_failed h hcall
        rw [hseen, hfailed]
      | (.ok (), w') =>
        obtain ⟨hseen, hdone⟩ := observe_setUp_done h hcall
        rw [hseen, hdone]
  · obtain ⟨hresult, -⟩ := c.keeps_requests.agrees.answer joinsTelling_eq ho
      (.start (.start w)) (.start w) ⟨.start trivial, rfl⟩
    exact hresult

end Campaign

end Rekey

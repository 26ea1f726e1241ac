import Rekey.File.Layout
import Rekey.Migration.Event

/-!
# Collaborators

A migration works through a store, an identity provider and an object storage. Each is a record of
actions on a world `σ` that holds whatever they keep. A run adds the events told so far.
-/

namespace Rekey

/-- A relational store over a world `σ`. An open transaction is a value of type `τ`; a write in it
answers the transaction with the write in it. -/
structure Store (σ τ : Type) where
  prepareMappings : StateM σ (Except StoreFault Unit)
  latestMapping (identifier : String) : StateM σ (Except StoreFault (Option Mapping))
  mappingsByAge : StateM σ (Except StoreFault (List Mapping))
  legacyUsersByAge : StateM σ (Except StoreFault (List LegacyUser))
  legacyUserById (legacyId : String) : StateM σ (Except StoreFault (Option LegacyUser))
  mappedUsers : StateM σ (Except StoreFault (List MappedUser))
  scan (d : Descriptor) : StateM σ (Except StoreFault (List ScannedRow))
  update (d : Descriptor) (locator : Locator) (cell : Cell) : StateM σ (Except StoreFault Unit)
  beginTransaction : StateM σ (Except StoreFault τ)
  putMapping (t : τ) (legacyId email newId : String) : StateM σ (Except StoreFault τ)
  hasTargetUser (t : τ) (id : String) : StateM σ (Except StoreFault Bool)
  addTargetUser (t : τ) (u : TargetUser) : StateM σ (Except StoreFault τ)
  hasMembership (t : τ) (userId tenantId : String) : StateM σ (Except StoreFault Bool)
  addMembership (t : τ) (m : Membership) : StateM σ (Except StoreFault τ)
  commit (t : τ) : StateM σ (Except StoreFault Unit)
  rollback (t : τ) : StateM σ (Except StoreFault Unit)

/-- An identity provider over a world `σ`. -/
structure Provider (σ : Type) where
  name : String
  accountOf (email : String) : StateM σ (Except ProviderFault Account)
  createAccount (email : String) : StateM σ (Except ProviderFault Account)

/-- An object storage over a world `σ`. -/
structure ObjectStorage (σ : Type) where
  contains (path : String) : StateM σ (Except ObjectFault Bool)
  copy (target source : String) : StateM σ (Except ObjectFault Unit)
  move (target source : String) : StateM σ (Except ObjectFault Unit)

/-- A world and the events told so far, the latest first. -/
structure Run (σ : Type) where
  world : σ
  journal : List Event

/-- A run that has told nothing. -/
def Run.start {σ : Type} (world : σ) : Run σ := ⟨world, []⟩

/-- The events in the order they were told. -/
def Run.events {σ : Type} (r : Run σ) : List Event := r.journal.reverse

/-- An action of a migration. -/
abbrev Action (σ α : Type) := StateM (Run σ) α

/-- An action on the world alone. -/
def call {σ α : Type} (act : StateM σ α) : Action σ α := fun r =>
  let (a, w) := act r.world
  (a, ⟨w, r.journal⟩)

/-- Tells an event. -/
def tell {σ : Type} (e : Event) : Action σ Unit := fun r =>
  ((), ⟨r.world, e :: r.journal⟩)

end Rekey

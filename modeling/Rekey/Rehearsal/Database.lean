import Rekey.Memory.Collaborators
import Rekey.Migration.Part
import Rekey.Rehearsal.Step
import Rekey.Sql.Playback
import Rekey.Sql.Store

/-!
# Rehearsals with a scripted database

A script of calls to a store in a database that answers from a script, with an identity provider in
memory for the migrations among the calls. At most one transaction is open.
-/

namespace Rekey.Rehearsal

open Rekey.Sql (Playback Database)

/-- The world of a rehearsal with a database. -/
structure DatabaseStage where
  database : Database Playback
  provider : MemoryProvider

/-- The database of such a world. -/
def databasePart : Part DatabaseStage (Database Playback) :=
  ⟨DatabaseStage.database, fun d w => { w with database := d }⟩

/-- The provider of such a world. -/
def providerPart : Part DatabaseStage MemoryProvider :=
  ⟨DatabaseStage.provider, fun p w => { w with provider := p }⟩

/-- A call to the store, or to a campaign over it. -/
inductive DatabaseStep where
  | store (step : StoreStep)
  | begin
  | within (step : TransactionStep)
  | operation (o : Operation)
deriving Repr, Inhabited

/-- A rehearsal with a database. -/
structure DatabaseSession where
  tables : Schema
  stage : DatabaseStage
  transaction : Option Unit
  campaign : Option (Campaign DatabaseStage Unit)

namespace DatabaseSession

/-- A rehearsal before its first call. -/
def start (tables : Schema) (script : List Sql.ScriptedReply) : DatabaseSession :=
  ⟨tables, ⟨.fresh ⟨script, []⟩, .empty⟩, none, none⟩

/-- The store. -/
def store (s : DatabaseSession) : Store DatabaseStage Unit :=
  databasePart.store (Sql.store Playback.send s.tables)

/-- A campaign over the store that is not set up. -/
def newCampaign (s : DatabaseSession) : Campaign DatabaseStage Unit where
  store := s.store
  provider := some (providerPart.provider MemoryProvider.collaborator)
  storage := none
  stopRequested := pure false
  layout := .standard
  dryRun := false
  ready := false

/-- Does an operation with a campaign. -/
def operate (s : DatabaseSession) (c : Campaign DatabaseStage Unit) (o : Operation) :
    Action DatabaseStage (Outcome × DatabaseSession) := do
  let (r, c) ← c.perform o
  pure ((r.map .answer).mapError .failure, { s with campaign := some c })

/-- One call. The first operation sets the campaign up, and fails if that fails. -/
def act (s : DatabaseSession) : DatabaseStep → Action DatabaseStage (Outcome × DatabaseSession)
  | .store step => do pure (← call (storeOutcome s.store step), s)
  | .begin => do
    match ← call s.store.beginTransaction with
    | .error e => pure (.error (.store e), s)
    | .ok t => pure (.ok .done, { s with transaction := some t })
  | .within step =>
    match s.transaction with
    | none => pure (.error .noTransaction, s)
    | some t => do
      let (r, t) ← call (transactionOutcome s.store t step)
      pure (r, { s with transaction := t })
  | .operation o =>
    match s.campaign with
    | some c => s.operate c o
    | none => do
      match ← s.newCampaign.setUp with
      | (.error f, c) => pure (.error (.failure f), { s with campaign := some c })
      | (.ok _, c) => s.operate c o

/-- Does one call. -/
def perform (s : DatabaseSession) (step : DatabaseStep) : Outcome × DatabaseSession :=
  let ((r, s'), run) := s.act step (.start s.stage)
  (r, { s' with stage := run.world })

/-- The statements sent so far. -/
def statements (s : DatabaseSession) : List Sql.Statement := s.stage.database.server.statements

end DatabaseSession

end Rekey.Rehearsal

import Rekey.Migration.Part
import Rekey.Proofs.Users.Agreement
import Rekey.Rehearsal.Step

/-!
# Recording the calls of a store

A store that records its calls does what the store does and keeps, in order, what was asked of it
and with which fault each call ended. A migration cannot tell the two apart, so what the record
shows is what the migration asks of the store itself.
-/

namespace Rekey

open Rehearsal (StoreStep TransactionStep)

variable {σ τ α : Type}

/-- What can be asked of a store. -/
inductive StoreRequest where
  | begin
  | within (step : TransactionStep)
  | outside (step : StoreStep)
deriving Repr, Inhabited

/-- A call of a store: what was asked, and the fault that the call ended with, if it failed. -/
structure StoreCall where
  request : StoreRequest
  fault : Option StoreFault
deriving Repr, Inhabited

/-- The fault that an answer reports. -/
def faultOf : Except StoreFault α → Option StoreFault
  | .ok _ => none
  | .error e => some e

/-- A world with the calls made so far, in order. -/
structure Recorded (σ : Type) where
  world : σ
  calls : List StoreCall

/-- A world in which no call was made. -/
def Recorded.start (w : σ) : Recorded σ := ⟨w, []⟩

/-- A call that is recorded. -/
def recorded (request : StoreRequest) (act : StateM σ (Except StoreFault α)) :
    StateM (Recorded σ) (Except StoreFault α) := fun r =>
  let (a, w) := act r.world
  (a, ⟨w, r.calls ++ [⟨request, faultOf a⟩]⟩)

/-- The store with its calls recorded. -/
def Store.recorded (s : Store σ τ) : Store (Recorded σ) τ where
  prepareMappings := Rekey.recorded (.outside .prepareMappings) s.prepareMappings
  latestMapping identifier :=
    Rekey.recorded (.outside (.latestMapping identifier)) (s.latestMapping identifier)
  mappingsByAge := Rekey.recorded (.outside .mappingsByAge) s.mappingsByAge
  legacyUsersByAge := Rekey.recorded (.outside .legacyUsersByAge) s.legacyUsersByAge
  legacyUserById legacyId :=
    Rekey.recorded (.outside (.legacyUserById legacyId)) (s.legacyUserById legacyId)
  mappedUsers := Rekey.recorded (.outside .mappedUsers) s.mappedUsers
  scan d := Rekey.recorded (.outside (.scan d)) (s.scan d)
  update d locator cell :=
    Rekey.recorded (.outside (.update d locator cell)) (s.update d locator cell)
  beginTransaction := Rekey.recorded .begin s.beginTransaction
  putMapping t legacyId email newId :=
    Rekey.recorded (.within (.putMapping legacyId email newId))
      (s.putMapping t legacyId email newId)
  hasTargetUser t id := Rekey.recorded (.within (.hasTargetUser id)) (s.hasTargetUser t id)
  addTargetUser t u := Rekey.recorded (.within (.addTargetUser u)) (s.addTargetUser t u)
  hasMembership t userId tenantId :=
    Rekey.recorded (.within (.hasMembership userId tenantId)) (s.hasMembership t userId tenantId)
  addMembership t m := Rekey.recorded (.within (.addMembership m)) (s.addMembership t m)
  commit t := Rekey.recorded (.within .commit) (s.commit t)
  rollback t := Rekey.recorded (.within .rollback) (s.rollback t)

/-- The provider beside a store with its calls recorded. -/
def Provider.beside (p : Provider σ) : Provider (Recorded σ) :=
  Part.provider ⟨Recorded.world, fun w r => { r with world := w }⟩ p

theorem agree_recorded {request : StoreRequest} {act : StateM σ (Except StoreFault α)} :
    Agree (fun r w => r.world = w) (recorded request act) act := by
  rintro r _ rfl
  exact ⟨rfl, rfl⟩

/-- Recording the calls changes no answer. -/
theorem Store.recorded_agrees (s : Store σ τ) :
    s.recorded.Agrees (fun r w => r.world = w) s where
  beginTransaction := agree_recorded
  putMapping _ _ _ _ := agree_recorded
  hasTargetUser _ _ := agree_recorded
  addTargetUser _ _ := agree_recorded
  hasMembership _ _ _ := agree_recorded
  addMembership _ _ := agree_recorded
  commit _ := agree_recorded
  rollback _ := agree_recorded

theorem Provider.beside_agrees (p : Provider σ) :
    p.beside.Agrees (fun r w => r.world = w) p where
  name := rfl
  accountOf _ := by
    rintro r _ rfl
    exact ⟨rfl, rfl⟩
  createAccount _ := by
    rintro r _ rfl
    exact ⟨rfl, rfl⟩

/-- Migrating a record with the calls recorded gives the same result and tells the same events. -/
theorem migrateRecord_recorded (store : Store σ τ) (provider : Provider σ) (u : LegacyUser)
    (w : σ) :
    let watched := migrateRecord store.recorded provider.beside u (.start (.start w))
    let plain := migrateRecord store provider u (.start w)
    watched.1 = plain.1 ∧ watched.2.world.world = plain.2.world ∧
      watched.2.journal = plain.2.journal := by
  have hjoins : JoinsTelling Eq := fun _ _ _ h => congrArg _ h
  obtain ⟨hresult, hend⟩ := agree_migrateRecord hjoins store.recorded_agrees
    provider.beside_agrees u (.start (.start w)) (.start w) ⟨rfl, rfl⟩
  exact ⟨hresult, hend.world, hend.journal⟩

end Rekey

import Rekey.Migration.Users
import Rekey.Proofs.Agreement

/-!
# Migrating a record over collaborators that agree

Two stores agree when the calls of a transaction do, and two providers when their calls do.
Migrating a record over both then gives the same result: a record sees nothing of the world but
the answers to its calls.
-/

namespace Rekey

variable {σ σ' τ : Type}

/-- Two stores whose transactions answer alike from worlds related by `W`. -/
structure Store.Agrees (W : σ → σ' → Prop) (store : Store σ τ) (store' : Store σ' τ) : Prop where
  beginTransaction : Agree W store.beginTransaction store'.beginTransaction
  putMapping : ∀ t legacyId email newId,
    Agree W (store.putMapping t legacyId email newId) (store'.putMapping t legacyId email newId)
  hasTargetUser : ∀ t id, Agree W (store.hasTargetUser t id) (store'.hasTargetUser t id)
  addTargetUser : ∀ t u, Agree W (store.addTargetUser t u) (store'.addTargetUser t u)
  hasMembership : ∀ t userId tenantId,
    Agree W (store.hasMembership t userId tenantId) (store'.hasMembership t userId tenantId)
  addMembership : ∀ t m, Agree W (store.addMembership t m) (store'.addMembership t m)
  commit : ∀ t, Agree W (store.commit t) (store'.commit t)
  rollback : ∀ t, Agree W (store.rollback t) (store'.rollback t)

/-- Two providers of one name that answer alike from worlds related by `W`. -/
structure Provider.Agrees (W : σ → σ' → Prop) (provider : Provider σ) (provider' : Provider σ') :
    Prop where
  name : provider.name = provider'.name
  accountOf : ∀ email, Agree W (provider.accountOf email) (provider'.accountOf email)
  createAccount : ∀ email, Agree W (provider.createAccount email) (provider'.createAccount email)

/-- A store answers as it does. -/
theorem Store.Agrees.self (store : Store σ τ) : store.Agrees Eq store :=
  ⟨.self, fun _ _ _ _ => .self, fun _ _ => .self, fun _ _ => .self, fun _ _ _ => .self,
    fun _ _ => .self, fun _ => .self, fun _ => .self⟩

theorem Provider.Agrees.self (provider : Provider σ) : provider.Agrees Eq provider :=
  ⟨rfl, fun _ => .self, fun _ => .self⟩

variable {W : σ → σ' → Prop} {J : List Event → List Event → Prop} {store : Store σ τ}
  {store' : Store σ' τ} {provider : Provider σ} {provider' : Provider σ'} {u : LegacyUser}
  {newId : String} {t : τ}

theorem agree_resolveIdentity (hJ : JoinsTelling J) (hp : provider.Agrees W provider')
    (email : String) :
    Agree (Run.Alike W J) (resolveIdentity provider email) (resolveIdentity provider' email) := by
  unfold resolveIdentity
  dsimp only
  split
  · exact .pure
  refine .bind (agree_call (hp.accountOf _)) fun found => ?_
  split
  · exact .bind (agree_tell hJ _) fun _ => .pure
  · refine .bind (agree_call (hp.createAccount _)) fun created => ?_
    split
    · rw [hp.name]
      exact .bind (agree_tell hJ _) fun _ => .pure
    · exact .pure
  · exact .pure

theorem agree_joinTenant (hJ : JoinsTelling J) (hs : store.Agrees W store') :
    Agree (Run.Alike W J) (joinTenant store u newId t) (joinTenant store' u newId t) := by
  unfold joinTenant
  split
  · exact .pure
  refine .bind (agree_call (hs.hasMembership _ _ _)) fun joined => ?_
  split
  · exact .pure
  · exact .pure
  · refine .bind (agree_call (hs.addMembership _ _)) fun added => ?_
    split
    · exact .pure
    · exact .bind (agree_tell hJ _) fun _ => .pure

theorem agree_createUser (hJ : JoinsTelling J) (hs : store.Agrees W store') :
    Agree (Run.Alike W J) (createUser store u newId t) (createUser store' u newId t) := by
  unfold createUser
  refine .bind (agree_call (hs.addTargetUser _ _)) fun added => ?_
  split
  · exact .pure
  split
  · exact .bind (agree_tell hJ _) fun _ => .pure
  · refine .bind (agree_call (hs.addMembership _ _)) fun joined => ?_
    split
    · exact .pure
    · exact .bind (agree_tell hJ _) fun _ => .pure

theorem agree_stageUser (hJ : JoinsTelling J) (hs : store.Agrees W store') :
    Agree (Run.Alike W J) (stageUser store u newId t) (stageUser store' u newId t) := by
  unfold stageUser
  refine .bind (agree_call (hs.putMapping _ _ _ _)) fun put => ?_
  split
  · exact .pure
  refine .bind (agree_tell hJ _) fun _ => .bind (agree_tell hJ _) fun _ => ?_
  refine .bind (agree_call (hs.hasTargetUser _ _)) fun known => ?_
  split
  · exact .pure
  · exact .bind (agree_tell hJ _) fun _ => agree_joinTenant hJ hs
  · exact .bind (agree_tell hJ _) fun _ => agree_createUser hJ hs

theorem agree_endTransaction (hJ : JoinsTelling J) (hs : store.Agrees W store')
    (writes : Writes τ) :
    Agree (Run.Alike W J) (endTransaction store u newId writes)
      (endTransaction store' u newId writes) := by
  unfold endTransaction
  split
  · refine .bind (agree_call (hs.commit _)) fun committed => ?_
    split <;> exact .bind (agree_tell hJ _) fun _ => .pure
  · refine .bind (agree_call (hs.rollback _)) fun rolledBack => ?_
    dsimp only
    split
    · exact .bind (agree_tell hJ _) fun _ => .pure
    · exact .bind (agree_tell hJ _) fun _ => .bind (agree_tell hJ _) fun _ => .pure

theorem agree_storeUser (hJ : JoinsTelling J) (hs : store.Agrees W store') :
    Agree (Run.Alike W J) (storeUser store u newId) (storeUser store' u newId) := by
  unfold storeUser
  refine .bind (agree_call hs.beginTransaction) fun begun => ?_
  split
  · exact .bind (agree_tell hJ _) fun _ => .pure
  · refine .bind (agree_tell hJ _) fun _ => .bind (agree_stageUser hJ hs) fun writes => ?_
    exact agree_endTransaction hJ hs writes

/-- Migrating a record over collaborators that agree gives the same result in worlds that are
related again. -/
theorem agree_migrateRecord (hJ : JoinsTelling J) (hs : store.Agrees W store')
    (hp : provider.Agrees W provider') (u : LegacyUser) :
    Agree (Run.Alike W J) (migrateRecord store provider u)
      (migrateRecord store' provider' u) := by
  unfold migrateRecord
  refine .bind (agree_tell hJ _) fun _ => ?_
  split
  · refine .bind (agree_tell hJ _) fun _ => ?_
    refine .bind (agree_resolveIdentity hJ hp _) fun resolved => ?_
    split
    · exact .bind (agree_tell hJ _) fun _ => agree_storeUser hJ hs
    · exact .bind (agree_tell hJ _) fun _ => .pure
  · exact .bind (agree_tell hJ _) fun _ => .pure

end Rekey

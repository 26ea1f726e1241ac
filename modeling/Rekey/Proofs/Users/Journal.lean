import Rekey.Migration.Users
import Rekey.Proofs.Action

/-!
# What is told of a record

The migration of a record tells of its own steps. How it ended is told by the batch alone.
-/

namespace Rekey

/-- An event that tells of a step within the migration of one record. -/
def Event.isRecordStep : Event → Bool
  | .identityFound _ _ | .identityCreated _ _ _ | .userState _ _ | .rollbackFailed _ _ => true
  | _ => false

variable {σ τ : Type} {store : Store σ τ} {provider : Provider σ} {u : LegacyUser}
  {newId : String} {t : τ}

/-- From `r` to `r'` only steps within the migration of a record were told. -/
abbrev TellsSteps : Run σ → Run σ → Prop :=
  Tells fun e => e.isRecordStep = true

theorem tells_resolveIdentity {email : String} :
    Along TellsSteps (resolveIdentity provider email) := by
  unfold resolveIdentity
  dsimp only
  split
  · exact .pure
  refine .bind tells_call fun found => ?_
  split
  · exact .bind (tells_tell rfl) fun _ => .pure
  · refine .bind tells_call fun created => ?_
    split
    · exact .bind (tells_tell rfl) fun _ => .pure
    · exact .pure
  · exact .pure

theorem tells_joinTenant : Along TellsSteps (joinTenant store u newId t) := by
  unfold joinTenant
  split
  · exact .pure
  refine .bind tells_call fun joined => ?_
  split
  · exact .pure
  · exact .pure
  · refine .bind tells_call fun added => ?_
    split
    · exact .pure
    · exact .bind (tells_tell rfl) fun _ => .pure

theorem tells_createUser : Along TellsSteps (createUser store u newId t) := by
  unfold createUser
  refine .bind tells_call fun added => ?_
  split
  · exact .pure
  split
  · exact .bind (tells_tell rfl) fun _ => .pure
  · refine .bind tells_call fun joined => ?_
    split
    · exact .pure
    · exact .bind (tells_tell rfl) fun _ => .pure

theorem tells_stageUser : Along TellsSteps (stageUser store u newId t) := by
  unfold stageUser
  refine .bind tells_call fun put => ?_
  split
  · exact .pure
  refine .bind (tells_tell rfl) fun _ => .bind (tells_tell rfl) fun _ => .bind tells_call ?_
  intro known
  split
  · exact .pure
  · exact .bind (tells_tell rfl) fun _ => tells_joinTenant
  · exact .bind (tells_tell rfl) fun _ => tells_createUser

theorem tells_endTransaction {writes : Writes τ} :
    Along TellsSteps (endTransaction store u newId writes) := by
  unfold endTransaction
  split
  · refine .bind tells_call fun committed => ?_
    split <;> exact .bind (tells_tell rfl) fun _ => .pure
  · refine .bind tells_call fun rolledBack => ?_
    dsimp only
    split
    · exact .bind (tells_tell rfl) fun _ => .pure
    · exact .bind (tells_tell rfl) fun _ => .bind (tells_tell rfl) fun _ => .pure

theorem tells_storeUser : Along TellsSteps (storeUser store u newId) := by
  unfold storeUser
  refine .bind tells_call fun begun => ?_
  split
  · exact .bind (tells_tell rfl) fun _ => .pure
  · exact .bind (tells_tell rfl) fun _ => .bind tells_stageUser fun _ => tells_endTransaction

/-- Migrating a record tells of its steps alone, whatever the collaborators do. -/
theorem tells_migrateRecord : Along TellsSteps (migrateRecord store provider u) := by
  unfold migrateRecord
  refine .bind (tells_tell rfl) fun _ => ?_
  split
  · refine .bind (tells_tell rfl) fun _ => .bind tells_resolveIdentity fun resolved => ?_
    split
    · exact .bind (tells_tell rfl) fun _ => tells_storeUser
    · exact .bind (tells_tell rfl) fun _ => .pure
  · exact .bind (tells_tell rfl) fun _ => .pure

end Rekey

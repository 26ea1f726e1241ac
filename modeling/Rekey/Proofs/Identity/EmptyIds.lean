import Rekey.Proofs.Identity.Resolution
import Rekey.Proofs.Rehearsal.Session
import Rekey.Proofs.Users.Protocol

/-!
# Empty identifiers

Whatever migrating a record asks of the store under an identifier, it asks under the one that its
email was resolved to. An account that was created never has an empty identifier; an account that a
lookup lists may have one, and nothing between the list and the store looks at it. So an empty
identifier gets into the store exactly where the account that is picked has one.
-/

namespace Rekey

variable {σ τ : Type} {u : LegacyUser} {newId : String}

/-! ## Under which identifier the store is asked -/

/-- The new identifier that a request to the store is about. -/
def StoreRequest.newId? : StoreRequest → Option String
  | .within (.putMapping _ _ newId) => some newId
  | .within (.hasTargetUser id) => some id
  | .within (.addTargetUser t) => some t.id
  | .within (.hasMembership userId _) => some userId
  | .within (.addMembership m) => some m.userId
  | _ => none

/-- The calls that are about a new identifier are about this one. -/
def AllUnder (newId : String) (calls : List StoreCall) : Prop :=
  ∀ c ∈ calls, ∀ id ∈ c.request.newId?, id = newId

@[simp] theorem allUnder_nil : AllUnder newId [] :=
  fun _ h => absurd h List.not_mem_nil

@[simp] theorem allUnder_cons {c : StoreCall} {calls : List StoreCall} :
    AllUnder newId (c :: calls) ↔
      (∀ id ∈ c.request.newId?, id = newId) ∧ AllUnder newId calls := by
  simp [AllUnder]

@[simp] theorem allUnder_append {calls calls' : List StoreCall} :
    AllUnder newId (calls ++ calls') ↔ AllUnder newId calls ∧ AllUnder newId calls' := by
  simp [AllUnder, or_imp, forall_and]

section Storing

variable {store : Store σ τ} {t : τ}

theorem joinTenant_under : Does u.legacyId (joinTenant store.recorded u newId t)
    fun _ calls _ => AllUnder newId calls := by
  unfold joinTenant
  split
  · exact does_pure allUnder_nil
  refine does_call fun joined => ?_
  split
  · exact does_pure (by simp [StoreRequest.newId?])
  · exact does_pure (by simp [StoreRequest.newId?])
  · refine does_call fun added => ?_
    split
    · exact does_pure (by simp [StoreRequest.newId?, Membership.carriedOver])
    · exact does_tell (does_pure (by simp [StoreRequest.newId?, Membership.carriedOver]))

theorem createUser_under : Does u.legacyId (createUser store.recorded u newId t)
    fun _ calls _ => AllUnder newId calls := by
  unfold createUser
  refine does_call fun added => ?_
  split
  · exact does_pure (by simp [StoreRequest.newId?])
  split
  · exact does_tell (does_pure (by simp [StoreRequest.newId?]))
  · refine does_call fun joined => ?_
    split
    · exact does_pure (by simp [StoreRequest.newId?, Membership.carriedOver])
    · exact does_tell (does_pure (by simp [StoreRequest.newId?, Membership.carriedOver]))

theorem stageUser_under : Does u.legacyId (stageUser store.recorded u newId t)
    fun _ calls _ => AllUnder newId calls := by
  unfold stageUser
  refine does_call fun put => ?_
  split
  · exact does_pure (by simp [StoreRequest.newId?])
  refine does_tell (does_tell (does_call fun known => ?_))
  split
  · exact does_pure (by simp [StoreRequest.newId?])
  · exact does_tell (joinTenant_under.mono fun _ _ _ h => by simp [StoreRequest.newId?, h])
  · exact does_tell (createUser_under.mono fun _ _ _ h => by simp [StoreRequest.newId?, h])

/-- The result of a record that was stored under an identifier names the identifier. -/
def ResultUnder (newId : String) (result : Except Failure UserResult) : Prop :=
  ∀ id created joined, result = .ok (.migrated id created joined) → id = newId

theorem endTransaction_under (writes : Writes τ) :
    Does u.legacyId (endTransaction store.recorded u newId writes) fun result calls _ =>
      AllUnder newId calls ∧ ResultUnder newId result := by
  unfold endTransaction
  split
  · refine does_call fun committed => ?_
    split
    · exact does_tell (does_pure (by simp [StoreRequest.newId?, ResultUnder]))
    · exact does_tell (does_pure (by simp [StoreRequest.newId?, ResultUnder]))
  · refine does_call fun rolledBack => ?_
    dsimp only
    split
    · exact does_tell (does_pure (by simp [StoreRequest.newId?, ResultUnder]))
    · exact does_tell_other rfl (does_tell (does_pure (by simp [StoreRequest.newId?, ResultUnder])))

/-- Storing a record asks the store under the identifier of the record and under no other. -/
theorem storeUser_under : Does u.legacyId (storeUser store.recorded u newId)
    fun result calls _ => AllUnder newId calls ∧ ResultUnder newId result := by
  unfold storeUser
  refine does_call fun begun => ?_
  split
  · exact does_tell (does_pure (by simp [StoreRequest.newId?, ResultUnder]))
  · refine does_tell (does_bind stageUser_under fun writes calls _ hcalls => ?_)
    refine (endTransaction_under writes).mono fun result calls' _ h => ?_
    simpa [StoreRequest.newId?, hcalls] using h

end Storing

/-- Resolving beside a recording store gives what it gives by itself, and asks nothing of the
store. -/
theorem resolveIdentity_beside (provider : Provider σ) (email : String) (w : σ)
    (journal : List Event) :
    Ends (resolveIdentity provider.beside email) ⟨.start w, journal⟩ fun resolved r =>
      resolved = (resolveIdentity provider email (.start w)).1 ∧ r.world.calls = [] := by
  obtain ⟨hresolved, -⟩ := agree_resolveIdentity joinsTelling_any provider.beside_agrees email
    ⟨.start w, journal⟩ (.start w) ⟨rfl, trivial⟩
  have hdoes : Does "" (resolveIdentity provider.beside email) fun _ calls _ => calls = [] :=
    (does_resolveIdentity email).mono fun _ _ _ h => h.1
  obtain ⟨_, -, hcalls, -, rfl⟩ := hdoes ⟨.start w, journal⟩
  exact ⟨hresolved, hcalls⟩

/-- What migrating a record asks of the store under a new identifier, and what it reports as the new
identifier, is what the email was resolved to. -/
theorem migrateRecord_under (store : Store σ τ) (provider : Provider σ) (u : LegacyUser) (w : σ) :
    let resolved := (resolveIdentity provider u.email (.start w)).1
    (∀ c ∈ recordCalls store provider u w, ∀ id ∈ c.request.newId?, resolved = .ok id) ∧
      ∀ id created joined,
        (migrateRecord store provider u (.start w)).1 = .ok (.migrated id created joined) →
          resolved = .ok id := by
  intro resolved
  obtain ⟨hresult, -⟩ := migrateRecord_recorded store provider u w
  rw [← hresult]
  show Ends (migrateRecord store.recorded provider.beside u) (.start (.start w)) fun result r =>
    (∀ c ∈ r.world.calls, ∀ id ∈ c.request.newId?, resolved = .ok id) ∧
      ∀ id created joined, result = .ok (.migrated id created joined) → resolved = .ok id
  unfold migrateRecord
  rw [ends_bind, ends_tell]
  split
  · rw [ends_bind, ends_tell, ends_bind]
    refine (resolveIdentity_beside provider u.email w _).mono fun found r ⟨hfound, hcalls⟩ => ?_
    cases found with
    | ok newId =>
      rw [ends_bind, ends_tell]
      have hdoes : Does u.legacyId (storeUser store.recorded u newId) fun result calls _ =>
          AllUnder newId calls ∧ ResultUnder newId result := storeUser_under
      obtain ⟨calls, -, hrun, -, hunder, hreported⟩ :=
        hdoes ⟨r.world, .userState u.legacyId .resolved :: r.journal⟩
      rw [hcalls, List.nil_append] at hrun
      have hresolved : resolved = .ok newId := hfound.symm
      refine ⟨fun c hc id hid => ?_, fun id created joined h => ?_⟩
      · rw [hresolved, hunder c (hrun ▸ hc) id hid]
      · rw [hresolved, hreported id created joined h]
    | error f =>
      refine ⟨fun c hc => ?_, fun _ _ _ h => nomatch h⟩
      exact absurd (hcalls ▸ hc) List.not_mem_nil
  · exact ⟨fun _ h => absurd h List.not_mem_nil, fun _ _ _ h => nomatch h⟩

end Rekey

namespace Rekey.Rest

open Rekey.Text (trim)

variable {σ τ : Type}

/-! ## Where an empty identifier comes from -/

/-- The answer to the question for the email lists accounts, and the one that is picked has an empty
identifier. -/
def ListsEmptyId (send : Sender σ) (base key email : String) (w : σ) : Prop :=
  trim email ≠ "" ∧ ∃ users accounts a, IsEndpoint base key users ∧
    Lists (send (lookupRequest users key (trim email)) w).1 accounts ∧
      Picked (trim email) accounts a ∧ a.id = ""

/-- An email is resolved to an empty identifier exactly if the account that is picked from a list
has one; no created account does. -/
theorem resolveIdentity_eq_empty_iff (send : Sender σ) (base key email : String) (w : σ) :
    (resolveIdentity (provider send base key) email (.start w)).1 = .ok "" ↔
      ListsEmptyId send base key email w := by
  by_cases hmade : ∃ users, IsEndpoint base key users
  case neg =>
    have hnone : ∀ users, ¬ IsEndpoint base key users := fun users h => hmade ⟨users, h⟩
    obtain ⟨-, cause, hresult⟩ := resolveIdentity_unasked send hnone email w
    rw [hresult]
    exact iff_of_false nofun fun ⟨_, users, _, _, h, _⟩ => hnone users h
  obtain ⟨users, hendpoint⟩ := hmade
  have hasked := resolveIdentity_asked send hendpoint email w
  generalize (resolveIdentity (provider send base key) email (.start w)).1 = result at hasked ⊢
  -- the address in `ListsEmptyId` is the one that was asked
  have hlisted : ListsEmptyId send base key email w ↔ trim email ≠ "" ∧ ∃ accounts a,
      Lists (send (lookupRequest users key (trim email)) w).1 accounts ∧
        Picked (trim email) accounts a ∧ a.id = "" := by
    refine and_congr_right fun _ => ⟨?_, fun ⟨accounts, a, h⟩ => ⟨users, accounts, a, hendpoint, h⟩⟩
    rintro ⟨users', accounts, a, hendpoint', h⟩
    obtain rfl := hendpoint.unique hendpoint'
    exact ⟨accounts, a, h⟩
  rw [hlisted]
  by_cases hblank : trim email = ""
  · obtain ⟨-, cause, rfl⟩ := hasked.blank hblank
    exact iff_of_false nofun fun h => h.1 hblank
  by_cases hnobody :
      KnowsNobody (trim email) (send (lookupRequest users key (trim email)) w).1
  · refine iff_of_false ?_ ?_
    · rintro rfl
      rcases (hasked.unknown hblank hnobody).2 with ⟨a, ⟨r, -, -, -, hid⟩, ha⟩ | ⟨-, cause, hc⟩
      · exact hid (Except.ok.inj ha).symm
      · contradiction
    · rintro ⟨-, accounts, a, hlists, hpicked, -⟩
      exact not_knowsNobody_of_picked hlists hpicked hnobody
  · constructor
    · rintro rfl
      rcases (hasked.known hblank hnobody).2 with
        ⟨accounts, a, hlists, hpicked, ha⟩ | ⟨-, cause, hc⟩
      · exact ⟨hblank, accounts, a, hlists, hpicked, (Except.ok.inj ha).symm⟩
      · contradiction
    · rintro ⟨-, accounts, a, hlists, hpicked, hid⟩
      rcases (hasked.known hblank hnobody).2 with
        ⟨accounts', a', hlists', hpicked', rfl⟩ | ⟨hnone, -⟩
      · cases hlists.unique hlists'
        rw [hpicked'.unique hpicked, hid]
      · exact absurd hlists (hnone accounts)

/-- The store is asked under an empty identifier, and a record reported as migrated to one, only if
the account that is picked from a list has it: for every store, every record and whatever the
service answers. -/
theorem migrateRecord_empty_id (store : Store σ τ) (send : Sender σ) (base key : String)
    (u : LegacyUser) (w : σ) :
    let service := provider send base key
    let listed := ListsEmptyId send base key u.email w
    ((resolveIdentity service u.email (.start w)).1 = .ok "" ↔ listed) ∧
      (∀ c ∈ recordCalls store service u w, c.request.newId? = some "" → listed) ∧
      ∀ created joined,
        (migrateRecord store service u (.start w)).1 = .ok (.migrated "" created joined) →
          listed := by
  intro service listed
  have hempty := resolveIdentity_eq_empty_iff send base key u.email w
  obtain ⟨hcalls, hreported⟩ := migrateRecord_under store service u w
  exact ⟨hempty, fun c hc hid => hempty.mp (hcalls c hc "" hid),
    fun created joined h => hempty.mp (hreported "" created joined h)⟩

open Network Rehearsal in
/-- The service lists an account with the email and an empty identifier. The email is resolved to
it, and the record is committed with an empty new identifier in its mapping and its user row. -/
theorem migrateRecord_commits_empty_id :
    let listed := "[\x7b\"id\":\"\",\"email\":\"ada@example.org\"\x7d]"
    let server : ScriptedServer := ⟨.up, [.answer ⟨200, none, listed.toUTF8.toList⟩], []⟩
    let service := provider ScriptedServer.send "http://localhost/v1" "sk_test"
    let store : Store (Stage × ScriptedServer) Transaction :=
      Part.store ⟨Prod.fst, fun stage w => (stage, w.2)⟩ stageStore
    let online : Provider (Stage × ScriptedServer) :=
      Part.provider ⟨Prod.snd, fun server w => (w.1, server)⟩ service
    let ended := migrateRecord store online Stage.ada (.start (Stage.ofUsers [Stage.ada], server))
    (resolveIdentity service Stage.ada.email (.start server)).1 = .ok "" ∧
      ended.1 = .ok (.migrated "" true true) ∧
      ended.2.world.1.store.mappings[Stage.ada.legacyId]?.map (·.newId) = some "" ∧
      ended.2.world.1.store.targetUsers.contains "" = true := by
  decide +kernel

end Rekey.Rest

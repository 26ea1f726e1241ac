import Rekey.Proofs.Users.Recording

/-!
# The transaction protocol of a record

What migrating a record asks of the store, in which order, and which states it tells meanwhile,
for every store and provider. `Traced` follows the code: each constructor is one way in which a
record ends, with all calls and states on that way. The protocol is read off it: a transaction is
opened at most once, every opened transaction is closed once and at the end, by a commit exactly
when nothing failed, and the first failure is the one that is reported.
-/

namespace Rekey

open Rehearsal (TransactionStep)

variable {σ τ α β : Type} {u : LegacyUser} {newId id : String}

/-- The requests in which a transaction ends. -/
def StoreRequest.isEnd : StoreRequest → Bool
  | .within .commit | .within .rollback => true
  | _ => false

/-- The user and the state of each event that tells a state, in order. -/
def toldStates (events : List Event) : List (String × MigrationState) :=
  events.filterMap fun
    | .userState id state => some (id, state)
    | _ => none

/-- The calls that migrating a record makes to the store, in order. -/
def recordCalls (store : Store σ τ) (provider : Provider σ) (u : LegacyUser) (w : σ) :
    List StoreCall :=
  (migrateRecord store.recorded provider.beside u (.start (.start w))).2.world.calls

/-- The calls from the first failed one on. -/
def fromFailure (calls : List StoreCall) : List StoreCall :=
  calls.dropWhile (·.fault.isNone)

/-- What a record asks of an opened transaction, by the result `r` of the record. -/
structure Transacts (u : LegacyUser) (r : Except Failure UserResult) (calls : List StoreCall) :
    Prop where
  /-- The mapping is written first, and if that succeeds the user is asked for next. -/
  first : ∃ newId fault rest,
    calls = ⟨.within (.putMapping u.legacyId u.emailKey newId), fault⟩ :: rest ∧
      (fault = none → ∃ fault' rest', rest = ⟨.within (.hasTargetUser newId), fault'⟩ :: rest')
  /-- The last call ends the transaction, and no call before it does. It is a commit exactly when
  all calls before it succeeded. -/
  last : ∃ body final, calls = body ++ [final] ∧ final.request.isEnd = true ∧
    (∀ c ∈ body, ∃ step, c.request = .within step ∧ c.request.isEnd = false) ∧
    (final.request = .within .commit ↔ ∀ c ∈ body, c.fault = none)
  /-- After the first failed call there is only the rollback, or nothing if that call was the
  commit, and the failure that is reported is that of the first failed call. -/
  failed : ∀ c rest, fromFailure calls = c :: rest →
    (∃ e, c.fault = some e ∧ r = .error (.transaction u.legacyId e)) ∧
      (c.request = .within .commit ∧ rest = [] ∨
        c.request.isEnd = false ∧ ∃ fault, rest = [⟨.within .rollback, fault⟩])

/-- The state in which a record with this result ends. -/
inductive EndsIn (u : LegacyUser) : Except Failure UserResult → MigrationState → Prop
  | skipped : EndsIn u (.ok .skipped) .skipped
  | unresolved {email : String} {cause : ProviderFault} :
      EndsIn u (.error (.resolution email cause)) .resolutionFailed
  | migrated {newId : String} {created joined : Bool} :
      EndsIn u (.ok (.migrated newId created joined)) .committed
  | failed {e : StoreFault} : EndsIn u (.error (.transaction u.legacyId e)) .rolledBack

/-! ## Calls and states of an action -/

/-- Wherever the action starts, it makes calls and tells states of the user `id`, which satisfy
`Q` with its result. -/
def Does (id : String) (act : Action (Recorded σ) α)
    (Q : α → List StoreCall → List MigrationState → Prop) : Prop :=
  ∀ r, ∃ calls states, (act r).2.world.calls = r.world.calls ++ calls ∧
    toldStates (act r).2.events = toldStates r.events ++ states.map (id, ·) ∧
    Q (act r).1 calls states

theorem Does.mono {act : Action (Recorded σ) α}
    {Q R : α → List StoreCall → List MigrationState → Prop} (h : Does id act Q)
    (hQR : ∀ a calls states, Q a calls states → R a calls states) : Does id act R := by
  intro r
  obtain ⟨calls, states, hcalls, hstates, hQ⟩ := h r
  exact ⟨calls, states, hcalls, hstates, hQR _ _ _ hQ⟩

section Rules

variable {Q : α → List StoreCall → List MigrationState → Prop}
  {R : β → List StoreCall → List MigrationState → Prop}

theorem does_pure {a : α} (h : Q a [] []) : Does id (pure a : Action (Recorded σ) α) Q :=
  fun _ => ⟨[], [], (List.append_nil _).symm, (List.append_nil _).symm, h⟩

/-- The calls and states of a sequence are those of its parts. -/
theorem does_bind {act : Action (Recorded σ) α} {f : α → Action (Recorded σ) β}
    (h : Does id act Q)
    (hf : ∀ a calls states, Q a calls states → Does id (f a) fun b calls' states' =>
      R b (calls ++ calls') (states ++ states')) : Does id (act >>= f) R := by
  intro r
  obtain ⟨calls, states, hcalls, hstates, hQ⟩ := h r
  obtain ⟨calls', states', hcalls', hstates', hR⟩ := hf _ _ _ hQ (act r).2
  refine ⟨calls ++ calls', states ++ states', ?_, ?_, hR⟩
  · rw [← List.append_assoc, ← hcalls]
    exact hcalls'
  · rw [List.map_append, ← List.append_assoc, ← hstates]
    exact hstates'

/-- A state is told before what follows. -/
theorem does_tell {state : MigrationState} {f : Unit → Action (Recorded σ) β}
    (hf : Does id (f ()) fun b calls states => R b calls (state :: states)) :
    Does id (tell (.userState id state) >>= f) R := by
  refine does_bind (Q := fun _ calls states => calls = [] ∧ states = [state]) (fun r => ?_) ?_
  · exact ⟨[], [state], (List.append_nil _).symm, by simp [tell, Run.events, toldStates], rfl, rfl⟩
  · rintro _ _ _ ⟨rfl, rfl⟩
    exact hf

/-- An event that tells no state changes nothing. -/
theorem does_tell_other {e : Event} {f : Unit → Action (Recorded σ) β}
    (he : toldStates [e] = []) (hf : Does id (f ()) R) : Does id (tell e >>= f) R := by
  refine does_bind (Q := fun _ calls states => calls = [] ∧ states = []) (fun r => ?_) ?_
  · refine ⟨[], [], (List.append_nil _).symm, ?_, rfl, rfl⟩
    simpa [tell, Run.events, toldStates] using he
  · rintro _ _ _ ⟨rfl, rfl⟩
    exact hf

/-- A call of the store is made before what follows. -/
theorem does_call {request : StoreRequest} {act : StateM σ (Except StoreFault α)}
    {f : Except StoreFault α → Action (Recorded σ) β}
    (hf : ∀ answer, Does id (f answer) fun b calls states =>
      R b (⟨request, faultOf answer⟩ :: calls) states) :
    Does id (call (recorded request act) >>= f) R := by
  refine does_bind (Q := fun a calls states => calls = [⟨request, faultOf a⟩] ∧ states = [])
    (fun r => ?_) ?_
  · exact ⟨_, [], rfl, (List.append_nil _).symm, rfl, rfl⟩
  · rintro answer _ _ ⟨rfl, rfl⟩
    exact hf answer

/-- A call of the provider is no call of the store. -/
theorem does_beside {act : StateM σ α} {f : α → Action (Recorded σ) β}
    (hf : ∀ a, Does id (f a) R) :
    Does id (call (Part.lift ⟨Recorded.world, fun w r => { r with world := w }⟩ act) >>= f) R := by
  refine does_bind (Q := fun _ calls states => calls = [] ∧ states = []) (fun r => ?_) ?_
  · exact ⟨[], [], (List.append_nil _).symm, (List.append_nil _).symm, rfl, rfl⟩
  · rintro a _ _ ⟨rfl, rfl⟩
    exact hf a

end Rules

/-! ## One record -/

/-- The writes and questions of an opened transaction up to the first that fails, with the fault
that it ends with. -/
inductive Staged : Option StoreFault → List StoreCall → List MigrationState → Prop
  | done : Staged none [] []
  | failed {step : TransactionStep} {e : StoreFault}
      (hstep : (StoreRequest.within step).isEnd = false) :
      Staged (some e) [⟨.within step, some e⟩] []
  | succeeded {step : TransactionStep} {fault : Option StoreFault} {calls : List StoreCall}
      {states : List MigrationState} (hstep : (StoreRequest.within step).isEnd = false)
      (hrest : Staged fault calls states) : Staged fault (⟨.within step, none⟩ :: calls) states
  | told {state : MigrationState} {fault : Option StoreFault} {calls : List StoreCall}
      {states : List MigrationState} (hstate : state.isFinal = false)
      (hrest : Staged fault calls states) : Staged fault calls (state :: states)

/-- The writes for a user: first the mapping, then the question whether the user exists. -/
inductive Staging (u : LegacyUser) (newId : String) :
    Option StoreFault → List StoreCall → List MigrationState → Prop
  | unmapped {e : StoreFault} :
      Staging u newId (some e) [⟨.within (.putMapping u.legacyId u.emailKey newId), some e⟩] []
  | mapped {fault fault' : Option StoreFault} {calls : List StoreCall}
      {states : List MigrationState}
      (h : Staged fault (⟨.within (.hasTargetUser newId), fault'⟩ :: calls) states) :
      Staging u newId fault (⟨.within (.putMapping u.legacyId u.emailKey newId), none⟩ ::
        ⟨.within (.hasTargetUser newId), fault'⟩ :: calls) states

/-- How a transaction is closed after its writes ended with a fault or without. -/
inductive Closes (u : LegacyUser) :
    Option StoreFault → Except Failure UserResult → StoreCall → MigrationState → Prop
  | committed {newId : String} {created joined : Bool} :
      Closes u none (.ok (.migrated newId created joined)) ⟨.within .commit, none⟩ .committed
  | refused {e : StoreFault} :
      Closes u none (.error (.transaction u.legacyId e)) ⟨.within .commit, some e⟩ .rolledBack
  | takenBack {e : StoreFault} {fault : Option StoreFault} :
      Closes u (some e) (.error (.transaction u.legacyId e)) ⟨.within .rollback, fault⟩ .rolledBack

/-- What storing a record asks of the store and tells. -/
inductive Stored (u : LegacyUser) :
    Except Failure UserResult → List StoreCall → List MigrationState → Prop
  | unopened {e : StoreFault} :
      Stored u (.error (.transaction u.legacyId e)) [⟨.begin, some e⟩] [.rolledBack]
  | opened {newId : String} {fault : Option StoreFault} {r : Except Failure UserResult}
      {final : StoreCall} {state : MigrationState} {calls : List StoreCall}
      {states : List MigrationState} (hwrites : Staging u newId fault calls states)
      (hend : Closes u fault r final state) :
      Stored u r (⟨.begin, none⟩ :: (calls ++ [final])) (.txOpen :: (states ++ [state]))

/-- What migrating a record asks of the store and tells. -/
inductive Traced (u : LegacyUser) :
    Except Failure UserResult → List StoreCall → List MigrationState → Prop
  | skipped : Traced u (.ok .skipped) [] [.start, .skipped]
  | unresolved {email : String} {cause : ProviderFault} :
      Traced u (.error (.resolution email cause)) [] [.start, .resolving, .resolutionFailed]
  | stored {r : Except Failure UserResult} {calls : List StoreCall}
      {states : List MigrationState} (h : Stored u r calls states) :
      Traced u r calls (.start :: .resolving :: .resolved :: states)

section Record

variable {store : Store σ τ} {provider : Provider σ} {t : τ}

/-- Resolving an identity asks nothing of the store and tells no state. -/
theorem does_resolveIdentity (email : String) :
    Does id (resolveIdentity (Provider.beside provider) email) fun r calls states =>
      calls = [] ∧ states = [] ∧
        ∀ f, r = .error f → ∃ email cause, f = .resolution email cause := by
  unfold resolveIdentity
  dsimp only
  split
  · exact does_pure ⟨rfl, rfl, fun f hf => ⟨_, _, (Except.error.inj hf).symm⟩⟩
  refine does_beside fun found => ?_
  split
  · exact does_tell_other rfl (does_pure ⟨rfl, rfl, fun f hf => nomatch hf⟩)
  · refine does_beside fun created => ?_
    split
    · exact does_tell_other rfl (does_pure ⟨rfl, rfl, fun f hf => nomatch hf⟩)
    · exact does_pure ⟨rfl, rfl, fun f hf => ⟨_, _, (Except.error.inj hf).symm⟩⟩
  · exact does_pure ⟨rfl, rfl, fun f hf => ⟨_, _, (Except.error.inj hf).symm⟩⟩

theorem does_joinTenant : Does u.legacyId (joinTenant store.recorded u newId t)
    fun writes calls states => Staged (faultOf writes.2) calls states := by
  unfold joinTenant
  split
  · exact does_pure .done
  refine does_call fun joined => ?_
  split
  · exact does_pure (.failed rfl)
  · exact does_pure (.succeeded rfl .done)
  · refine does_call fun added => ?_
    split
    · exact does_pure (.succeeded rfl (.failed rfl))
    · exact does_tell (does_pure (.succeeded rfl (.succeeded rfl (.told rfl .done))))

theorem does_createUser : Does u.legacyId (createUser store.recorded u newId t)
    fun writes calls states => Staged (faultOf writes.2) calls states := by
  unfold createUser
  refine does_call fun added => ?_
  split
  · exact does_pure (.failed rfl)
  split
  · exact does_tell (does_pure (.succeeded rfl (.told rfl .done)))
  · refine does_call fun joined => ?_
    split
    · exact does_pure (.succeeded rfl (.failed rfl))
    · exact does_tell (does_pure (.succeeded rfl (.succeeded rfl (.told rfl .done))))

theorem does_stageUser : Does u.legacyId (stageUser store.recorded u newId t)
    fun writes calls states => Staging u newId (faultOf writes.2) calls states := by
  unfold stageUser
  refine does_call fun put => ?_
  split
  · exact does_pure .unmapped
  refine does_tell (does_tell (does_call fun known => ?_))
  split
  · exact does_pure (.mapped (.told rfl (.told rfl (.failed rfl))))
  · refine does_tell (does_joinTenant.mono fun writes calls states h => ?_)
    exact .mapped (.told rfl (.told rfl (.succeeded rfl (.told rfl h))))
  · refine does_tell (does_createUser.mono fun writes calls states h => ?_)
    exact .mapped (.told rfl (.told rfl (.succeeded rfl (.told rfl h))))

theorem does_endTransaction (writes : Writes τ) :
    Does u.legacyId (endTransaction store.recorded u newId writes) fun r calls states =>
      ∃ final state, Closes u (faultOf writes.2) r final state ∧ calls = [final] ∧
        states = [state] := by
  unfold endTransaction
  split
  · refine does_call fun committed => ?_
    split
    · exact does_tell (does_pure ⟨_, _, .committed, rfl, rfl⟩)
    · exact does_tell (does_pure ⟨_, _, .refused, rfl, rfl⟩)
  · refine does_call fun rolledBack => ?_
    dsimp only
    split
    · exact does_tell (does_pure ⟨_, _, .takenBack, rfl, rfl⟩)
    · exact does_tell_other rfl (does_tell (does_pure ⟨_, _, .takenBack, rfl, rfl⟩))

theorem does_storeUser : Does u.legacyId (storeUser store.recorded u newId) (Stored u) := by
  unfold storeUser
  refine does_call fun begun => ?_
  split
  · exact does_tell (does_pure .unopened)
  · refine does_tell (does_bind does_stageUser fun writes calls states hwrites => ?_)
    refine (does_endTransaction writes).mono fun r _ _ hend => ?_
    obtain ⟨final, state, hclosed, rfl, rfl⟩ := hend
    exact .opened hwrites hclosed

/-- Migrating a record asks of the store and tells what `Traced` says. -/
theorem does_migrateRecord (provider : Provider σ) :
    Does u.legacyId (migrateRecord store.recorded provider.beside u) (Traced u) := by
  unfold migrateRecord
  refine does_tell ?_
  split
  · refine does_tell (does_bind (does_resolveIdentity _) fun resolved calls states h => ?_)
    obtain ⟨rfl, rfl, hfailed⟩ := h
    split
    · exact does_tell (does_storeUser.mono fun r calls states h => .stored h)
    · obtain ⟨email, cause, rfl⟩ := hfailed _ rfl
      exact does_tell (does_pure .unresolved)
  · exact does_tell (does_pure .skipped)

end Record

/-! ## What follows from the calls -/

section Consequences

variable {fault : Option StoreFault} {r : Except Failure UserResult} {calls : List StoreCall}
  {states : List MigrationState} {final : StoreCall} {state : MigrationState}

theorem Staged.inner (h : Staged fault calls states) :
    ∀ c ∈ calls, ∃ step, c.request = .within step ∧ c.request.isEnd = false := by
  induction h with
  | done => exact fun _ hc => nomatch hc
  | failed hstep =>
    intro c hc
    obtain rfl := List.mem_singleton.mp hc
    exact ⟨_, rfl, hstep⟩
  | succeeded hstep _ ih =>
    intro c hc
    rcases List.mem_cons.mp hc with rfl | hc
    · exact ⟨_, rfl, hstep⟩
    · exact ih c hc
  | told _ _ ih => exact ih

theorem Staged.not_final (h : Staged fault calls states) : ∀ s ∈ states, s.isFinal = false := by
  induction h with
  | done => exact fun _ hs => nomatch hs
  | failed _ => exact fun _ hs => nomatch hs
  | succeeded _ _ ih => exact ih
  | told hstate _ ih =>
    intro s hs
    rcases List.mem_cons.mp hs with rfl | hs
    · exact hstate
    · exact ih s hs

/-- Writes that end without a fault succeeded one by one. -/
theorem Staged.faultless_iff (h : Staged fault calls states) :
    (∀ c ∈ calls, c.fault = none) ↔ fault = none := by
  induction h with
  | done => simp
  | failed _ => simp
  | succeeded _ _ ih => simpa using ih
  | told _ _ ih => exact ih

/-- Writes that end with a fault end with the call that failed. -/
theorem Staged.fromFailure_append {e : StoreFault} (h : Staged (some e) calls states) :
    ∃ c, fromFailure (calls ++ [final]) = [c, final] ∧ c.fault = some e ∧
      c.request.isEnd = false := by
  generalize hfault : some e = fault at h
  induction h with
  | done => cases hfault
  | failed hstep =>
    cases hfault
    exact ⟨_, rfl, rfl, hstep⟩
  | succeeded _ _ ih => exact ih hfault
  | told _ _ ih => exact ih hfault

theorem fromFailure_append_of_faultless {rest : List StoreCall}
    (h : ∀ c ∈ calls, c.fault = none) : fromFailure (calls ++ rest) = fromFailure rest := by
  refine List.dropWhile_append_of_pos fun c hc => ?_
  rw [h c hc]
  rfl

theorem Staging.staged (h : Staging u newId fault calls states) : Staged fault calls states := by
  cases h with
  | unmapped => exact .failed rfl
  | mapped h => exact .succeeded rfl h

theorem Closes.isEnd (h : Closes u fault r final state) : final.request.isEnd = true := by
  cases h <;> rfl

theorem Closes.isFinal (h : Closes u fault r final state) : state.isFinal = true := by
  cases h <;> rfl

theorem Closes.endsIn (h : Closes u fault r final state) : EndsIn u r state := by
  cases h with
  | committed => exact .migrated
  | refused => exact .failed
  | takenBack => exact .failed

theorem Closes.commit_iff (h : Closes u fault r final state) :
    final.request = .within .commit ↔ fault = none := by
  cases h <;> simp

/-- An opened transaction is closed once, at the end, and by a commit when nothing failed. -/
theorem Staging.transacts (h : Staging u newId fault calls states)
    (hend : Closes u fault r final state) : Transacts u r (calls ++ [final]) where
  first := by
    cases h with
    | unmapped => exact ⟨_, _, _, rfl, nofun⟩
    | mapped _ => exact ⟨_, _, _, rfl, fun _ => ⟨_, _, rfl⟩⟩
  last := ⟨calls, final, rfl, hend.isEnd, h.staged.inner,
    hend.commit_iff.trans h.staged.faultless_iff.symm⟩
  failed := by
    intro c rest hfailed
    cases hend with
    | takenBack =>
      obtain ⟨c', hsuffix, hfault, hinner⟩ := h.staged.fromFailure_append
      rw [hsuffix] at hfailed
      cases hfailed
      exact ⟨⟨_, hfault, rfl⟩, .inr ⟨hinner, _, rfl⟩⟩
    | refused =>
      rw [fromFailure_append_of_faultless (h.staged.faultless_iff.mpr rfl)] at hfailed
      cases hfailed
      exact ⟨⟨_, rfl, rfl⟩, .inl ⟨rfl, rfl⟩⟩
    | committed =>
      rw [fromFailure_append_of_faultless (h.staged.faultless_iff.mpr rfl)] at hfailed
      cases hfailed

theorem Closes.migrated_iff (h : Closes u fault r final state) :
    (∃ newId created joined, r = .ok (.migrated newId created joined)) ↔
      final = ⟨.within .commit, none⟩ := by
  cases h <;> simp

/-- The result is no skip and no failure to resolve. -/
theorem Closes.stored (h : Closes u fault r final state) :
    ¬ (r = .ok .skipped ∨ ∃ email cause, r = .error (.resolution email cause)) := by
  cases h <;> simp

/-- A commit that succeeded is the last call, for no write is one. -/
theorem Staged.commit_mem_iff (h : Staged fault calls states) :
    ⟨.within .commit, none⟩ ∈ calls ++ [final] ↔ final = ⟨.within .commit, none⟩ := by
  rw [List.mem_append, List.mem_singleton]
  constructor
  · rintro (hmem | hlast)
    · obtain ⟨_, _, hinner⟩ := h.inner _ hmem
      cases hinner
    · exact hlast.symm
  · exact fun hlast => .inr hlast.symm

theorem Stored.calls_eq (h : Stored u r calls states) :
    (∃ e, calls = [⟨.begin, some e⟩] ∧ r = .error (.transaction u.legacyId e)) ∨
      ∃ within, calls = ⟨.begin, none⟩ :: within ∧ Transacts u r within := by
  cases h with
  | unopened => exact .inl ⟨_, rfl, rfl⟩
  | opened hwrites hend => exact .inr ⟨_, rfl, hwrites.transacts hend⟩

theorem Stored.not_unstored (h : Stored u r calls states) :
    ¬ (r = .ok .skipped ∨ ∃ email cause, r = .error (.resolution email cause)) := by
  cases h with
  | unopened => simp
  | opened _ hend => exact hend.stored

theorem Stored.migrated_iff (h : Stored u r calls states) :
    (∃ newId created joined, r = .ok (.migrated newId created joined)) ↔
      ⟨.within .commit, none⟩ ∈ calls := by
  cases h with
  | unopened => simp
  | opened hwrites hend =>
    rw [hend.migrated_iff, List.mem_cons, hwrites.staged.commit_mem_iff]
    simp

theorem Stored.states_eq (h : Stored u r calls states) :
    ∃ passed last, states = passed ++ [last] ∧ (∀ s ∈ passed, s.isFinal = false) ∧
      last.isFinal = true ∧ EndsIn u r last := by
  cases h with
  | unopened => exact ⟨[], .rolledBack, rfl, nofun, rfl, .failed⟩
  | opened hwrites hend =>
    refine ⟨.txOpen :: _, _, rfl, fun s hs => ?_, hend.isFinal, hend.endsIn⟩
    rcases List.mem_cons.mp hs with rfl | hs
    · rfl
    · exact hwrites.staged.not_final s hs

/-- A record that is skipped or not resolved asks nothing of the store. -/
theorem Traced.calls_nil (h : Traced u r calls states)
    (hr : r = .ok .skipped ∨ ∃ email cause, r = .error (.resolution email cause)) :
    calls = [] := by
  cases h with
  | skipped => rfl
  | unresolved => rfl
  | stored h => exact absurd hr h.not_unstored

theorem Traced.calls_of_stored (h : Traced u r calls states)
    (hr : ¬ (r = .ok .skipped ∨ ∃ email cause, r = .error (.resolution email cause))) :
    (∃ e, calls = [⟨.begin, some e⟩] ∧ r = .error (.transaction u.legacyId e)) ∨
      ∃ within, calls = ⟨.begin, none⟩ :: within ∧ Transacts u r within := by
  cases h with
  | skipped => exact absurd (.inl rfl) hr
  | unresolved => exact absurd (.inr ⟨_, _, rfl⟩) hr
  | stored h => exact h.calls_eq

theorem Traced.migrated_iff (h : Traced u r calls states) :
    (∃ newId created joined, r = .ok (.migrated newId created joined)) ↔
      ⟨.within .commit, none⟩ ∈ calls := by
  cases h with
  | skipped => simp
  | unresolved => simp
  | stored h => exact h.migrated_iff

theorem Traced.states_eq (h : Traced u r calls states) :
    ∃ passed last, states = passed ++ [last] ∧ passed.head? = some .start ∧
      (∀ s ∈ passed, s.isFinal = false) ∧ last.isFinal = true ∧ EndsIn u r last := by
  cases h with
  | skipped => exact ⟨[.start], _, rfl, rfl, by decide, rfl, .skipped⟩
  | unresolved => exact ⟨[.start, .resolving], _, rfl, rfl, by decide, rfl, .unresolved⟩
  | stored h =>
    obtain ⟨passed, last, rfl, hpassed, hlast, hends⟩ := h.states_eq
    refine ⟨.start :: .resolving :: .resolved :: passed, last, rfl, rfl, ?_, hlast, hends⟩
    simpa [MigrationState.isFinal] using hpassed

end Consequences

/-- The transaction protocol of a record, for every store, every provider and every answer of
theirs. A record that is skipped or not resolved asks nothing of the store. Any other record begins
one transaction; if that fails there is no further call and the fault is reported, and else the
transaction is used as `Transacts` says. The record is migrated exactly when a commit succeeded. The
states told are those of the record: they begin with the start, and the last one alone is final and
is the one that belongs to the result. -/
theorem migrateRecord_protocol (store : Store σ τ) (provider : Provider σ) (u : LegacyUser)
    (w : σ) :
    let ended := migrateRecord store provider u (.start w)
    let calls := recordCalls store provider u w
    let unstored := ended.1 = .ok .skipped ∨
      ∃ email cause, ended.1 = .error (.resolution email cause)
    (unstored → calls = []) ∧
    (¬ unstored →
      (∃ e, calls = [⟨.begin, some e⟩] ∧ ended.1 = .error (.transaction u.legacyId e)) ∨
        ∃ within, calls = ⟨.begin, none⟩ :: within ∧ Transacts u ended.1 within) ∧
    ((∃ newId created joined, ended.1 = .ok (.migrated newId created joined)) ↔
      ⟨.within .commit, none⟩ ∈ calls) ∧
    ∃ passed last, toldStates ended.2.events = (passed ++ [last]).map (u.legacyId, ·) ∧
      passed.head? = some .start ∧ (∀ s ∈ passed, s.isFinal = false) ∧ last.isFinal = true ∧
      EndsIn u ended.1 last := by
  intro ended calls unstored
  -- the run with the calls recorded has the same result and the same events
  obtain ⟨hresult, -, hjournal⟩ := migrateRecord_recorded store provider u w
  have hdoes : Does u.legacyId (migrateRecord store.recorded provider.beside u) (Traced u) :=
    does_migrateRecord provider
  obtain ⟨calls', states, hcalls, hstates, htraced⟩ := hdoes (.start (.start w))
  have hcalls : calls = calls' := hcalls
  have htold : toldStates ended.2.events = states.map (u.legacyId, ·) := by
    rw [Run.events, ← hjournal]
    exact hstates
  rw [hresult, ← hcalls] at htraced
  obtain ⟨passed, last, rfl, hspec⟩ := htraced.states_eq
  exact ⟨htraced.calls_nil, htraced.calls_of_stored, htraced.migrated_iff, passed, last, htold,
    hspec⟩

end Rekey

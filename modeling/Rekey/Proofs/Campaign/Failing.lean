import Rekey.Migration.Campaign
import Rekey.Proofs.Users.Protocol

/-!
# How operations fail

No operation of a campaign fails on the configuration, a file or a text: what becomes of a single
user is a failure of that user. A batch fails only on the list that it begins with, and then it has
done nothing else; once it has its list it succeeds, whatever becomes of the units on it.
-/

namespace Rekey

variable {σ τ α β : Type}

/-! ## Operations are never fatal -/

/-- The result is no failure that is fatal. -/
def NotFatal (a : Except Failure α) : Prop :=
  ∀ f, a = .error f → f.isFatal = false

/-- Wherever the action starts, its result is not fatal. -/
def NeverFatal (act : Action σ (Except Failure α)) : Prop :=
  ∀ r, NotFatal (act r).1

theorem NotFatal.map {a : Except Failure α} (h : NotFatal a) (g : α → β) : NotFatal (a.map g) := by
  cases a with
  | ok a => exact nofun
  | error f =>
    rintro _ ⟨⟩
    exact h f rfl

namespace NeverFatal

theorem ok {a : α} : NeverFatal (pure (.ok a) : Action σ _) :=
  fun _ _ h => nomatch h

theorem error {f : Failure} (h : f.isFatal = false) :
    NeverFatal (pure (.error f) : Action σ (Except Failure α)) := by
  rintro _ _ ⟨⟩
  exact h

theorem bind {act : Action σ α} {g : α → Action σ (Except Failure β)}
    (h : ∀ a, NeverFatal (g a)) : NeverFatal (act >>= g) :=
  fun r => h _ (act r).2

/-- What goes on with the result of an action that is never fatal. -/
theorem andThen {act : Action σ (Except Failure α)}
    {g : Except Failure α → Action σ (Except Failure β)} (hact : NeverFatal act)
    (h : ∀ a, NotFatal a → NeverFatal (g a)) : NeverFatal (act >>= g) :=
  fun r => h _ (hact r) (act r).2

end NeverFatal

/-- A record ends in one of the ways that the protocol of a record knows. -/
theorem migrateRecord_neverFatal (store : Store σ τ) (provider : Provider σ) (u : LegacyUser) :
    NeverFatal (migrateRecord store provider u) := by
  intro r f hf
  -- a record that takes notes ends alike, and its protocol names all the ways to end
  have hjoins : JoinsTelling Eq := fun _ _ _ h => congrArg _ h
  obtain ⟨hresult, -⟩ := agree_migrateRecord hjoins store.recorded_agrees provider.beside_agrees u
    ⟨.start r.world, r.journal⟩ r ⟨rfl, rfl⟩
  have hdoes : Does u.legacyId (migrateRecord store.recorded provider.beside u) (Traced u) :=
    does_migrateRecord provider
  obtain ⟨_, _, -, -, htraced⟩ := hdoes ⟨.start r.world, r.journal⟩
  rw [hresult, hf] at htraced
  obtain ⟨_, _, -, -, -, -, hends⟩ := htraced.states_eq
  cases hends <;> rfl

theorem migrateById_neverFatal (store : Store σ τ) (provider : Provider σ) (identifier : String) :
    NeverFatal (migrateById store provider identifier) := by
  unfold migrateById
  dsimp only
  split
  · refine .bind fun found => ?_
    split
    · exact .error rfl
    · exact .error rfl
    · refine (migrateRecord_neverFatal store provider _).andThen fun outcome houtcome => ?_
      split
      · exact .error (houtcome _ rfl)
      · exact .ok
      · exact .bind fun _ => .ok
  · exact .error rfl

/-! ## Batches fail on their lists -/

/-- The action fails as its list does, having done nothing else, and succeeds otherwise. -/
def FailsOnList (list : StateM σ (Except StoreFault β)) (act : Action σ (Except Failure α)) :
    Prop :=
  ∀ r : Run σ, match list r.world with
    | (.error e, w) => act r = (.error (.store e), ⟨w, r.journal⟩)
    | (.ok _, _) => ∃ a, (act r).1 = .ok a

theorem FailsOnList.neverFatal {list : StateM σ (Except StoreFault β)}
    {act : Action σ (Except Failure α)} (h : FailsOnList list act) : NeverFatal act := by
  intro r f hf
  have hr := h r
  split at hr
  · rw [hr] at hf
    obtain rfl := Except.error.inj hf
    rfl
  · obtain ⟨a, ha⟩ := hr
    rw [ha] at hf
    contradiction

/-- The fault with which a list fails. -/
def faultIn (list : StateM σ (Except StoreFault β)) : StateM σ (Option StoreFault) :=
  faultOf <$> list

/-- The same of what is made of the result. -/
theorem FailsOnList.wrapped {γ κ : Type} {list : StateM σ (Except StoreFault β)}
    {act : Action σ (Except Failure α)} (h : FailsOnList list act) (g : α → γ) (k : κ)
    (r : Run σ) :
    let wrapped : Action σ (Except Failure γ × κ) := do let a ← act; pure (a.map g, k)
    match faultIn list r.world with
    | (some e, w) => wrapped r = ((.error (.store e), k), ⟨w, r.journal⟩)
    | (none, _) => ∃ b, (wrapped r).1.1 = .ok b := by
  have hr := h r
  unfold faultIn
  split at hr
  · rename_i e w hlist
    simp only [Functor.map, StateT.map, hlist, faultOf, bind, pure]
    exact bind_of_eq hr
  · rename_i units w hlist
    obtain ⟨a, ha⟩ := hr
    simp only [Functor.map, StateT.map, hlist, faultOf, bind, pure]
    exact ⟨g a, congrArg (Except.map g) ha⟩

theorem migrateUsers_failsOnList (store : Store σ τ) (provider : Provider σ)
    (stop : StateM σ Bool) :
    FailsOnList store.legacyUsersByAge (migrateUsers store provider stop) := by
  rintro ⟨w, journal⟩
  unfold migrateUsers
  split
  · rename_i e w' hlist
    rw [bind_of_eq (call_of_eq hlist)]
    rfl
  · rename_i users w' hlist
    rw [bind_of_eq (call_of_eq hlist)]
    exact ⟨_, rfl⟩

theorem relocateFiles_failsOnList (store : Store σ τ) (storage : ObjectStorage σ)
    (layout : Layout) (dryRun : Bool) (stop : StateM σ Bool) :
    FailsOnList store.mappedUsers (relocateFiles store storage layout dryRun stop) := by
  rintro ⟨w, journal⟩
  unfold relocateFiles fileTasks
  rw [bind_assoc]
  split
  · rename_i e w' hlist
    rw [bind_of_eq (call_of_eq hlist)]
    rfl
  · rename_i users w' hlist
    rw [bind_of_eq (call_of_eq hlist)]
    exact ⟨_, rfl⟩

namespace Campaign

variable {w w' : σ}

/-! ## Setting up fails as the mappings are prepared -/

theorem setUp_of_ready {c : Campaign σ τ} (h : c.ready = true) : c.setUp = pure (.ok (), c) := by
  rw [setUp, if_pos h]

theorem setUp_failed (c : Campaign σ τ) (h : c.ready = false) {e : StoreFault}
    (hcall : c.store.prepareMappings w = (.error e, w')) (journal : List Event) :
    c.setUp ⟨w, journal⟩ = ((.error (.store e), c), ⟨w', journal⟩) := by
  rw [setUp, h, if_neg Bool.false_ne_true, bind_of_eq (call_of_eq hcall)]
  rfl

theorem setUp_done (c : Campaign σ τ) (h : c.ready = false)
    (hcall : c.store.prepareMappings w = (.ok (), w')) (journal : List Event) :
    c.setUp ⟨w, journal⟩ =
      ((.ok (), { c with ready := true }), ⟨w', .mappingTableReady :: journal⟩) := by
  rw [setUp, h, if_neg Bool.false_ne_true, bind_of_eq (call_of_eq hcall)]
  rfl

/-! ## Replacing keys fails on its list -/

theorem replaceKeys_failsOnList {c : Campaign σ τ} (h : c.ready = true) (ds : List Descriptor) :
    FailsOnList c.store.mappingsByAge (c.replaceKeys ds) := by
  rintro ⟨w, journal⟩
  rw [Campaign.replaceKeys, if_pos h, loadIndex, bind_assoc]
  split
  · rename_i e w' hlist
    rw [bind_of_eq (call_of_eq hlist)]
    rfl
  · rename_i users w' hlist
    rw [bind_of_eq (call_of_eq hlist)]
    exact ⟨_, rfl⟩

end Campaign

end Rekey

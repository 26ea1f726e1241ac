import Rekey.Proofs.Action

/-!
# Actions that agree

`Agree R act act'` says that two actions, maybe over different worlds, give the same result when
they start in states related by `R`, and end in states related by `R` again. Sequences agree when
their parts do, so two migrations over different collaborators agree when the collaborators do.
-/

namespace Rekey

variable {σ σ' α β : Type}

/-- From related states the actions give the same result and end in related states. -/
def Agree (R : σ → σ' → Prop) (act : StateM σ α) (act' : StateM σ' α) : Prop :=
  ∀ s s', R s s' → (act s).1 = (act' s').1 ∧ R (act s).2 (act' s').2

namespace Agree

variable {R : σ → σ' → Prop}

theorem pure {a : α} : Agree R (pure a) (pure a) :=
  fun _ _ hs => ⟨rfl, hs⟩

/-- From the same state an action does what it does. -/
theorem self {act : StateM σ α} : Agree Eq act act := by
  rintro s _ rfl
  exact ⟨rfl, rfl⟩

theorem bind {act : StateM σ α} {act' : StateM σ' α} {f : α → StateM σ β} {f' : α → StateM σ' β}
    (h : Agree R act act') (hf : ∀ a, Agree R (f a) (f' a)) :
    Agree R (act >>= f) (act' >>= f') := by
  intro s s' hs
  obtain ⟨hresult, hend⟩ := h s s' hs
  have hrest := hf (act s).1 (act s).2 (act' s').2 hend
  rw [hresult] at hrest
  rw [show (act >>= f) s = f (act s).1 (act s).2 from rfl, hresult]
  exact hrest

/-- An action ends as one that it agrees with, in a related state. -/
theorem ends {act : StateM σ α} {act' : StateM σ' α} (h : Agree R act act') {s : σ} {s' : σ'}
    (hs : R s s') {Q : α → σ' → Prop} (hend : Ends act' s' Q) :
    Ends act s fun a t => ∃ t', R t t' ∧ Q a t' := by
  obtain ⟨hresult, hrelated⟩ := h s s' hs
  refine ⟨(act' s').2, hrelated, ?_⟩
  rw [hresult]
  exact hend

end Agree

/-- What follows an action goes on from where the action ended. -/
theorem bind_of_eq {act : StateM σ α} {f : α → StateM σ β} {s s' : σ} {a : α}
    (h : act s = (a, s')) : (act >>= f) s = f a s' := by
  simp only [bind, StateT.bind, h]

/-- What follows a look at the state. -/
theorem get_bind {f : σ → StateM σ α} (s : σ) : (get >>= f) s = f s s := rfl

theorem call_of_eq {act : StateM σ α} {w w' : σ} {a : α} {journal : List Event}
    (h : act w = (a, w')) : call act ⟨w, journal⟩ = (a, ⟨w', journal⟩) := by
  simp only [call, h]

/-- Two runs in worlds related by `W` with journals related by `J`. -/
structure Run.Alike (W : σ → σ' → Prop) (J : List Event → List Event → Prop) (r : Run σ)
    (r' : Run σ') : Prop where
  world : W r.world r'.world
  journal : J r.journal r'.journal

/-- Related journals stay related when one event is told in both. -/
def JoinsTelling (J : List Event → List Event → Prop) : Prop :=
  ∀ e journal journal', J journal journal' → J (e :: journal) (e :: journal')

section Runs

variable {W : σ → σ' → Prop} {J : List Event → List Event → Prop}

theorem agree_call {act : StateM σ α} {act' : StateM σ' α} (h : Agree W act act') :
    Agree (Run.Alike W J) (call act) (call act') := by
  intro r r' hr
  obtain ⟨hresult, hworld⟩ := h _ _ hr.world
  exact ⟨hresult, hworld, hr.journal⟩

theorem agree_tell (hJ : JoinsTelling J) (e : Event) :
    Agree (Run.Alike W J) (tell e) (tell e) :=
  fun _ _ hr => ⟨rfl, hr.world, hJ e _ _ hr.journal⟩

end Runs

/-- Journals that are the same stay the same. -/
theorem joinsTelling_eq : JoinsTelling Eq :=
  fun e _ _ h => congrArg (e :: ·) h

/-- Journals that may tell anything. -/
def AnyJournals : List Event → List Event → Prop :=
  fun _ _ => True

theorem joinsTelling_any : JoinsTelling AnyJournals :=
  fun _ _ _ _ => trivial

theorem agree_tell_any {W : σ → σ' → Prop} (e e' : Event) :
    Agree (Run.Alike W AnyJournals) (tell e) (tell e') :=
  fun _ _ hr => ⟨rfl, hr.world, trivial⟩

/-! ## Actions without what they tell -/

/-- What an action does to the world, begun with nothing told. -/
def untold (act : Action σ α) : StateM σ α := fun w =>
  let (a, r) := act (.start w)
  (a, r.world)

/-- An action that does not look at what was told does the same whatever was told before. -/
theorem untold_of_agree {act : Action σ α} (h : Agree (Run.Alike Eq AnyJournals) act act) (w : σ)
    (journal : List Event) :
    (act ⟨w, journal⟩).1 = (untold act w).1 ∧ (act ⟨w, journal⟩).2.world = (untold act w).2 := by
  obtain ⟨hresult, hworld, -⟩ := h ⟨w, journal⟩ (.start w) ⟨rfl, trivial⟩
  exact ⟨hresult, hworld⟩

end Rekey

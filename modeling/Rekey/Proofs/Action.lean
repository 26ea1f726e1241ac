import Rekey.Migration.Collaborator
import Mathlib.Order.Defs.Unbundled

/-!
# How actions end

`Ends act s Q` says that `act`, started in `s`, ends in a result and a state that satisfy `Q`. A
sequence ends as its second part ends from where its first part ended, so one statement for each
function is enough to follow a whole migration. `Along R act` says that `act` moves every state
along the preorder `R`; a sequence does so when its parts do.
-/

namespace Rekey

variable {σ α β : Type}

/-- Started in `s`, the action ends in a result and a state that satisfy `Q`. -/
def Ends (act : StateM σ α) (s : σ) (Q : α → σ → Prop) : Prop :=
  Q (act s).1 (act s).2

/-- An end that satisfies `Q` satisfies whatever follows from `Q`. -/
theorem Ends.mono {act : StateM σ α} {s : σ} {Q R : α → σ → Prop} (h : Ends act s Q)
    (hQR : ∀ a s', Q a s' → R a s') : Ends act s R :=
  hQR _ _ h

/-- What holds of the end for two reasons holds together. -/
theorem Ends.and {act : StateM σ α} {s : σ} {Q R : α → σ → Prop} (h : Ends act s Q)
    (h' : Ends act s R) : Ends act s fun a s' => Q a s' ∧ R a s' :=
  ⟨h, h'⟩

@[simp] theorem ends_pure {a : α} {s : σ} {Q : α → σ → Prop} :
    Ends (pure a) s Q ↔ Q a s := Iff.rfl

/-- A sequence ends as its second part ends from where its first part ended. -/
@[simp] theorem ends_bind {act : StateM σ α} {f : α → StateM σ β} {s : σ} {Q : β → σ → Prop} :
    Ends (act >>= f) s Q ↔ Ends act s fun a s' => Ends (f a) s' Q := Iff.rfl

/-- A collaborator changes the world and tells nothing. -/
@[simp] theorem ends_call {act : StateM σ α} {r : Run σ} {Q : α → Run σ → Prop} :
    Ends (call act) r Q ↔ Ends act r.world fun a w => Q a ⟨w, r.journal⟩ := Iff.rfl

@[simp] theorem ends_tell {e : Event} {r : Run σ} {Q : Unit → Run σ → Prop} :
    Ends (tell e) r Q ↔ Q () ⟨r.world, e :: r.journal⟩ := Iff.rfl

/-! ## Moving along a preorder -/

/-- The action moves every state along `R`. -/
def Along (R : σ → σ → Prop) (act : StateM σ α) : Prop :=
  ∀ s, R s (act s).2

namespace Along

variable {R : σ → σ → Prop}

theorem ends {act : StateM σ α} (h : Along R act) (s : σ) : Ends act s fun _ s' => R s s' :=
  h s

theorem pure [IsPreorder σ R] {a : α} : Along R (pure a : StateM σ α) :=
  fun s => refl_of R s

theorem bind [IsPreorder σ R] {act : StateM σ α} {f : α → StateM σ β} (h : Along R act)
    (hf : ∀ a, Along R (f a)) : Along R (act >>= f) :=
  fun s => trans_of R (h s) (hf _ _)

end Along

/-- From `r` to `r'` only events that satisfy `J` were told. -/
def Tells (J : Event → Prop) (r r' : Run σ) : Prop :=
  ∀ e ∈ r'.journal, e ∈ r.journal ∨ J e

instance (J : Event → Prop) : IsPreorder (Run σ) (Tells J) where
  refl _ _ he := .inl he
  trans _ _ _ h h' e he := (h' e he).elim (h e) .inr

section Telling

variable {J : Event → Prop}

theorem tells_call {act : StateM σ α} : Along (Tells J) (call act) :=
  fun _ _ he => .inl he

theorem tells_tell {e : Event} (h : J e) : Along (Tells J) (tell e : Action σ Unit) := by
  intro r e' he'
  rcases List.mem_cons.mp he' with rfl | hold
  · exact .inr h
  · exact .inl hold

end Telling

end Rekey

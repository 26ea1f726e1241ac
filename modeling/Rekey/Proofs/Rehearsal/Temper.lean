import Rekey.Proofs.Action
import Rekey.Rehearsal.World

/-!
# Steps under an interference

`Interference.Keeps i P mayFail mayStop` says how `i` may behave while its mind stays in `P`: it
makes a step fail only if `mayFail`, and requests a stop only if `mayStop`. One statement for each
step of the store then serves every pattern of failures: the arbitrary one, the one without
failures, and the one without failures and stops.
-/

namespace Rekey

variable {φ ε α : Type}

namespace Interference

/-- While its mind is in `P` the interference stays in `P`, fails a step only if `mayFail` and
requests a stop only if `mayStop`. -/
structure Keeps (i : Interference φ) (P : φ → Prop) (mayFail mayStop : Prop) : Prop where
  fails : ∀ {m}, P m → ∀ point path,
    P (i.fails point path m).2 ∧ ((i.fails point path m).1 = true → mayFail)
  succeeded : ∀ {m}, P m → ∀ point, P (i.succeeded point m).2
  stopRequested : ∀ {m}, P m →
    P (i.stopRequested m).2 ∧ ((i.stopRequested m).1 = true → mayStop)

/-- Every interference behaves in some way. -/
theorem keeps_any (i : Interference φ) : i.Keeps (fun _ => True) True True where
  fails _ _ _ := ⟨trivial, fun _ => trivial⟩
  succeeded _ _ := trivial
  stopRequested _ := ⟨trivial, fun _ => trivial⟩

/-- From this state of mind on no step is made to fail. -/
def Unfailing (i : Interference φ) (m : φ) : Prop :=
  ∃ P : φ → Prop, P m ∧ i.Keeps P False True

/-- From this state of mind on no stop is requested. -/
def Unstopped (i : Interference φ) (m : φ) : Prop :=
  ∃ P : φ → Prop, P m ∧ i.Keeps P True False

/-- From this state of mind on no step is made to fail and no stop is requested. -/
def Calm (i : Interference φ) (m : φ) : Prop :=
  ∃ P : φ → Prop, P m ∧ i.Keeps P False False

/-- A stop that was requested stays requested, whatever is done, and whoever looks for a stop sees
whether one is requested by then. `requested` says so of a state of mind. -/
structure Latches (i : Interference φ) (requested : φ → Prop) : Prop where
  keeps : i.Keeps requested True True
  seen : ∀ m, (i.stopRequested m).1 = true ↔ requested (i.stopRequested m).2

theorem Calm.unstopped {i : Interference φ} {m : φ} (h : i.Calm m) : i.Unstopped m := by
  obtain ⟨P, hm, hkeeps⟩ := h
  refine ⟨P, hm, fun hm point path => ?_, hkeeps.succeeded, hkeeps.stopRequested⟩
  exact ⟨(hkeeps.fails hm point path).1, fun _ => trivial⟩

end Interference

namespace Rehearsal

/-- The fault that an interference injects at a step of the store. -/
def injected (point : Point) : StoreFault := .backend ("injected " ++ point.text)

/-- A fault that an interference has injected, which it does only if `mayFail`. -/
def IsInjected (mayFail : Prop) (e : StoreFault) : Prop :=
  mayFail ∧ ∃ point, e = injected point

section Steps

variable {i : Interference φ} {P : φ → Prop} {F S : Prop} {w : World φ}

theorem ends_ask {act : StateM φ α} {Q : α → World φ → Prop} :
    Ends (ask act) w Q ↔ Q (act w.mind).1 { w with mind := (act w.mind).2 } := Iff.rfl

/-- A stop changes nothing but the mind of the interference. -/
theorem ends_stopRequested (h : i.Keeps P F S) (hw : P w.mind) :
    Ends (stopRequested i) w fun b w' =>
      ∃ m, P m ∧ w' = { w with mind := m } ∧ (b = true → S) :=
  ⟨_, (h.stopRequested hw).1, rfl, (h.stopRequested hw).2⟩

/-- A step that may be made to fail fails before it does anything, or is done. -/
theorem ends_hooked (h : i.Keeps P F S) (hw : P w.mind) {point : Point} {path : Option String}
    {e : ε} {act : StateM (World φ) (Except ε α)} {Q : Except ε α → World φ → Prop}
    (hfail : ∀ m, P m → F → Q (.error e) { w with mind := m })
    (hact : ∀ m, P m → Ends act { w with mind := m } Q) :
    Ends (hooked i point path e act) w Q := by
  obtain ⟨hm, hF⟩ := h.fails hw point path
  unfold hooked
  rw [ends_bind, ends_ask]
  split
  · rename_i hfails
    exact hfail _ hm (hF hfails)
  · exact hact _ hm

/-- A step whose success is seen ends as the step does, up to the mind of the interference. -/
theorem ends_watched (h : i.Keeps P F S) {point : Point} {act : StateM (World φ) (Except ε α)}
    {Q : Except ε α → World φ → Prop}
    (hact : Ends act w fun r w' => match r with
      | .error e => Q (.error e) w'
      | .ok a => P w'.mind ∧ ∀ m, P m → Q (.ok a) { w' with mind := m }) :
    Ends (watched i point act) w Q := by
  unfold watched
  rw [ends_bind]
  refine hact.mono ?_
  rintro (e | a) w' hQ
  · exact hQ
  · exact hQ.2 _ (h.succeeded hQ.1 point)

/-- A question to the store leaves the world alone. -/
theorem ends_query {f : MemoryTables → Except StoreFault α}
    {Q : Except StoreFault α → World φ → Prop} : Ends (query f) w Q ↔ Q (f w.store) w := Iff.rfl

/-- A change of the store happens or leaves the world alone. -/
theorem ends_change {f : MemoryTables → Except StoreFault MemoryTables}
    {Q : Except StoreFault Unit → World φ → Prop} :
    Ends (change f) w Q ↔
      match f w.store with
      | .error e => Q (.error e) w
      | .ok s => Q (.ok ()) { w with store := s } := by
  unfold Ends change
  cases f w.store <;> exact Iff.rfl

/-- A question to the store answers what the tables say, unless it is made to fail. -/
theorem ends_guarded_query (h : i.Keeps P F S) (hw : P w.mind) {point : Point}
    {f : MemoryTables → Except StoreFault α} :
    Ends (guarded i point (query f)) w fun r w' =>
      ∃ m, P m ∧ w' = { w with mind := m } ∧ (r = f w.store ∨ F ∧ r = .error (injected point)) :=
  ends_hooked h hw (fun m hm hF => ⟨m, hm, rfl, .inr ⟨hF, rfl⟩⟩)
    fun m hm => ⟨m, hm, rfl, .inl rfl⟩

/-- A question that is not made to fail is answered. -/
theorem ends_query_of_passes {point : Point} {f : MemoryTables → Except StoreFault α}
    (hpass : (i.fails point none w.mind).1 = false) :
    Ends (guarded i point (query f)) w fun r w' =>
      r = f w.store ∧ w' = { w with mind := (i.fails point none w.mind).2 } := by
  unfold guarded hooked
  rw [ends_bind, ends_ask, hpass]
  exact ⟨rfl, rfl⟩

/-- A question that is made to fail is not answered. -/
theorem ends_query_of_fails {point : Point} {f : MemoryTables → Except StoreFault α}
    (hfails : (i.fails point none w.mind).1 = true) :
    Ends (guarded i point (query f)) w fun r w' =>
      r = .error (injected point) ∧ w' = { w with mind := (i.fails point none w.mind).2 } := by
  unfold guarded hooked
  rw [ends_bind, ends_ask, hfails]
  exact ⟨rfl, rfl⟩

/-! The writes of a transaction ask the tables and nothing else. -/

theorem ends_putMapping {t : Transaction} {legacyId email newId : String}
    {Q : Except StoreFault Transaction → World φ → Prop} :
    Ends ((store i).putMapping t legacyId email newId) w Q ↔
      Q (w.store.putMapping t legacyId email newId) w := Iff.rfl

theorem ends_addTargetUser {t : Transaction} {u : TargetUser}
    {Q : Except StoreFault Transaction → World φ → Prop} :
    Ends ((store i).addTargetUser t u) w Q ↔ Q (w.store.addTargetUser t u) w := Iff.rfl

theorem ends_addMembership {t : Transaction} {m : Membership}
    {Q : Except StoreFault Transaction → World φ → Prop} :
    Ends ((store i).addMembership t m) w Q ↔ Q (w.store.addMembership t m) w := Iff.rfl

/-- A transaction begins without writes. -/
theorem ends_begin (h : i.Keeps P F S) (hw : P w.mind) :
    Ends (store i).beginTransaction w fun r w' =>
      ∃ m, P m ∧ w' = { w with mind := m } ∧
        (r = .ok [] ∨ F ∧ r = .error (injected .beginTransaction)) :=
  ends_hooked h hw (fun m hm hF => ⟨m, hm, rfl, .inr ⟨hF, rfl⟩⟩)
    fun m hm => ⟨m, hm, rfl, .inl rfl⟩

/-- A commit moves the clock and applies the writes, or fails and does neither. -/
theorem ends_commit (h : i.Keeps P F S) (hw : P w.mind) (t : Transaction) :
    Ends ((store i).commit t) w fun r w' => ∃ m, P m ∧
      (r = .ok () ∧ w' = { w with
          mind := m, clock := w.clock.advance, store := w.store.commit (fun _ => w.clock.advance.now) t } ∨
        F ∧ r = .error (injected .commit) ∧ w' = { w with mind := m }) := by
  refine ends_watched h (ends_hooked h hw ?_ ?_)
  · exact fun m hm hF => ⟨m, hm, .inr ⟨hF, rfl, rfl⟩⟩
  · exact fun m hm => ⟨hm, fun m' hm' => ⟨m', hm', .inl ⟨rfl, rfl⟩⟩⟩

/-- Taking a transaction back leaves the world alone, whether it succeeds or not. -/
theorem ends_rollback (h : i.Keeps P F S) (hw : P w.mind) (t : Transaction) :
    Ends ((store i).rollback t) w fun r w' =>
      ∃ m, P m ∧ w' = { w with mind := m } ∧ (r = .ok () ∨ F ∧ r = .error (injected .rollback)) := by
  refine ends_watched h (ends_hooked h hw ?_ ?_)
  · exact fun m hm hF => ⟨m, hm, rfl, .inr ⟨hF, rfl⟩⟩
  · exact fun m hm => ⟨hm, fun m' hm' => ⟨m', hm', rfl, .inl rfl⟩⟩

end Steps

end Rehearsal

end Rekey

import Rekey.Proofs.Campaign.Watching

/-!
# A chronicle of replacing identifiers

The phase that replaces identifiers does three things in its world: it looks whether a stop is
requested, it scans a column, and it updates a row. Here each of them is noted in order, with its
answer and the world that it leaves. Noting changes no result. A stop request that is made stays
made, so in the notes a look that shows no stop never stands after the request.
-/

namespace Rekey

variable {σ τ α β : Type}

/-- Something done while identifiers are replaced, with its answer. -/
inductive Deed where
  | look (stopped : Bool)
  | scan (d : Descriptor) (shown : Except StoreFault (List ScannedRow))
  | update (d : Descriptor) (locator : Locator) (cell : Cell) (fault : Option StoreFault)
deriving Repr, Inhabited

/-- The deed is a look for a stop and asks nothing of the store. -/
def Deed.isLook : Deed → Bool
  | look _ => true
  | _ => false

@[simp] theorem Deed.isLook_look (stopped : Bool) : (look stopped).isLook = true := rfl

/-- A deed and the world that it left. -/
structure Note (σ : Type) where
  deed : Deed
  after : σ

/-- A world with notes of the deeds so far, in order. -/
structure Noted (σ : Type) where
  world : σ
  notes : List (Note σ)

/-- A world in which nothing was done. -/
def Noted.start (w : σ) : Noted σ := ⟨w, []⟩

/-- The world alone. -/
def Noted.part : Part (Noted σ) σ :=
  ⟨Noted.world, fun w n => { n with world := w }⟩

/-- An action that is noted as a deed. -/
def noted (deed : α → Deed) (act : StateM σ α) : StateM (Noted σ) α := fun n =>
  let (a, w) := act n.world
  (a, ⟨w, n.notes ++ [⟨deed a, w⟩]⟩)

/-- The store with its scans and updates noted. -/
def Store.noted (s : Store σ τ) : Store (Noted σ) τ :=
  { Noted.part.store s with
    scan := fun d => Rekey.noted (.scan d) (s.scan d)
    update := fun d locator cell =>
      Rekey.noted (fun r => .update d locator cell (faultOf r)) (s.update d locator cell) }

/-- The looks for a stop, noted. -/
def notedLook (stopRequested : StateM σ Bool) : StateM (Noted σ) Bool :=
  noted .look stopRequested

/-- What is noted while identifiers are replaced. -/
def columnNotes (store : Store σ τ) (stopRequested : StateM σ Bool) (dryRun : Bool)
    (index : MappingIndex) (ds : List Descriptor) (w : σ) : List (Note σ) :=
  (replaceInColumns store.noted (notedLook stopRequested) dryRun index ds
    (.start (.start w))).2.world.notes

/-! ## Noting changes nothing -/

theorem agree_noted {deed : α → Deed} {act : StateM σ α} :
    Agree (fun n w => n.world = w) (noted deed act) act := by
  rintro n _ rfl
  exact ⟨rfl, rfl⟩

theorem agree_notedPart {act : StateM σ α} :
    Agree (fun n w => n.world = w) (Noted.part.lift act) act := by
  rintro n _ rfl
  exact ⟨rfl, rfl⟩

theorem Store.noted_agrees (s : Store σ τ) : s.noted.AgreesOutside (fun n w => n.world = w) s where
  latestMapping _ := agree_notedPart
  mappingsByAge := agree_notedPart
  legacyUsersByAge := agree_notedPart
  legacyUserById _ := agree_notedPart
  mappedUsers := agree_notedPart
  scan _ := agree_noted
  update _ _ _ := agree_noted

/-- With notes taken, replacing identifiers gives the same report and leaves the same world. -/
theorem replaceInColumns_noted (store : Store σ τ) (stopRequested : StateM σ Bool) (dryRun : Bool)
    (index : MappingIndex) (ds : List Descriptor) (w : σ) :
    let watched := replaceInColumns store.noted (notedLook stopRequested) dryRun index ds
      (.start (.start w))
    let plain := replaceInColumns store stopRequested dryRun index ds (.start w)
    watched.1 = plain.1 ∧ watched.2.world.world = plain.2.world := by
  obtain ⟨hresult, hend⟩ := store.noted_agrees.replaceInColumns joinsTelling_eq agree_noted ds
    (.start (.start w)) (.start w) ⟨rfl, rfl⟩
  exact ⟨hresult, hend.world⟩

/-! ## The stop in the notes -/

/-- A stop that was requested stays requested while columns are scanned, rows updated and stops
looked for, and whoever looks for a stop sees whether one is requested by then. -/
structure LatchesStop (store : Store σ τ) (stopRequested : StateM σ Bool) (requested : σ → Prop) :
    Prop where
  scan : ∀ d, Preserves requested (store.scan d)
  update : ∀ d locator cell, Preserves requested (store.update d locator cell)
  look : Preserves requested stopRequested
  seen : ∀ w, (stopRequested w).1 = true ↔ requested (stopRequested w).2

/-- Notes that lead from one world to another. The request stays made, and a look tells of it. -/
inductive Chronicle (requested : σ → Prop) : σ → List (Note σ) → σ → Prop
  | nil {w : σ} : Chronicle requested w [] w
  | cons {w w' : σ} {note : Note σ} {rest : List (Note σ)}
      (hkeeps : requested w → requested note.after)
      (hseen : ∀ stopped, note.deed = .look stopped → (stopped = true ↔ requested note.after))
      (hrest : Chronicle requested note.after rest w') : Chronicle requested w (note :: rest) w'

namespace Chronicle

variable {requested : σ → Prop} {w w' w'' : σ} {notes notes' : List (Note σ)}

theorem append (h : Chronicle requested w notes w') (h' : Chronicle requested w' notes' w'') :
    Chronicle requested w (notes ++ notes') w'' := by
  induction h with
  | nil => exact h'
  | cons hkeeps hseen _ ih => exact .cons hkeeps hseen (ih h')

/-- Once the stop is requested no look shows that there is none. -/
theorem not_look_false (h : Chronicle requested w notes w') (hw : requested w) :
    ∀ note ∈ notes, note.deed ≠ .look false := by
  induction h with
  | nil => exact fun _ hnote => nomatch hnote
  | cons hkeeps hseen _ ih =>
    intro note hnote
    rcases List.mem_cons.mp hnote with rfl | hnote
    · intro hlook
      exact absurd ((hseen false hlook).mpr (hkeeps hw)) Bool.false_ne_true
    · exact ih (hkeeps hw) note hnote

/-- What follows the world after a note. -/
theorem after_note {before after : List (Note σ)} {note : Note σ}
    (h : Chronicle requested w (before ++ note :: after) w') :
    Chronicle requested note.after after w' ∧
      ∀ stopped, note.deed = .look stopped → (stopped = true ↔ requested note.after) := by
  induction before generalizing w with
  | nil =>
    cases h with
    | cons _ hseen hrest => exact ⟨hrest, hseen⟩
  | cons _ _ ih =>
    cases h with
    | cons _ _ hrest => exact ih hrest

/-- A look that shows a stop is followed by none that shows that there is none. -/
theorem not_look_false_of_look_true (h : Chronicle requested w notes w')
    {before after : List Deed} (hdeeds : notes.map Note.deed = before ++ .look true :: after) :
    .look false ∉ after := by
  obtain ⟨before', rest, rfl, -, hrest⟩ := List.map_eq_append_iff.mp hdeeds
  obtain ⟨note, after', rfl, hnote, rfl⟩ := List.map_eq_cons_iff.mp hrest
  obtain ⟨hafter, hseen⟩ := h.after_note
  intro hmem
  obtain ⟨later, hlater, hlook⟩ := List.mem_map.mp hmem
  exact hafter.not_look_false ((hseen true hnote).mp rfl) later hlater hlook

/-- A last look tells whether the stop is requested at the end. -/
theorem last_look (h : Chronicle requested w notes w') {before : List Deed} {stopped : Bool}
    (hdeeds : notes.map Note.deed = before ++ [.look stopped]) :
    stopped = true ↔ requested w' := by
  obtain ⟨before', rest, rfl, -, hrest⟩ := List.map_eq_append_iff.mp hdeeds
  obtain ⟨note, after', rfl, hnote, hnil⟩ := List.map_eq_cons_iff.mp hrest
  obtain rfl := List.map_eq_nil_iff.mp hnil
  obtain ⟨hafter, hseen⟩ := h.after_note
  cases hafter
  exact hseen stopped hnote

end Chronicle

/-! ## Deeds of an action -/

/-- Wherever the action starts, what it does is noted as a chronicle up to where it ends, and the
deeds satisfy `Q` with its result. -/
def Chronicles (requested : σ → Prop) (act : Action (Noted σ) α) (Q : α → List Deed → Prop) :
    Prop :=
  ∀ r, ∃ notes, (act r).2.world.notes = r.world.notes ++ notes ∧
    Chronicle requested r.world.world notes (act r).2.world.world ∧
    Q (act r).1 (notes.map Note.deed)

theorem Chronicles.mono {requested : σ → Prop} {act : Action (Noted σ) α}
    {Q R : α → List Deed → Prop} (h : Chronicles requested act Q)
    (hQR : ∀ a deeds, Q a deeds → R a deeds) : Chronicles requested act R := by
  intro r
  obtain ⟨notes, hnotes, hleads, hQ⟩ := h r
  exact ⟨notes, hnotes, hleads, hQR _ _ hQ⟩

section Rules

variable {requested : σ → Prop} {Q : α → List Deed → Prop} {R : β → List Deed → Prop}

theorem chronicles_pure {a : α} (h : Q a []) :
    Chronicles requested (pure a : Action (Noted σ) α) Q :=
  fun _ => ⟨[], (List.append_nil _).symm, .nil, h⟩

/-- The deeds of a sequence are those of its parts. -/
theorem chronicles_bind {act : Action (Noted σ) α} {f : α → Action (Noted σ) β}
    (h : Chronicles requested act Q)
    (hf : ∀ a deeds, Q a deeds → Chronicles requested (f a) fun b deeds' => R b (deeds ++ deeds')) :
    Chronicles requested (act >>= f) R := by
  intro r
  obtain ⟨notes, hnotes, hleads, hQ⟩ := h r
  obtain ⟨notes', hnotes', hleads', hR⟩ := hf _ _ hQ (act r).2
  refine ⟨notes ++ notes', ?_, hleads.append hleads', ?_⟩
  · rw [← List.append_assoc, ← hnotes]
    exact hnotes'
  · rw [List.map_append]
    exact hR

/-- Telling an event is no deed. -/
theorem chronicles_tell {e : Event} {f : Unit → Action (Noted σ) β}
    (hf : Chronicles requested (f ()) R) : Chronicles requested (tell e >>= f) R :=
  fun r => hf ⟨r.world, e :: r.journal⟩

/-- A deed is done before what follows. -/
theorem chronicles_noted {deed : α → Deed} {act : StateM σ α} {f : α → Action (Noted σ) β}
    (hkeeps : Preserves requested act)
    (hseen : ∀ w stopped, deed (act w).1 = .look stopped →
      (stopped = true ↔ requested (act w).2))
    (hf : ∀ a, Chronicles requested (f a) fun b deeds => R b (deed a :: deeds)) :
    Chronicles requested (call (noted deed act) >>= f) R := by
  refine chronicles_bind (Q := fun a deeds => deeds = [deed a]) (fun r => ?_) ?_
  · exact ⟨[⟨deed _, _⟩], rfl, .cons (hkeeps _) (hseen _) .nil, rfl⟩
  · rintro a _ rfl
    exact hf a

variable {store : Store σ τ} {stopRequested : StateM σ Bool}

theorem chronicles_look (hl : LatchesStop store stopRequested requested)
    {f : Bool → Action (Noted σ) β}
    (hf : ∀ stopped, Chronicles requested (f stopped) fun b deeds =>
      R b (.look stopped :: deeds)) :
    Chronicles requested (call (notedLook stopRequested) >>= f) R := by
  refine chronicles_noted hl.look (fun w stopped hlook => ?_) hf
  cases hlook
  exact hl.seen w

theorem chronicles_scan (hl : LatchesStop store stopRequested requested) {d : Descriptor}
    {f : Except StoreFault (List ScannedRow) → Action (Noted σ) β}
    (hf : ∀ shown, Chronicles requested (f shown) fun b deeds => R b (.scan d shown :: deeds)) :
    Chronicles requested (call (store.noted.scan d) >>= f) R :=
  chronicles_noted (hl.scan d) (fun _ _ hlook => by cases hlook) hf

theorem chronicles_update (hl : LatchesStop store stopRequested requested) {d : Descriptor}
    {locator : Locator} {cell : Cell} {f : Except StoreFault Unit → Action (Noted σ) β}
    (hf : ∀ answer, Chronicles requested (f answer) fun b deeds =>
      R b (.update d locator cell (faultOf answer) :: deeds)) :
    Chronicles requested (call (store.noted.update d locator cell) >>= f) R :=
  chronicles_noted (hl.update d locator cell) (fun _ _ hlook => by cases hlook) hf

end Rules

end Rekey

import Rekey.Proofs.Rehearsal.Temper
import Rekey.Proofs.Users.Consistency

/-!
# Steps that leave the records alone

Of the steps of a store only a commit changes a user, a membership or a mapping. A collaborator
that is no store is expected to leave the records of the store alone, as the provider and the
object storage of a rehearsal do.
-/

namespace Rekey

variable {φ ε α β : Type}

/-- The stores of two worlds hold the same records. -/
def World.SameRecords (w w' : World φ) : Prop :=
  MemoryTables.SameRecords w.store w'.store

instance : IsPreorder (World φ) World.SameRecords where
  refl w := .refl w.store
  trans _ _ _ h h' := MemoryTables.SameRecords.trans h h'

/-- The action leaves the records of the store alone. -/
abbrev Spares (act : StateM (World φ) α) : Prop :=
  Along World.SameRecords act

/-- A provider that leaves the records of the store alone. -/
structure Provider.IsSparing (p : Provider (World φ)) : Prop where
  accountOf : ∀ email, Spares (p.accountOf email)
  createAccount : ∀ email, Spares (p.createAccount email)

/-- An object storage that leaves the records of the store alone. -/
structure ObjectStorage.IsSparing (s : ObjectStorage (World φ)) : Prop where
  contains : ∀ path, Spares (s.contains path)
  copy : ∀ target source, Spares (s.copy target source)
  move : ∀ target source, Spares (s.move target source)

namespace Rehearsal

variable {i : Interference φ} {point : Point}

theorem spares_ask {act : StateM φ α} : Spares (ask act) :=
  fun w => .refl w.store

theorem spares_hooked {path : Option String} {e : ε} {act : StateM (World φ) (Except ε α)}
    (h : Spares act) : Spares (hooked i point path e act) := by
  refine .bind spares_ask fun fails => ?_
  split
  · exact .pure
  · exact h

theorem spares_watched {act : StateM (World φ) (Except ε α)} (h : Spares act) :
    Spares (watched i point act) := by
  refine .bind h fun r => ?_
  split
  · exact .pure
  · exact .bind spares_ask fun _ => .pure

theorem spares_query {f : MemoryTables → Except StoreFault α} : Spares (query (φ := φ) f) :=
  fun w => .refl w.store

theorem spares_change {f : MemoryTables → Except StoreFault MemoryTables}
    (h : ∀ s s', f s = .ok s' → MemoryTables.SameRecords s s') :
    Spares (change (φ := φ) f) := by
  intro w
  unfold change World.SameRecords
  cases hf : f w.store with
  | error e => exact .refl w.store
  | ok s' => exact h w.store s' hf

/-! ## The store -/

theorem spares_prepareMappings : Spares (store i).prepareMappings := by
  refine spares_hooked (spares_change fun s s' h => ?_)
  obtain rfl := Except.ok.inj h
  exact ⟨rfl, rfl, rfl, rfl⟩

theorem spares_latestMapping {identifier : String} : Spares ((store i).latestMapping identifier) :=
  spares_hooked spares_query

theorem spares_mappingsByAge : Spares (store i).mappingsByAge :=
  spares_hooked spares_query

theorem spares_legacyUsersByAge : Spares (store i).legacyUsersByAge :=
  spares_hooked spares_query

theorem spares_legacyUserById {legacyId : String} : Spares ((store i).legacyUserById legacyId) :=
  spares_hooked spares_query

theorem spares_mappedUsers : Spares (store i).mappedUsers :=
  spares_hooked spares_query

theorem spares_scan {d : Descriptor} : Spares ((store i).scan d) :=
  spares_watched spares_query

/-- Writing a cell changes a table of cells and no record. -/
theorem spares_update {d : Descriptor} {locator : Locator} {cell : Cell} :
    Spares ((store i).update d locator cell) := by
  refine spares_watched (spares_change fun s s' h => ?_)
  unfold MemoryTables.update at h
  split at h
  · contradiction
  split at h
  · contradiction
  split at h
  · contradiction
  · obtain rfl := Except.ok.inj h
    exact ⟨rfl, rfl, rfl, rfl⟩

/-! ## The other collaborators of a rehearsal -/

theorem spares_stopRequested : Spares (stopRequested i) :=
  spares_ask

theorem isSparing_provider : Provider.IsSparing (provider (φ := φ)) :=
  ⟨fun _ w => .refl w.store, fun _ w => .refl w.store⟩

theorem isSparing_storage : ObjectStorage.IsSparing (storage i) :=
  ⟨fun _ => spares_watched (spares_hooked fun w => .refl w.store),
    fun _ _ => spares_watched (spares_hooked fun w => .refl w.store),
    fun _ _ => spares_watched (spares_hooked fun w => .refl w.store)⟩

end Rehearsal

end Rekey

import Rekey.Proofs.Rehearsal.Sparing
import Rekey.Proofs.Users.Journal
import Rekey.Proofs.Users.Record

/-!
# The user phase is sound

Migrating users keeps a consistent store consistent, takes nothing away from it, and never meets a
duplicate key: it only ever enrols users. The provider and the stop may be anything that leaves the
records of the store alone.
-/

namespace Rekey

open Rekey.Text (trim)

/-- The store refused a user or a membership because it held one with the same key. -/
def StoreFault.isDuplicateKey : StoreFault → Bool
  | .duplicateTargetUser _ | .duplicateMembership _ _ => true
  | _ => false

/-- A transaction failed on a duplicate key. -/
def Failure.isDuplicateKey : Failure → Bool
  | .transaction _ cause => cause.isDuplicateKey
  | _ => false

/-- The result is no failure on a duplicate key. -/
def MeetsNoDuplicate {α : Type} (res : Except Failure α) : Prop :=
  ∀ f, res = .error f → f.isDuplicateKey = false

/-- The event tells of a user who failed on a duplicate key. -/
def Event.tellsDuplicate : Event → Bool
  | .userFailed _ failure => failure.isDuplicateKey
  | _ => false

variable {φ α β : Type} {i : Interference φ}

/-- A run whose store is consistent and that has told of no duplicate key. -/
structure Sound (r : Run (World φ)) : Prop where
  consistent : r.world.store.Consistent
  journal : ∀ e ∈ r.journal, e.tellsDuplicate = false

/-- A sound run stays sound, and nothing is taken away from its store. -/
def Advances (r r' : Run (World φ)) : Prop :=
  Sound r → Sound r' ∧ MemoryTables.Grows r.world.store r'.world.store

instance : IsPreorder (Run (World φ)) Advances where
  refl r hr := ⟨hr, .refl r.world.store⟩
  trans _ _ _ h h' hr :=
    have hmid := h hr
    have hend := h' hmid.1
    ⟨hend.1, hmid.2.trans hend.2⟩

theorem advances_call {act : StateM (World φ) α} (h : Spares act) :
    Along Advances (call act) := by
  intro r hr
  have hsame := h r.world
  exact ⟨⟨hr.consistent.of_same hsame, hr.journal⟩, hsame.grows⟩

theorem advances_tell {e : Event} (h : e.tellsDuplicate = false) :
    Along Advances (tell e : Action (World φ) Unit) := by
  intro r hr
  refine ⟨⟨hr.consistent, fun e' he' => ?_⟩, .refl r.world.store⟩
  rcases List.mem_cons.mp he' with rfl | hold
  · exact h
  · exact hr.journal e' hold

/-! ## The user phase -/

section Users

variable {p : Provider (World φ)} {u : LegacyUser} {newId email : String} {w w' : World φ}
  {r : Run (World φ)}

/-- No fault of a consistent store is a duplicate key. -/
theorem MemoryTables.Consistent.unplanned {s : MemoryTables} {e : StoreFault}
    (h : s.Consistent) (he : s.Unplanned u newId e) : e.isDuplicateKey = false := by
  cases he with
  | unready _ => rfl
  | targetFailing _ _ => rfl
  | tenantFailing _ _ _ => rfl
  | duplicate hnew _ hmember => exact absurd (h.membersKnown _ hmember) hnew

theorem meetsNoDuplicate_ok {a : α} : MeetsNoDuplicate (.ok a) := by
  intro f hf
  contradiction

theorem meetsNoDuplicate_error {f : Failure} (h : f.isDuplicateKey = false) :
    MeetsNoDuplicate (.error f : Except Failure α) := by
  intro f' hf
  obtain rfl := Except.error.inj hf
  exact h

/-- Storing a user with a legacy identifier and an email keeps a consistent store consistent, takes
nothing away, and meets no duplicate key. -/
theorem Stores.sound {F : Prop} {res : Except Failure UserResult} (h : Stores F w u newId res w')
    (hw : w.store.Consistent) (hlegacy : isLegacyId u.legacyId = true)
    (hblank : u.emailKey ≠ "") :
    w'.store.Consistent ∧ w.store.Grows w'.store ∧ MeetsNoDuplicate res := by
  cases h with
  | failed he =>
    refine ⟨hw, .refl w.store, meetsNoDuplicate_error ?_⟩
    rcases he with ⟨-, point, rfl⟩ | hunplanned
    · rfl
    · exact hw.unplanned hunplanned
  -- the identifier and the email were checked before the transaction began
  | enrolled _ => exact ⟨hw.enrol hlegacy hblank, MemoryTables.grows_enrol, meetsNoDuplicate_ok⟩

/-- Resolving an email leaves the records alone; a blank email has no identity. -/
theorem resolveIdentity_spares (hp : p.IsSparing) :
    Ends (resolveIdentity p email) r fun res r' =>
      World.SameRecords r.world r'.world ∧ (∀ id, res = .ok id → trim email ≠ "") ∧
        MeetsNoDuplicate res := by
  unfold resolveIdentity
  dsimp only
  generalize trim email = key
  by_cases hblank : key = ""
  · subst hblank
    exact ⟨.refl r.world.store, by intro id hid; contradiction, meetsNoDuplicate_error rfl⟩
  rw [if_neg (by simpa using hblank), ends_bind, ends_call]
  refine ((hp.accountOf key).ends r.world).mono fun found w hfound => ?_
  split
  · exact ⟨hfound, fun _ _ => hblank, meetsNoDuplicate_ok⟩
  · rw [ends_bind, ends_call]
    refine ((hp.createAccount key).ends w).mono fun created w' hcreated => ?_
    have hsame : World.SameRecords r.world w' := trans_of World.SameRecords hfound hcreated
    split
    · exact ⟨hsame, fun _ _ => hblank, meetsNoDuplicate_ok⟩
    · exact ⟨hsame, fun _ _ => hblank, meetsNoDuplicate_error rfl⟩
  · exact ⟨hfound, fun _ _ => hblank, meetsNoDuplicate_error rfl⟩

/-- The store after a record was migrated: it stays consistent and nothing is taken away. -/
theorem migrateRecord_consistent (hp : p.IsSparing) (hr : r.world.store.Consistent) :
    Ends (migrateRecord (Rehearsal.store i) p u) r fun res r' =>
      r'.world.store.Consistent ∧ r.world.store.Grows r'.world.store ∧ MeetsNoDuplicate res := by
  unfold migrateRecord
  rw [ends_bind, ends_tell]
  by_cases hlegacy : isLegacyId u.legacyId = true
  · rw [if_pos hlegacy, ends_bind, ends_tell, ends_bind]
    refine (resolveIdentity_spares hp).mono fun res r₁ hres => ?_
    obtain ⟨hsame, hblank, hdup⟩ := hres
    cases res with
    | error f => exact ⟨hr.of_same hsame, hsame.grows, meetsNoDuplicate_error (hdup f rfl)⟩
    | ok id =>
      dsimp only
      rw [ends_bind, ends_tell]
      refine (storeUser_ends (w := r₁.world) i.keeps_any trivial).mono fun res r₂ hend => ?_
      obtain ⟨hcons, hgrows, hdup⟩ := hend.2.sound (hr.of_same hsame) hlegacy (hblank id rfl)
      exact ⟨hcons, hsame.grows.trans hgrows, hdup⟩
  · rw [if_neg hlegacy]
    exact ⟨hr, .refl r.world.store, meetsNoDuplicate_ok⟩

/-- A record is migrated without a duplicate key, and the run stays sound. -/
theorem migrateRecord_sound (hp : p.IsSparing) (hr : Sound r) :
    Ends (migrateRecord (Rehearsal.store i) p u) r fun res r' =>
      (Sound r' ∧ r.world.store.Grows r'.world.store) ∧ MeetsNoDuplicate res := by
  obtain ⟨hcons, hgrows, hdup⟩ := migrateRecord_consistent (i := i) (u := u) hp hr.consistent
  refine ⟨⟨⟨hcons, fun e he => ?_⟩, hgrows⟩, hdup⟩
  -- of its own a record tells only its steps
  rcases tells_migrateRecord r e he with hold | hstep
  · exact hr.journal e hold
  · cases e with
    | userFailed _ _ => contradiction
    | _ => rfl

theorem advances_bind {act : Action (World φ) α} {f : α → Action (World φ) β} {G : α → Prop}
    (h : ∀ r, Sound r → Ends act r fun a r' =>
      (Sound r' ∧ r.world.store.Grows r'.world.store) ∧ G a)
    (hf : ∀ a, G a → Along Advances (f a)) : Along Advances (act >>= f) := by
  intro r hr
  obtain ⟨⟨hmid, hgrows⟩, ha⟩ := h r hr
  obtain ⟨hend, hgrows'⟩ := hf _ ha _ hmid
  exact ⟨hend, hgrows.trans hgrows'⟩

theorem tellUser_advances {res : Except Failure UserResult} (h : MeetsNoDuplicate res) :
    Along Advances (tellUser (σ := World φ) u res) := by
  unfold tellUser
  split
  · exact .pure
  · exact advances_tell rfl
  · exact advances_tell (h _ rfl)

/-- A batch advances with every record, whenever it is stopped. -/
theorem migrateEach_advances (hp : p.IsSparing) {stop : StateM (World φ) Bool} (hstop : Spares stop)
    (total processed : Nat) (s : Summary) (users : List LegacyUser) :
    Along Advances (migrateEach (Rehearsal.store i) p stop total processed s users) := by
  induction users generalizing processed s with
  | nil => exact .pure
  | cons u rest ih =>
    unfold migrateEach
    refine .bind (advances_call hstop) fun stopped => ?_
    split
    · exact .bind (advances_tell rfl) fun _ => .pure
    · refine advances_bind (fun r hr => migrateRecord_sound hp hr) fun res hres => ?_
      refine .bind (tellUser_advances hres) fun _ => ?_
      dsimp only
      split
      · exact .bind (advances_tell rfl) fun _ => ih _ _
      · exact ih _ _

theorem migrateUsers_advances (hp : p.IsSparing) {stop : StateM (World φ) Bool}
    (hstop : Spares stop) : Along Advances (migrateUsers (Rehearsal.store i) p stop) := by
  unfold migrateUsers
  refine .bind (advances_call Rehearsal.spares_legacyUsersByAge) fun listed => ?_
  split
  · exact .pure
  · exact .bind (advances_tell rfl) fun _ => .bind (migrateEach_advances hp hstop _ _ _ _) fun _ =>
      .bind (advances_tell rfl) fun _ => .pure

/-- A user found by identifier is migrated without a duplicate key. -/
theorem migrateById_sound (hp : p.IsSparing) (identifier : String) (hr : Sound r) :
    Ends (migrateById (Rehearsal.store i) p identifier) r fun res r' =>
      (Sound r' ∧ r.world.store.Grows r'.world.store) ∧ MeetsNoDuplicate res := by
  unfold migrateById
  dsimp only
  split
  · rw [ends_bind, ends_call]
    refine (Rehearsal.spares_legacyUserById.ends r.world).mono fun found w hsame => ?_
    have hr₁ : Sound ⟨w, r.journal⟩ := ⟨hr.consistent.of_same hsame, hr.journal⟩
    split
    · exact ⟨⟨hr₁, hsame.grows⟩, meetsNoDuplicate_error rfl⟩
    · exact ⟨⟨hr₁, hsame.grows⟩, meetsNoDuplicate_error rfl⟩
    · rw [ends_bind]
      refine (migrateRecord_sound hp hr₁).mono fun res r₂ hend => ?_
      obtain ⟨⟨hr₂, hgrows⟩, hdup⟩ := hend
      have hgrows' := hsame.grows.trans hgrows
      split
      · exact ⟨⟨hr₂, hgrows'⟩, meetsNoDuplicate_error (hdup _ rfl)⟩
      · exact ⟨⟨hr₂, hgrows'⟩, meetsNoDuplicate_ok⟩
      · obtain ⟨hr₃, hgrows₃⟩ := advances_tell (φ := φ) (e := .singleUserMigrated _ _) rfl r₂ hr₂
        exact ⟨⟨hr₃, hgrows'.trans hgrows₃⟩, meetsNoDuplicate_ok⟩
  · exact ⟨⟨hr, .refl r.world.store⟩, meetsNoDuplicate_error rfl⟩

end Users

end Rekey

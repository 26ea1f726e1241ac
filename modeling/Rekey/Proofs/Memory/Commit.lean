import Mathlib.Data.List.Induction
import Rekey.Memory.Tables

/-!
# The tables after a commit

A commit writes to the mappings, the users and the memberships and leaves the rest of the store as it
is. After it the store holds the users and the memberships that the transaction and the store held
together before it, which is what the questions inside the transaction ask for. Every mapping that
commits have written stands under its own legacy identifier.
-/

namespace Rekey.MemoryTables

theorem commit_append (times : Readings) (s : MemoryTables) (t t' : Transaction) :
    s.commit times (t ++ t') = (s.commit times t).commit times t' :=
  List.foldl_append

theorem commit_concat (times : Readings) (s : MemoryTables) (t : Transaction) (write : StagedWrite) :
    s.commit times (t ++ [write]) = applyWrite times (s.commit times t) write :=
  commit_append times s t [write]

/-- A commit leaves everything but three tables as it is. -/
theorem commit_frame (times : Readings) (s : MemoryTables) (t : Transaction) :
    s.commit times t =
      { s with
        targetUsers := (s.commit times t).targetUsers
        memberships := (s.commit times t).memberships
        mappings := (s.commit times t).mappings } := by
  induction t using List.reverseRecOn with
  | nil => rfl
  | append_singleton t write ih =>
    rw [commit_concat, ih]
    cases write <;> rfl

theorem commit_legacyUsers (times : Readings) (s : MemoryTables) (t : Transaction) :
    (s.commit times t).legacyUsers = s.legacyUsers := by
  rw [commit_frame]

theorem commit_mappingsReady (times : Readings) (s : MemoryTables) (t : Transaction) :
    (s.commit times t).mappingsReady = s.mappingsReady := by
  rw [commit_frame]

theorem commit_failingTargets (times : Readings) (s : MemoryTables) (t : Transaction) :
    (s.commit times t).failingTargets = s.failingTargets := by
  rw [commit_frame]

theorem commit_failingTenants (times : Readings) (s : MemoryTables) (t : Transaction) :
    (s.commit times t).failingTenants = s.failingTenants := by
  rw [commit_frame]

/-- Keys are told apart by their order. -/
theorem compare_beq_eq {κ : Type} [Ord κ] [Std.TransOrd κ] [Std.LawfulEqOrd κ] [DecidableEq κ]
    (k k' : κ) : (compare k k' == .eq) = (k == k') := by
  rw [Bool.eq_iff_iff, beq_iff_eq, beq_iff_eq]
  exact Std.LawfulEqOrd.compare_eq_iff_eq

/-- After a commit the store holds the users that its transaction saw. -/
theorem contains_targetUsers_commit (times : Readings) (s : MemoryTables) (t : Transaction)
    (id : String) : (s.commit times t).targetUsers.contains id = s.hasTargetUser t id := by
  induction t using List.reverseRecOn with
  | nil => rfl
  | append_singleton t write ih =>
    rw [commit_concat]
    unfold hasTargetUser at ih ⊢
    rw [List.any_append, List.any_cons, List.any_nil, Bool.or_false]
    cases write with
    | mapping => simpa [applyWrite, StagedWrite.createsUser] using ih
    | membership => simpa [applyWrite, StagedWrite.createsUser] using ih
    | targetUser u =>
      rw [applyWrite, Std.ExtTreeMap.contains_insert, ih, compare_beq_eq, StagedWrite.createsUser,
        Bool.or_right_comm, Bool.or_comm]

/-- After a commit the store holds the memberships that its transaction saw. -/
theorem contains_memberships_commit (times : Readings) (s : MemoryTables) (t : Transaction)
    (key : MemberKey) : (s.commit times t).memberships.contains key = s.hasMembership t key := by
  induction t using List.reverseRecOn with
  | nil => rfl
  | append_singleton t write ih =>
    rw [commit_concat]
    unfold hasMembership at ih ⊢
    rw [List.any_append, List.any_cons, List.any_nil, Bool.or_false]
    cases write with
    | mapping => simpa [applyWrite, StagedWrite.createsMembership] using ih
    | targetUser => simpa [applyWrite, StagedWrite.createsMembership] using ih
    | membership m =>
      rw [applyWrite, Std.ExtTreeMap.contains_insert, ih, compare_beq_eq,
        StagedWrite.createsMembership, Bool.or_right_comm, Bool.or_comm]

/-! ## Where mappings stand -/

variable {s s' : MemoryTables}

/-- Every mapping stands under its legacy identifier. -/
def Filed (s : MemoryTables) : Prop :=
  ∀ (k : String) (m : Mapping), s.mappings[k]? = some m → m.legacyId = k

/-- Stores whose mappings were written by transactions. Anything else in them may be as it is. -/
inductive Committed : MemoryTables → Prop
  | blank {s : MemoryTables} (h : s.mappings = ∅) : Committed s
  | commit {s : MemoryTables} (times : Readings) (t : Transaction) (h : Committed s) :
      Committed (s.commit times t)
  | elsewhere {s s' : MemoryTables} (hmappings : s'.mappings = s.mappings) (h : Committed s) :
      Committed s'

theorem Filed.of_mappings (h : s.Filed) (hmappings : s'.mappings = s.mappings) : s'.Filed :=
  fun k m hm => h k m (hmappings ▸ hm)

/-- A mapping is written under its legacy identifier, whether it is new there or not. -/
theorem Filed.applyWrite (h : s.Filed) (times : Readings) (write : StagedWrite) :
    (s.applyWrite times write).Filed := by
  cases write with
  | targetUser u => exact h.of_mappings rfl
  | membership m => exact h.of_mappings rfl
  | mapping legacyId email newId =>
    intro k m hm
    simp only [MemoryTables.applyWrite, Std.ExtTreeMap.getElem?_insert] at hm
    split at hm
    · rename_i hk
      obtain rfl := Std.LawfulEqCmp.eq_of_compare hk
      obtain rfl := Option.some.inj hm
      cases hbefore : s.mappings[legacyId]? with
      | none => rfl
      | some m => exact h legacyId m hbefore
    · exact h k m hm

theorem Filed.commit (h : s.Filed) (times : Readings) (t : Transaction) : (s.commit times t).Filed := by
  induction t using List.reverseRecOn with
  | nil => exact h
  | append_singleton t write ih =>
    rw [commit_concat]
    exact ih.applyWrite times write

theorem Committed.filed (h : s.Committed) : s.Filed := by
  induction h with
  | blank h =>
    intro k m hm
    simp [h] at hm
  | commit times t _ ih => exact ih.commit times t
  | elsewhere hmappings _ ih => exact ih.of_mappings hmappings

end Rekey.MemoryTables

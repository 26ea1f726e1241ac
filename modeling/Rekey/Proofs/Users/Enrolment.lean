import Rekey.Proofs.Users.Consistency
import Rekey.Proofs.Users.Learning

/-!
# Enrolling many users

`Enrolled ids users s s'` says that `s'` is `s` once the users were enrolled one after another, at
any times, each under the identifier that `ids` names. It comes with the content of each table
afterwards: a row of a user or a membership is the first one written, a mapping the last one.
-/

namespace Rekey

/-- A mapping without its times. -/
def Mapping.untimed (m : Mapping) : String × String × String :=
  (m.legacyId, m.email, m.newId)

/-- What enrolling a user writes into a mapping, whether or not the row is new. -/
def Mapping.written (m : Mapping) : String × String :=
  (m.email, m.newId)

/-- What a mapping keeps from when its row was new. -/
def Mapping.kept (m : Mapping) : String × Timestamp × Timestamp :=
  (m.legacyId, m.migratedAt, m.createdAt)

theorem Mapping.ext_written {m m' : Mapping} (hwritten : m.written = m'.written)
    (hkept : m.kept = m'.kept) : m = m' := by
  cases m
  cases m'
  simp_all [Mapping.written, Mapping.kept]

namespace MemoryTables

variable {s s' s₁ s₂ : MemoryTables} {ids : LegacyUser → String} {u : LegacyUser}
  {users first rest : List LegacyUser}

/-- The tables once users were enrolled in order, each at some time. -/
inductive Enrolled (ids : LegacyUser → String) :
    List LegacyUser → MemoryTables → MemoryTables → Prop
  | nil {s : MemoryTables} : Enrolled ids [] s s
  | cons {s s' : MemoryTables} {u : LegacyUser} {rest : List LegacyUser} (now : Timestamp)
      (h : Enrolled ids rest (s.enrol now u (ids u)) s') : Enrolled ids (u :: rest) s s'

theorem Enrolled.append (h : Enrolled ids first s s₁) (h' : Enrolled ids rest s₁ s₂) :
    Enrolled ids (first ++ rest) s s₂ := by
  induction h with
  | nil => exact h'
  | cons now _ ih => exact .cons now (ih h')

/-! ## The rows afterwards -/

/-- The row that enrolling a user adds if it is new. -/
def targetOf (u : LegacyUser) (newId : String) (id : String) : Option TargetUser :=
  if newId = id then some ⟨newId, u.emailKey, u.profile⟩ else none

/-- A row that was there stays; else the first user under the identifier has written it. -/
theorem Enrolled.targetUsers_eq (h : Enrolled ids users s s') (id : String) :
    s'.targetUsers[id]? =
      s.targetUsers[id]?.or (users.findSome? fun u => targetOf u (ids u) id) := by
  induction h with
  | nil => simp
  | @cons s _ u rest now _ ih =>
    have hrow : (s.enrol now u (ids u)).targetUsers[id]? =
        s.targetUsers[id]?.or (targetOf u (ids u) id) := enrol_targetUsers id
    -- what is in the table when `u` comes goes before the row of `u`, and that before the rest
    rw [ih, hrow, Option.or_assoc, List.findSome?_cons]
    cases targetOf u (ids u) id <;> rfl

/-- A membership that was there stays; else the first user with this key has written it. -/
theorem Enrolled.memberships_eq (h : Enrolled ids users s s') (key : MemberKey) :
    s'.memberships[key]? =
      s.memberships[key]?.or (users.findSome? fun u => membershipOf u (ids u) key) := by
  induction h with
  | nil => simp
  | @cons s _ u rest now _ ih =>
    rw [ih, enrol_memberships, Option.or_assoc, List.findSome?_cons]
    cases membershipOf u (ids u) key <;> rfl

/-! ## The mappings afterwards -/

/-- The legacy identifier that a mapping row holds; a row keeps the one it was written with. -/
def heldId (s : MemoryTables) (legacyId : String) : String :=
  ((s.mappings[legacyId]?).map Mapping.legacyId).getD legacyId

theorem heldId_enrol {now : Timestamp} {newId : String} (legacyId : String) :
    (s.enrol now u newId).heldId legacyId = s.heldId legacyId := by
  unfold heldId
  rw [enrol_mappings]
  split
  · rename_i hid
    subst hid
    cases s.mappings[u.legacyId]? <;> rfl
  · rfl

theorem enrol_untimed {now : Timestamp} {newId : String} :
    ((s.enrol now u newId).mappings[u.legacyId]?).map Mapping.untimed =
      some (s.heldId u.legacyId, u.emailKey, newId) := by
  rw [enrol_mappings, if_pos rfl]
  unfold heldId
  cases s.mappings[u.legacyId]? <;> rfl

/-- The mapping of somebody else stays. -/
theorem Enrolled.mappings_of_absent (h : Enrolled ids users s s') {legacyId : String}
    (habsent : ∀ u ∈ users, u.legacyId ≠ legacyId) :
    s'.mappings[legacyId]? = s.mappings[legacyId]? := by
  induction h with
  | nil => rfl
  | cons now _ ih =>
    rw [ih fun v hv => habsent v (List.mem_cons_of_mem _ hv), enrol_mappings,
      if_neg (habsent _ List.mem_cons_self)]

/-- A user whose legacy identifier nobody else has gets a mapping to the user's identifier. -/
theorem Enrolled.untimed_of_mem (h : Enrolled ids users s s')
    (halone : ∀ v ∈ users, v.legacyId = u.legacyId → v = u) (hu : u ∈ users) :
    (s'.mappings[u.legacyId]?).map Mapping.untimed =
      some (s.heldId u.legacyId, u.emailKey, ids u) := by
  induction h with
  | nil => contradiction
  | @cons s _ v rest now hrest ih =>
    by_cases hmem : u ∈ rest
    · rw [ih (fun v hv => halone v (List.mem_cons_of_mem _ hv)) hmem, heldId_enrol]
    · -- `u` is enrolled now, and nobody after it has its legacy identifier
      obtain rfl : u = v := (List.mem_cons.mp hu).resolve_right hmem
      have habsent : ∀ v ∈ rest, v.legacyId ≠ u.legacyId := by
        intro v hv hid
        exact hmem (halone v (List.mem_cons_of_mem _ hv) hid ▸ hv)
      rw [hrest.mappings_of_absent habsent, enrol_untimed]

/-- What enrolling the user writes into the mapping of a legacy identifier. -/
def mappedTo (u : LegacyUser) (newId legacyId : String) : Option (String × String) :=
  if u.legacyId = legacyId then some (u.emailKey, newId) else none

/-- The last user with a legacy identifier has written its mapping, unless there is none. -/
theorem Enrolled.mappings_eq (h : Enrolled ids users s s') (legacyId : String) :
    (s'.mappings[legacyId]?).map Mapping.written =
      (users.reverse.findSome? fun u => mappedTo u (ids u) legacyId).or
        ((s.mappings[legacyId]?).map Mapping.written) := by
  induction h with
  | nil => rfl
  | @cons s _ u rest now _ ih =>
    have hrow : ((s.enrol now u (ids u)).mappings[legacyId]?).map Mapping.written =
        (mappedTo u (ids u) legacyId).or ((s.mappings[legacyId]?).map Mapping.written) := by
      rw [enrol_mappings, mappedTo]
      split
      · cases s.mappings[legacyId]? <;> rfl
      · rfl
    -- what the rest has written goes before the row of `u`, and that before the old one
    rw [ih, hrow, List.reverse_cons, List.findSome?_append, Option.or_assoc,
      List.findSome?_singleton]

/-- A mapping that was there stays in its place with its times. -/
theorem Enrolled.mappings_kept (h : Enrolled ids users s s') {legacyId : String} {m : Mapping}
    (hm : s.mappings[legacyId]? = some m) :
    ∃ m', s'.mappings[legacyId]? = some m' ∧ m'.kept = m.kept := by
  induction h generalizing m with
  | nil => exact ⟨m, hm, rfl⟩
  | @cons s _ u _ now _ ih =>
    have hrow : ∃ m', (s.enrol now u (ids u)).mappings[legacyId]? = some m' ∧ m'.kept = m.kept := by
      rw [enrol_mappings]
      split
      · rw [hm]
        exact ⟨_, rfl, rfl⟩
      · exact ⟨m, hm, rfl⟩
    obtain ⟨m', hm', hkept⟩ := hrow
    obtain ⟨m'', hm'', hkept'⟩ := ih hm'
    exact ⟨m'', hm'', hkept'.trans hkept⟩

/-- Enrolling users once more changes nothing: their rows are there, and each mapping ends with the
email and the identifier that it ended with before. -/
theorem Enrolled.again (h : Enrolled ids users s s₁) (h' : Enrolled ids users s₁ s₂) :
    s₂.mappings = s₁.mappings ∧ s₂.targetUsers = s₁.targetUsers ∧
      s₂.memberships = s₁.memberships := by
  refine ⟨?_, ?_, ?_⟩
  · refine Std.ExtTreeMap.ext_getElem? fun legacyId => ?_
    have hfirst := h.mappings_eq legacyId
    have hsecond := h'.mappings_eq legacyId
    -- the last user with this identifier has written the row already
    have hsame : (s₂.mappings[legacyId]?).map Mapping.written =
        (s₁.mappings[legacyId]?).map Mapping.written := by
      rw [hsecond, hfirst, ← Option.or_assoc, Option.or_self]
    cases hrow : s₁.mappings[legacyId]? with
    | none =>
      rw [hrow] at hsame
      exact Option.map_eq_none_iff.mp hsame
    | some m =>
      obtain ⟨m', hm', hkept⟩ := h'.mappings_kept hrow
      rw [hrow, hm', Option.map_some, Option.map_some, Option.some.injEq] at hsame
      rw [hm', Mapping.ext_written hsame hkept]
  · refine Std.ExtTreeMap.ext_getElem? fun id => ?_
    rw [h'.targetUsers_eq, h.targetUsers_eq, Option.or_assoc, Option.or_self]
  · refine Std.ExtTreeMap.ext_getElem? fun key => ?_
    rw [h'.memberships_eq, h.memberships_eq, Option.or_assoc, Option.or_self]

/-! ## Enrolling the same users -/

section Same

variable {users' : List LegacyUser}

/-- Enrolling the same users, in whatever order and however often, gives the same mappings. -/
theorem Enrolled.same_untimed (h₁ : Enrolled ids users s s₁) (h₂ : Enrolled ids users' s s₂)
    (hmem : ∀ u, u ∈ users ↔ u ∈ users')
    (halone : ∀ u ∈ users, ∀ v ∈ users, u.legacyId = v.legacyId → u = v) (legacyId : String) :
    (s₁.mappings[legacyId]?).map Mapping.untimed =
      (s₂.mappings[legacyId]?).map Mapping.untimed := by
  by_cases hwritten : ∃ u ∈ users, u.legacyId = legacyId
  · obtain ⟨u, hu, rfl⟩ := hwritten
    rw [h₁.untimed_of_mem (fun v hv hid => halone v hv u hu hid) hu,
      h₂.untimed_of_mem (fun v hv hid => halone v ((hmem v).mpr hv) u hu hid) ((hmem u).mp hu)]
  · have habsent : ∀ u ∈ users, u.legacyId ≠ legacyId := fun u hu hid => hwritten ⟨u, hu, hid⟩
    rw [h₁.mappings_of_absent habsent,
      h₂.mappings_of_absent fun u hu => habsent u ((hmem u).mpr hu)]

theorem isSome_findSome?_congr {α β : Type} {f : α → Option β} {l l' : List α}
    (hmem : ∀ a, a ∈ l ↔ a ∈ l') : (l.findSome? f).isSome = (l'.findSome? f).isSome := by
  rw [Bool.eq_iff_iff, List.findSome?_isSome_iff, List.findSome?_isSome_iff]
  simp only [hmem]

/-- Enrolling the same users gives the same users a row. -/
theorem Enrolled.same_targets (h₁ : Enrolled ids users s s₁) (h₂ : Enrolled ids users' s s₂)
    (hmem : ∀ u, u ∈ users ↔ u ∈ users') (id : String) :
    id ∈ s₁.targetUsers ↔ id ∈ s₂.targetUsers := by
  rw [Std.ExtTreeMap.mem_iff_isSome_getElem?, Std.ExtTreeMap.mem_iff_isSome_getElem?,
    h₁.targetUsers_eq, h₂.targetUsers_eq, Option.isSome_or, Option.isSome_or,
    isSome_findSome?_congr hmem]

/-- Enrolling the same users gives the same users a membership of the same tenants. -/
theorem Enrolled.same_members (h₁ : Enrolled ids users s s₁) (h₂ : Enrolled ids users' s s₂)
    (hmem : ∀ u, u ∈ users ↔ u ∈ users') (key : MemberKey) :
    key ∈ s₁.memberships ↔ key ∈ s₂.memberships := by
  rw [Std.ExtTreeMap.mem_iff_isSome_getElem?, Std.ExtTreeMap.mem_iff_isSome_getElem?,
    h₁.memberships_eq, h₂.memberships_eq, Option.isSome_or, Option.isSome_or,
    isSome_findSome?_congr hmem]

/-- Lists that are searched with the same result give the same rows. -/
theorem Enrolled.same_rows (h₁ : Enrolled ids users s s₁) (h₂ : Enrolled ids users' s s₂)
    (hfind : ∀ {β : Type} (f : LegacyUser → Option β), users.findSome? f = users'.findSome? f) :
    s₁.targetUsers = s₂.targetUsers ∧ s₁.memberships = s₂.memberships := by
  constructor
  · refine Std.ExtTreeMap.ext_getElem? fun id => ?_
    rw [h₁.targetUsers_eq, h₂.targetUsers_eq, hfind]
  · refine Std.ExtTreeMap.ext_getElem? fun key => ?_
    rw [h₁.memberships_eq, h₂.memberships_eq, hfind]

end Same

end MemoryTables

end Rekey

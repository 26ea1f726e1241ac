import Rekey.Proofs.Users.Resolution

/-!
# What a provider learns from a batch

A batch asks the provider for the emails of its eligible users, one after another. Once it was
asked for an email the answer stays the same, so asking again for users that a batch began with
teaches nothing, and every identifier that was ever handed out is the one that is known in the end.
-/

namespace Rekey

/-- Whether a record is resolved: it has a legacy identifier and an email. -/
def LegacyUser.isEligible (u : LegacyUser) : Bool :=
  isLegacyId u.legacyId && !u.emailKey.isEmpty

/-- The records of a batch that are resolved. -/
def eligible (users : List LegacyUser) : List LegacyUser :=
  users.filter LegacyUser.isEligible

theorem LegacyUser.isEligible_iff {u : LegacyUser} :
    u.isEligible = true ↔ isLegacyId u.legacyId = true ∧ u.emailKey ≠ "" := by
  simp [LegacyUser.isEligible]

theorem eligible_append {users rest : List LegacyUser} :
    eligible (users ++ rest) = eligible users ++ eligible rest :=
  List.filter_append users rest

namespace MemoryProvider

variable {p p' : MemoryProvider} {users first rest : List LegacyUser} {u : LegacyUser}

/-- The provider after it was asked for the emails of some users. -/
def learnAll (p : MemoryProvider) (users : List LegacyUser) : MemoryProvider :=
  users.foldl (fun p u => p.learn u.emailKey) p

/-- The identifier under which an email is known. -/
def idOf (p : MemoryProvider) (email : String) : String :=
  match p.byEmail[email]? with
  | some a => a.id
  | none => ""

/-- The provider has an account for the user. -/
def Knows (p : MemoryProvider) (u : LegacyUser) : Prop :=
  ∃ a, p.byEmail[u.emailKey]? = some a

/-- All that `p` knows is known to `p'`. -/
def Extends (p p' : MemoryProvider) : Prop :=
  ∀ (email : String) (a : Account), p.byEmail[email]? = some a → p'.byEmail[email]? = some a

@[simp] theorem learnAll_nil : p.learnAll [] = p := rfl

@[simp] theorem learnAll_cons :
    p.learnAll (u :: rest) = (p.learn u.emailKey).learnAll rest := rfl

theorem learnAll_append : p.learnAll (first ++ rest) = (p.learnAll first).learnAll rest :=
  List.foldl_append

/-- What the provider knows it never forgets. -/
theorem extends_learnAll : p.Extends (p.learnAll users) := by
  induction users generalizing p with
  | nil => exact fun _ _ h => h
  | cons u rest ih => exact fun email a h => ih email a (learn_keeps h)

theorem Extends.trans {p'' : MemoryProvider} (h : p.Extends p') (h' : p'.Extends p'') :
    p.Extends p'' :=
  fun email a ha => h' email a (h email a ha)

theorem Extends.knows (h : p.Extends p') (hu : p.Knows u) : p'.Knows u :=
  hu.imp fun a ha => h _ a ha

/-- Identifiers that were handed out stay valid. -/
theorem Extends.idOf_eq (h : p.Extends p') {email : String} {a : Account}
    (ha : p.byEmail[email]? = some a) : p'.idOf email = a.id := by
  simp [idOf, h email a ha]

/-- After it was asked for some users the provider knows each of them. -/
theorem learnAll_knows (hcreates : ∀ v ∈ users, v.emailKey ∉ p.failingCreates) (hu : u ∈ users) :
    (p.learnAll users).Knows u := by
  induction users generalizing p with
  | nil => contradiction
  | cons v rest ih =>
    have hrest : ∀ x ∈ rest, x.emailKey ∉ (p.learn v.emailKey).failingCreates := by
      intro x hx
      rw [learn_failingCreates]
      exact hcreates x (List.mem_cons_of_mem v hx)
    rcases List.mem_cons.mp hu with rfl | hmem
    · have hknows : (p.learn u.emailKey).Knows u := learn_knows (hcreates u List.mem_cons_self)
      rw [learnAll_cons]
      exact extends_learnAll.knows hknows
    · exact ih hrest hmem

/-- Users that are known teach nothing. -/
theorem learnAll_of_knows (h : ∀ u ∈ users, p.Knows u) : p.learnAll users = p := by
  induction users with
  | nil => rfl
  | cons u rest ih =>
    obtain ⟨a, ha⟩ := h u List.mem_cons_self
    rw [learnAll_cons, learn_of_known ha]
    exact ih fun v hv => h v (List.mem_cons_of_mem u hv)

/-- Asking for the first users once more in advance makes no difference. -/
theorem learnAll_replay (hcreates : p.failingCreates = []) (h : first <+: users) :
    (p.learnAll first).learnAll users = p.learnAll users := by
  obtain ⟨rest, rfl⟩ := h
  have hagain : (p.learnAll first).learnAll first = p.learnAll first :=
    learnAll_of_knows fun u hu => learnAll_knows (by simp [hcreates]) hu
  rw [learnAll_append, hagain, learnAll_append]

/-! ## The identities that are created -/

/-- The emails of users that the provider does not know, each once, in the order of the users. -/
def unknownEmails (p : MemoryProvider) (users : List LegacyUser) : List String :=
  ((users.map LegacyUser.emailKey).filter fun email => (p.byEmail[email]?).isNone).eraseDups

/-- `p'` is `p` and one new identity for each of the emails, numbered in their order. -/
structure Created (p : MemoryProvider) (emails : List String) (p' : MemoryProvider) : Prop where
  numbered : ∀ (k : Nat) (email : String), emails[k]? = some email →
    p'.byEmail[email]? = some ⟨numberedId (p.lastNumber + k + 1), some email⟩
  kept : ∀ email : String, email ∉ emails → p'.byEmail[email]? = p.byEmail[email]?
  counts : p' = { p with
    byEmail := p'.byEmail
    lastNumber := p.lastNumber + emails.length
    created := p.created + emails.length }

theorem unknownEmails_of_known {a : Account} (h : p.byEmail[u.emailKey]? = some a) :
    p.unknownEmails (u :: rest) = p.unknownEmails rest := by
  simp [unknownEmails, h]

theorem unknownEmails_of_unknown (hcreate : u.emailKey ∉ p.failingCreates)
    (h : p.byEmail[u.emailKey]? = none) :
    p.unknownEmails (u :: rest) = u.emailKey :: (p.learn u.emailKey).unknownEmails rest := by
  have hnone : (p.byEmail[u.emailKey]?).isNone = true := by rw [h, Option.isNone_none]
  unfold unknownEmails
  rw [List.map_cons, List.filter_cons, if_pos hnone, List.eraseDups_cons, List.filter_filter]
  -- what is unknown once the email of `u` is learnt was unknown before and is another email
  refine congrArg (fun emails => u.emailKey :: List.eraseDups emails) ?_
  refine List.filter_congr fun email _ => ?_
  rw [learn_of_unknown hcreate h, Std.ExtTreeMap.getElem?_insert]
  by_cases hsame : u.emailKey = email
  · simp [hsame]
  · have hother : (email == u.emailKey) = false := beq_eq_false_iff_ne.mpr (Ne.symm hsame)
    simp [hsame, hother]

/-- Being asked for users creates an identity for each email that is not known. -/
theorem created_learnAll (hcreates : ∀ u ∈ users, u.emailKey ∉ p.failingCreates) :
    p.Created (p.unknownEmails users) (p.learnAll users) := by
  induction users generalizing p with
  | nil => exact ⟨fun _ _ h => absurd h (by simp [unknownEmails]), fun _ _ => rfl, rfl⟩
  | cons u rest ih =>
    obtain ⟨hcreate, hcreates⟩ := List.forall_mem_cons.mp hcreates
    rw [learnAll_cons]
    cases hknown : p.byEmail[u.emailKey]? with
    | some a =>
      rw [unknownEmails_of_known hknown, learn_of_known hknown]
      exact ih hcreates
    | none =>
      rw [unknownEmails_of_unknown hcreate hknown]
      have hrest := ih (p := p.learn u.emailKey) (by simpa using hcreates)
      have hlearnt := learn_of_unknown hcreate hknown
      have hnumber : (p.learn u.emailKey).lastNumber = p.lastNumber + 1 := by rw [hlearnt]
      refine ⟨fun k email hk => ?_, fun email hother => ?_, ?_⟩
      · cases k with
        | zero =>
          obtain rfl : u.emailKey = email := by simpa using hk
          refine extends_learnAll _ _ ?_
          rw [hlearnt]
          simp
        | succ k =>
          rw [hrest.numbered k email (by simpa using hk), hnumber]
          simp only [Nat.add_assoc, Nat.add_comm 1 k]
      · obtain ⟨hne, hmem⟩ := not_or.mp (mt List.mem_cons.mpr hother)
        rw [hrest.kept email hmem, hlearnt]
        simp [Std.ExtTreeMap.getElem?_insert, Ne.symm hne]
      · rw [hrest.counts, hlearnt]
        simp [Nat.add_assoc, Nat.add_comm]

end MemoryProvider

end Rekey

import Rekey.Migration.Users
import Rekey.Proofs.Rehearsal.Temper

/-!
# Resolving emails

What resolving an email does to the provider in memory: either nothing, with a failure, or the
provider knows the email afterwards, and each later lookup answers the same account. What the
provider knows it never forgets.
-/

namespace Rekey

open Rekey.Text (trim)

namespace MemoryProvider

variable {p : MemoryProvider} {email : String}

/-- A lookup of the email is set to fail, or the creation that it needs. -/
def Refuses (p : MemoryProvider) (email : String) : Prop :=
  email ∈ p.failingLookups ∨ email ∈ p.failingCreates ∧ p.byEmail[email]? = none

/-- The provider after it was asked to create the account of an email, which it does unless the
email has one. -/
def learn (p : MemoryProvider) (email : String) : MemoryProvider :=
  (p.createAccount email).2

/-- `p'` is `p` and one new identity, that of `email`, which a lookup of `email` answers. -/
def Gains (p : MemoryProvider) (email : String) (p' : MemoryProvider) : Prop :=
  ∃ account, p.byEmail[email]? = none ∧ account.email = some email ∧
    p'.accountOf email = .ok account ∧
    p' = { p with
      byEmail := p.byEmail.insert email account
      lastNumber := p.lastNumber + 1
      created := p.created + 1 }

theorem accountOf_eq_ok_iff {a : Account} :
    p.accountOf email = .ok a ↔ email ∉ p.failingLookups ∧ p.byEmail[email]? = some a := by
  unfold accountOf
  by_cases hfail : email ∈ p.failingLookups
  · simp [hfail]
  · cases hknown : p.byEmail[email]? <;> simp [hfail]

theorem accountOf_eq_notFound_iff :
    p.accountOf email = .error .notFound ↔
      email ∉ p.failingLookups ∧ p.byEmail[email]? = none := by
  unfold accountOf
  by_cases hfail : email ∈ p.failingLookups
  · simp [hfail]
  · cases hknown : p.byEmail[email]? <;> simp [hfail]

/-! ## What learning an email changes -/

/-- An email that has an account already teaches nothing. -/
theorem learn_of_known {a : Account} (h : p.byEmail[email]? = some a) : p.learn email = p := by
  unfold learn createAccount
  split
  · rfl
  · rw [h]

theorem accountOf_of_refused (h : email ∈ p.failingLookups) :
    p.accountOf email = .error (.rejected 503 "lookup unavailable") := by
  simp [accountOf, h]

theorem createAccount_of_refused (h : email ∈ p.failingCreates) :
    p.createAccount email = (.error (.rejected 422 "email rejected"), p) := by
  simp [createAccount, h]

theorem learn_of_refused (h : email ∈ p.failingCreates) : p.learn email = p := by
  simp [learn, createAccount, h]

theorem createAccount_of_unknown (hcreate : email ∉ p.failingCreates)
    (h : p.byEmail[email]? = none) :
    p.createAccount email = (.ok ⟨numberedId (p.lastNumber + 1), some email⟩, p.learn email) := by
  simp [learn, createAccount, hcreate, h]

theorem learn_of_unknown (hcreate : email ∉ p.failingCreates) (h : p.byEmail[email]? = none) :
    p.learn email = { p with
      byEmail := p.byEmail.insert email ⟨numberedId (p.lastNumber + 1), some email⟩
      lastNumber := p.lastNumber + 1
      created := p.created + 1 } := by
  simp [learn, createAccount, hcreate, h]

theorem learn_cases (p : MemoryProvider) (email : String) :
    p.learn email = p ∨ email ∉ p.failingCreates ∧ p.byEmail[email]? = none := by
  by_cases hcreate : email ∈ p.failingCreates
  · exact .inl (learn_of_refused hcreate)
  · cases hknown : p.byEmail[email]? with
    | some a => exact .inl (learn_of_known hknown)
    | none => exact .inr ⟨hcreate, rfl⟩

@[simp] theorem learn_failingLookups : (p.learn email).failingLookups = p.failingLookups := by
  rcases learn_cases p email with h | ⟨hcreate, hnew⟩
  · rw [h]
  · rw [learn_of_unknown hcreate hnew]

@[simp] theorem learn_failingCreates : (p.learn email).failingCreates = p.failingCreates := by
  rcases learn_cases p email with h | ⟨hcreate, hnew⟩
  · rw [h]
  · rw [learn_of_unknown hcreate hnew]

/-- What the provider knows it never forgets. -/
theorem learn_keeps {a : Account} {known : String} (h : p.byEmail[known]? = some a) :
    (p.learn email).byEmail[known]? = some a := by
  rcases learn_cases p email with hsame | ⟨hcreate, hnew⟩
  · rw [hsame, h]
  · have hne : email ≠ known := by
      rintro rfl
      rw [hnew] at h
      contradiction
    rw [learn_of_unknown hcreate hnew]
    simp [Std.ExtTreeMap.getElem?_insert, hne, h]

/-- After a creation that is not set to fail the email has an account. -/
theorem learn_knows (hcreate : email ∉ p.failingCreates) :
    ∃ a, (p.learn email).byEmail[email]? = some a := by
  cases hknown : p.byEmail[email]? with
  | some a => exact ⟨a, learn_keeps hknown⟩
  | none =>
    rw [learn_of_unknown hcreate hknown]
    simp

/-- Whoever can look the email up afterwards has learnt nothing or one new identity. -/
theorem learn_gains {a : Account} (h : (p.learn email).accountOf email = .ok a) :
    p.learn email = p ∨ p.Gains email (p.learn email) := by
  rcases learn_cases p email with hsame | ⟨hcreate, hnew⟩
  · exact .inl hsame
  · have hknown := (accountOf_eq_ok_iff.mp h).2
    rw [learn_of_unknown hcreate hnew] at hknown
    simp only [Std.ExtTreeMap.getElem?_insert_self, Option.some.injEq] at hknown
    subst hknown
    exact .inr ⟨_, hnew, rfl, h, learn_of_unknown hcreate hnew⟩

end MemoryProvider

/-! ## How a resolution ends -/

/-- How resolving an email, already trimmed, may end at a provider in memory. -/
inductive Resolves (p : MemoryProvider) (email : String) :
    Except Failure String → MemoryProvider → Prop
  | refused {cause : ProviderFault} (h : email = "" ∨ p.Refuses email) :
      Resolves p email (.error (.resolution email cause)) p
  | known {a : Account} (hblank : email ≠ "")
      (h : (p.learn email).accountOf email = .ok a) :
      Resolves p email (.ok a.id) (p.learn email)

/-- A lookup that succeeds resolves the email and changes nothing. -/
theorem Resolves.of_found {p : MemoryProvider} {email : String} {a : Account}
    (hblank : email ≠ "") (h : p.accountOf email = .ok a) : Resolves p email (.ok a.id) p := by
  have hsame : p.learn email = p :=
    MemoryProvider.learn_of_known (MemoryProvider.accountOf_eq_ok_iff.mp h).2
  have hknown := Resolves.known (p := p) hblank (hsame.symm ▸ h)
  rwa [hsame] at hknown

section Rehearsal

variable {φ : Type} {w : World φ} {email : String}

theorem ends_accountOf {Q : Except ProviderFault Account → World φ → Prop} :
    Ends (Rehearsal.provider.accountOf email) w Q ↔ Q (w.provider.accountOf email) w := Iff.rfl

theorem ends_createAccount {Q : Except ProviderFault Account → World φ → Prop} :
    Ends (Rehearsal.provider.createAccount email) w Q ↔
      Q (w.provider.createAccount email).1 { w with provider := w.provider.learn email } := Iff.rfl

/-- Resolving an email changes nothing of a rehearsal but its provider. -/
theorem resolveIdentity_ends (w : World φ) (journal : List Event) (email : String) :
    Ends (resolveIdentity Rehearsal.provider email) ⟨w, journal⟩ fun r run =>
      ∃ p journal', run = ⟨{ w with provider := p }, journal'⟩ ∧
        Resolves w.provider (trim email) r p := by
  unfold resolveIdentity
  dsimp only
  generalize trim email = key
  by_cases hblank : key = ""
  · subst hblank
    exact ⟨w.provider, journal, rfl, .refused (.inl rfl)⟩
  rw [if_neg (by simpa using hblank), ends_bind, ends_call, ends_accountOf]
  by_cases hlookup : key ∈ w.provider.failingLookups
  · -- the lookup fails, and nothing is created in its place
    rw [MemoryProvider.accountOf_of_refused hlookup]
    exact ⟨w.provider, journal, rfl, .refused (.inr (.inl hlookup))⟩
  cases hknown : w.provider.byEmail[key]? with
  | some a =>
    have hfound := MemoryProvider.accountOf_eq_ok_iff.mpr ⟨hlookup, hknown⟩
    rw [hfound]
    exact ⟨w.provider, _, rfl, .of_found hblank hfound⟩
  | none =>
    rw [MemoryProvider.accountOf_eq_notFound_iff.mpr ⟨hlookup, hknown⟩]
    dsimp only
    rw [ends_bind, ends_call, ends_createAccount]
    by_cases hcreate : key ∈ w.provider.failingCreates
    · rw [MemoryProvider.learn_of_refused hcreate, MemoryProvider.createAccount_of_refused hcreate]
      exact ⟨w.provider, journal, rfl, .refused (.inr (.inr ⟨hcreate, hknown⟩))⟩
    · rw [MemoryProvider.createAccount_of_unknown hcreate hknown]
      refine ⟨w.provider.learn key, _, rfl, .known hblank ?_⟩
      rw [MemoryProvider.accountOf_eq_ok_iff, MemoryProvider.learn_of_unknown hcreate hknown]
      simp [hlookup]

end Rehearsal

end Rekey

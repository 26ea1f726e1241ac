import Rekey.Proofs.Rehearsal.Session
import Rekey.Proofs.Users.NewIds
import Rekey.Text.Percent

/-!
# Accounts converge by email

An identity is made for an email before anything is written for it, and a transaction may fail after
that; still a mapping and the provider always agree on the identifier of an email. Identifiers are
numbers with padding, so no two emails ever get the same one: two mappings share a new identifier
exactly when they share an email.
-/

namespace Rekey

variable {φ : Type} {F S : Prop} {w w' : World φ} {u : LegacyUser}

namespace MemoryProvider

variable {p : MemoryProvider}

/-! ## Numbered identifiers -/

/-- The number that hexadecimal digits write. -/
def readHex (ds : List Char) : Nat :=
  ds.foldl (fun n c => 16 * n + (Text.hexDigit? c).getD 0) 0

theorem hexDigit?_digitChar {d : Nat} (hd : d < 16) : Text.hexDigit? d.digitChar = some d := by
  have hall : ∀ d < 16, Text.hexDigit? (Nat.digitChar d) = some d := by decide
  exact hall d hd

theorem readHex_toDigits (n : Nat) : readHex (Nat.toDigits 16 n) = n := by
  induction n using Nat.strongRecOn with
  | ind n ih =>
    rw [Nat.toDigits_eq_if (by decide)]
    split
    · rename_i hsmall
      simp [readHex, hexDigit?_digitChar hsmall]
    · have hprefix : readHex (Nat.toDigits 16 (n / 16)) = n / 16 := ih (n / 16) (by omega)
      have hlast : Text.hexDigit? (n % 16).digitChar = some (n % 16) :=
        hexDigit?_digitChar (Nat.mod_lt n (by decide))
      unfold readHex at hprefix ⊢
      rw [List.foldl_append, hprefix, List.foldl_cons, List.foldl_nil, hlast, Option.getD_some]
      omega

/-- Leading zeros do not count. -/
theorem readHex_zeros (k : Nat) (ds : List Char) :
    readHex (List.replicate k '0' ++ ds) = readHex ds := by
  induction k with
  | zero => rfl
  | succ k ih => exact ih

/-- Different numbers give different identifiers. -/
theorem numberedId_injective {m n : Nat} (h : numberedId m = numberedId n) : m = n := by
  have hlist := congrArg String.toList h
  simp only [numberedId, String.toList_append, String.toList_ofList,
    List.append_cancel_left_eq] at hlist
  have hread := congrArg readHex hlist
  simpa only [readHex_zeros, readHex_toDigits] using hread

/-! ## Identities of emails -/

/-- The provider has numbered all its identities itself, each email under a number of its own. -/
structure Numbers (p : MemoryProvider) : Prop where
  issued : ∀ (email : String) (a : Account), p.byEmail[email]? = some a →
    ∃ n, n ≤ p.lastNumber ∧ a.id = numberedId n
  injective : ∀ (email email' : String) (a a' : Account), p.byEmail[email]? = some a →
    p.byEmail[email']? = some a' → a.id = a'.id → email = email'

/-- A provider that holds no identity has numbered all of them. -/
theorem numbers_empty (h : p.byEmail = ∅) : p.Numbers where
  issued email a ha := by simp [h] at ha
  injective email email' a a' ha _ _ := by simp [h] at ha

theorem Numbers.learn (h : p.Numbers) (email : String) : (p.learn email).Numbers := by
  rcases learn_cases p email with hsame | ⟨hcreate, hnew⟩
  · rwa [hsame]
  -- the new identity takes the next number, which none of the others has
  have hother : ∀ (known : String) (a : Account), p.byEmail[known]? = some a →
      a.id ≠ numberedId (p.lastNumber + 1) := by
    intro known a ha hid
    obtain ⟨n, hn, hissued⟩ := h.issued known a ha
    have hnumber : n = p.lastNumber + 1 := numberedId_injective (hissued.symm.trans hid)
    omega
  rw [learn_of_unknown hcreate hnew]
  refine ⟨fun known a ha => ?_, fun known known' a a' ha ha' hid => ?_⟩
  · simp only [Std.ExtTreeMap.getElem?_insert] at ha
    split at ha
    · obtain rfl := Option.some.inj ha
      exact ⟨p.lastNumber + 1, Nat.le_refl _, rfl⟩
    · obtain ⟨n, hn, hissued⟩ := h.issued known a ha
      exact ⟨n, Nat.le_succ_of_le hn, hissued⟩
  · simp only [Std.ExtTreeMap.getElem?_insert] at ha ha'
    split at ha <;> split at ha'
    · rename_i hknown hknown'
      rw [← Std.LawfulEqCmp.eq_of_compare hknown, ← Std.LawfulEqCmp.eq_of_compare hknown']
    · obtain rfl := Option.some.inj ha
      exact absurd hid.symm (hother known' a' ha')
    · obtain rfl := Option.some.inj ha'
      exact absurd hid (hother known a ha)
    · exact h.injective known known' a a' ha ha' hid

end MemoryProvider

/-! ## Mappings and identities -/

/-- Every mapping points to the identity that the provider holds for its email. -/
structure World.Converged (w : World φ) : Prop where
  numbers : w.provider.Numbers
  mapped : ∀ (legacyId : String) (m : Mapping), w.store.mappings[legacyId]? = some m →
    ∃ a, w.provider.byEmail[m.email]? = some a ∧ m.newId = a.id

namespace World.Converged

/-- Nothing but mappings and identities bears on it. -/
theorem of_same (h : w.Converged) (hmappings : w'.store.mappings = w.store.mappings)
    (hidentities : w'.provider.byEmail = w.provider.byEmail)
    (hnumber : w'.provider.lastNumber = w.provider.lastNumber) : w'.Converged := by
  refine ⟨⟨?_, ?_⟩, ?_⟩
  · rw [hidentities, hnumber]
    exact h.numbers.issued
  · rw [hidentities]
    exact h.numbers.injective
  · rw [hmappings, hidentities]
    exact h.mapped

/-- An identity that is made for an email leaves those of all mappings as they are. -/
theorem learn (h : w.Converged) (email : String) :
    ({ w with provider := w.provider.learn email } : World φ).Converged := by
  refine ⟨h.numbers.learn email, fun legacyId m hm => ?_⟩
  obtain ⟨a, ha, hid⟩ := h.mapped legacyId m hm
  exact ⟨a, MemoryProvider.learn_keeps ha, hid⟩

/-- Enrolling a user under the identity of the user's email. -/
theorem enrol (h : w.Converged) {a : Account} (ha : w.provider.byEmail[u.emailKey]? = some a)
    {now : Timestamp} {clock : Clock} {m : φ} :
    ({ w with mind := m, clock := clock, store := w.store.enrol now u a.id } :
      World φ).Converged := by
  refine ⟨h.numbers, fun legacyId mapping hmapping => ?_⟩
  rw [MemoryTables.enrol_mappings] at hmapping
  split at hmapping
  · obtain rfl := Option.some.inj hmapping
    -- an older mapping of the user is written over, its email as well as its identifier
    cases w.store.mappings[legacyId]? <;> exact ⟨a, ha, rfl⟩
  · exact h.mapped legacyId mapping hmapping

/-- Migrating a record keeps mappings and identities in agreement, whatever fails. -/
theorem migrates {r : Except Failure UserResult} (h : w.Converged) (hone : Migrates F w u r w') :
    w'.Converged := by
  cases hone with
  | skipped _ => exact h
  | unresolved _ _ => exact h
  | stored _ _ hknown hstore =>
    have hlearnt := h.learn u.emailKey
    cases hstore with
    | failed _ => exact hlearnt.of_same rfl rfl rfl
    | enrolled _ => exact hlearnt.enrol (MemoryProvider.accountOf_eq_ok_iff.mp hknown).2

end World.Converged

/-- What every record keeps, migrating one user keeps. -/
theorem migrateById_preserves {i : Interference φ} {I : World φ → Prop}
    (hmind : ∀ w m, I w → I { w with mind := m })
    (hrecord : ∀ w u r w', Migrates True w u r w' → I w → I w') (identifier : String)
    {run : Run (World φ)} (hw : I run.world) :
    Ends (migrateById (Rehearsal.store i) Rehearsal.provider identifier) run
      fun _ run' => I run'.world := by
  unfold migrateById
  dsimp only
  split
  · rw [ends_bind, ends_call]
    refine (Rehearsal.ends_guarded_query i.keeps_any trivial).mono ?_
    rintro found _ ⟨m, -, rfl, -⟩
    have hasked : I { run.world with mind := m } := hmind run.world m hw
    split
    · exact hasked
    · exact hasked
    · rw [ends_bind]
      refine (migrateRecord_ends (w := { run.world with mind := m }) i.keeps_any trivial).mono ?_
      rintro r run' ⟨-, hone⟩
      have hmigrated : I run'.world := hrecord _ _ _ _ hone hasked
      split <;> exact hmigrated
  · exact hw

/-- The worlds that migrations of users lead to from a store without mappings and a provider that
has made no identity yet. In between users of the old system may be added, and what is neither a
mapping nor an identity may change freely: what the provider refuses, what the store makes fail,
the clock, and what an interference keeps in mind. -/
inductive Onboarded : World φ → Prop
  | fresh {w : World φ} (hmappings : w.store.mappings = ∅)
      (hidentities : w.provider.byEmail = ∅) : Onboarded w
  | addLegacyUser {w : World φ} (u : LegacyUser) (h : Onboarded w) :
      Onboarded { w with store := w.store.addLegacyUser u }
  | elsewhere {w w' : World φ} (hmappings : w'.store.mappings = w.store.mappings)
      (hidentities : w'.provider.byEmail = w.provider.byEmail)
      (hnumber : w'.provider.lastNumber = w.provider.lastNumber) (h : Onboarded w) : Onboarded w'
  | migrateUsers {w : World φ} (i : Interference φ) (h : Onboarded w) :
      Onboarded (migrateUsers (Rehearsal.store i) Rehearsal.provider (Rehearsal.stopRequested i)
        (.start w)).2.world
  | migrateById {w : World φ} (i : Interference φ) (identifier : String) (h : Onboarded w) :
      Onboarded (migrateById (Rehearsal.store i) Rehearsal.provider identifier
        (.start w)).2.world
  | migrateRecord {w : World φ} (i : Interference φ) (u : LegacyUser) (h : Onboarded w) :
      Onboarded (migrateRecord (Rehearsal.store i) Rehearsal.provider u (.start w)).2.world

/-- Every step keeps mappings and identities in agreement. -/
theorem Onboarded.converged (h : Onboarded w) : w.Converged := by
  have hmind : ∀ (w : World φ) m, w.Converged → ({ w with mind := m } : World φ).Converged :=
    fun w m hw => hw.of_same rfl rfl rfl
  have hrecord : ∀ (w : World φ) u r w', Migrates True w u r w' → w.Converged → w'.Converged :=
    fun w u r w' hone hw => hw.migrates hone
  induction h with
  | fresh hmappings hidentities =>
    exact ⟨MemoryProvider.numbers_empty hidentities, fun _ _ hm => by simp [hmappings] at hm⟩
  | addLegacyUser u _ ih => exact ih.of_same rfl rfl rfl
  | elsewhere hmappings hidentities hnumber _ ih => exact ih.of_same hmappings hidentities hnumber
  | @migrateUsers w i _ ih =>
    have hend := migrateUsers_ends (w := w) i.keeps_any [] trivial
    exact hend.2.preserves hmind hrecord ih
  | @migrateById w i identifier _ ih =>
    have hend : Ends (Rekey.migrateById (Rehearsal.store i) _ identifier) (Run.start w)
        fun _ run => run.world.Converged :=
      migrateById_preserves hmind hrecord identifier ih
    exact hend
  | @migrateRecord w i u _ ih =>
    have hend : Ends (Rekey.migrateRecord _ _ u) (Run.start w) _ :=
      migrateRecord_ends i.keeps_any trivial
    exact ih.migrates hend.2

/-- However users were migrated, with whatever failures and stops: every mapping points to the
identity that the provider holds for its email, which has not the old shape, and two mappings share
their new identifier exactly when they share their email. -/
theorem accounts_converge (h : Onboarded w) :
    (∀ (legacyId : String) (m : Mapping), w.store.mappings[legacyId]? = some m →
      (w.provider.byEmail[m.email]?).map Account.id = some m.newId ∧
        isLegacyId m.newId = false) ∧
      ∀ (legacyId legacyId' : String) (m m' : Mapping), w.store.mappings[legacyId]? = some m →
        w.store.mappings[legacyId']? = some m' → (m.newId = m'.newId ↔ m.email = m'.email) := by
  have hw : w.Converged := h.converged
  refine ⟨fun legacyId m hm => ?_, fun legacyId legacyId' m m' hm hm' => ?_⟩
  · obtain ⟨a, ha, hid⟩ := hw.mapped legacyId m hm
    obtain ⟨n, -, hissued⟩ := hw.numbers.issued m.email a ha
    refine ⟨by rw [ha, Option.map_some, hid], ?_⟩
    rw [hid, hissued]
    exact isLegacyId_numberedId n
  · obtain ⟨a, ha, hid⟩ := hw.mapped legacyId m hm
    obtain ⟨a', ha', hid'⟩ := hw.mapped legacyId' m' hm'
    constructor
    · intro hsame
      have hids : a.id = a'.id := by rw [← hid, ← hid', hsame]
      exact hw.numbers.injective m.email m'.email a a' ha ha' hids
    · intro hsame
      rw [hsame, ha'] at ha
      obtain rfl := Option.some.inj ha
      rw [hid, hid']

namespace Rehearsal

/-- A stage after an attempt to migrate a user under a script. -/
def Stage.attempt (script : Script) (u : LegacyUser) (w : Stage) : Stage :=
  (migrateById stageStore provider u.legacyId (.start { w with mind := script })).2.world

theorem Stage.onboarded_attempt {w : Stage} (h : Onboarded w) (script : Script) (u : LegacyUser) :
    Onboarded (Stage.attempt script u w) := by
  have hscript : Onboarded { w with mind := script } := .elsewhere (w := w) rfl rfl rfl h
  unfold Stage.attempt
  with_reducible exact .migrateById Script.interference u.legacyId hscript

end Rehearsal

open Rehearsal in
/-- The first attempt at a user fails at its commit and leaves an identity behind; then two accounts
of one email and another one of a second email are migrated. -/
theorem accounts_converge_stage :
    let grace : LegacyUser := { Stage.ada with
      legacyId := "Grace00000000000000000000001"
      email := "grace@example.org" }
    let failed := Stage.attempt ⟨[(.commit, none)], [], false⟩ Stage.adaAgain
      (.ofUsers [Stage.ada, Stage.adaAgain, grace])
    let w := Stage.attempt .quiet Stage.adaAgain
      (Stage.attempt .quiet grace (Stage.attempt .quiet Stage.ada failed))
    Onboarded w ∧ failed.provider.created = 1 ∧ failed.store.mappings.isEmpty ∧
      ∃ m m' m'', w.store.mappings[Stage.ada.legacyId]? = some m ∧
        w.store.mappings[Stage.adaAgain.legacyId]? = some m' ∧
        w.store.mappings[grace.legacyId]? = some m'' ∧
        m.newId = m'.newId ∧ m.newId ≠ m''.newId := by
  intro grace failed w
  have hfailed : Onboarded failed := Stage.onboarded_attempt (.fresh rfl rfl) _ _
  have hada := Stage.onboarded_attempt hfailed .quiet Stage.ada
  have hw : Onboarded w :=
    Stage.onboarded_attempt (Stage.onboarded_attempt hada .quiet grace) .quiet Stage.adaAgain
  have hemails : [Stage.ada, Stage.adaAgain, grace].map (fun u =>
      (w.store.mappings[u.legacyId]?).map Mapping.email) =
      [some "ada@example.org", some "ada@example.org", some "grace@example.org"] := by
    decide +kernel
  simp only [List.map_cons, List.map_nil, List.cons.injEq, Option.map_eq_some_iff] at hemails
  obtain ⟨⟨m, hm, hemail⟩, ⟨m', hm', hemail'⟩, ⟨m'', hm'', hemail''⟩, -⟩ := hemails
  obtain ⟨-, hshared⟩ := accounts_converge hw
  refine ⟨hw, by decide +kernel, by decide +kernel, m, m', m'', hm, hm', hm'', ?_, ?_⟩
  · exact (hshared _ _ m m' hm hm').mpr (hemail.trans hemail'.symm)
  · intro hsame
    have hmerged := (hshared _ _ m m'' hm hm'').mp hsame
    rw [hemail, hemail''] at hmerged
    exact absurd hmerged (by decide)

end Rekey

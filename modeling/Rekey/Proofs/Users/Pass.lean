import Rekey.Proofs.Users.Recovery

/-!
# Passes

A pass is a batch in which nothing is made to fail: every user who is eligible is enrolled by a
commit of its own, and only a blank email is an error. `Served` and `Tour` say so of one record and
of a batch, and `Pass` says what it makes of the world, as functions of the users passed over.
-/

namespace Rekey

open MemoryTables (Enrolled)

variable {φ : Type} {F S : Prop} {w w' w'' : World φ} {u v : LegacyUser}
  {users rest : List LegacyUser} {s s' : Summary} {r : Except Failure UserResult}

/-! ## Enrolling users at the times of their commits -/

/-- The clock after so many commits. -/
def Clock.after (c : Clock) : Nat → Clock
  | 0 => c
  | n + 1 => c.advance.after n

theorem Clock.after_add (c : Clock) (m n : Nat) : c.after (m + n) = (c.after m).after n := by
  induction m generalizing c with
  | zero => rw [Nat.zero_add, after]
  | succ m ih => rw [Nat.succ_add, after, after, ih]

namespace MemoryTables

variable {ids : LegacyUser → String}

/-- The tables once users were enrolled in order, each at the next time of the clock. -/
def enrolAll (ids : LegacyUser → String) : Clock → MemoryTables → List LegacyUser → MemoryTables
  | _, s, [] => s
  | c, s, u :: rest => enrolAll ids c.advance (s.enrol c.advance.now u (ids u)) rest

theorem enrolAll_append (c : Clock) (s : MemoryTables) (users rest : List LegacyUser) :
    enrolAll ids c s (users ++ rest) =
      enrolAll ids (c.after users.length) (enrolAll ids c s users) rest := by
  induction users generalizing c s with
  | nil => rfl
  | cons u users ih => exact ih c.advance (s.enrol c.advance.now u (ids u))

theorem enrolled_enrolAll (c : Clock) (s : MemoryTables) (users : List LegacyUser) :
    Enrolled ids users s (enrolAll ids c s users) := by
  induction users generalizing c s with
  | nil => exact .nil
  | cons u rest ih => exact .cons c.advance.now (ih _ _)

/-- Enrolling users writes to three tables. -/
theorem enrolAll_frame (c : Clock) (s : MemoryTables) (users : List LegacyUser) :
    enrolAll ids c s users = { s with
      mappings := (enrolAll ids c s users).mappings
      targetUsers := (enrolAll ids c s users).targetUsers
      memberships := (enrolAll ids c s users).memberships } := by
  induction users generalizing c s with
  | nil => rfl
  | cons u rest ih => exact ih c.advance (s.enrol c.advance.now u (ids u))

/-- The store has all that enrolling the user under the identifier would add. -/
def Holds (s : MemoryTables) (u : LegacyUser) (newId : String) : Prop :=
  newId ∈ s.targetUsers ∧ s.Joined u newId

variable {s : MemoryTables} {now : Timestamp} {newId otherId : String}

theorem mem_enrol_memberships (key : MemberKey) :
    key ∈ (s.enrol now u newId).memberships ↔
      key ∈ s.memberships ∨ (membershipOf u newId key).isSome = true := by
  rw [Std.ExtTreeMap.mem_iff_isSome_getElem?, enrol_memberships, Option.isSome_or, Bool.or_eq_true,
    Std.ExtTreeMap.mem_iff_isSome_getElem?]

theorem holds_enrol : (s.enrol now u newId).Holds u newId := by
  refine ⟨(mem_enrol_targetUsers newId).mpr (.inr rfl), fun tenant htenant => ?_⟩
  rw [mem_enrol_memberships]
  right
  simp [membershipOf, htenant]

theorem Holds.enrol (h : s.Holds u newId) : (s.enrol now v otherId).Holds u newId := by
  refine ⟨(mem_enrol_targetUsers newId).mpr (.inl h.1), fun tenant htenant => ?_⟩
  exact (mem_enrol_memberships _).mpr (.inl (h.2 tenant htenant))

/-- Where nothing is to be added, nothing can fail. -/
theorem Holds.not_unplanned (h : s.Holds u newId) (hready : s.mappingsReady = true)
    {e : StoreFault} : ¬ s.Unplanned u newId e := by
  intro hfault
  cases hfault with
  | unready hunready =>
    rw [hready] at hunready
    contradiction
  | targetFailing hnew _ => exact hnew h.1
  | tenantFailing htenant hopen _ => exact hopen h.1 (h.2 _ htenant)
  | duplicate hnew _ _ => exact hnew h.1

/-- Where nothing is to be added, a plan adds nothing. -/
theorem Holds.written_eq (h : s.Holds u newId) {t : Transaction} {written : Written}
    (hplan : s.Planned u newId t written) : written = ⟨false, false⟩ := by
  cases hplan with
  | present _ _ => rfl
  | joining _ htenant hnew => exact absurd (h.2 _ htenant) hnew
  | alone hnew _ => exact absurd h.1 hnew
  | created hnew _ _ => exact absurd h.1 hnew

end MemoryTables

/-! ## One record -/

/-- How a record ends that nothing makes fail. -/
inductive Served (w : World φ) (u : LegacyUser) : Except Failure UserResult → World φ → Prop
  | skipped (hlegacy : isLegacyId u.legacyId = false) : Served w u (.ok .skipped) w
  | blank {cause : ProviderFault} (hlegacy : isLegacyId u.legacyId = true)
      (hblank : u.emailKey = "") : Served w u (.error (.resolution u.emailKey cause)) w
  | enrolled {m : φ} {a : Account} {t : Transaction} {written : Written}
      (heligible : u.isEligible = true)
      (hknown : (w.provider.learn u.emailKey).accountOf u.emailKey = .ok a)
      (hplan : w.store.Planned u a.id t written) :
      Served w u (.ok (.migrated a.id written.createdUser written.membershipAdded))
        { w with
          mind := m
          clock := w.clock.advance
          provider := w.provider.learn u.emailKey
          store := w.store.enrol w.clock.advance.now u a.id }

/-- The store has all that the record asks for, and the provider knows under which identifier; a
record that is not migrated asks for nothing. -/
def World.Settled (w : World φ) (u : LegacyUser) : Prop :=
  isLegacyId u.legacyId = true → u.emailKey ≠ "" ∧
    ∃ a, w.provider.accountOf u.emailKey = .ok a ∧ w.store.Holds u a.id

namespace Served

/-- A record that ended without an error is settled. -/
theorem settles (h : Served w u r w') (hr : ∀ f, r ≠ .error f) : w'.Settled u := by
  cases h with
  | skipped hlegacy =>
    intro hlegacy'
    rw [hlegacy] at hlegacy'
    contradiction
  | blank _ _ => exact absurd rfl (hr _)
  | enrolled heligible hknown _ =>
    intro _
    exact ⟨(LegacyUser.isEligible_iff.mp heligible).2, _, hknown, MemoryTables.holds_enrol⟩

/-- What is settled stays settled. -/
theorem keeps (h : Served w v r w') (hu : w.Settled u) : w'.Settled u := by
  cases h with
  | skipped _ => exact hu
  | blank _ _ => exact hu
  | enrolled _ _ _ =>
    intro hlegacy
    obtain ⟨hblank, a, hknown, hholds⟩ := hu hlegacy
    obtain ⟨hlookup, hfound⟩ := MemoryProvider.accountOf_eq_ok_iff.mp hknown
    refine ⟨hblank, a, MemoryProvider.accountOf_eq_ok_iff.mpr ⟨?_, ?_⟩, hholds.enrol⟩
    · rwa [MemoryProvider.learn_failingLookups]
    · exact MemoryProvider.learn_keeps hfound

theorem unobstructed (h : Served w u r w') (hw : w.Unobstructed users) :
    w'.Unobstructed users := by
  cases h with
  | skipped _ => exact hw
  | blank _ _ => exact hw
  | enrolled _ _ _ =>
    refine ⟨hw.ready, hw.membersKnown.enrol, hw.targets, hw.tenants, fun v hv he => ?_,
      fun v hv he => ?_⟩
    · rw [MemoryProvider.learn_failingLookups]
      exact hw.lookups v hv he
    · rw [MemoryProvider.learn_failingCreates]
      exact hw.creates v hv he

theorem ready (h : Served w u r w') (hw : w.store.mappingsReady = true) :
    w'.store.mappingsReady = true := by
  cases h <;> exact hw

end Served

namespace Migrates

/-- A record that did not fail was served. -/
theorem served_of_ok (h : Migrates F w u r w') (hr : ∀ f, r ≠ .error f) : Served w u r w' := by
  cases h with
  | skipped hlegacy => exact .skipped hlegacy
  | unresolved _ _ => exact absurd rfl (hr _)
  | stored hlegacy hblank hknown hstore =>
    cases hstore with
    | failed _ => exact absurd rfl (hr _)
    | enrolled hplan => exact .enrolled (LegacyUser.isEligible_iff.mpr ⟨hlegacy, hblank⟩) hknown hplan

/-- Where nothing is in the way of a user, the record is served. -/
theorem served_of_unobstructed (h : Migrates False w u r w') (hw : w.Unobstructed users)
    (hu : u ∈ users) : Served w u r w' := by
  cases h with
  | skipped hlegacy => exact .skipped hlegacy
  | unresolved hlegacy hrefused => exact .blank hlegacy (hw.blank_of_refused hu hlegacy hrefused)
  | stored hlegacy hblank hknown hstore =>
    have heligible := LegacyUser.isEligible_iff.mpr ⟨hlegacy, hblank⟩
    cases hstore with
    | failed hfault =>
      rcases hfault with ⟨hF, -⟩ | hunplanned
      · exact hF.elim
      · exact absurd hunplanned (hw.not_unplanned hu heligible)
    | enrolled hplan => exact .enrolled heligible hknown hplan

/-- A record that is settled is served, and adds nothing. -/
theorem served_of_settled (h : Migrates False w u r w') (hready : w.store.mappingsReady = true)
    (hu : w.Settled u) :
    Served w u r w' ∧ (r = .ok .skipped ∨ ∃ newId, r = .ok (.migrated newId false false)) := by
  cases h with
  | skipped hlegacy => exact ⟨.skipped hlegacy, .inl rfl⟩
  | unresolved hlegacy hrefused =>
    obtain ⟨hblank, a, hfound, -⟩ := hu hlegacy
    obtain ⟨hlookup, hknown⟩ := MemoryProvider.accountOf_eq_ok_iff.mp hfound
    rcases hrefused with hempty | hfails | ⟨-, hunknown⟩
    · exact absurd hempty hblank
    · exact absurd hfails hlookup
    · rw [hknown] at hunknown
      contradiction
  | @stored a _ _ hlegacy hblank hknown hstore =>
    obtain ⟨-, b, hfound, hholds⟩ := hu hlegacy
    have hsame : w.provider.learn u.emailKey = w.provider :=
      MemoryProvider.learn_of_known (MemoryProvider.accountOf_eq_ok_iff.mp hfound).2
    obtain rfl : a = b := by
      rw [hsame, hfound] at hknown
      exact (Except.ok.inj hknown).symm
    cases hstore with
    | failed hfault =>
      rcases hfault with ⟨hF, -⟩ | hunplanned
      · exact hF.elim
      · exact absurd hunplanned (hholds.not_unplanned hready)
    | @enrolled _ _ written hplan =>
      have hwritten : written = ⟨false, false⟩ := hholds.written_eq hplan
      refine ⟨.enrolled (LegacyUser.isEligible_iff.mpr ⟨hlegacy, hblank⟩) hknown hplan, .inr ?_⟩
      rw [hwritten]
      exact ⟨a.id, rfl⟩

end Migrates

/-! ## Batches -/

/-- How a batch ends that nothing makes fail and nothing stops. -/
inductive Tour : World φ → Summary → List LegacyUser → Summary → World φ → Prop
  | finished {w : World φ} {s : Summary} : Tour w s [] s w
  | next {w w' w'' : World φ} {s s' : Summary} {u : LegacyUser} {rest : List LegacyUser} {m : φ}
      {r : Except Failure UserResult} (h : Served { w with mind := m } u r w')
      (hrest : Tour w' (s.countUser r) rest s' w'') : Tour w s (u :: rest) s' w''

/-- What every record keeps, a tour keeps. -/
theorem Tour.preserves {I : World φ → Prop} (hmind : ∀ w m, I w → I { w with mind := m })
    (hrecord : ∀ w u r w', Served w u r w' → I w → I w') (h : Tour w s users s' w') (hw : I w) :
    I w' := by
  induction h with
  | finished => exact hw
  | next hone _ ih => exact ih (hrecord _ _ _ _ hone (hmind _ _ hw))

namespace Batch

/-- A batch that nothing stops, of users whom nothing is in the way of, is a tour. -/
theorem tour_of_unobstructed (h : Batch False False w s rest s' w') (hw : w.Unobstructed users)
    (hrest : ∀ u ∈ rest, u ∈ users) : Tour w s rest s' w' := by
  induction h with
  | finished => exact .finished
  | stopped hstop => exact hstop.elim
  | next hone _ ih =>
    obtain ⟨hmem, hrest⟩ := List.forall_mem_cons.mp hrest
    have hserved := hone.served_of_unobstructed hw.of_mind hmem
    exact .next hserved (ih (hserved.unobstructed hw.of_mind) hrest)

/-- Errors are counted and never taken back. -/
theorem errors_le (h : Batch F S w s users s' w') : s.errors ≤ s'.errors := by
  induction h with
  | finished => exact Nat.le_refl _
  | stopped _ => exact Nat.le_refl _
  | @next _ _ _ s _ _ _ _ r _ _ ih =>
    have hone : s.errors ≤ (s.countUser r).errors := by
      unfold Summary.countUser
      split
      · exact Nat.le_refl _
      · exact Nat.le_refl _
      · exact Nat.le_succ _
    exact Nat.le_trans hone ih

/-- A batch that ran to its end without errors is a tour, after which all its users are settled. -/
theorem tour_of_clean (h : Batch F S w s users s' w') (herrors : s'.errors = s.errors)
    (hwhole : s'.interrupted = false) : Tour w s users s' w' ∧ ∀ u ∈ users, w'.Settled u := by
  induction h with
  | finished => exact ⟨.finished, fun _ hu => absurd hu List.not_mem_nil⟩
  | stopped _ => contradiction
  | @next _ _ _ s s' u rest m r hone hrest ih =>
    have hok : ∀ f, r ≠ .error f := by
      rintro f rfl
      have hmore : s.errors + 1 ≤ s'.errors := hrest.errors_le
      omega
    have hsame : (s.countUser r).errors = s.errors := by
      unfold Summary.countUser
      split
      · rfl
      · rfl
      · exact absurd rfl (hok _)
    have hserved := hone.served_of_ok hok
    obtain ⟨htour, hsettled⟩ := ih (herrors.trans hsame.symm) hwhole
    refine ⟨.next hserved htour, fun v hv => ?_⟩
    rcases List.mem_cons.mp hv with rfl | hmem
    · exact htour.preserves (fun _ _ h => h) (fun _ _ _ _ h => h.keeps) (hserved.settles hok)
    · exact hsettled v hmem

/-- A batch of users who are settled is a tour, if nothing stops it. -/
theorem tour_of_settled (h : Batch False False w s users s' w')
    (hready : w.store.mappingsReady = true) (hsettled : ∀ u ∈ users, w.Settled u) :
    Tour w s users s' w' := by
  induction h with
  | finished => exact .finished
  | stopped hstop => exact hstop.elim
  | next hone _ ih =>
    obtain ⟨hserved, -⟩ := hone.served_of_settled hready (hsettled _ List.mem_cons_self)
    refine .next hserved (ih (hserved.ready hready) fun v hv => ?_)
    exact hserved.keeps (hsettled v (List.mem_cons_of_mem _ hv))

end Batch

/-! ## What a pass makes of the world -/

/-- From `w` to `w'` the users were passed over: the provider was asked for the emails of those who
are eligible, and they were enrolled one after another, under the identifiers that every provider
hands out that knows what the one of `w'` knows. -/
structure Pass (users : List LegacyUser) (w w' : World φ) : Prop where
  provider : w'.provider = w.provider.learnAll (eligible users)
  clock : w'.clock = w.clock.after (eligible users).length
  objects : w'.objects = w.objects
  store : ∀ p : MemoryProvider, w'.provider.Extends p →
    w'.store = MemoryTables.enrolAll (fun u => p.idOf u.emailKey) w.clock w.store (eligible users)

namespace Pass

/-- Whoever is not eligible is passed over without a trace. -/
theorem idle (hnone : eligible users = []) : Pass users w w where
  provider := by rw [hnone, MemoryProvider.learnAll_nil]
  clock := by rw [hnone]; rfl
  objects := rfl
  store _ _ := by rw [hnone]; rfl

theorem of_mind {m : φ} (h : Pass users { w with mind := m } w') : Pass users w w' :=
  ⟨h.provider, h.clock, h.objects, h.store⟩

theorem append (h : Pass users w w') (h' : Pass rest w' w'') : Pass (users ++ rest) w w'' where
  provider := by rw [h'.provider, h.provider, eligible_append, MemoryProvider.learnAll_append]
  clock := by rw [h'.clock, h.clock, eligible_append, List.length_append, Clock.after_add]
  objects := h'.objects.trans h.objects
  store p hp := by
    have hlater : w'.provider.Extends w''.provider := by
      rw [h'.provider]
      exact MemoryProvider.extends_learnAll
    rw [h'.store p hp, h.store p (hlater.trans hp), h.clock, eligible_append,
      MemoryTables.enrolAll_append]

/-- A pass writes to three tables. -/
theorem store_frame (h : Pass users w w') :
    w'.store = { w.store with
      mappings := w'.store.mappings
      targetUsers := w'.store.targetUsers
      memberships := w'.store.memberships } := by
  rw [h.store w'.provider fun _ _ ha => ha]
  exact MemoryTables.enrolAll_frame _ _ _

theorem enrolled (h : Pass users w w') :
    Enrolled (fun u => w'.provider.idOf u.emailKey) (eligible users) w.store w'.store := by
  rw [h.store w'.provider fun _ _ ha => ha]
  exact MemoryTables.enrolled_enrolAll _ _ _

/-- A pass leaves the users of the old system alone. -/
theorem legacyUsersByAge (h : Pass users w w') :
    w'.store.legacyUsersByAge = w.store.legacyUsersByAge := by
  rw [h.store_frame]
  rfl

theorem mappingsReady (h : Pass users w w') : w'.store.mappingsReady = w.store.mappingsReady := by
  rw [h.store_frame]

end Pass

/-- One record is passed over. -/
theorem Served.pass (h : Served w u r w') : Pass [u] w w' := by
  cases h with
  | skipped hlegacy => exact .idle (by simp [eligible, LegacyUser.isEligible, hlegacy])
  | blank _ hblank => exact .idle (by simp [eligible, LegacyUser.isEligible, hblank])
  | enrolled heligible hknown _ =>
    have hone : eligible [u] = [u] := by simp [eligible, heligible]
    have hfound := (MemoryProvider.accountOf_eq_ok_iff.mp hknown).2
    refine ⟨by rw [hone]; rfl, by rw [hone]; rfl, rfl, fun p hp => ?_⟩
    rw [hone]
    show _ = w.store.enrol w.clock.advance.now u (p.idOf u.emailKey)
    rw [MemoryProvider.Extends.idOf_eq hp hfound]

/-- The summary with the users of a pass: those who are eligible are successes, those without a
legacy identifier are skipped, and the rest, whose email is blank, are errors. -/
def Summary.countPass (s : Summary) (users : List LegacyUser) : Summary :=
  { s with
    success := s.success + (eligible users).length
    skipped := s.skipped + users.countP fun u => !isLegacyId u.legacyId
    errors := s.errors + users.countP fun u => isLegacyId u.legacyId && u.emailKey.isEmpty }

/-- A tour passes over its users and counts them. -/
theorem Tour.pass (h : Tour w s users s' w') : Pass users w w' ∧ s' = s.countPass users := by
  induction h with
  | finished => exact ⟨.idle rfl, rfl⟩
  | @next w _ _ s _ u rest m r hone _ ih =>
    obtain ⟨hpass, hsummary⟩ := ih
    refine ⟨(hone.pass.append hpass).of_mind, ?_⟩
    rw [hsummary]
    unfold Summary.countPass
    cases hone with
    | skipped hlegacy =>
      simp [Summary.countUser, eligible, LegacyUser.isEligible, hlegacy]
      omega
    | blank hlegacy hblank =>
      simp [Summary.countUser, eligible, LegacyUser.isEligible, hlegacy, hblank]
      omega
    | enrolled heligible _ _ =>
      obtain ⟨hlegacy, hblank⟩ := LegacyUser.isEligible_iff.mp heligible
      simp [Summary.countUser, eligible, LegacyUser.isEligible, hlegacy, hblank]
      omega

/-! ## Runs -/

namespace Attempt

variable {a : Attempt φ} {P : φ → Prop}

/-- What a run tells, the latest first. -/
def events (a : Attempt φ) (w : World φ) : List Event :=
  (migrateUsers (Rehearsal.store a.interference) Rehearsal.provider
    (Rehearsal.stopRequested a.interference) (.start { w with mind := a.mind })).2.journal

theorem run_phase (ha : P a.mind) (h : a.interference.Keeps P F S) (w : World φ) :
    UserPhase F S { w with mind := a.mind } (a.result w) (a.run w) :=
  (migrateUsers_ends (w := { w with mind := a.mind }) h [] ha).2

/-- A run that ended without errors and was not stopped has passed over all users and settled
them. -/
theorem clean_pass (hresult : a.result w = .ok s) (herrors : s.errors = 0)
    (hwhole : s.interrupted = false) :
    Pass w.store.legacyUsersByAge w (a.run w) ∧
      s = (Summary.start .users).countPass w.store.legacyUsersByAge ∧
      ∀ u ∈ w.store.legacyUsersByAge, (a.run w).Settled u := by
  have hphase := run_phase trivial a.interference.keeps_any w
  rw [hresult] at hphase
  obtain ⟨m, hbatch⟩ := hphase.batch
  obtain ⟨htour, hsettled⟩ := hbatch.tour_of_clean herrors hwhole
  obtain ⟨hpass, hsummary⟩ := htour.pass
  exact ⟨hpass.of_mind.of_mind, hsummary, hsettled⟩

/-- A calm run is a batch of all users. -/
theorem calm_batch (ha : a.IsCalm) (w : World φ) :
    ∃ s m, a.result w = .ok s ∧ Batch False False { w with mind := m } (.start .users)
      w.store.legacyUsersByAge s (a.run w) := by
  obtain ⟨P, hm, hkeeps⟩ := ha
  have hphase := run_phase hm hkeeps w
  obtain ⟨s, hresult⟩ := hphase.summary_of_unfailing
  rw [hresult] at hphase
  obtain ⟨m, hbatch⟩ := hphase.batch
  exact ⟨s, m, hresult, hbatch⟩

/-- A calm run over users who are settled passes over them. -/
theorem settled_pass (ha : a.IsCalm) (hready : w.store.mappingsReady = true)
    (hsettled : ∀ u ∈ w.store.legacyUsersByAge, w.Settled u) :
    Pass w.store.legacyUsersByAge w (a.run w) ∧
      a.result w = .ok ((Summary.start .users).countPass w.store.legacyUsersByAge) := by
  obtain ⟨s, m, hresult, hbatch⟩ := calm_batch ha w
  obtain ⟨hpass, hsummary⟩ := (hbatch.tour_of_settled hready hsettled).pass
  exact ⟨hpass.of_mind, by rw [hresult, hsummary]⟩

/-- Where nothing is in the way of the users a calm run passes over all of them. -/
theorem unobstructed_pass (ha : a.IsCalm) (hw : w.Unobstructed w.store.legacyUsers) :
    Pass w.store.legacyUsersByAge w (a.run w) ∧
      a.result w = .ok ((Summary.start .users).countPass w.store.legacyUsersByAge) := by
  obtain ⟨s, m, hresult, hbatch⟩ := calm_batch ha w
  have htour := hbatch.tour_of_unobstructed hw.of_mind fun _ hu => List.mem_mergeSort.mp hu
  obtain ⟨hpass, hsummary⟩ := htour.pass
  exact ⟨hpass.of_mind, by rw [hresult, hsummary]⟩

end Attempt

end Rekey

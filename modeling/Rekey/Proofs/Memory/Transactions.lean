import Rekey.Proofs.Memory.Commit
import Rekey.Proofs.Rehearsal.Session

/-!
# Transactions beside direct writes

A step inside a transaction is answered from the tables of the store and from what the transaction
has staged. Beside it stands the step done directly: in a transaction of its own that is committed
at once, on tables that hold the writes of the steps before it. The two agree in every answer but
one. The questions see what was staged and the creations do not, so a row that the transaction has
created may be created again, where the tables would refuse it.
-/

namespace Rekey

/-- A write creates a row that the earlier one creates too. -/
def StagedWrite.recreates (earlier : StagedWrite) : StagedWrite → Bool
  | .mapping .. => false
  | .targetUser u => earlier.createsUser u.id
  | .membership m => earlier.createsMembership m.key

/-- No row is created twice. -/
def Transaction.CreatesOnce (t : Transaction) : Prop :=
  t.Pairwise fun earlier write => earlier.recreates write = false

instance (t : Transaction) : Decidable t.CreatesOnce :=
  inferInstanceAs (Decidable (t.Pairwise _))

namespace Rehearsal

variable {φ σ τ : Type} {i : Interference φ} {P : φ → Prop} {S : Prop} {w : World φ}
  {s : MemoryTables} {t : Transaction} {step : TransactionStep} {steps : List TransactionStep}

namespace TransactionStep

/-- A question or a write, which leaves the transaction open. -/
def staysOpen : TransactionStep → Bool
  | commit | rollback => false
  | _ => true

/-- What a step stages when it succeeds. -/
def write? : TransactionStep → Option StagedWrite
  | putMapping legacyId email newId => some (.mapping legacyId email newId)
  | addTargetUser u => some (.targetUser u)
  | addMembership m => some (.membership m)
  | _ => none

/-- A step would create a row that the transaction creates already. -/
def repeats (step : TransactionStep) (t : Transaction) : Bool :=
  step.write?.any fun write => t.any (·.recreates write)

end TransactionStep

/-! ## Steps one after another -/

/-- Steps with the outcomes of each. -/
abbrev Transcript := List (TransactionStep × Outcome)

/-- The writes of the steps that succeeded, in order. -/
def writesOf (log : Transcript) : Transaction :=
  log.filterMap fun done => if done.2.isOk then done.1.write? else none

/-- Steps of one transaction, and the transaction after them if it is still open. -/
def performWithin (store : Store σ τ) (t : τ) :
    List TransactionStep → StateM σ (Transcript × Option τ)
  | [] => pure ([], some t)
  | step :: rest => do
    match ← transactionOutcome store t step with
    | (o, none) => pure ([(step, o)], none)
    | (o, some t) => do
      let (log, open?) ← performWithin store t rest
      pure ((step, o) :: log, open?)

/-- Steps of a transaction that is begun for them. -/
def performTransaction (store : Store σ τ) (steps : List TransactionStep) :
    StateM σ (Except StoreFault (Transcript × Option τ)) := do
  match ← store.beginTransaction with
  | .error e => pure (.error e)
  | .ok t => do pure (.ok (← performWithin store t steps))

/-- How the tables answer a step of a transaction when nothing disturbs it. -/
def stepIn (s : MemoryTables) (t : Transaction) (step : TransactionStep) :
    Outcome × Option Transaction :=
  (transactionOutcome stageStore t step { Stage.start with store := s }).1

/-- A step in a transaction of its own that is committed at once: what it is answered
and the tables after it. -/
def alone (times : Readings) (s : MemoryTables) (step : TransactionStep) : Outcome × MemoryTables :=
  let (o, open?) := stepIn s [] step
  (o, s.commit times (open?.getD []))

/-- Steps one after another, each in a transaction of its own. -/
def eachAlone (times : Readings) (s : MemoryTables) :
    List TransactionStep → List Outcome × MemoryTables
  | [] => ([], s)
  | step :: rest =>
    let (o, s) := alone times s step
    let (os, s) := eachAlone times s rest
    (o :: os, s)

/-- How the steps of a transaction are answered, beside the same steps done directly. -/
structure Mirrors (times : Readings) (s : MemoryTables) (log : Transcript) : Prop where
  /-- A step is answered as it is when it is done directly on the tables with the successful writes
  before it, unless it creates a row again that one of them creates. -/
  each : ∀ done step o rest, log = done ++ (step, o) :: rest →
    (o = (alone times (s.commit times (writesOf done)) step).1 ↔
      ¬ (o.isOk = true ∧ step.repeats (writesOf done) = true))
  /-- A row that is created again would be refused there. -/
  again : ∀ done step o rest, log = done ++ (step, o) :: rest →
    o.isOk = true → step.repeats (writesOf done) = true →
      ∃ e, (alone times (s.commit times (writesOf done)) step).1 = .error (.store e)
  /-- A user is created unless a failure is set for the email or the store holds the identifier,
  whatever the transaction holds. -/
  user : ∀ u o, (.addTargetUser u, o) ∈ log →
    (o.isOk = true ↔ s.failingTargets.contains u.email = false ∧ s.targetUsers.contains u.id = false)
  /-- A membership is created unless a failure is set for the tenant or the store holds it, whatever
  the transaction holds. -/
  membership : ∀ m o, (.addMembership m, o) ∈ log →
    (o.isOk = true ↔
      s.failingTenants.contains m.tenantId = false ∧ s.memberships.contains m.key = false)
  /-- Doing the steps directly, one after another, gives the same answers and leaves the tables that
  hold the successful writes, if and only if no row was created twice. -/
  whole : eachAlone times s (log.map Prod.fst) = (log.map Prod.snd, s.commit times (writesOf log)) ↔
    (writesOf log).CreatesOnce

/-! ## One step -/

theorem writesOf_nil : writesOf [] = [] := rfl

theorem writesOf_singleton (step : TransactionStep) (o : Outcome) :
    writesOf [(step, o)] = if o.isOk then step.write?.toList else [] := by
  simp only [writesOf, List.filterMap_cons, List.filterMap_nil]
  cases o.isOk <;> cases step.write? <;> rfl

@[simp] theorem writesOf_ok (step : TransactionStep) (r : Reply) :
    writesOf [(step, .ok r)] = step.write?.toList :=
  writesOf_singleton step (.ok r)

@[simp] theorem writesOf_error (step : TransactionStep) (e : StepFailure) :
    writesOf [(step, .error e)] = [] := rfl

/-- What a write is answered that ends in this result. -/
def written (t : Transaction) : Except StoreFault Transaction → Outcome × Option Transaction
  | .error e => (.error (.store e), some t)
  | .ok t' => (.ok .done, some t')

/-- What a creation is answered: nothing is created where a failure is set or the row exists. -/
def creation (failing exists? : Bool) (fault duplicate : StoreFault) : Outcome :=
  if failing then .error (.store fault) else if exists? then .error (.store duplicate) else .ok .done

/-- A write asks the tables once and stages what they answer. -/
theorem ends_write (f : MemoryTables → Except StoreFault Transaction) :
    Ends (afterWrite t (query f)) w fun r w' => r = written t (f w.store) ∧ w' = w := by
  unfold afterWrite
  rw [ends_bind, ends_query]
  cases f w.store <;> exact ⟨rfl, rfl⟩

section Answers

theorem stepIn_putMapping (legacyId email newId : String) :
    stepIn s t (.putMapping legacyId email newId) =
      written t (s.putMapping t legacyId email newId) :=
  (ends_write (w := { Stage.start with store := s }) (·.putMapping t legacyId email newId)).1

theorem stepIn_hasTargetUser (id : String) :
    stepIn s t (.hasTargetUser id) = (.ok (.flag (s.hasTargetUser t id)), some t) := rfl

theorem stepIn_addTargetUser (u : TargetUser) :
    stepIn s t (.addTargetUser u) = written t (s.addTargetUser t u) :=
  (ends_write (w := { Stage.start with store := s }) (·.addTargetUser t u)).1

theorem stepIn_hasMembership (userId tenantId : String) :
    stepIn s t (.hasMembership userId tenantId) =
      (.ok (.flag (s.hasMembership t ⟨userId, tenantId⟩)), some t) := rfl

theorem stepIn_addMembership (m : Membership) :
    stepIn s t (.addMembership m) = written t (s.addMembership t m) :=
  (ends_write (w := { Stage.start with store := s }) (·.addMembership t m)).1

/-- Whether a user is created does not depend on what is staged. -/
theorem outcome_addTargetUser (s : MemoryTables) (t : Transaction) (u : TargetUser) :
    (stepIn s t (.addTargetUser u)).1 =
      creation (s.failingTargets.contains u.email) (s.targetUsers.contains u.id)
        (.targetWriteFailed u.email) (.duplicateTargetUser u.id) := by
  rw [stepIn_addTargetUser]
  unfold MemoryTables.addTargetUser creation
  repeat' split
  all_goals rfl

/-- Whether a membership is created does not depend on what is staged. -/
theorem outcome_addMembership (s : MemoryTables) (t : Transaction) (m : Membership) :
    (stepIn s t (.addMembership m)).1 =
      creation (s.failingTenants.contains m.tenantId) (s.memberships.contains m.key)
        (.membershipWriteFailed m.tenantId) (.duplicateMembership m.userId m.tenantId) := by
  rw [stepIn_addMembership]
  unfold MemoryTables.addMembership creation
  repeat' split
  all_goals rfl

end Answers

/-- A question is answered by the tables if it is not made to fail. -/
theorem ends_question (h : i.Keeps P False S) (hw : P w.mind) {point : Point}
    {f : MemoryTables → Except StoreFault Bool} :
    Ends (do pure (← outcomeOf .flag .store (guarded i point (query f)), some t)) w
      fun r w' => ∃ m, P m ∧ w' = { w with mind := m } ∧
        r = (((f w.store).map Reply.flag).mapError .store, some t) := by
  unfold outcomeOf
  rw [ends_bind, ends_bind]
  refine (ends_guarded_query h hw).mono ?_
  rintro _ w' ⟨m, hm, hw', rfl | ⟨hfail, -⟩⟩
  · exact ⟨m, hm, hw', rfl⟩
  · exact hfail.elim

/-- Where no step is made to fail, a step is answered as the tables answer it, and it changes
nothing in the world but the mind of the interference. -/
theorem ends_transactionOutcome (h : i.Keeps P False S) (hw : P w.mind) (t : Transaction)
    (hopen : step.staysOpen = true) :
    Ends (transactionOutcome (store i) t step) w fun r w' =>
      ∃ m, P m ∧ w' = { w with mind := m } ∧ r = stepIn w.store t step := by
  cases step with
  | putMapping legacyId email newId =>
    obtain ⟨hr, hw'⟩ := ends_write (w := w) (t := t) (·.putMapping t legacyId email newId)
    exact ⟨w.mind, hw, hw', hr.trans (stepIn_putMapping ..).symm⟩
  | addTargetUser u =>
    obtain ⟨hr, hw'⟩ := ends_write (w := w) (t := t) (·.addTargetUser t u)
    exact ⟨w.mind, hw, hw', hr.trans (stepIn_addTargetUser u).symm⟩
  | addMembership m =>
    obtain ⟨hr, hw'⟩ := ends_write (w := w) (t := t) (·.addMembership t m)
    exact ⟨w.mind, hw, hw', hr.trans (stepIn_addMembership m).symm⟩
  | hasTargetUser id => exact ends_question h hw
  | hasMembership userId tenantId => exact ends_question h hw
  | commit => contradiction
  | rollback => contradiction

/-- A step leaves its transaction open, with its write staged if it succeeded. -/
theorem stepIn_snd (s : MemoryTables) (t : Transaction) (hopen : step.staysOpen = true) :
    (stepIn s t step).2 = some (t ++ writesOf [(step, (stepIn s t step).1)]) := by
  cases step with
  | putMapping legacyId email newId =>
    rw [stepIn_putMapping]
    unfold MemoryTables.putMapping
    split <;> simp [written, TransactionStep.write?]
  | addTargetUser u =>
    rw [stepIn_addTargetUser]
    unfold MemoryTables.addTargetUser
    repeat' split
    all_goals simp [written, TransactionStep.write?]
  | addMembership m =>
    rw [stepIn_addMembership]
    unfold MemoryTables.addMembership
    repeat' split
    all_goals simp [written, TransactionStep.write?]
  | hasTargetUser id => simp [stepIn_hasTargetUser, TransactionStep.write?]
  | hasMembership userId tenantId => simp [stepIn_hasMembership, TransactionStep.write?]
  | commit => contradiction
  | rollback => contradiction

/-! ## A step beside the same step done directly -/

section Creation

variable {failing exists? : Bool} {fault duplicate : StoreFault}

theorem isOk_creation_iff :
    (creation failing exists? fault duplicate).isOk = true ↔ failing = false ∧ exists? = false := by
  cases failing <;> cases exists? <;> simp [creation, Except.isOk, Except.toBool]

/-- A creation that sees more rows is answered otherwise only if it would succeed without them. -/
theorem creation_eq_iff (staged : Bool) :
    creation failing exists? fault duplicate =
        creation failing (staged || exists?) fault duplicate ↔
      ¬ ((creation failing exists? fault duplicate).isOk = true ∧ staged = true) := by
  rw [isOk_creation_iff]
  cases failing <;> cases exists? <;> cases staged <;> simp [creation]

theorem creation_of_staged (h : (creation failing exists? fault duplicate).isOk = true) :
    creation failing (true || exists?) fault duplicate = .error (.store duplicate) := by
  obtain ⟨rfl, -⟩ := isOk_creation_iff.mp h
  rfl

end Creation

theorem repeats_putMapping (t : Transaction) (legacyId email newId : String) :
    TransactionStep.repeats (.putMapping legacyId email newId) t = false :=
  List.any_eq_false.mpr fun _ _ => Bool.false_ne_true

/-- On the tables with the staged writes a user is refused who is staged. -/
theorem alone_addTargetUser (times : Readings) (s : MemoryTables) (t : Transaction)
    (u : TargetUser) : (alone times (s.commit times t) (.addTargetUser u)).1 =
      creation (s.failingTargets.contains u.email)
        (TransactionStep.repeats (.addTargetUser u) t || s.targetUsers.contains u.id)
        (.targetWriteFailed u.email) (.duplicateTargetUser u.id) := by
  show (stepIn (s.commit times t) [] (.addTargetUser u)).1 = _
  rw [outcome_addTargetUser, MemoryTables.commit_failingTargets,
    MemoryTables.contains_targetUsers_commit]
  rfl

/-- On the tables with the staged writes a membership is refused that is staged. -/
theorem alone_addMembership (times : Readings) (s : MemoryTables) (t : Transaction)
    (m : Membership) : (alone times (s.commit times t) (.addMembership m)).1 =
      creation (s.failingTenants.contains m.tenantId)
        (TransactionStep.repeats (.addMembership m) t || s.memberships.contains m.key)
        (.membershipWriteFailed m.tenantId) (.duplicateMembership m.userId m.tenantId) := by
  show (stepIn (s.commit times t) [] (.addMembership m)).1 = _
  rw [outcome_addMembership, MemoryTables.commit_failingTenants,
    MemoryTables.contains_memberships_commit]
  rfl

/-- A step is answered as on the tables with the staged writes, unless it creates a row again. -/
theorem stepIn_eq_alone_iff (times : Readings) (s : MemoryTables) (t : Transaction)
    (hopen : step.staysOpen = true) :
    (stepIn s t step).1 = (alone times (s.commit times t) step).1 ↔
      ¬ ((stepIn s t step).1.isOk = true ∧ step.repeats t = true) := by
  cases step with
  | putMapping legacyId email newId =>
    refine iff_of_true ?_ fun h => Bool.false_ne_true (repeats_putMapping t .. ▸ h.2)
    show _ = (stepIn (s.commit times t) [] (.putMapping legacyId email newId)).1
    rw [stepIn_putMapping, stepIn_putMapping]
    unfold MemoryTables.putMapping
    rw [MemoryTables.commit_mappingsReady]
    split <;> rfl
  | hasTargetUser id =>
    refine iff_of_true ?_ fun h => nomatch h.2
    show _ = (stepIn (s.commit times t) [] (.hasTargetUser id)).1
    rw [stepIn_hasTargetUser, stepIn_hasTargetUser,
      ← MemoryTables.contains_targetUsers_commit times s t]
    rfl
  | hasMembership userId tenantId =>
    refine iff_of_true ?_ fun h => nomatch h.2
    show _ = (stepIn (s.commit times t) [] (.hasMembership userId tenantId)).1
    rw [stepIn_hasMembership, stepIn_hasMembership,
      ← MemoryTables.contains_memberships_commit times s t]
    rfl
  | addTargetUser u =>
    rw [alone_addTargetUser, outcome_addTargetUser]
    exact creation_eq_iff _
  | addMembership m =>
    rw [alone_addMembership, outcome_addMembership]
    exact creation_eq_iff _
  | commit => contradiction
  | rollback => contradiction

/-- A row that is created again is refused on the tables with the staged writes. -/
theorem alone_of_repeats (times : Readings) (hdone : (stepIn s t step).1.isOk = true)
    (hrepeats : step.repeats t = true) :
    ∃ e, (alone times (s.commit times t) step).1 = .error (.store e) := by
  cases step with
  | addTargetUser u =>
    rw [outcome_addTargetUser] at hdone
    rw [alone_addTargetUser, hrepeats]
    exact ⟨_, creation_of_staged hdone⟩
  | addMembership m =>
    rw [outcome_addMembership] at hdone
    rw [alone_addMembership, hrepeats]
    exact ⟨_, creation_of_staged hdone⟩
  | putMapping => rw [repeats_putMapping] at hrepeats; contradiction
  | hasTargetUser => contradiction
  | hasMembership => contradiction
  | commit => contradiction
  | rollback => contradiction

/-! ## Steps one after another -/

theorem writesOf_append (log log' : Transcript) :
    writesOf (log ++ log') = writesOf log ++ writesOf log' :=
  List.filterMap_append

theorem append_writesOf_cons (t : Transaction) (done : TransactionStep × Outcome)
    (log : Transcript) : t ++ writesOf (done :: log) = t ++ writesOf [done] ++ writesOf log := by
  rw [List.append_assoc, ← writesOf_append]
  rfl

/-- How the tables answer the steps of a transaction when nothing disturbs it. -/
def transcript (s : MemoryTables) (t : Transaction) : List TransactionStep → Transcript
  | [] => []
  | step :: rest =>
    let o := (stepIn s t step).1
    (step, o) :: transcript s (t ++ writesOf [(step, o)]) rest

theorem append_writesOf_transcript (s : MemoryTables) (t : Transaction) (step : TransactionStep)
    (rest : List TransactionStep) :
    t ++ writesOf (transcript s t (step :: rest)) =
      t ++ writesOf [(step, (stepIn s t step).1)] ++
        writesOf (transcript s (t ++ writesOf [(step, (stepIn s t step).1)]) rest) :=
  append_writesOf_cons t _ _

theorem map_fst_transcript (s : MemoryTables) (t : Transaction) (steps : List TransactionStep) :
    (transcript s t steps).map Prod.fst = steps := by
  induction steps generalizing t with
  | nil => rfl
  | cons step rest ih => rw [transcript, List.map_cons, ih]

/-- Steps of a transaction are answered as the tables answer them, and change nothing in the world
but the mind of the interference. The transaction after them holds the successful writes. -/
theorem ends_performWithin (h : i.Keeps P False S) (hw : P w.mind) (t : Transaction)
    (hopen : ∀ step ∈ steps, step.staysOpen = true) :
    Ends (performWithin (store i) t steps) w fun r w' => ∃ m, P m ∧ w' = { w with mind := m } ∧
      r = (transcript w.store t steps, some (t ++ writesOf (transcript w.store t steps))) := by
  induction steps generalizing t w with
  | nil =>
    refine ⟨w.mind, hw, rfl, ?_⟩
    rw [transcript, writesOf_nil, List.append_nil]
    rfl
  | cons step rest ih =>
    have hfirst := hopen step List.mem_cons_self
    unfold performWithin
    rw [ends_bind]
    refine (ends_transactionOutcome h hw t hfirst).mono ?_
    rintro _ _ ⟨m, hm, rfl, rfl⟩
    rw [← Prod.eta (stepIn w.store t step), stepIn_snd w.store t hfirst]
    rw [ends_bind]
    refine (ih (w := { w with mind := m }) hm _ fun step hstep =>
      hopen step (List.mem_cons_of_mem _ hstep)).mono ?_
    rintro _ _ ⟨m', hm', rfl, rfl⟩
    refine ⟨m', hm', rfl, ?_⟩
    rw [append_writesOf_transcript]
    rfl

/-- Each step is answered from the tables and the successful writes before it. -/
theorem outcome_of_transcript {done rest : Transcript} {o : Outcome}
    (h : transcript s t steps = done ++ (step, o) :: rest) :
    o = (stepIn s (t ++ writesOf done) step).1 ∧ step ∈ steps := by
  induction done generalizing t steps with
  | nil =>
    cases steps with
    | nil => contradiction
    | cons first more =>
      obtain ⟨hhead, -⟩ := List.cons.inj h
      obtain ⟨rfl, rfl⟩ := Prod.mk.inj hhead
      rw [writesOf_nil, List.append_nil]
      exact ⟨rfl, List.mem_cons_self⟩
  | cons earlier done ih =>
    cases steps with
    | nil => contradiction
    | cons first more =>
      obtain ⟨rfl, htail⟩ := List.cons.inj h
      obtain ⟨ho, hmem⟩ := ih htail
      rw [append_writesOf_cons]
      exact ⟨ho, List.mem_cons_of_mem _ hmem⟩

/-- A row is created twice once a step succeeds that would create one again. -/
theorem createsOnce_append_iff (honce : t.CreatesOnce) (o : Outcome) :
    Transaction.CreatesOnce (t ++ writesOf [(step, o)]) ↔
      ¬ (o.isOk = true ∧ step.repeats t = true) := by
  unfold Transaction.CreatesOnce at honce ⊢
  rw [writesOf_singleton, List.pairwise_append, TransactionStep.repeats]
  cases o.isOk <;> cases step.write? <;> simp [honce]

theorem createsOnce_of_append {more : Transaction} (h : Transaction.CreatesOnce (t ++ more)) :
    t.CreatesOnce :=
  (List.pairwise_append.mp h).1

/-- Steps done directly, one after another, are answered as in one transaction and leave the tables
that hold its writes, if and only if no row is created twice. -/
theorem eachAlone_eq_iff (times : Readings) (s : MemoryTables) (honce : t.CreatesOnce)
    (hopen : ∀ step ∈ steps, step.staysOpen = true) :
    eachAlone times (s.commit times t) steps = ((transcript s t steps).map Prod.snd,
        s.commit times (t ++ writesOf (transcript s t steps))) ↔
      Transaction.CreatesOnce (t ++ writesOf (transcript s t steps)) := by
  induction steps generalizing t with
  | nil =>
    rw [transcript, writesOf_nil, List.append_nil]
    exact iff_of_true rfl honce
  | cons step rest ih =>
    have hfirst := hopen step List.mem_cons_self
    have hanswer := stepIn_eq_alone_iff times s t hfirst
    rw [append_writesOf_transcript, transcript, List.map_cons, eachAlone]
    by_cases hagain : (stepIn s t step).1.isOk = true ∧ step.repeats t = true
    · -- The two runs part here, and what is staged holds a row twice from here on.
      refine iff_of_false (fun heq => ?_) fun h => ?_
      · have hhead := (List.cons.inj (congrArg Prod.fst heq)).1
        exact hanswer.mp hhead.symm hagain
      · exact (createsOnce_append_iff honce _).mp (createsOnce_of_append h) hagain
    · replace hanswer := hanswer.mpr hagain
      have htables : (alone times (s.commit times t) step).2 =
          s.commit times (t ++ writesOf [(step, (stepIn s t step).1)]) := by
        show (s.commit times t).commit times ((stepIn (s.commit times t) [] step).2.getD []) = _
        rw [stepIn_snd _ _ hfirst, MemoryTables.commit_append, hanswer]
        rfl
      have hrest := ih ((createsOnce_append_iff honce _).mpr hagain)
        fun step hstep => hopen step (List.mem_cons_of_mem _ hstep)
      rw [← hrest, ← Prod.eta (alone times (s.commit times t) step), htables, ← hanswer]
      simp only [Prod.ext_iff, List.cons.injEq, true_and]

/-- How the tables answer the steps of a transaction, beside the steps done directly. -/
theorem mirrors_transcript (times : Readings) (s : MemoryTables)
    (hopen : ∀ step ∈ steps, step.staysOpen = true) : Mirrors times s (transcript s [] steps) where
  each done step o rest h := by
    obtain ⟨rfl, hmem⟩ := outcome_of_transcript h
    exact stepIn_eq_alone_iff times s _ (hopen step hmem)
  again done step o rest h := by
    obtain ⟨rfl, -⟩ := outcome_of_transcript h
    exact alone_of_repeats times
  user u o h := by
    obtain ⟨done, rest, h⟩ := List.append_of_mem h
    obtain ⟨rfl, -⟩ := outcome_of_transcript h
    rw [outcome_addTargetUser]
    exact isOk_creation_iff
  membership m o h := by
    obtain ⟨done, rest, h⟩ := List.append_of_mem h
    obtain ⟨rfl, -⟩ := outcome_of_transcript h
    rw [outcome_addMembership]
    exact isOk_creation_iff
  whole := by
    rw [map_fst_transcript]
    exact eachAlone_eq_iff times s List.Pairwise.nil hopen

/-- A transaction is answered as the tables answer its steps, and holds the successful writes. -/
theorem ends_performTransaction (h : i.Keeps P False S) (hw : P w.mind)
    (hopen : ∀ step ∈ steps, step.staysOpen = true) :
    Ends (performTransaction (store i) steps) w fun r w' => ∃ m, P m ∧ w' = { w with mind := m } ∧
      r = .ok (transcript w.store [] steps, some (writesOf (transcript w.store [] steps))) := by
  unfold performTransaction
  rw [ends_bind]
  refine (ends_begin h hw).mono ?_
  rintro _ _ ⟨m, hm, rfl, rfl | ⟨hfail, -⟩⟩
  · dsimp only
    rw [ends_bind]
    refine (ends_performWithin (w := { w with mind := m }) h hm [] hopen).mono ?_
    rintro _ _ ⟨m', hm', rfl, rfl⟩
    exact ⟨m', hm', rfl, rfl⟩
  · exact hfail.elim

/-- A transaction mirrors the same steps done directly, up to rows that it creates twice. The store
stays as it is until the commit and as it was after a rollback. -/
theorem transaction_mirrors (hquiet : i.Unfailing w.mind)
    (hopen : ∀ step ∈ steps, step.staysOpen = true) :
    Ends (performTransaction (store i) steps) w fun r w' => ∃ log t, r = .ok (log, some t) ∧
      log.map Prod.fst = steps ∧ w'.store = w.store ∧ (∀ times, Mirrors times w.store log) ∧
      Ends ((store i).commit t) w' (fun r w'' =>
        r = .ok () ∧ w''.store = w.store.commit (fun _ => w''.clock.now) (writesOf log)) ∧
      Ends ((store i).rollback t) w' (fun r w'' => r = .ok () ∧ w''.store = w.store) := by
  obtain ⟨P, hw, h⟩ := hquiet
  refine (ends_performTransaction h hw hopen).mono ?_
  rintro _ _ ⟨m, hm, rfl, rfl⟩
  refine ⟨_, _, rfl, map_fst_transcript .., rfl, fun times => mirrors_transcript times _ hopen, ?_, ?_⟩
  · refine (ends_commit h hm _).mono ?_
    rintro _ _ ⟨m', -, ⟨rfl, rfl⟩ | ⟨hfail, -⟩⟩
    · exact ⟨rfl, rfl⟩
    · exact hfail.elim
  · refine (ends_rollback h hm _).mono ?_
    rintro _ _ ⟨m', -, rfl, rfl | ⟨hfail, -⟩⟩
    · exact ⟨rfl, rfl⟩
    · exact hfail.elim

theorem transaction_mirrors_stage :
    let w := Stage.ofUsers []
    let steps : List TransactionStep := [.hasTargetUser "u1", .addTargetUser ⟨"u1", "ada", none⟩,
      .hasTargetUser "u1", .putMapping "Ada0000000000000000000000001" "ada" "u1"]
    Script.interference.Unfailing w.mind ∧ (∀ step ∈ steps, step.staysOpen = true) ∧
      Ends (performTransaction stageStore steps) w fun r w' => ∃ log t, r = .ok (log, some t) ∧
        log.map Prod.fst = steps ∧ w'.store = w.store ∧ (∀ times, Mirrors times w.store log) ∧
        Ends (stageStore.commit t) w' (fun r w'' =>
          r = .ok () ∧ w''.store = w.store.commit (fun _ => w''.clock.now) (writesOf log)) ∧
        Ends (stageStore.rollback t) w' (fun r w'' => r = .ok () ∧ w''.store = w.store) := by
  intro w steps
  have hquiet : Script.interference.Unfailing w.mind := Script.unfailing rfl
  have hopen : ∀ step ∈ steps, step.staysOpen = true := by decide
  exact ⟨hquiet, hopen, transaction_mirrors hquiet hopen⟩

/-- A transaction creates a user twice, though it sees the first one, and direct writes do not. -/
theorem transaction_creates_twice :
    let w := Stage.ofUsers []
    let steps : List TransactionStep := [.addTargetUser ⟨"u1", "ada", none⟩, .hasTargetUser "u1",
      .addTargetUser ⟨"u1", "grace", none⟩]
    (Ends (performTransaction stageStore steps) w fun r _ => ∃ log t, r = .ok (log, some t) ∧
      log.map Prod.snd = [.ok .done, .ok (.flag true), .ok .done]) ∧
    ∀ times, (eachAlone times w.store steps).1 =
      [.ok .done, .ok (.flag true), .error (.store (.duplicateTargetUser "u1"))] :=
  ⟨⟨_, _, rfl, rfl⟩, fun _ => rfl⟩

end Rehearsal

end Rekey

import Rekey.Proofs.Campaign.Rehearsed
import Rekey.Proofs.Files.Safety

/-!
# The account of a phase

A phase works through its units in order and looks for a stop before each of them. Whatever fails
and whenever the stop comes, what it has done is a prefix of the units, each of them as a whole, and
its summary counts the units of that prefix. `WorksThrough` follows the recursion that the phases
share; both are instances of it, and the account is read off it by induction.
-/

namespace Rekey

variable {φ β ρ : Type} {i : Interference φ} {requested : φ → Prop} {w w' : World φ}
  {work : β → StateM (World φ) ρ} {units : List β} {outcomes : List ρ} {cut : Bool}
  {journal : List Event}

/-! ## Rounds -/

/-- A unit, after a look for a stop. -/
def round (i : Interference φ) (work : β → StateM (World φ) ρ) (b : β) : StateM (World φ) ρ := do
  let _ ← Rehearsal.stopRequested i
  work b

/-- Units in order, each after a look for a stop, whatever the look shows. -/
def rounds (i : Interference φ) (work : β → StateM (World φ) ρ) (units : List β) :
    StateM (World φ) (List ρ) :=
  units.mapM (round i work)

theorem rounds_cons (b : β) (rest : List β) :
    rounds i work (b :: rest) w =
      ((round i work b w).1 :: (rounds i work rest (round i work b w).2).1,
        (rounds i work rest (round i work b w).2).2) := by
  unfold rounds
  rw [List.mapM_cons]
  rfl

theorem length_rounds (units : List β) (w : World φ) :
    (rounds i work units w).1.length = units.length := by
  induction units generalizing w with
  | nil => rfl
  | cons b rest ih => rw [rounds_cons, List.length_cons, List.length_cons, ih]

/-- Works through units in order until a stop is requested. Beside the outcomes stands whether units
are left. -/
inductive WorksThrough (i : Interference φ) (work : β → StateM (World φ) ρ) :
    World φ → List β → List ρ → Bool → World φ → Prop
  | finished {w : World φ} : WorksThrough i work w [] [] false w
  | stopped {w : World φ} {b : β} {rest : List β} (hstop : (i.stopRequested w.mind).1 = true) :
      WorksThrough i work w (b :: rest) [] true
        { w with mind := (i.stopRequested w.mind).2 }
  | next {w w' : World φ} {b : β} {rest : List β} {outcomes : List ρ} {cut : Bool}
      (hgoes : (i.stopRequested w.mind).1 = false)
      (hrest : WorksThrough i work (round i work b w).2 rest outcomes cut w') :
      WorksThrough i work w (b :: rest) ((round i work b w).1 :: outcomes) cut w'

/-- What was worked through is a prefix of the units. -/
structure WorkedFirst (i : Interference φ) (work : β → StateM (World φ) ρ) (w : World φ)
    (units : List β) (p : Nat) (outcomes : List ρ) (cut : Bool) (w' : World φ) : Prop where
  le : p ≤ units.length
  outcomes : outcomes = (rounds i work (units.take p) w).1
  cut : cut = true ↔ p < units.length
  world : ∃ m, w' = { (rounds i work (units.take p) w).2 with mind := m }
  begun : ∀ k < p, (i.stopRequested (rounds i work (units.take k) w).2.mind).1 = false
  left : p < units.length → ∃ m, (i.stopRequested m).1 = true ∧ w'.mind = (i.stopRequested m).2

/-- One more round in front. -/
theorem WorkedFirst.next {b : β} {p : Nat} (hgoes : (i.stopRequested w.mind).1 = false)
    (h : WorkedFirst i work (round i work b w).2 units p outcomes cut w') :
    WorkedFirst i work w (b :: units) (p + 1) ((round i work b w).1 :: outcomes) cut w' where
  le := Nat.succ_le_succ h.le
  outcomes := by rw [List.take_succ_cons, rounds_cons, h.outcomes]
  cut := by rw [h.cut, List.length_cons, Nat.add_lt_add_iff_right]
  world := by
    rw [List.take_succ_cons, rounds_cons]
    exact h.world
  begun k hk := by
    cases k with
    | zero => exact hgoes
    | succ k =>
      rw [List.take_succ_cons, rounds_cons]
      exact h.begun k (Nat.lt_of_succ_lt_succ hk)
  left hp := h.left (Nat.lt_of_succ_lt_succ hp)

theorem WorksThrough.workedFirst (h : WorksThrough i work w units outcomes cut w') :
    ∃ p, WorkedFirst i work w units p outcomes cut w' := by
  induction h with
  | finished =>
    refine ⟨0, Nat.le_refl 0, rfl, by simp, ⟨_, rfl⟩, fun k hk => ?_, fun hp => ?_⟩
    · exact absurd hk (Nat.not_lt_zero k)
    · exact absurd hp (Nat.lt_irrefl 0)
  | @stopped w b rest hstop =>
    refine ⟨0, Nat.zero_le _, rfl, by simp, ⟨_, rfl⟩, fun k hk => ?_, fun _ => ⟨_, hstop, rfl⟩⟩
    exact absurd hk (Nat.not_lt_zero k)
  | next hgoes _ ih =>
    obtain ⟨p, hp⟩ := ih
    exact ⟨p + 1, hp.next hgoes⟩

/-! ## Counting -/

/-- How a unit counts. -/
inductive Verdict where
  | success
  | skipped
  | error
deriving DecidableEq

/-- A user counts as a success if migrated, and as skipped if the identifier is of another shape. -/
def userVerdict : Except Failure UserResult → Verdict
  | .ok .skipped => .skipped
  | .ok (.migrated _ _ _) => .success
  | .error _ => .error

/-- A file counts as a success if moved, and as skipped if there is none. -/
def fileVerdict : Except Failure FileResult → Verdict
  | .ok .moved => .success
  | .ok .missing => .skipped
  | .error _ => .error

namespace Summary

/-- A summary with units that counted so, of a phase that has units left or not. -/
def tallied (s : Summary) (verdicts : List Verdict) (cut : Bool) : Summary :=
  { s with
    success := s.success + verdicts.count .success
    skipped := s.skipped + verdicts.count .skipped
    errors := s.errors + verdicts.count .error
    interrupted := s.interrupted || cut }

variable (s : Summary) (verdicts : List Verdict) (cut : Bool)

@[simp] theorem tallied_nil : s.tallied [] false = s := by
  simp [tallied]

@[simp] theorem tallied_cut : s.tallied [] true = { s with interrupted := true } := by
  simp [tallied]

theorem tallied_countUser (r : Except Failure UserResult) :
    (s.countUser r).tallied verdicts cut = s.tallied (userVerdict r :: verdicts) cut := by
  rcases r with f | ⟨_ | _⟩ <;> simp [tallied, countUser, userVerdict] <;> omega

theorem tallied_countFile (r : Except Failure FileResult) :
    (s.countFile r).tallied verdicts cut = s.tallied (fileVerdict r :: verdicts) cut := by
  rcases r with f | ⟨_ | _⟩ <;> simp [tallied, countFile, fileVerdict] <;> omega

end Summary

/-- Every unit counts once. -/
theorem count_verdicts (verdicts : List Verdict) :
    verdicts.count .success + verdicts.count .skipped + verdicts.count .error =
      verdicts.length := by
  induction verdicts with
  | nil => rfl
  | cons v rest ih =>
    cases v <;> simp <;> omega

/-! ## The two phases -/

/-- The migration of a user as a unit. -/
def userWork (i : Interference φ) (u : LegacyUser) :
    StateM (World φ) (Except Failure UserResult) :=
  untold (migrateRecord (Rehearsal.store i) Rehearsal.provider u)

/-- The move of a file as a unit. -/
def fileWork (i : Interference φ) (layout : Layout) (dryRun : Bool) (t : FileTask) :
    StateM (World φ) (Except Failure FileResult) :=
  untold (relocateFile (Rehearsal.storage i) layout dryRun t)

theorem stopRequested_eq {stopped : Bool} (h : (i.stopRequested w.mind).1 = stopped) :
    Rehearsal.stopRequested i w = (stopped, { w with mind := (i.stopRequested w.mind).2 }) := by
  rw [← h]
  rfl

/-- In a batch a user is migrated as alone: what was told before makes no difference. -/
theorem round_userWork (i : Interference φ) (u : LegacyUser) (w : World φ) (journal : List Event) :
    let ended := migrateRecord (Rehearsal.store i) Rehearsal.provider u
      ⟨{ w with mind := (i.stopRequested w.mind).2 }, journal⟩
    ended.1 = (round i (userWork i) u w).1 ∧ ended.2.world = (round i (userWork i) u w).2 :=
  untold_of_agree (agree_migrateRecord joinsTelling_any (.self (Rehearsal.store i))
    (.self Rehearsal.provider) u) _ journal

theorem round_fileWork (i : Interference φ) (layout : Layout) (dryRun : Bool) (t : FileTask)
    (w : World φ) (journal : List Event) :
    let ended := relocateFile (Rehearsal.storage i) layout dryRun t
      ⟨{ w with mind := (i.stopRequested w.mind).2 }, journal⟩
    ended.1 = (round i (fileWork i layout dryRun) t w).1 ∧
      ended.2.world = (round i (fileWork i layout dryRun) t w).2 :=
  untold_of_agree (ObjectStorage.Agrees.relocateFile joinsTelling_any
    (.self (Rehearsal.storage i)) t) _ journal

/-- A batch of users works through them. -/
theorem migrateEach_worksThrough (total processed : Nat) (s : Summary) (users : List LegacyUser)
    (w : World φ) (journal : List Event) :
    Ends (migrateEach (Rehearsal.store i) Rehearsal.provider (Rehearsal.stopRequested i) total
        processed s users) ⟨w, journal⟩ fun s' run => ∃ outcomes cut,
      WorksThrough i (userWork i) w users outcomes cut run.world ∧
        s' = s.tallied (outcomes.map userVerdict) cut := by
  induction users generalizing processed s w journal with
  | nil => exact ⟨[], false, .finished, s.tallied_nil.symm⟩
  | cons u rest ih =>
    cases hstop : (i.stopRequested w.mind).1 with
    | true =>
      unfold migrateEach
      rw [Ends, bind_of_eq (call_of_eq (stopRequested_eq hstop)), if_pos rfl]
      exact ⟨[], true, .stopped hstop, s.tallied_cut.symm⟩
    | false =>
      obtain ⟨journal', hnext⟩ := migrateEach_cons hstop total processed s u rest journal
      obtain ⟨hresult, hworld⟩ := round_userWork i u w journal
      rw [Ends, hnext, hresult, hworld]
      obtain ⟨outcomes, cut, hrest, hsummary⟩ := ih (processed + 1) (s.countUser _) _ journal'
      refine ⟨_ :: outcomes, cut, .next hstop hrest, ?_⟩
      rw [hsummary, Summary.tallied_countUser]
      rfl

theorem tellFile_run (t : FileTask) (r : Except Failure FileResult) (run : Run (World φ)) :
    ∃ journal, tellFile t r run = ((), ⟨run.world, journal⟩) := by
  unfold tellFile
  split <;> exact ⟨_, rfl⟩

/-- A batch that is not stopped moves its first file and goes on with the others. -/
theorem relocateEach_cons (layout : Layout) (dryRun : Bool)
    (hstop : (i.stopRequested w.mind).1 = false) (total : Nat) (s : Summary) (t : FileTask)
    (rest : List FileTask) (journal : List Event) :
    let ended := relocateFile (Rehearsal.storage i) layout dryRun t
      ⟨{ w with mind := (i.stopRequested w.mind).2 }, journal⟩
    ∃ journal', relocateEach (Rehearsal.storage i) layout dryRun (Rehearsal.stopRequested i) total s
        (t :: rest) ⟨w, journal⟩ =
      relocateEach (Rehearsal.storage i) layout dryRun (Rehearsal.stopRequested i) total
        (s.countFile ended.1) rest ⟨ended.2.world, journal'⟩ := by
  intro ended
  rw [relocateEach, bind_of_eq (call_of_eq (stopRequested_eq hstop)), if_neg (by simp)]
  obtain ⟨journal', htold⟩ := tellFile_run t ended.1 ended.2
  rw [bind_of_eq (show relocateFile _ _ _ t _ = (ended.1, ended.2) from rfl), bind_of_eq htold]
  exact ⟨journal', rfl⟩

/-- A batch of files works through them. -/
theorem relocateEach_worksThrough (layout : Layout) (dryRun : Bool) (total : Nat) (s : Summary)
    (tasks : List FileTask) (w : World φ) (journal : List Event) :
    Ends (relocateEach (Rehearsal.storage i) layout dryRun (Rehearsal.stopRequested i) total s
        tasks) ⟨w, journal⟩ fun s' run => ∃ outcomes cut,
      WorksThrough i (fileWork i layout dryRun) w tasks outcomes cut run.world ∧
        s' = s.tallied (outcomes.map fileVerdict) cut := by
  induction tasks generalizing s w journal with
  | nil => exact ⟨[], false, .finished, s.tallied_nil.symm⟩
  | cons t rest ih =>
    cases hstop : (i.stopRequested w.mind).1 with
    | true =>
      unfold relocateEach
      rw [Ends, bind_of_eq (call_of_eq (stopRequested_eq hstop)), if_pos rfl]
      exact ⟨[], true, .stopped hstop, s.tallied_cut.symm⟩
    | false =>
      obtain ⟨journal', hnext⟩ := relocateEach_cons layout dryRun hstop total s t rest journal
      obtain ⟨hresult, hworld⟩ := round_fileWork i layout dryRun t w journal
      rw [Ends, hnext, hresult, hworld]
      obtain ⟨outcomes, cut, hrest, hsummary⟩ := ih (s.countFile _) _ journal'
      refine ⟨_ :: outcomes, cut, .next hstop hrest, ?_⟩
      rw [hsummary, Summary.tallied_countFile]
      rfl

/-- A batch that cannot list the users does nothing. -/
theorem migrateUsers_unlisted (hfails : (i.fails .legacyUsersByAge none w.mind).1 = true)
    (journal : List Event) :
    Ends (migrateUsers (Rehearsal.store i) Rehearsal.provider (Rehearsal.stopRequested i))
        ⟨w, journal⟩ fun r run =>
      r = .error (.store (Rehearsal.injected .legacyUsersByAge)) ∧
        run.world = { w with mind := (i.fails .legacyUsersByAge none w.mind).2 } := by
  unfold migrateUsers
  rw [ends_bind, ends_call]
  refine (Rehearsal.ends_query_of_fails hfails).mono ?_
  rintro _ _ ⟨rfl, rfl⟩
  exact ⟨rfl, rfl⟩

theorem relocateFiles_unlisted (layout : Layout) (dryRun : Bool)
    (hfails : (i.fails .mappedUsers none w.mind).1 = true) (journal : List Event) :
    Ends (relocateFiles (Rehearsal.store i) (Rehearsal.storage i) layout dryRun
        (Rehearsal.stopRequested i)) ⟨w, journal⟩ fun r run =>
      r = .error (.store (Rehearsal.injected .mappedUsers)) ∧
        run.world = { w with mind := (i.fails .mappedUsers none w.mind).2 } := by
  unfold relocateFiles fileTasks
  rw [ends_bind, ends_bind, ends_call]
  refine (Rehearsal.ends_query_of_fails hfails).mono ?_
  rintro _ _ ⟨rfl, rfl⟩
  exact ⟨rfl, rfl⟩

/-! ## The account -/

/-- The account of a phase over `units` that was begun in `w` and worked through the first `p` of
them. A unit is done as a whole or not at all. -/
structure Accounted (i : Interference φ) (requested : φ → Prop) (work : β → StateM (World φ) ρ)
    (verdict : ρ → Verdict) (units : List β) (w : World φ) (p : Nat) (s : Summary)
    (w' : World φ) : Prop where
  le : p ≤ units.length
  total : s.success + s.skipped + s.errors = p
  success : s.success = ((rounds i work (units.take p) w).1.map verdict).count .success
  skipped : s.skipped = ((rounds i work (units.take p) w).1.map verdict).count .skipped
  errors : s.errors = ((rounds i work (units.take p) w).1.map verdict).count .error
  /-- the world is as the first `p` units leave it, but for the mind of the interference -/
  world : ∃ m, w' = { (rounds i work (units.take p) w).2 with mind := m }
  /-- no unit is begun once a stop is requested -/
  begun : ∀ k < p, ¬ requested (i.stopRequested (rounds i work (units.take k) w).2.mind).2
  /-- a stop that came in the `k`-th unit or before lets no other unit begin -/
  late : ∀ k, requested (rounds i work (units.take k) w).2.mind → p ≤ k
  interrupted : s.interrupted = true ↔ p < units.length
  /-- units are left only if a stop is requested -/
  cause : p < units.length → requested w'.mind

/-- How a phase may end that lists its units at `point` of the store. -/
inductive PhaseEnds (i : Interference φ) (requested : φ → Prop) (point : Point) (phase : Phase)
    (work : β → StateM (World φ) ρ) (verdict : ρ → Verdict) (units : List β) (w : World φ) :
    Except Failure Summary → World φ → Prop
  | unlisted (hfails : (i.fails point none w.mind).1 = true) :
      PhaseEnds i requested point phase work verdict units w
        (.error (.store (Rehearsal.injected point)))
        { w with mind := (i.fails point none w.mind).2 }
  | listed {p : Nat} {s : Summary} {w' : World φ}
      (hpasses : (i.fails point none w.mind).1 = false) (hphase : s.phase = phase)
      (hbefore : requested w.mind → p = 0)
      (h : Accounted i requested work verdict units
        { w with mind := (i.fails point none w.mind).2 } p s w') :
      PhaseEnds i requested point phase work verdict units w (.ok s) w'

theorem WorksThrough.phaseEnds {verdict : ρ → Verdict} {point : Point} {phase : Phase}
    (hl : i.Latches requested) (hpasses : (i.fails point none w.mind).1 = false)
    (h : WorksThrough i work { w with mind := (i.fails point none w.mind).2 } units outcomes cut
      w') :
    PhaseEnds i requested point phase work verdict units w
      (.ok ((Summary.start phase).tallied (outcomes.map verdict) cut)) w' := by
  obtain ⟨p, hp⟩ := h.workedFirst
  have hbegun : ∀ k < p, ¬ requested (i.stopRequested (rounds i work (units.take k)
      { w with mind := (i.fails point none w.mind).2 }).2.mind).2 := by
    intro k hk
    rw [← hl.seen, hp.begun k hk]
    exact Bool.false_ne_true
  have hlate : ∀ k, requested (rounds i work (units.take k)
      { w with mind := (i.fails point none w.mind).2 }).2.mind → p ≤ k := by
    intro k hrequested
    by_contra hk
    exact hbegun k (Nat.lt_of_not_le hk) (hl.keeps.stopRequested hrequested).1
  refine .listed hpasses rfl (fun hrequested => ?_) {
    le := hp.le
    total := ?_
    success := ?_
    skipped := ?_
    errors := ?_
    world := hp.world
    begun := hbegun
    late := hlate
    interrupted := ?_
    cause := ?_ }
  · exact Nat.le_zero.mp (hlate 0 (hl.keeps.fails hrequested point none).1)
  · have hcount := count_verdicts (outcomes.map verdict)
    have hlength : outcomes.length = p := by
      rw [hp.outcomes, length_rounds, List.length_take_of_le hp.le]
    rw [List.length_map, hlength] at hcount
    simpa [Summary.tallied, Summary.start] using hcount
  · simp [Summary.tallied, Summary.start, hp.outcomes]
  · simp [Summary.tallied, Summary.start, hp.outcomes]
  · simp [Summary.tallied, Summary.start, hp.outcomes]
  · simpa [Summary.tallied, Summary.start] using hp.cut
  · intro hleft
    obtain ⟨m, hseen, hmind⟩ := hp.left hleft
    rw [hmind]
    exact (hl.seen m).mp hseen

/-- Each phase of a campaign fails because it cannot list its units, and then changes nothing, or
works through a prefix of them. Its summary counts the units of the prefix by their outcomes, and
the world is what the whole units of the prefix have made of it. No unit is begun after a stop was
requested, and the summary tells of an interruption exactly if units are left. -/
theorem phases_accounted {c : Campaign (World φ) Transaction} (hc : Conducts i c)
    (hl : i.Latches requested) (w : World φ) :
    PhaseEnds i requested .legacyUsersByAge .users (userWork i) userVerdict
        w.store.legacyUsersByAge w (c.migrateUsers (.start w)).1
        (c.migrateUsers (.start w)).2.world ∧
      PhaseEnds i requested .mappedUsers .files (fileWork i c.layout c.dryRun) fileVerdict
        (w.fileTasks c.layout) w (c.relocateFiles (.start w)).1
        (c.relocateFiles (.start w)).2.world := by
  rw [hc.migrateUsers_eq, hc.relocateFiles_eq]
  constructor
  · cases hlists : (i.fails .legacyUsersByAge none w.mind).1 with
    | true =>
      obtain ⟨hresult, hworld⟩ := migrateUsers_unlisted hlists ([] : List Event)
      rw [Run.start, hresult, hworld]
      exact .unlisted hlists
    | false =>
      obtain ⟨hresult, hworld, -⟩ := migrateUsers_run hlists ([] : List Event)
      obtain ⟨outcomes, cut, hworks, hsummary⟩ :=
        migrateEach_worksThrough (i := i) w.store.legacyUsersByAge.length 0 (.start .users)
          w.store.legacyUsersByAge { w with mind := (i.fails .legacyUsersByAge none w.mind).2 } _
      rw [Run.start, hresult, hworld, hsummary]
      exact hworks.phaseEnds hl hlists
  · cases hlists : (i.fails .mappedUsers none w.mind).1 with
    | true =>
      obtain ⟨hresult, hworld⟩ :=
        relocateFiles_unlisted c.layout c.dryRun hlists ([] : List Event)
      rw [Run.start, hresult, hworld]
      exact .unlisted hlists
    | false =>
      obtain ⟨hresult, hworld, -⟩ :=
        relocateFiles_run c.layout c.dryRun hlists ([] : List Event)
      obtain ⟨outcomes, cut, hworks, hsummary⟩ :=
        relocateEach_worksThrough (i := i) c.layout c.dryRun (w.fileTasks c.layout).length
          (.start .files) (w.fileTasks c.layout)
          { w with mind := (i.fails .mappedUsers none w.mind).2 } _
      rw [Run.start, hresult, hworld, hsummary]
      exact hworks.phaseEnds hl hlists

namespace Rehearsal.Stage

/-- Users of a stage one after the other. -/
def batch (users : List LegacyUser) : Action Stage Summary :=
  migrateEach stageStore provider (stopRequested Script.interference) users.length 0
    (.start .users) users

/-- A campaign of a stage that can list its users migrates them in the order of the listing. -/
theorem migrateUsers_batch {w : Stage} {users : List LegacyUser}
    (hlisted : w.store.legacyUsersByAge = users)
    (hpass : w.mind.fails .legacyUsersByAge none = false) :
    (campaign.migrateUsers (.start w)).1 = .ok (untold (batch users) w).1 ∧
      (campaign.migrateUsers (.start w)).2.world = (untold (batch users) w).2 := by
  have hc : Enrols Script.interference campaign := ⟨rfl, rfl, rfl, rfl⟩
  have hsame : Agree (Run.Alike Eq AnyJournals) (batch users) (batch users) :=
    agree_migrateEach joinsTelling_any (.self stageStore) (.self provider) .self _ _ _ _
  obtain ⟨hresult, hworld, -⟩ :=
    migrateUsers_run (i := Script.interference) hpass ([] : List Event)
  obtain ⟨hsummary, hend⟩ := untold_of_agree hsame w [.usersBegun users.length "memory"]
  rw [hlisted] at hresult hworld
  rw [hc.migrateUsers_eq, Run.start, hresult, hworld, ← hsummary, ← hend]
  exact ⟨rfl, rfl⟩

end Rehearsal.Stage

open Rehearsal in
/-- A stop that comes with the first commit leaves the second of two users to be migrated; one that
comes with the second commit comes too late to interrupt. -/
theorem phases_accounted_stage :
    let users := [Stage.ada, Stage.adaAgain]
    let w : Stage := { Stage.ofUsers users with mind := Script.quiet.stopAfter .commit 1 }
    let late : Stage := { Stage.ofUsers users with mind := Script.quiet.stopAfter .commit 2 }
    Conducts Script.interference Stage.campaign ∧
      Script.interference.Latches (fun s => s.stopped = true) ∧
      PhaseEnds Script.interference (fun s => s.stopped = true) .legacyUsersByAge .users
        (userWork Script.interference) userVerdict w.store.legacyUsersByAge w
        (Stage.campaign.migrateUsers (.start w)).1
        (Stage.campaign.migrateUsers (.start w)).2.world ∧
      (Stage.campaign.migrateUsers (.start w)).1 = .ok ⟨.users, 1, 0, 0, true⟩ ∧
      (Stage.campaign.migrateUsers (.start late)).1 = .ok ⟨.users, 2, 0, 0, false⟩ ∧
      (Stage.campaign.migrateUsers (.start late)).2.world.mind.stopped = true := by
  intro users w late
  have hc : Conducts Script.interference Stage.campaign := ⟨⟨rfl, rfl, rfl, rfl⟩, rfl⟩
  have hlisted : (Stage.ofUsers users).store.legacyUsersByAge = users :=
    List.mergeSort_of_pairwise (by decide +kernel)
  refine ⟨hc, Script.latches, (phases_accounted hc Script.latches w).1, ?_, ?_, ?_⟩
  · rw [(Stage.migrateUsers_batch (w := w) hlisted (by decide)).1]
    decide +kernel
  · rw [(Stage.migrateUsers_batch (w := late) hlisted (by decide)).1]
    decide +kernel
  · rw [(Stage.migrateUsers_batch (w := late) hlisted (by decide)).2]
    decide +kernel

end Rekey

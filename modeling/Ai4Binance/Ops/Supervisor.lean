/-
The health that the runtime supervisor persists (`ops/runtime.py`, `RuntimeStatusStore` and
`RuntimeSupervisor`).

A cycle is admitted by the resource policy, runs, and is written to the public status file,
the private store and the management ledger, in this order; any of these may fail but the
first write.  A failure is written to the status file too, with a counter that is read from
the file.

* `RuntimeStatus.ofReport`, `RuntimeStatus.ofFailure`: what is written after a cycle;
* `runCycle`, `SupervisorRun.turn`, `SupervisorStep`: a cycle, and a turn of the loop of `run`;
* `runCycle_cases`: a cycle fails before the public write, fails after it, or completes;
* `Truthful`, `truthful_turn`: what the file should say, and when a cycle keeps it so;
* `health_truthful_iff`: **the file is truthful after every cycle exactly when every cycle
  that fails after the public write follows one completed at the same time**;
* `consecutiveFailures_eq`: the counter in the memory of `run` is always right.
-/
import Ai4Binance.Lib.Isoformat
import Ai4Binance.Lib.Python
import Ai4Binance.Lib.Run

open Check

namespace Ai4Binance

/-! ### Reports and the status file -/

/-- `RuntimeState`. -/
inductive RuntimeState where
  | starting
  | walletPreflight
  | marketPreflight
  | ready
  | degraded
  deriving DecidableEq, Repr

/-- `state.value`. -/
def RuntimeState.value : RuntimeState → String
  | .starting => "STARTING"
  | .walletPreflight => "WALLET_PREFLIGHT"
  | .marketPreflight => "MARKET_PREFLIGHT"
  | .ready => "READY"
  | .degraded => "DEGRADED"

/-- `DualMarketAdvisoryReport`, without the advice. -/
structure AdvisoryReport where
  cycleId : String
  symbol : String
  createdAt : AwareDatetime
  state : RuntimeState
  blockers : List String
  ready_ok : state = .ready → blockers = []

/-- An exception of a cycle: the name of its type, and the blocker of a
`ResourceAdmissionError`. -/
structure CycleError where
  category : String
  blocker : Option String := none
  deriving DecidableEq

/-- The status texts of the health. -/
inductive HealthStatus where
  | healthy
  | degraded
  | failed
  deriving DecidableEq, Repr

/-- The health of a status file; a counter that is no integer is `none`. -/
structure RuntimeHealth where
  status : HealthStatus
  lastAttemptAt : String
  lastSuccessAt : Option String
  consecutiveFailures : Option ℤ
  errorCategory : Option String := none
  deriving DecidableEq

/-- The status file, without the advice. -/
structure RuntimeStatus where
  cycleId : Option String
  symbol : Option String
  createdAt : String
  state : String
  blockers : List String
  health : RuntimeHealth
  deriving DecidableEq

namespace RuntimeStatus

/-- `RuntimeStatusStore.save`. -/
def ofReport (report : AdvisoryReport) : RuntimeStatus where
  cycleId := some report.cycleId
  symbol := some report.symbol
  createdAt := report.createdAt.val.isoformat
  state := report.state.value
  blockers := report.blockers
  health := {
    status := if report.blockers = [] then .healthy else .degraded
    lastAttemptAt := report.createdAt.val.isoformat
    lastSuccessAt := some report.createdAt.val.isoformat
    consecutiveFailures := some 0 }

/-- `RuntimeStatusStore.save_failure`; `previous` is the file, unless it has no health. -/
def ofFailure (previous : Option RuntimeStatus) (error : CycleError) (attemptedAt : AwareDatetime) :
    RuntimeStatus where
  cycleId := none
  symbol := none
  createdAt := attemptedAt.val.isoformat
  state := "DEGRADED"
  blockers := "RUNTIME_CYCLE_FAILED" :: error.blocker.toList
  health := {
    status := .failed
    lastAttemptAt := attemptedAt.val.isoformat
    lastSuccessAt := previous.bind (·.health.lastSuccessAt)
    consecutiveFailures := some ((previous.bind (·.health.consecutiveFailures)).getD 0 + 1)
    errorCategory := some (String.ofList (error.category.toList.take 100)) }

end RuntimeStatus

/-! ### Cycles -/

/-- What a turn of the loop meets.  A store that is not configured saves. -/
structure CycleInput where
  usedGb : Option ℚ
  cycle : Except CycleError AdvisoryReport
  privateSave : Except CycleError Unit := .ok ()
  ledgerAppend : Except CycleError Unit := .ok ()
  clock : AwareDatetime
  ledgerAppendFailure : Except CycleError Unit := .ok ()

section Cycles

variable (ramHardLimitGb : ℕ)

/-- `ResourcePolicy.memory_blocker`, for work that is not discretionary. -/
def memoryBlocker (usedGb : Option ℚ) : Option String :=
  match usedGb with
  | none => some "RESOURCE_RAM_NOT_VERIFIED"
  | some usedGb =>
      if usedGb < 0 then some "RESOURCE_RAM_NOT_VERIFIED"
      else if (ramHardLimitGb : ℚ) ≤ usedGb then some "RESOURCE_RAM_HARD_LIMIT"
      else none

/-- `RuntimeSupervisor._run_cycle`: the status file afterwards, and what is raised. -/
def runCycle (status : Option RuntimeStatus) (c : CycleInput) :
    Option RuntimeStatus × Except CycleError Unit :=
  match memoryBlocker ramHardLimitGb c.usedGb with
  | some blocker => (status, .error ⟨"ResourceAdmissionError", some blocker⟩)
  | none =>
      match c.cycle with
      | .error error => (status, .error error)
      | .ok report => (some (.ofReport report), c.privateSave >>= fun _ => c.ledgerAppend)

/-- The variables of `run`, with the status file; `aborted` is what leaves the loop. -/
structure SupervisorRun where
  status : Option RuntimeStatus
  attempts : ℕ := 0
  completed : ℕ := 0
  consecutiveFailures : ℕ := 0
  aborted : Option CycleError := none

/-- A turn of the loop of `RuntimeSupervisor.run`. -/
def SupervisorRun.turn (s : SupervisorRun) (c : CycleInput) : SupervisorRun :=
  match runCycle ramHardLimitGb s.status c with
  | (status, .ok ()) =>
      { s with
        status
        attempts := s.attempts + 1
        completed := s.completed + 1
        consecutiveFailures := 0 }
  | (status, .error error) =>
      { s with
        status := some (.ofFailure status error c.clock)
        attempts := s.attempts + 1
        consecutiveFailures := s.consecutiveFailures + 1
        -- an exception of `append_failure` is not caught
        aborted := match c.ledgerAppendFailure with
          | .ok () => none
          | .error error => some error }

/-- One more cycle of `run(max_cycles=…)`. -/
def SupervisorStep (maxCycles : Option ℕ) (s : SupervisorRun) (c : CycleInput)
    (t : SupervisorRun) : Prop :=
  (∀ n ∈ maxCycles, s.attempts < n) ∧ s.aborted = none ∧ t = s.turn ramHardLimitGb c

end Cycles

/-! ### What the file should say -/

/-- What came of a cycle. -/
inductive CycleOutcome where
  | completed (createdAt : AwareDatetime)
  | failed
  deriving DecidableEq

namespace CycleOutcome

/-- The failed cycles since the last completed one. -/
def failuresSince (history : List CycleOutcome) : ℕ :=
  (history.reverse.takeWhile (· = .failed)).length

/-- The time of the last completed cycle. -/
def lastSuccess (history : List CycleOutcome) : Option AwareDatetime :=
  history.reverse.findSome? fun
    | completed createdAt => some createdAt
    | failed => none

variable {history : List CycleOutcome} {createdAt : AwareDatetime}

@[simp] lemma failuresSince_failed :
    failuresSince (history ++ [failed]) = failuresSince history + 1 := by
  simp [failuresSince]

@[simp] lemma failuresSince_completed : failuresSince (history ++ [completed createdAt]) = 0 := by
  simp [failuresSince]

@[simp] lemma lastSuccess_failed : lastSuccess (history ++ [failed]) = lastSuccess history := by
  simp [lastSuccess]

@[simp] lemma lastSuccess_completed :
    lastSuccess (history ++ [completed createdAt]) = some createdAt := by
  simp [lastSuccess]

/-- No failure since the last completed cycle: it is the last cycle. -/
lemma getLast?_completed_iff : history.getLast? = some (completed createdAt) ↔
    failuresSince history = 0 ∧ lastSuccess history = some createdAt := by
  induction history using List.reverseRecOn with
  | nil => simp [lastSuccess]
  | append_singleton history last _ =>
    cases last with
    | completed createdAt' => simp
    | failed => simp

end CycleOutcome

open CycleOutcome

/-- The health of the file agrees with the cycles so far. -/
def Truthful (status : Option RuntimeStatus) (history : List CycleOutcome) : Prop :=
  match status with
  | none => history = []
  | some status =>
      status.health.consecutiveFailures = some (CycleOutcome.failuresSince history : ℤ) ∧
        (status.health.status = .failed ↔ history.getLast? = some .failed) ∧
        status.health.lastSuccessAt = (lastSuccess history).map (·.val.isoformat)

section Truth

variable {ramHardLimitGb : ℕ} {maxCycles : Option ℕ} {status : Option RuntimeStatus}
  {c : CycleInput} {cycles l : List CycleInput} {s t : SupervisorRun} {history : List CycleOutcome}

variable (ramHardLimitGb) in
/-- What comes of a cycle. -/
def CycleInput.outcome (c : CycleInput) : CycleOutcome :=
  match memoryBlocker ramHardLimitGb c.usedGb, c.cycle, c.privateSave, c.ledgerAppend with
  | none, .ok report, .ok (), .ok () => .completed report.createdAt
  | _, _, _, _ => .failed

variable (ramHardLimitGb) in
/-- A cycle whose report is written to the public status, and then not to the private store or
not to the ledger. -/
def CycleInput.FailsLate (c : CycleInput) (report : AdvisoryReport) : Prop :=
  memoryBlocker ramHardLimitGb c.usedGb = none ∧ c.cycle = .ok report ∧
    (c.privateSave >>= fun _ => c.ledgerAppend) ≠ .ok ()

variable (ramHardLimitGb) in
/-- **What a cycle can do**: it fails and leaves the file alone, fails with its report in the
file, or completes. -/
lemma runCycle_cases (status : Option RuntimeStatus) (c : CycleInput) :
    (∃ error, runCycle ramHardLimitGb status c = (status, .error error) ∧
        c.outcome ramHardLimitGb = .failed ∧ ∀ report, ¬ c.FailsLate ramHardLimitGb report) ∨
      (∃ report error, runCycle ramHardLimitGb status c = (some (.ofReport report), .error error) ∧
        c.outcome ramHardLimitGb = .failed ∧ c.FailsLate ramHardLimitGb report) ∨
      ∃ report, runCycle ramHardLimitGb status c = (some (.ofReport report), .ok ()) ∧
        c.outcome ramHardLimitGb = .completed report.createdAt ∧
        ∀ report, ¬ c.FailsLate ramHardLimitGb report := by
  cases hblocker : memoryBlocker ramHardLimitGb c.usedGb with
  | some blocker => exact .inl (by simp [runCycle, CycleInput.outcome, CycleInput.FailsLate, hblocker])
  | none =>
    cases hcycle : c.cycle with
    | error error =>
      exact .inl (by simp [runCycle, CycleInput.outcome, CycleInput.FailsLate, hblocker, hcycle])
    | ok report =>
      cases hsave : c.privateSave with
      | error error =>
        exact .inr (.inl ⟨report, error, by simp [runCycle, hblocker, hcycle, hsave],
          by simp [CycleInput.outcome, hblocker, hcycle, hsave],
          hblocker, hcycle, by simp [hsave]⟩)
      | ok _ =>
        cases happend : c.ledgerAppend with
        | error error =>
          exact .inr (.inl ⟨report, error, by simp [runCycle, hblocker, hcycle, hsave, happend],
            by simp [CycleInput.outcome, hblocker, hcycle, hsave, happend],
            hblocker, hcycle, by simp [hsave, happend]⟩)
        | ok _ =>
          exact .inr (.inr ⟨report, by simp [runCycle, hblocker, hcycle, hsave, happend],
            by simp [CycleInput.outcome, hblocker, hcycle, hsave, happend],
            fun report' hlate => hlate.2.2 (by simp [hsave, happend])⟩)

lemma failsLate_unique {report report' : AdvisoryReport} (h : c.FailsLate ramHardLimitGb report)
    (h' : c.FailsLate ramHardLimitGb report') : report = report' :=
  Except.ok.inj (h.2.1.symm.trans h'.2.1)

/-- A failure that leaves the file alone is counted. -/
lemma truthful_ofFailure (hs : Truthful status history) (error : CycleError)
    (attemptedAt : AwareDatetime) :
    Truthful (some (.ofFailure status error attemptedAt)) (history ++ [.failed]) := by
  cases status with
  | none =>
    obtain rfl : history = [] := hs
    simp [Truthful, RuntimeStatus.ofFailure, CycleOutcome.failuresSince, lastSuccess]
  | some status =>
    obtain ⟨hcount, -, hsuccess⟩ := hs
    simp [Truthful, RuntimeStatus.ofFailure, hcount, hsuccess]

/-- A completed cycle is recorded. -/
lemma truthful_ofReport (report : AdvisoryReport) :
    Truthful (some (.ofReport report)) (history ++ [.completed report.createdAt]) := by
  simp only [Truthful, RuntimeStatus.ofReport, failuresSince_completed, lastSuccess_completed,
    List.getLast?_append_of_ne_nil _ (List.cons_ne_nil _ _), List.getLast?_singleton]
  split_ifs <;> simp

/-- A failure after the public write is counted from the report that the cycle wrote. -/
lemma truthful_late_iff (report : AdvisoryReport) (error : CycleError) (attemptedAt : AwareDatetime) :
    Truthful (some (.ofFailure (some (.ofReport report)) error attemptedAt))
        (history ++ [.failed]) ↔
      history.getLast? = some (.completed report.createdAt) := by
  have hiso : some report.createdAt.val.isoformat = (lastSuccess history).map (·.val.isoformat) ↔
      lastSuccess history = some report.createdAt := by
    constructor
    · intro h
      obtain ⟨last, hlast, heq⟩ := Option.map_eq_some_iff.mp h.symm
      rw [hlast, Subtype.ext (Timestamp.isoformat_inj last.2 report.createdAt.2 heq)]
    · intro h
      rw [h, Option.map_some]
  rw [getLast?_completed_iff, ← hiso]
  simp only [Truthful, RuntimeStatus.ofFailure, RuntimeStatus.ofReport, Option.bind_some,
    Option.getD_some, failuresSince_failed, lastSuccess_failed, zero_add, Nat.cast_add,
    Nat.cast_one, Option.some.injEq, List.getLast?_append_of_ne_nil _ (List.cons_ne_nil _ _),
    List.getLast?_singleton, true_and, and_congr_left_iff]
  intro _
  omega

/-- **A cycle keeps the file truthful** unless it fails after the public write, and then only
when it follows a cycle completed at the same time. -/
theorem truthful_turn (hs : Truthful s.status history) (c : CycleInput) :
    Truthful (s.turn ramHardLimitGb c).status (history ++ [c.outcome ramHardLimitGb]) ↔
      ∀ report, c.FailsLate ramHardLimitGb report →
        history.getLast? = some (.completed report.createdAt) := by
  rcases runCycle_cases ramHardLimitGb s.status c with
    ⟨error, hrun, hout, hnot⟩ | ⟨report, error, hrun, hout, hlate⟩ | ⟨report, hrun, hout, hnot⟩
  · rw [SupervisorRun.turn, hrun, hout]
    exact iff_of_true (truthful_ofFailure hs _ _) fun report hlate => absurd hlate (hnot report)
  · rw [SupervisorRun.turn, hrun, hout]
    refine (truthful_late_iff report _ _).trans ⟨fun h report' hlate' => ?_, fun h => h report hlate⟩
    rw [failsLate_unique hlate' hlate]
    exact h
  · rw [SupervisorRun.turn, hrun, hout]
    exact iff_of_true (truthful_ofReport report) fun report hlate => absurd hlate (hnot report)

/-! ### Runs -/

/-- The variables of `run` before the first cycle. -/
def SupervisorRun.begin (status : Option RuntimeStatus) : SupervisorRun := { status }

/-- The turns before a cycle of a run, and its turn. -/
lemma run_of_prefix (h : Run (SupervisorStep ramHardLimitGb maxCycles) s cycles t)
    (hl : l <+: cycles) : ∃ u, Run (SupervisorStep ramHardLimitGb maxCycles) s l u := by
  obtain ⟨rest, rfl⟩ := hl
  obtain ⟨u, hu, -⟩ := run_append_iff.mp h
  exact ⟨u, hu⟩

/-- **Supervisor health.**  From a file that agrees with the cycles of earlier runs, the file
agrees with all cycles after every cycle of a run, exactly when each cycle that fails after
the public write directly follows a cycle that was completed at the same time. -/
theorem health_truthful_iff {before : List CycleOutcome} (hstart : Truthful status before)
    (h : Run (SupervisorStep ramHardLimitGb maxCycles) (.begin status) cycles s) :
    (∀ l u, l <+: cycles → Run (SupervisorStep ramHardLimitGb maxCycles) (.begin status) l u →
        Truthful u.status (before ++ l.map (·.outcome ramHardLimitGb))) ↔
      ∀ l c report, l ++ [c] <+: cycles → c.FailsLate ramHardLimitGb report →
        (before ++ l.map (·.outcome ramHardLimitGb)).getLast? =
          some (.completed report.createdAt) := by
  constructor
  · intro htruth l c report hl hlate
    obtain ⟨v, hv⟩ := run_of_prefix h hl
    obtain ⟨u, hu, hstep⟩ := run_snoc_iff.mp hv
    have hafter := htruth _ v hl hv
    rw [hstep.2.2, List.map_append, List.map_singleton, ← List.append_assoc] at hafter
    exact (truthful_turn (htruth l u ((List.prefix_append l [c]).trans hl) hu) c).mp hafter report hlate
  · intro hlate l
    -- along the cycles of the run, from the first
    induction l using List.reverseRecOn with
    | nil =>
      intro u _ hu
      rw [run_nil_iff] at hu
      subst hu
      simpa [SupervisorRun.begin] using hstart
    | append_singleton l c ih =>
      intro v hl hv
      obtain ⟨u, hu, hstep⟩ := run_snoc_iff.mp hv
      have htruth := ih u ((List.prefix_append l [c]).trans hl) hu
      rw [hstep.2.2, List.map_append, List.map_singleton, ← List.append_assoc]
      exact (truthful_turn htruth c).mpr fun report => hlate l c report hl

/-- The counter in the memory of `run` is right in every run. -/
theorem consecutiveFailures_eq
    (h : Run (SupervisorStep ramHardLimitGb maxCycles) (.begin status) cycles s) :
    s.consecutiveFailures = CycleOutcome.failuresSince (cycles.map (·.outcome ramHardLimitGb)) := by
  induction cycles using List.reverseRecOn generalizing s with
  | nil =>
    obtain rfl := run_nil_iff.mp h
    rfl
  | append_singleton cycles c ih =>
    obtain ⟨u, hu, -, -, rfl⟩ := run_snoc_iff.mp h
    rw [List.map_append, List.map_singleton]
    rcases runCycle_cases ramHardLimitGb u.status c with
      ⟨error, hrun, hout, -⟩ | ⟨report, error, hrun, hout, -⟩ | ⟨report, hrun, hout, -⟩
    · rw [SupervisorRun.turn, hrun, hout, failuresSince_failed, ← ih hu]
    · rw [SupervisorRun.turn, hrun, hout, failuresSince_failed, ← ih hu]
    · rw [SupervisorRun.turn, hrun, hout, failuresSince_completed]

end Truth

/-! ### Sample runs -/

/-- A report of a second of the epoch's first minute. -/
def sampleReport (second : Fin 60) : AdvisoryReport where
  cycleId := "runtime-BTCUSDT-0"
  symbol := "BTCUSDT"
  createdAt := ⟨⟨second * 1000000, 0⟩, by revert second; decide⟩
  state := .ready
  blockers := []
  ready_ok _ := rfl

/-- A cycle without enough memory. -/
def refusedCycle : CycleInput where
  usedGb := none
  cycle := .ok (sampleReport 1)
  clock := (sampleReport 1).createdAt

/-- A cycle that completes. -/
def goodCycle : CycleInput := { refusedCycle with usedGb := some 1 }

/-- A cycle whose report does not reach the ledger. -/
def unrecordedCycle : CycleInput := { goodCycle with ledgerAppend := .error ⟨"OSError", none⟩ }

/-- **A failure after the public write restarts the count**: after a refused cycle and one that
is not recorded the file shows one failure, and a success that was none. -/
theorem unrecorded_cycle_resets_health :
    ¬ ∀ (ramHardLimitGb : ℕ) (maxCycles : Option ℕ) (cycles : List CycleInput) (s : SupervisorRun),
      Run (SupervisorStep ramHardLimitGb maxCycles) (.begin none) cycles s →
        Truthful s.status (cycles.map (·.outcome ramHardLimitGb)) := by
  intro hclaim
  have hrun : Run (SupervisorStep 38 none) (.begin none) [refusedCycle, unrecordedCycle] _ :=
    .cons ⟨by simp, rfl, rfl⟩ (Run.single ⟨by simp, by decide +kernel, rfl⟩)
  have hcount := (hclaim 38 none _ _ hrun).1
  revert hcount
  decide +kernel

/-- A completed cycle and a refused one. -/
theorem refused_cycle_is_counted : ∃ s,
    Run (SupervisorStep 38 (some 2)) (.begin none) [goodCycle, refusedCycle] s ∧
      ∀ l u, l <+: [goodCycle, refusedCycle] →
        Run (SupervisorStep 38 (some 2)) (.begin none) l u →
        Truthful u.status ([] ++ l.map (·.outcome 38)) := by
  have hrun : Run (SupervisorStep 38 (some 2)) (.begin none) [goodCycle, refusedCycle] _ :=
    .cons ⟨by simp [SupervisorRun.begin], rfl, rfl⟩
      (Run.single ⟨by decide +kernel, by decide +kernel, rfl⟩)
  have hstart : Truthful none [] := rfl
  refine ⟨_, hrun, (health_truthful_iff hstart hrun).mpr fun l c report hl hlate => ?_⟩
  have hc : c ∈ [goodCycle, refusedCycle] := hl.subset (by simp)
  rcases List.mem_pair.mp hc with rfl | rfl
  · exact absurd rfl hlate.2.2
  · exact absurd rfl hlate.2.2

end Ai4Binance

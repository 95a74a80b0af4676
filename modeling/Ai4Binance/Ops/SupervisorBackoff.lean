/-
The delays of the runtime supervisor (`ops/runtime.py`, `RuntimeSupervisor.run`).

After a cycle the supervisor sleeps: its interval, or after failures a time that doubles with each
of them up to a bound.  The factor is an integer that is converted to a float first.

* `RuntimeSupervisor`: the intervals, with the checks of the constructor as fields;
* `RuntimeSupervisor.delay`: the delay after a number of consecutive failures;
* `PacedRun.turn`, `PacedStep`: a turn of the loop of `run` with its sleep;
* `delay_ok_iff`, `delay_bounds`, `delay_mono`: when there is a delay, and what it is;
* `supervisor_survives_iff`: **a run goes on with delays in the bounds exactly when no sleep follows
  more than 1024 consecutive failures**.
-/
import Ai4Binance.Ops.Supervisor

open Check

namespace Ai4Binance

/-! ### Delays -/

/-- `RuntimeSupervisor`, the times in seconds.  A float of these ranges times a power of two is
exact, or beyond the floats and then not the smaller of the two times of `min`. -/
structure RuntimeSupervisor where
  intervalSeconds : ℚ := 60
  failureBackoffSeconds : ℚ := 5
  maxFailureBackoffSeconds : ℚ := 300
  interval_ok : 5 ≤ intervalSeconds ∧ intervalSeconds ≤ 3600
  backoff_ok : 1 ≤ failureBackoffSeconds ∧ failureBackoffSeconds ≤ 300
  maximum_ok : failureBackoffSeconds ≤ maxFailureBackoffSeconds ∧ maxFailureBackoffSeconds ≤ 3600

/-- `x * n` of a float and an integer, which is converted to a float. -/
def floatMulInt (x : ℚ) (n : ℕ) : Except PyError ℚ :=
  if 2 ^ 1024 ≤ n then .error (.overflow "int too large to convert to float") else .ok (x * n)

namespace RuntimeSupervisor

variable (supervisor : RuntimeSupervisor)

/-- The delay after a cycle. -/
def delay (consecutiveFailures : ℕ) : Except PyError ℚ :=
  if consecutiveFailures = 0 then .ok supervisor.intervalSeconds
  else do
    let backoff ← floatMulInt supervisor.failureBackoffSeconds (2 ^ (consecutiveFailures - 1))
    return min backoff supervisor.maxFailureBackoffSeconds

variable {supervisor} {n : ℕ} {d d' : ℚ}

lemma delay_succ_eq_ok : supervisor.delay (n + 1) = .ok d ↔
    n < 1024 ∧ d = min (supervisor.failureBackoffSeconds * 2 ^ n)
      supervisor.maxFailureBackoffSeconds := by
  have hbound : 2 ^ 1024 ≤ 2 ^ n ↔ 1024 ≤ n := pow_le_pow_iff_right₀ Nat.one_lt_two
  rw [delay, if_neg (Nat.succ_ne_zero n), Nat.add_sub_cancel, floatMulInt]
  by_cases hn : 1024 ≤ n
  · rw [if_pos (hbound.mpr hn), error_bind]
    exact iff_of_false nofun fun h => absurd h.1 (not_lt.mpr hn)
  · rw [if_neg (mt hbound.mp hn), ok_bind, pure_eq_ok, eq_comm, and_iff_right (not_le.mp hn)]
    push_cast
    rfl

variable (supervisor) in
/-- There is a delay after at most 1024 failures. -/
lemma delay_ok_iff : (∃ d, supervisor.delay n = .ok d) ↔ n ≤ 1024 := by
  cases n with
  | zero => exact iff_of_true ⟨_, rfl⟩ (Nat.zero_le _)
  | succ n =>
      simp only [delay_succ_eq_ok, exists_and_left, exists_eq, and_true]
      omega

/-- A delay lies between the smaller and the larger of the configured times. -/
lemma delay_bounds (h : supervisor.delay n = .ok d) :
    min supervisor.intervalSeconds supervisor.failureBackoffSeconds ≤ d ∧
      d ≤ max supervisor.intervalSeconds supervisor.maxFailureBackoffSeconds := by
  cases n with
  | zero =>
      obtain rfl := Except.ok.inj h
      exact ⟨min_le_left _ _, le_max_left _ _⟩
  | succ n =>
      obtain ⟨-, rfl⟩ := delay_succ_eq_ok.mp h
      have hpos : 0 ≤ supervisor.failureBackoffSeconds := zero_le_one.trans supervisor.backoff_ok.1
      have hgrow : supervisor.failureBackoffSeconds ≤ supervisor.failureBackoffSeconds * 2 ^ n :=
        le_mul_of_one_le_right hpos (one_le_pow₀ one_le_two)
      exact ⟨(min_le_right _ _).trans (le_min hgrow supervisor.maximum_ok.1),
        (min_le_right _ _).trans (le_max_right _ _)⟩

/-- One more failure does not shorten the delay. -/
lemma delay_mono (hn : 0 < n) (h : supervisor.delay n = .ok d)
    (h' : supervisor.delay (n + 1) = .ok d') : d ≤ d' := by
  obtain ⟨n, rfl⟩ := Nat.exists_eq_succ_of_ne_zero hn.ne'
  obtain ⟨-, rfl⟩ := delay_succ_eq_ok.mp h
  obtain ⟨-, rfl⟩ := delay_succ_eq_ok.mp h'
  have hpos : 0 ≤ supervisor.failureBackoffSeconds := zero_le_one.trans supervisor.backoff_ok.1
  refine min_le_min ?_ le_rfl
  exact mul_le_mul_of_nonneg_left (pow_le_pow_right₀ one_le_two (Nat.le_succ n)) hpos

end RuntimeSupervisor

/-! ### The loop with its sleeps -/

/-- The variables of `run`, the delays it has slept, and what a delay has raised. -/
structure PacedRun where
  run : SupervisorRun
  delays : List ℚ := []
  raised : Option PyError := none

/-- `run(max_cycles=…)`, before the first cycle. -/
def PacedRun.begin (maxCycles : Option ℕ) (status : Option RuntimeStatus) :
    Except PyError PacedRun := do
  raiseIf (∃ n ∈ maxCycles, n < 1) (.value "max_cycles must be positive")
  return { run := .begin status }

section Paced

variable (supervisor : RuntimeSupervisor) (ramHardLimitGb : ℕ) (maxCycles : Option ℕ)

/-- A turn of the loop: the cycle, and unless it was the last one, a sleep. -/
def PacedRun.turn (p : PacedRun) (c : CycleInput) : PacedRun :=
  let run := p.run.turn ramHardLimitGb c
  if run.aborted ≠ none ∨ ∃ n ∈ maxCycles, n ≤ run.attempts then { p with run }
  else
    match supervisor.delay run.consecutiveFailures with
    | .ok delay => { p with run, delays := p.delays ++ [delay] }
    | .error e => { p with run, raised := some e }

/-- One more cycle of `run`. -/
def PacedStep (p : PacedRun) (c : CycleInput) (q : PacedRun) : Prop :=
  (∀ n ∈ maxCycles, p.run.attempts < n) ∧ p.run.aborted = none ∧ p.raised = none ∧
    q = p.turn supervisor ramHardLimitGb maxCycles c

end Paced

/-- A cycle whose failure, if it fails, is written to every store. -/
def CycleInput.StoresWork (c : CycleInput) : Prop :=
  c.privateSave = .ok () ∧ c.ledgerAppend = .ok () ∧ c.ledgerAppendFailure = .ok ()

open CycleOutcome

section Survival

variable {supervisor : RuntimeSupervisor} {ramHardLimitGb : ℕ} {maxCycles : Option ℕ}
  {status : Option RuntimeStatus} {c : CycleInput} {cycles : List CycleInput}
  {start p q : PacedRun}

variable (supervisor ramHardLimitGb) in
/-- **A run survives**: nothing is raised, every delay lies in the bounds, and of two failures in
a row the second is followed by no shorter one. -/
structure Survives (cycles : List CycleInput) (p : PacedRun) : Prop where
  not_raised : p.raised = none ∧ p.run.aborted = none
  bounds : ∀ d ∈ p.delays, min supervisor.intervalSeconds supervisor.failureBackoffSeconds ≤ d ∧
    d ≤ max supervisor.intervalSeconds supervisor.maxFailureBackoffSeconds
  mono : ∀ l c c' d d', l ++ [c, c'] <+: cycles → c.outcome ramHardLimitGb = .failed →
    c'.outcome ramHardLimitGb = .failed → p.delays[l.length]? = some d →
    p.delays[l.length + 1]? = some d' → d ≤ d'

lemma turn_run (p : PacedRun) (c : CycleInput) :
    (p.turn supervisor ramHardLimitGb maxCycles c).run = p.run.turn ramHardLimitGb c := by
  rw [PacedRun.turn]
  split_ifs
  · rfl
  · split <;> rfl

/-- The cycles of a run are those of the supervisor. -/
lemma run_of_paced (h : Run (PacedStep supervisor ramHardLimitGb maxCycles) p cycles q) :
    Run (SupervisorStep ramHardLimitGb maxCycles) p.run cycles q.run := by
  induction h with
  | nil p => exact .nil p.run
  | cons hstep _ ih =>
      obtain ⟨hmax, haborted, -, rfl⟩ := hstep
      exact .cons ⟨hmax, haborted, turn_run _ _⟩ ih

lemma turn_attempts (s : SupervisorRun) (c : CycleInput) :
    (s.turn ramHardLimitGb c).attempts = s.attempts + 1 := by
  rw [SupervisorRun.turn]
  rcases runCycle ramHardLimitGb s.status c with ⟨status, error | ⟨⟨⟩⟩⟩ <;> rfl

/-- The attempts are counted. -/
lemma attempts_eq {s t : SupervisorRun} (h : Run (SupervisorStep ramHardLimitGb maxCycles) s cycles t) :
    t.attempts = s.attempts + cycles.length := by
  induction h with
  | nil => rfl
  | cons hstep _ ih =>
      obtain ⟨-, -, rfl⟩ := hstep
      rw [ih, turn_attempts, List.length_cons]
      omega

/-- Stores that work abort nothing. -/
lemma turn_aborted {s : SupervisorRun} (hs : s.aborted = none) (hc : c.StoresWork) :
    (s.turn ramHardLimitGb c).aborted = none := by
  rw [SupervisorRun.turn]
  rcases runCycle ramHardLimitGb s.status c with ⟨status, error | ⟨⟨⟩⟩⟩
  · simp only [hc.2.2]
  · exact hs

lemma eq_of_begin (h : PacedRun.begin maxCycles status = .ok start) :
    start = { run := .begin status } := by
  rw [PacedRun.begin, bind_eq_ok] at h
  obtain ⟨_, -, h⟩ := h
  exact (pure_eq_ok.mp h).symm

/-- **What a run has slept**: each delay is that of the failures up to its cycle. -/
lemma delays_eq (hstart : PacedRun.begin maxCycles status = .ok start)
    (h : Run (PacedStep supervisor ramHardLimitGb maxCycles) start cycles p) :
    p.delays.length ≤ cycles.length ∧ (p.raised = none → p.run.aborted = none →
        (∀ n ∈ maxCycles, p.run.attempts < n) → p.delays.length = cycles.length) ∧
      ∀ i d, p.delays[i]? = some d → supervisor.delay
        (CycleOutcome.failuresSince ((cycles.take (i + 1)).map (·.outcome ramHardLimitGb))) =
          .ok d := by
  obtain rfl := eq_of_begin hstart
  induction cycles using List.reverseRecOn generalizing p with
  | nil =>
      obtain rfl := run_nil_iff.mp h
      exact ⟨le_rfl, fun _ _ _ => rfl, fun i d hd => absurd hd nofun⟩
  | append_singleton cycles c ih =>
      obtain ⟨q, hq, hmax, haborted, hraised, rfl⟩ := run_snoc_iff.mp h
      obtain ⟨-, hlength, hdelays⟩ := ih hq
      have hlen := hlength hraised haborted hmax
      have hcount := consecutiveFailures_eq (run_of_paced h)
      rw [turn_run] at hcount
      have hold : ∀ i d, q.delays[i]? = some d → supervisor.delay (CycleOutcome.failuresSince
          (((cycles ++ [c]).take (i + 1)).map (·.outcome ramHardLimitGb))) = .ok d := by
        intro i d hd
        obtain ⟨hi, -⟩ := List.getElem?_eq_some_iff.mp hd
        rw [List.take_append_of_le_length (by omega)]
        exact hdelays i d hd
      rw [List.length_append, List.length_singleton, turn_run, PacedRun.turn]
      split_ifs with hlast
      · refine ⟨by simp only [hlen]; omega, fun _ hnone hmore => ?_, hold⟩
        obtain habort | ⟨n, hn, hle⟩ := hlast
        · exact absurd hnone habort
        · exact absurd (hmore n hn) (not_lt.mpr hle)
      · split
        case h_1 delay hdelay =>
          refine ⟨by simp [hlen], fun _ _ _ => by simp [hlen], fun i d hd => ?_⟩
          rcases Nat.lt_trichotomy i q.delays.length with hi | rfl | hi
          · rw [List.getElem?_append_left hi] at hd
            exact hold i d hd
          · rw [List.getElem?_concat_length] at hd
            rw [hlen, List.take_of_length_le (by simp), ← hcount, hdelay, Option.some.inj hd]
          · rw [List.getElem?_eq_none (by simpa using hi)] at hd
            exact absurd hd nofun
        case h_2 e herror =>
          exact ⟨by simp only [hlen]; omega, fun hnone => absurd hnone nofun, hold⟩

/-- **A turn raises** when it sleeps after too many failures. -/
lemma raised_turn_iff (hraised : p.raised = none) :
    (p.turn supervisor ramHardLimitGb maxCycles c).raised = none ↔
      ((p.run.turn ramHardLimitGb c).aborted ≠ none ∨
        ∃ n ∈ maxCycles, n ≤ (p.run.turn ramHardLimitGb c).attempts) ∨
      (p.run.turn ramHardLimitGb c).consecutiveFailures ≤ 1024 := by
  rw [PacedRun.turn, ← supervisor.delay_ok_iff]
  split_ifs with hlast
  · exact iff_of_true hraised (Or.inl hlast)
  · rw [or_iff_right hlast]
    split
    case h_1 delay hdelay => exact iff_of_true hraised ⟨delay, hdelay⟩
    case h_2 e herror =>
      refine iff_of_false nofun ?_
      rintro ⟨d, hd⟩
      rw [herror] at hd
      exact absurd hd nofun

/-- **The supervisor survives** the failures of a run exactly when no sleep follows more than 1024
of them in a row. -/
theorem supervisor_survives_iff (hstart : PacedRun.begin maxCycles status = .ok start)
    (hstores : ∀ c ∈ cycles, c.StoresWork)
    (h : Run (PacedStep supervisor ramHardLimitGb maxCycles) start cycles p) :
    Survives supervisor ramHardLimitGb cycles p ↔
      CycleOutcome.failuresSince (cycles.map (·.outcome ramHardLimitGb)) ≤ 1024 ∨
        ∃ n ∈ maxCycles, n ≤ cycles.length := by
  obtain ⟨-, -, hdelays⟩ := delays_eq hstart h
  have haborted : p.run.aborted = none := by
    obtain rfl := eq_of_begin hstart
    induction cycles using List.reverseRecOn generalizing p with
    | nil =>
        obtain rfl := run_nil_iff.mp h
        rfl
    | append_singleton cycles c ih =>
        obtain ⟨q, -, -, hq, -, rfl⟩ := run_snoc_iff.mp h
        rw [turn_run]
        exact turn_aborted hq (hstores c (by simp))
  have hraised : p.raised = none ↔
      CycleOutcome.failuresSince (cycles.map (·.outcome ramHardLimitGb)) ≤ 1024 ∨
        ∃ n ∈ maxCycles, n ≤ cycles.length := by
    obtain rfl := eq_of_begin hstart
    rcases List.eq_nil_or_concat cycles with rfl | ⟨cycles, c, rfl⟩
    · obtain rfl := run_nil_iff.mp h
      exact iff_of_true rfl (Or.inl (Nat.zero_le _))
    · rw [List.concat_eq_append] at h ⊢
      have hcount := consecutiveFailures_eq (run_of_paced h)
      have hattempts := attempts_eq (run_of_paced h)
      obtain ⟨q, -, -, -, hq, rfl⟩ := run_snoc_iff.mp h
      rw [turn_run] at hcount hattempts haborted
      rw [raised_turn_iff hq, hcount, hattempts, or_comm]
      simp [haborted, SupervisorRun.begin]
  constructor
  · exact fun hsurvives => hraised.mp hsurvives.not_raised.1
  · refine fun hcondition => ⟨⟨hraised.mpr hcondition, haborted⟩, fun d hd => ?_, ?_⟩
    · obtain ⟨i, hi⟩ := List.mem_iff_getElem?.mp hd
      exact RuntimeSupervisor.delay_bounds (hdelays i d hi)
    · intro l c c' d d' hl hc hc' hd hd'
      obtain ⟨rest, rfl⟩ := hl
      have hfirst := hdelays _ _ hd
      have hsecond := hdelays _ _ hd'
      have htake : (l ++ [c, c'] ++ rest).take (l.length + 1) = l ++ [c] := by
        rw [show l ++ [c, c'] ++ rest = (l ++ [c]) ++ c' :: rest by simp]
        exact List.take_left' (by simp)
      have htake' : (l ++ [c, c'] ++ rest).take (l.length + 1 + 1) = (l ++ [c]) ++ [c'] := by
        rw [show l ++ [c, c'] ++ rest = (l ++ [c] ++ [c']) ++ rest by simp]
        exact List.take_left' (by simp)
      rw [htake, List.map_append, List.map_singleton, hc, failuresSince_failed] at hfirst
      rw [htake', List.map_append, List.map_append, List.map_singleton, List.map_singleton, hc, hc',
        failuresSince_failed, failuresSince_failed] at hsecond
      exact RuntimeSupervisor.delay_mono (Nat.succ_pos _) hfirst hsecond

end Survival

/-! ### Sample runs -/

/-- The times that are set by default. -/
def defaultSupervisor : RuntimeSupervisor where
  interval_ok := by norm_num
  backoff_ok := by norm_num
  maximum_ok := by norm_num

/-- A refused cycle after a completed one. -/
theorem one_failure_survived : ∃ start p, PacedRun.begin none none = .ok start ∧
    Run (PacedStep defaultSupervisor 38 none) start [goodCycle, refusedCycle] p ∧
      Survives defaultSupervisor 38 [goodCycle, refusedCycle] p := by
  have hrun : Run (PacedStep defaultSupervisor 38 none) { run := .begin none }
      [goodCycle, refusedCycle] _ :=
    .cons ⟨by simp, rfl, rfl, rfl⟩ (Run.single ⟨by simp, by decide +kernel, by decide +kernel, rfl⟩)
  have hstores : ∀ c ∈ [goodCycle, refusedCycle], c.StoresWork := by
    intro c hc
    rcases List.mem_pair.mp hc with rfl | rfl <;> exact ⟨rfl, rfl, rfl⟩
  exact ⟨_, _, rfl, hrun, (supervisor_survives_iff rfl hstores hrun).mpr (Or.inl (by decide +kernel))⟩

/-- A run of refused cycles, as long as none is too many. -/
lemma exists_refused_run (n : ℕ) (hn : n ≤ 1025) : ∃ p,
    Run (PacedStep defaultSupervisor 38 none) { run := .begin none }
      (List.replicate n refusedCycle) p ∧ p.run.aborted = none ∧
      p.run.consecutiveFailures = n ∧ (p.raised = none ↔ n ≤ 1024) := by
  induction n with
  | zero => exact ⟨_, .nil _, rfl, rfl, iff_of_true rfl (Nat.zero_le _)⟩
  | succ n ih =>
      obtain ⟨p, hrun, haborted, hcount, hraised⟩ := ih (by omega)
      have hnone := hraised.mpr (by omega)
      have hturn : (p.run.turn 38 refusedCycle).consecutiveFailures = n + 1 := by
        rw [← hcount]
        rfl
      refine ⟨p.turn defaultSupervisor 38 none refusedCycle, ?_, ?_, ?_, ?_⟩
      · rw [List.replicate_succ']
        exact run_snoc_iff.mpr ⟨p, hrun, by simp, haborted, hnone, rfl⟩
      · rw [turn_run]
        exact turn_aborted haborted ⟨rfl, rfl, rfl⟩
      · rw [turn_run, hturn]
      · have hwork : (p.run.turn 38 refusedCycle).aborted = none :=
          turn_aborted haborted ⟨rfl, rfl, rfl⟩
        rw [raised_turn_iff hnone, hturn]
        simp [hwork]

/-- **After 1025 failures in a row** the delay raises and the run ends. -/
theorem supervisor_overflows : ∃ p,
    Run (PacedStep defaultSupervisor 38 none) { run := .begin none }
      (List.replicate 1025 refusedCycle) p ∧
      ¬ Survives defaultSupervisor 38 (List.replicate 1025 refusedCycle) p := by
  obtain ⟨p, hrun, -, -, hraised⟩ := exists_refused_run 1025 le_rfl
  refine ⟨p, hrun, fun h => ?_⟩
  exact absurd (hraised.mp h.not_raised.1) (by omega)

end Ai4Binance

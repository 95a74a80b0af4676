/-
The look-ahead checks of an indicator (`validation/integrity.py`,
`validation/scalable_integrity.py`).

Both compare the batch value at an index with the value that the prefix up to it gives.  The full
check does so at every index, the scalable one at checkpoints that grow by a factor of two, and
between the last one that passed and the first that failed.  Floats are numbers, infinities or not
a number; what double precision keeps of a difference is a parameter.

* `comparePrefix`: the values of an index;
* `analyzeLookahead`, `analyzeScalableLookahead`: the two checks;
* `lookaheadLoop_spec`, `scan_spec`: what their loops find;
* `Agrees`, `scalable_lookahead_agrees`: **the scalable check against the full one**;
* `scalable_lookahead_differs`: a first violation that is not the smallest, and a value that is
  not a number.
-/
import Ai4Binance.Exchange.StreamState
import Ai4Binance.Virtual.Candle

open Check

namespace Ai4Binance

/-! ### Floats -/

namespace Float64

/-- `abs(x)`. -/
def magnitude : Float64 → Float64
  | nan => nan
  | num (some (some x)) => num ((|x| : ℚ) : WithTop ℚ)
  | num _ => num ⊤

/-- `abs(x - y)`, of a difference that is rounded. -/
def absDiff (round : ℚ → Float64) : Float64 → Float64 → Float64
  | num (some (some x)), num (some (some y)) => (round (x - y)).magnitude
  | num none, num none => nan
  | num (some none), num (some none) => nan
  | num _, num _ => num ⊤
  | _, _ => nan

/-- `max(x, y)`. -/
def maximum (x y : Float64) : Float64 := if lt x y then y else x

/-- `isfinite(x) and x >= 0`. -/
def isTolerance : Float64 → Bool
  | num (some (some x)) => 0 ≤ x
  | _ => false

/-- Beside a number, a float that is one is above it or not. -/
lemma le_iff_not_lt {x tolerance : Float64} (htolerance : tolerance.isTolerance)
    (hx : x ≠ nan) : le x tolerance ↔ ¬ lt tolerance x := by
  cases x with
  | nan => exact absurd rfl hx
  | num x =>
      cases tolerance with
      | nan => exact absurd htolerance nofun
      | num y => exact not_lt.symm

end Float64

/-! ### One index -/

/-- `IndicatorFunction`. -/
abbrev IndicatorFunction : Type := List OHLCVCandle → List (Option Float64)

/-- The values of an index: an output of the wrong length, values of which one is missing (the
same when both are), or the drift between them. -/
inductive Comparison where
  | lengthMismatch
  | absent (same : Bool)
  | drift (value : Float64)
  deriving DecidableEq

section Index

variable (round : ℚ → Float64) (compute : IndicatorFunction) (candles : List OHLCVCandle)
  (batch : List (Option Float64)) (tolerance : Float64)

/-- The batch value of an index beside the last value of its prefix. -/
def comparePrefix (index : ℕ) : Comparison :=
  let output := compute (candles.take (index + 1))
  if output.length ≠ index + 1 then .lengthMismatch
  else
    match batch.getD index none, output.getLast?.join with
    | some expected, some observed => .drift (expected.absDiff round observed)
    | expected, observed => .absent (expected.isNone && observed.isNone)

/-- The full check finds a violation. -/
def Comparison.violates : Comparison → Bool
  | .lengthMismatch => false
  | .absent same => !same
  | .drift value => Float64.lt tolerance value

/-- The scalable check finds one. -/
def Comparison.fails : Comparison → Bool
  | .lengthMismatch => false
  | .absent same => !same
  | .drift value => ¬ Float64.le value tolerance

end Index

/-- `IntegrityStatus`. -/
inductive IntegrityStatus where
  | passed
  | blocked
  deriving DecidableEq, Repr

/-- `timestamps != tuple(sorted(set(timestamps)))`. -/
def Chronological (candles : List OHLCVCandle) : Prop :=
  (candles.map (·.timestamp)).Pairwise (· < ·)

instance (candles : List OHLCVCandle) : Decidable (Chronological candles) :=
  inferInstanceAs (Decidable (List.Pairwise _ _))

/-! ### The full check -/

/-- `IntegrityReport`. -/
structure IntegrityReport where
  status : IntegrityStatus
  checkedPoints : ℕ
  violationIndices : List ℕ
  maximumDrift : Float64
  blockers : List String
  deriving DecidableEq

/-- The variables of the loop of `analyze_lookahead`. -/
structure LookaheadRun where
  checked : ℕ := 0
  violations : List ℕ := []
  maximumDrift : Float64 := .num (((0 : ℚ) : WithTop ℚ))
  deriving DecidableEq

section Full

variable (tolerance : Float64)

/-- A compared index. -/
def LookaheadRun.take (run : LookaheadRun) (comparison : Comparison) (index : ℕ) : LookaheadRun where
  checked := run.checked + 1
  violations := if comparison.violates tolerance then run.violations ++ [index] else run.violations
  maximumDrift :=
    match comparison with
    | .drift value => run.maximumDrift.maximum value
    | _ => run.maximumDrift

/-- The loop of `analyze_lookahead`, and whether a length stopped it. -/
def lookaheadLoop (compare : ℕ → Comparison) : List ℕ → LookaheadRun → Bool × LookaheadRun
  | [], run => (false, run)
  | index :: rest, run =>
      if compare index = .lengthMismatch then (true, run)
      else lookaheadLoop compare rest (run.take tolerance (compare index) index)

/-- `_report`. -/
def integrityReport (run : LookaheadRun) (blockers : List String) : IntegrityReport where
  status := if blockers = [] then .passed else .blocked
  checkedPoints := run.checked
  violationIndices := run.violations
  maximumDrift := run.maximumDrift
  blockers := blockers

variable (round : ℚ → Float64) (candles : List OHLCVCandle) (compute : IndicatorFunction)

/-- The indices of `analyze_lookahead`. -/
def lookaheadIndices (minimumHistory : ℕ) : List ℕ :=
  List.range' (minimumHistory - 1) (candles.length - minimumHistory)

/-- `analyze_lookahead`. -/
def analyzeLookahead (minimumHistory : ℕ) : Except PyError IntegrityReport := do
  raiseIf (minimumHistory < 2 ∨ candles.length < minimumHistory + 1)
    (.value "integrity analysis requires sufficient history")
  raiseIf (¬ tolerance.isTolerance)
    (.value "integrity tolerance must be finite and non-negative")
  raiseIf (¬ Chronological candles) (.value "integrity candles must be unique and chronological")
  let batch := compute candles
  if batch.length ≠ candles.length then
    return integrityReport {} ["INDICATOR_OUTPUT_LENGTH_MISMATCH"]
  else
    let (stopped, run) := lookaheadLoop tolerance (comparePrefix round compute candles batch)
      (lookaheadIndices candles minimumHistory) {}
    return integrityReport run
      (if stopped then ["INDICATOR_OUTPUT_LENGTH_MISMATCH"]
        else if run.violations ≠ [] then ["LOOKAHEAD_BIAS_DETECTED"] else [])

end Full

/-! ### The scalable check -/

/-- `ScalableIntegrityReport`. -/
structure ScalableIntegrityReport where
  status : IntegrityStatus
  candleCount : ℕ
  evaluationCount : ℕ
  checkpointIndices : List ℕ
  violationIndices : List ℕ
  firstViolationIndex : Option ℕ
  maximumDrift : Float64
  blockers : List String
  promotionAllowed : Bool
  deriving DecidableEq

/-- The loop of `logarithmic_checkpoints`, of at most so many passes. -/
def doublings (lastChecked : ℕ) : ℕ → ℕ → List ℕ
  | 0, _ => []
  | passes + 1, current =>
      if lastChecked < current then []
      else current :: doublings lastChecked passes (max (current + 1) ((current + 1) * 2 - 1))

/-- `logarithmic_checkpoints`.  The indices are below the candle count, so that in their order
they are a part of its range; each pass raises the index, so that as many passes as candles are
enough. -/
def logarithmicCheckpoints (candleCount minimumHistory tailPoints : ℕ) :
    Except PyError (List ℕ) := do
  raiseIf (minimumHistory < 2 ∨ candleCount ≤ minimumHistory ∨ tailPoints < 1)
    (.value "checkpoint dimensions are invalid")
  let lastChecked := candleCount - 2
  let indices := doublings lastChecked candleCount (minimumHistory - 1)
  let tailStart := max (minimumHistory - 1) (lastChecked + 1 - tailPoints)
  return (List.range candleCount).filter fun index =>
    index ∈ indices ∨ tailStart ≤ index ∧ index ≤ lastChecked

/-- The variables of the loop of `analyze_scalable_lookahead`. -/
structure ScalableRun where
  evaluationCount : ℕ := 0
  maximumDrift : Float64 := .num (((0 : ℚ) : WithTop ℚ))
  violations : List ℕ := []
  lengthError : Bool := false
  deriving DecidableEq

section Scalable

variable (tolerance : Float64)

/-- `evaluate`. -/
def ScalableRun.evaluate (run : ScalableRun) (comparison : Comparison) : ScalableRun :=
  { run with
    evaluationCount := run.evaluationCount + 1
    maximumDrift :=
      match comparison with
      | .drift value => run.maximumDrift.maximum value
      | _ => run.maximumDrift }

variable (compare : ℕ → Comparison)

/-- The loop over the indices before a checkpoint that failed. -/
def refine (checkpoint : ℕ) : List ℕ → ScalableRun → ScalableRun
  | [], run => run
  | index :: rest, run =>
      if index = checkpoint then { run with violations := run.violations ++ [index] }
      else if compare index = .lengthMismatch then
        { run.evaluate (compare index) with lengthError := true }
      else if (compare index).fails tolerance then
        { run.evaluate (compare index) with violations := run.violations ++ [index] }
      else refine checkpoint rest (run.evaluate (compare index))

/-- The loop over the checkpoints, with the index after the last one that passed. -/
def scan : List ℕ → ℕ → ScalableRun → ScalableRun
  | [], _, run => run
  | checkpoint :: rest, next, run =>
      if compare checkpoint = .lengthMismatch then
        { run.evaluate (compare checkpoint) with lengthError := true }
      else if (compare checkpoint).fails tolerance then
        refine tolerance compare checkpoint (List.range' next (checkpoint + 1 - next))
          (run.evaluate (compare checkpoint))
      else scan rest (checkpoint + 1) (run.evaluate (compare checkpoint))

/-- `_scalable_report`. -/
def scalableReport (candleCount : ℕ) (checkpoints : List ℕ) (run : ScalableRun)
    (blockers : List String) : ScalableIntegrityReport where
  status := if blockers = [] then .passed else .blocked
  candleCount
  evaluationCount := run.evaluationCount
  checkpointIndices := checkpoints
  violationIndices := run.violations
  firstViolationIndex := run.violations.head?
  maximumDrift := run.maximumDrift
  blockers
  promotionAllowed := blockers.isEmpty

variable (round : ℚ → Float64) (candles : List OHLCVCandle) (compute : IndicatorFunction)

/-- `analyze_scalable_lookahead`. -/
def analyzeScalableLookahead (minimumHistory tailPoints : ℕ) :
    Except PyError ScalableIntegrityReport := do
  raiseIf (¬ tolerance.isTolerance)
    (.value "integrity tolerance must be finite and non-negative")
  raiseIf (¬ Chronological candles) (.value "integrity candles must be unique and chronological")
  let checkpoints ← logarithmicCheckpoints candles.length minimumHistory tailPoints
  let batch := compute candles
  if batch.length ≠ candles.length then
    return scalableReport candles.length checkpoints {} ["INDICATOR_OUTPUT_LENGTH_MISMATCH"]
  else
    let run := scan tolerance (comparePrefix round compute candles batch) checkpoints
      (minimumHistory - 1) {}
    return scalableReport candles.length checkpoints run
      (if run.lengthError then ["INDICATOR_OUTPUT_LENGTH_MISMATCH"]
        else if run.violations ≠ [] then ["LOOKAHEAD_BIAS_DETECTED"] else [])

end Scalable

/-! ### What the loops find -/

section Loops

variable {tolerance : Float64} {compare : ℕ → Comparison}

/-- The indices of the full check, up to the first of the wrong length. -/
lemma lookaheadLoop_spec (indices : List ℕ) (run : LookaheadRun) :
    ((lookaheadLoop tolerance compare indices run).1 = true ↔
      ∃ i ∈ indices, compare i = .lengthMismatch) ∧
    (lookaheadLoop tolerance compare indices run).2.violations = run.violations ++
      (indices.takeWhile fun i => compare i ≠ .lengthMismatch).filter fun i =>
        (compare i).violates tolerance := by
  induction indices generalizing run with
  | nil => simp [lookaheadLoop]
  | cons index rest ih =>
      rw [lookaheadLoop]
      by_cases hlength : compare index = .lengthMismatch
      · rw [if_pos hlength]
        simp [hlength]
      · rw [if_neg hlength]
        obtain ⟨hstopped, hviolations⟩ := ih (run.take tolerance (compare index) index)
        refine ⟨hstopped.trans ?_, hviolations.trans ?_⟩
        · simp [hlength]
        · rw [List.takeWhile_cons_of_pos (by simpa using hlength), List.filter_cons]
          by_cases hviolates : (compare index).violates tolerance = true
          · simp [LookaheadRun.take, hviolates]
          · simp [LookaheadRun.take, hviolates]

/-- A violation is found unless a length stopped the loop. -/
lemma lookaheadLoop_found {indices : List ℕ} {f : ℕ} (hf : f ∈ indices)
    (hviolates : (compare f).violates tolerance = true) :
    f ∈ (lookaheadLoop tolerance compare indices {}).2.violations ∨
      (lookaheadLoop tolerance compare indices {}).1 = true := by
  obtain ⟨hstopped, hviolations⟩ := @lookaheadLoop_spec tolerance compare indices {}
  by_cases hlength : ∃ i ∈ indices, compare i = .lengthMismatch
  · exact Or.inr (hstopped.mpr hlength)
  · left
    push Not at hlength
    have hall : (indices.takeWhile fun i => compare i ≠ .lengthMismatch) = indices :=
      List.takeWhile_eq_self_iff.mpr fun i hi => decide_eq_true (hlength i hi)
    rw [hviolations, hall]
    exact List.mem_filter.mpr ⟨hf, hviolates⟩

/-- The violations of the loop are among its indices. -/
lemma of_mem_lookaheadLoop {indices : List ℕ} {v : ℕ}
    (h : v ∈ (lookaheadLoop tolerance compare indices {}).2.violations) :
    v ∈ indices ∧ (compare v).violates tolerance = true := by
  obtain ⟨-, hviolations⟩ := @lookaheadLoop_spec tolerance compare indices {}
  rw [hviolations] at h
  obtain ⟨hmem, hviolates⟩ := List.mem_filter.mp h
  exact ⟨(List.takeWhile_subset _) hmem, hviolates⟩

/-- What the scalable check has found: nothing, a wrong length, or a first violation. -/
inductive ScanFinds (tolerance : Float64) (compare : ℕ → Comparison) (first last : ℕ)
    (earlier : ℕ → ℕ → Prop) (run : ScalableRun) : Prop
  | nothing (lengthError : run.lengthError = false) (violations : run.violations = [])
  | wrongLength (lengthError : run.lengthError = true) (violations : run.violations = [])
      (index : ℕ) (mem : first ≤ index ∧ index ≤ last) (mismatch : compare index = .lengthMismatch)
  | violation (lengthError : run.lengthError = false) (index : ℕ)
      (violations : run.violations = [index]) (mem : first ≤ index ∧ index ≤ last)
      (fails : (compare index).fails tolerance = true)
      (before : ∀ v, first ≤ v → v < index → (compare v).fails tolerance = true →
        earlier v index)

/-- The refinement of an interval finds its first violation. -/
lemma refine_spec {checkpoint start count : ℕ} {run : ScalableRun}
    (hfails : (compare checkpoint).fails tolerance = true)
    (hempty : run.violations = [] ∧ run.lengthError = false)
    (hend : start + count = checkpoint + 1) :
    ScanFinds tolerance compare start checkpoint (fun _ _ => False)
      (refine tolerance compare checkpoint (List.range' start count) run) := by
  induction count generalizing start run with
  | zero => exact .nothing hempty.2 hempty.1
  | succ count ih =>
      rw [List.range'_succ, refine]
      by_cases hlast : start = checkpoint
      · subst hlast
        rw [if_pos rfl]
        refine .violation hempty.2 start (by simp [hempty.1]) ⟨le_rfl, le_rfl⟩ hfails ?_
        exact fun v hv hlt _ => absurd hlt (not_lt.mpr hv)
      rw [if_neg hlast]
      by_cases hlength : compare start = .lengthMismatch
      · rw [if_pos hlength]
        exact .wrongLength rfl hempty.1 start ⟨le_rfl, by omega⟩ hlength
      rw [if_neg hlength]
      by_cases hstart : (compare start).fails tolerance = true
      · rw [if_pos hstart]
        refine .violation hempty.2 start (by simp [hempty.1])
          ⟨le_rfl, by omega⟩ hstart ?_
        exact fun v hv hlt _ => absurd hlt (not_lt.mpr hv)
      rw [if_neg hstart]
      have hrest := @ih (start + 1) (run.evaluate (compare start)) hempty (by omega)
      cases hrest with
      | nothing hlengthError hviolations => exact .nothing hlengthError hviolations
      | wrongLength hlengthError hviolations index hmem hmismatch =>
          exact .wrongLength hlengthError hviolations index ⟨by omega, hmem.2⟩ hmismatch
      | violation hlengthError index hviolations hmem hindex hbefore =>
          refine .violation hlengthError index hviolations ⟨by omega, hmem.2⟩ hindex ?_
          intro v hv hlt hv'
          rcases Nat.eq_or_lt_of_le hv with rfl | hlater
          · exact hstart hv'
          · exact hbefore v hlater hlt hv'

/-- **The scan.**  A violation that is found lies among the indices of the full check, no
checkpoint below it is one, and every smaller one lies before a checkpoint below it. -/
lemma scan_spec {all checkpoints : List ℕ} {first next last : ℕ} {run : ScalableRun}
    (hsorted : checkpoints.Pairwise (· < ·)) (hsub : ∀ c, c ∈ checkpoints ↔ c ∈ all ∧ next ≤ c)
    (hlast : ∀ c ∈ checkpoints, c ≤ last) (hfirst : first ≤ next)
    (hearlier : ∀ v, first ≤ v → v < next → (compare v).fails tolerance = true →
      v ∉ all ∧ ∃ c ∈ all, v < c ∧ c < next)
    (hempty : run.violations = [] ∧ run.lengthError = false) :
    ScanFinds tolerance compare first last
      (fun v index => v ∉ all ∧ ∃ c ∈ all, v < c ∧ c < index)
      (scan tolerance compare checkpoints next run) := by
  induction checkpoints generalizing next run with
  | nil => exact .nothing hempty.2 hempty.1
  | cons checkpoint rest ih =>
      rw [List.pairwise_cons] at hsorted
      have hall : checkpoint ∈ all := ((hsub checkpoint).mp List.mem_cons_self).1
      have hnext : next ≤ checkpoint := ((hsub checkpoint).mp List.mem_cons_self).2
      have hle : checkpoint ≤ last := hlast checkpoint List.mem_cons_self
      rw [scan]
      by_cases hlength : compare checkpoint = .lengthMismatch
      · rw [if_pos hlength]
        exact .wrongLength rfl hempty.1 checkpoint ⟨hfirst.trans hnext, hle⟩ hlength
      rw [if_neg hlength]
      by_cases hfails : (compare checkpoint).fails tolerance = true
      · rw [if_pos hfails]
        have hempty' : (run.evaluate (compare checkpoint)).violations = [] ∧
            (run.evaluate (compare checkpoint)).lengthError = false := hempty
        have hrefined := refine_spec hfails hempty'
          (show next + (checkpoint + 1 - next) = checkpoint + 1 by omega)
        cases hrefined with
        | nothing hlengthError hviolations => exact .nothing hlengthError hviolations
        | wrongLength hlengthError hviolations index hmem hmismatch =>
            exact .wrongLength hlengthError hviolations index
              ⟨hfirst.trans hmem.1, hmem.2.trans hle⟩ hmismatch
        | violation hlengthError index hviolations hmem hindex hbefore =>
            refine .violation hlengthError index hviolations
              ⟨hfirst.trans hmem.1, hmem.2.trans hle⟩ hindex ?_
            intro v hv hlt hv'
            by_cases hlater : next ≤ v
            · exact absurd (hbefore v hlater hlt hv') id
            · obtain ⟨hnone, c, hc, hvc, hcn⟩ := hearlier v hv (not_le.mp hlater) hv'
              exact ⟨hnone, c, hc, hvc, hcn.trans_le hmem.1⟩
      · rw [if_neg hfails]
        have hsub' : ∀ c, c ∈ rest ↔ c ∈ all ∧ checkpoint + 1 ≤ c := by
          intro c
          refine ⟨fun hc => ⟨((hsub c).mp (List.mem_cons_of_mem _ hc)).1, hsorted.1 c hc⟩, ?_⟩
          rintro ⟨hc, hlt⟩
          have hmem : c ∈ checkpoint :: rest := (hsub c).mpr ⟨hc, by omega⟩
          exact (List.mem_cons.mp hmem).resolve_left (by omega)
        refine ih hsorted.2 hsub' (fun c hc => hlast c (List.mem_cons_of_mem _ hc)) (by omega)
          (fun v hv hlt hv' => ?_) hempty
        -- the checkpoint itself has passed
        have hvc : v < checkpoint := by
          rcases Nat.eq_or_lt_of_le (Nat.lt_succ_iff.mp hlt) with rfl | hvc
          · exact absurd hv' hfails
          · exact hvc
        refine ⟨fun hv'' => ?_, checkpoint, hall, hvc, by omega⟩
        by_cases hlater : next ≤ v
        · have hmem : v ∈ checkpoint :: rest := (hsub v).mpr ⟨hv'', hlater⟩
          cases List.mem_cons.mp hmem with
          | inl heq => omega
          | inr hrest => exact absurd (hsorted.1 v hrest) (by omega)
        · exact (hearlier v hv (not_le.mp hlater) hv').1 hv''

end Loops

/-! ### The two checks -/

/-- **The scalable check beside the full one.**  It blocks nothing that the full check passes, its
first violation is one of the full check unless a length stopped that, and the smaller ones that
it does not see lie between checkpoints that passed. -/
structure Agrees (full : IntegrityReport) (scalable : ScalableIntegrityReport) : Prop where
  blocked : scalable.status = .blocked → full.status = .blocked
  found : ∀ f ∈ scalable.firstViolationIndex,
    f ∈ full.violationIndices ∨ "INDICATOR_OUTPUT_LENGTH_MISMATCH" ∈ full.blockers
  smaller : ∀ f ∈ scalable.firstViolationIndex, ∀ v ∈ full.violationIndices, v < f →
    v ∉ scalable.checkpointIndices ∧ ∃ c ∈ scalable.checkpointIndices, v < c ∧ c < f

section Checks

variable {tolerance : Float64} {round : ℚ → Float64} {candles : List OHLCVCandle}
  {compute : IndicatorFunction} {minimumHistory tailPoints : ℕ} {full : IntegrityReport}
  {scalable : ScalableIntegrityReport}

/-- What an accepted full check has seen. -/
lemma analyzeLookahead_ok
    (h : analyzeLookahead tolerance round candles compute minimumHistory = .ok full) :
    (2 ≤ minimumHistory ∧ minimumHistory < candles.length) ∧ tolerance.isTolerance ∧
    full = if (compute candles).length ≠ candles.length then
        integrityReport {} ["INDICATOR_OUTPUT_LENGTH_MISMATCH"]
      else
        let loop := lookaheadLoop tolerance (comparePrefix round compute candles (compute candles))
          (lookaheadIndices candles minimumHistory) {}
        integrityReport loop.2
          (if loop.1 then ["INDICATOR_OUTPUT_LENGTH_MISMATCH"]
            else if loop.2.violations ≠ [] then ["LOOKAHEAD_BIAS_DETECTED"] else []) := by
  rw [analyzeLookahead] at h
  obtain ⟨_, hhistory, h⟩ := bind_eq_ok.mp h
  obtain ⟨_, htolerance, h⟩ := bind_eq_ok.mp h
  obtain ⟨_, -, h⟩ := bind_eq_ok.mp h
  rw [raiseIf_eq_ok] at hhistory htolerance
  refine ⟨by omega, not_not.mp htolerance, ?_⟩
  dsimp only at h ⊢
  split at h
  · rename_i hlength
    rw [if_pos hlength]
    exact (Except.ok.inj h).symm
  · rename_i hlength
    rw [if_neg hlength]
    exact (Except.ok.inj h).symm

/-- The doublings of an index lie between it and the last one. -/
lemma mem_doublings {lastChecked passes current c : ℕ}
    (h : c ∈ doublings lastChecked passes current) : current ≤ c ∧ c ≤ lastChecked := by
  induction passes generalizing current with
  | zero => exact absurd h List.not_mem_nil
  | succ passes ih =>
      rw [doublings] at h
      split at h
      · exact absurd h List.not_mem_nil
      · rcases List.mem_cons.mp h with rfl | hrest
        · exact ⟨le_rfl, by omega⟩
        · have hle := ih hrest
          omega

/-- The checkpoints are indices of the full check, in their order. -/
lemma logarithmicCheckpoints_ok {candleCount : ℕ} {checkpoints : List ℕ}
    (h : logarithmicCheckpoints candleCount minimumHistory tailPoints = .ok checkpoints) :
    checkpoints.Pairwise (· < ·) ∧
      ∀ c ∈ checkpoints, minimumHistory - 1 ≤ c ∧ c ≤ candleCount - 2 := by
  rw [logarithmicCheckpoints] at h
  obtain ⟨_, -, h⟩ := bind_eq_ok.mp h
  cases h
  refine ⟨List.pairwise_lt_range.filter _, fun c hc => ?_⟩
  rcases of_decide_eq_true (List.mem_filter.mp hc).2 with hdouble | ⟨hstart, hlast⟩
  · exact mem_doublings hdouble
  · exact ⟨(le_max_left _ _).trans hstart, hlast⟩

/-- What an accepted scalable check has seen. -/
lemma analyzeScalableLookahead_ok
    (h : analyzeScalableLookahead tolerance round candles compute minimumHistory tailPoints =
      .ok scalable) :
    ∃ checkpoints, checkpoints.Pairwise (· < ·) ∧
      (∀ c ∈ checkpoints, minimumHistory - 1 ≤ c ∧ c ≤ candles.length - 2) ∧
      scalable = if (compute candles).length ≠ candles.length then
          scalableReport candles.length checkpoints {} ["INDICATOR_OUTPUT_LENGTH_MISMATCH"]
        else
          let run := scan tolerance (comparePrefix round compute candles (compute candles))
            checkpoints (minimumHistory - 1) {}
          scalableReport candles.length checkpoints run
            (if run.lengthError then ["INDICATOR_OUTPUT_LENGTH_MISMATCH"]
              else if run.violations ≠ [] then ["LOOKAHEAD_BIAS_DETECTED"] else []) := by
  rw [analyzeScalableLookahead] at h
  obtain ⟨_, -, h⟩ := bind_eq_ok.mp h
  obtain ⟨_, -, h⟩ := bind_eq_ok.mp h
  obtain ⟨checkpoints, hcheckpoints, h⟩ := bind_eq_ok.mp h
  obtain ⟨hsorted, hrange⟩ := logarithmicCheckpoints_ok hcheckpoints
  refine ⟨checkpoints, hsorted, hrange, ?_⟩
  dsimp only at h ⊢
  split at h
  · rename_i hlength
    rw [if_pos hlength]
    exact (Except.ok.inj h).symm
  · rename_i hlength
    rw [if_neg hlength]
    exact (Except.ok.inj h).symm

/-- A drift that is a number fails the one check exactly when it violates the other. -/
lemma Comparison.fails_eq_violates (htolerance : tolerance.isTolerance) {comparison : Comparison}
    (h : comparison ≠ .drift .nan) :
    comparison.fails tolerance = comparison.violates tolerance := by
  cases comparison with
  | lengthMismatch => rfl
  | absent same => rfl
  | drift value =>
      have hle := Float64.le_iff_not_lt htolerance (fun hvalue => h (congrArg _ hvalue))
      simp only [fails, violates, hle, not_not]

/-- **The scalable check against the full one**, where every drift is a number. -/
theorem scalable_lookahead_agrees
    (hfull : analyzeLookahead tolerance round candles compute minimumHistory = .ok full)
    (hscalable : analyzeScalableLookahead tolerance round candles compute minimumHistory
      tailPoints = .ok scalable)
    (hnumber : ∀ i ∈ lookaheadIndices candles minimumHistory,
      comparePrefix round compute candles (compute candles) i ≠ .drift .nan) :
    Agrees full scalable := by
  obtain ⟨⟨htwo, hcandles⟩, htolerance, hfull⟩ := analyzeLookahead_ok hfull
  obtain ⟨checkpoints, hsorted, hrange, hscalable⟩ := analyzeScalableLookahead_ok hscalable
  by_cases hlength : (compute candles).length ≠ candles.length
  · rw [if_pos hlength] at hfull hscalable
    subst hfull hscalable
    exact ⟨fun _ => rfl, fun _ h => absurd h nofun, fun _ h => absurd h nofun⟩
  rw [if_neg hlength] at hfull hscalable
  generalize comparePrefix round compute candles (compute candles) = compare at *
  have hindices : ∀ i, i ∈ lookaheadIndices candles minimumHistory ↔
      minimumHistory - 1 ≤ i ∧ i ≤ candles.length - 2 := by
    intro i
    rw [lookaheadIndices, List.mem_range'_1]
    omega
  have hsame : ∀ i, minimumHistory - 1 ≤ i → i ≤ candles.length - 2 →
      (compare i).fails tolerance = (compare i).violates tolerance := fun i hfirst hlast =>
    Comparison.fails_eq_violates htolerance (hnumber i ((hindices i).mpr ⟨hfirst, hlast⟩))
  have hscan := @scan_spec tolerance compare checkpoints checkpoints (minimumHistory - 1)
    (minimumHistory - 1) (candles.length - 2) {} hsorted
    (fun c => ⟨fun hc => ⟨hc, (hrange c hc).1⟩, And.left⟩) (fun c hc => (hrange c hc).2) le_rfl
    (fun v hv hlt _ => absurd hlt (not_lt.mpr hv)) ⟨rfl, rfl⟩
  have hstopped := (@lookaheadLoop_spec tolerance compare
    (lookaheadIndices candles minimumHistory) {}).1
  have hfound := @lookaheadLoop_found tolerance compare (lookaheadIndices candles minimumHistory)
  have hmem := @of_mem_lookaheadLoop tolerance compare (lookaheadIndices candles minimumHistory)
  dsimp only at hfull hscalable
  generalize scan tolerance compare checkpoints (minimumHistory - 1) {} = run at *
  generalize lookaheadLoop tolerance compare (lookaheadIndices candles minimumHistory) {} =
    loop at *
  subst hfull hscalable
  cases hscan with
  | nothing hlengthError hviolations =>
      rw [hlengthError, hviolations]
      exact ⟨nofun, by simp [scalableReport, hviolations], by simp [scalableReport, hviolations]⟩
  | wrongLength hlengthError hviolations index hrange hmismatch =>
      rw [hstopped.mpr ⟨index, (hindices index).mpr hrange, hmismatch⟩]
      exact ⟨fun _ => rfl, by simp [scalableReport, hviolations],
        by simp [scalableReport, hviolations]⟩
  | violation hlengthError index hviolations hrange hindex hbefore =>
      rw [hsame index hrange.1 hrange.2] at hindex
      have hseen := hfound ((hindices index).mpr hrange) hindex
      have hfirst : ∀ f ∈ run.violations.head?, f = index := by simp [hviolations]
      refine ⟨fun _ => ?_, fun f hf => ?_, fun f hf v hv hlt => ?_⟩
      · cases hseen with
        | inl hviolation =>
            have hne := List.ne_nil_of_mem hviolation
            cases hloop : loop.1 <;> simp [integrityReport, hne]
        | inr hloop => simp [integrityReport, hloop]
      · obtain rfl := hfirst f hf
        exact hseen.imp_right fun hloop => by simp [integrityReport, hloop]
      · obtain rfl := hfirst f hf
        obtain ⟨hv, hviolates⟩ := hmem hv
        have hlow := (hindices v).mp hv
        rw [← hsame v hlow.1 hlow.2] at hviolates
        exact hbefore v hlow.1 hlt hviolates

end Checks

/-! ### Two prefixes that differ -/

/-- A float of a number that needs no rounding. -/
def exactFloat (x : ℚ) : Float64 := .num ((x : WithTop ℚ))

/-- A flat candle. -/
def flatCandle (timestamp : ℕ) : OHLCVCandle where
  timestamp
  «open» := 1
  high := 1
  low := 1
  close := 1
  volume := 1
  nonneg := OHLCVCandle.unit_nonneg
  low_le_high := OHLCVCandle.unit_low_le_high
  max_le_high := OHLCVCandle.unit_max_le_high
  low_le_min := OHLCVCandle.unit_low_le_min

/-- Nine candles. -/
def nineCandles : List OHLCVCandle := (List.range 9).map flatCandle

/-- An indicator that is zero, except at the end of three and of eight candles. -/
def endsOfThreeAndEight : IndicatorFunction := fun candles =>
  (List.range candles.length).map fun i => some <| exactFloat <|
    if i + 1 = candles.length ∧ candles.length ∈ [3, 8] then 1 else 0

/-- Both checks block the indicator. -/
theorem ends_agree : ∃ full scalable,
    analyzeLookahead (exactFloat 0) exactFloat nineCandles endsOfThreeAndEight 2 = .ok full ∧
    analyzeScalableLookahead (exactFloat 0) exactFloat nineCandles endsOfThreeAndEight 2 1 =
      .ok scalable ∧
    scalable.status = .blocked ∧ Agrees full scalable := by
  have hfull : (analyzeLookahead (exactFloat 0) exactFloat nineCandles endsOfThreeAndEight
      2).toOption.any fun _ => True := by decide +kernel
  have hscalable : (analyzeScalableLookahead (exactFloat 0) exactFloat nineCandles
      endsOfThreeAndEight 2 1).toOption.any fun scalable => scalable.status = .blocked := by
    decide +kernel
  obtain ⟨full, hfull, -⟩ := exists_ok_of_any hfull
  obtain ⟨scalable, hscalable, hblocked⟩ := exists_ok_of_any hscalable
  exact ⟨full, scalable, hfull, hscalable, of_decide_eq_true hblocked,
    scalable_lookahead_agrees hfull hscalable (by decide +kernel)⟩

/-- An indicator without a number. -/
def noNumber : IndicatorFunction := fun candles => candles.map fun _ => some .nan

/-- The first violation of the scalable check is not the smallest one, and a value that is not a
number blocks the scalable check alone. -/
theorem scalable_lookahead_differs :
    (∃ full scalable,
      analyzeLookahead (exactFloat 0) exactFloat nineCandles endsOfThreeAndEight 2 = .ok full ∧
      analyzeScalableLookahead (exactFloat 0) exactFloat nineCandles endsOfThreeAndEight 2 1 =
        .ok scalable ∧
      full.violationIndices = [2, 7] ∧ scalable.firstViolationIndex = some 7) ∧
    ∃ full scalable,
      analyzeLookahead (exactFloat 0) exactFloat nineCandles noNumber 2 = .ok full ∧
      analyzeScalableLookahead (exactFloat 0) exactFloat nineCandles noNumber 2 1 =
        .ok scalable ∧
      full.status = .passed ∧ scalable.status = .blocked := by
  have hfull : (analyzeLookahead (exactFloat 0) exactFloat nineCandles endsOfThreeAndEight
      2).toOption.any fun full => full.violationIndices = [2, 7] := by decide +kernel
  have hscalable : (analyzeScalableLookahead (exactFloat 0) exactFloat nineCandles
      endsOfThreeAndEight 2 1).toOption.any fun scalable =>
        scalable.firstViolationIndex = some 7 := by decide +kernel
  have hfull' : (analyzeLookahead (exactFloat 0) exactFloat nineCandles noNumber
      2).toOption.any fun full => full.status = .passed := by decide +kernel
  have hscalable' : (analyzeScalableLookahead (exactFloat 0) exactFloat nineCandles noNumber 2
      1).toOption.any fun scalable => scalable.status = .blocked := by decide +kernel
  obtain ⟨full, hfull, hall⟩ := exists_ok_of_any hfull
  obtain ⟨scalable, hscalable, hfirst⟩ := exists_ok_of_any hscalable
  obtain ⟨full', hfull', hpassed⟩ := exists_ok_of_any hfull'
  obtain ⟨scalable', hscalable', hblocked⟩ := exists_ok_of_any hscalable'
  exact ⟨⟨full, scalable, hfull, hscalable, of_decide_eq_true hall, of_decide_eq_true hfirst⟩,
    full', scalable', hfull', hscalable', of_decide_eq_true hpassed, of_decide_eq_true hblocked⟩

end Ai4Binance

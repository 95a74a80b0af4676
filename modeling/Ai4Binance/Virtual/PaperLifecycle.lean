/-
The paper position lifecycle (`domain/research/paper_lifecycle.py`,
`domain/research/trailing.py`).

* `updateLongTrailingStop`: the trailing stop, which only moves up;
* `LifecyclePosition`: a position with its staged exit plan;
* `PaperLifecycleEngine.processCandle`: one candle: the stop, else the targets
  reached and the trailing stop;
* `Advances`: what a candle does to the books of a position, with
  `processCandle_advances`.
-/
import Ai4Binance.Virtual.ManagedPosition

open Text Check

namespace Ai4Binance

/-- `update_long_trailing_stop(…).new_stop`. -/
def updateLongTrailingStop (previousStop currentPrice currentAtr multiplier tickSize : ℚ) :
    Except PyError ℚ := do
  raiseIf ([previousStop, currentPrice, currentAtr, multiplier, tickSize].any (· ≤ 0))
    (.value "trailing-stop inputs must be positive")
  raiseIf (currentPrice ≤ previousStop)
    (.value "previous_stop must remain below current_price")
  let candidate := currentPrice - multiplier * currentAtr
  return max previousStop (Rounding.down.toInt (candidate / tickSize) * tickSize)

/-- `ExitReason`. -/
inductive ExitReason where
  | stopLossExit
  | trailingStopExit
  | takeProfitExit
  deriving DecidableEq, Repr

/-- `PositionStatus` has the three values of the virtual status. -/
abbrev PositionStatus := VirtualPositionLifecycleStatus

/-- `PaperClosureReview`. -/
abbrev PaperClosureReview := ClosureReview ExitReason

/-- `StagedExitPlan`. -/
structure StagedExitPlan where
  targets : List ℚ
  quantityRatios : List ℚ
  passes : Passes (stagedExitChecks targets quantityRatios)

/-- `StagedExitPlan(…)`. -/
def StagedExitPlan.create (targets quantityRatios : List ℚ) : Except PyError StagedExitPlan :=
  if h : Passes (stagedExitChecks targets quantityRatios) then .ok ⟨targets, quantityRatios, h⟩
  else .error (.value (firstRefusal (stagedExitChecks targets quantityRatios)))

/-- `LifecycleExit`. -/
structure LifecycleExit where
  timestamp : ℤ
  reason : ExitReason
  price : ℚ
  quantity : ℚ
  feeUsdt : ℚ
  netPnlUsdt : ℚ
  nonneg : 0 ≤ price ∧ 0 ≤ quantity ∧ 0 ≤ feeUsdt

/-- `LifecycleExit(…)`. -/
def LifecycleExit.create (timestamp : ℤ) (reason : ExitReason)
    (price quantity feeUsdt netPnlUsdt : ℚ) : Except PyError LifecycleExit :=
  if h : 0 ≤ price ∧ 0 ≤ quantity ∧ 0 ≤ feeUsdt then
    .ok ⟨timestamp, reason, price, quantity, feeUsdt, netPnlUsdt, h⟩
  else .error (.value "lifecycle exit values cannot be negative")

/-- `ClosureContext`. -/
structure ClosureContext where
  ignoredSignals : ℕ := 0
  htfWeakness : Bool := false
  volatilityExpansion : Bool := false
  levelBreak : Bool := false

/-- The fields of `LifecyclePosition`. -/
structure LifecycleFields where
  positionId : String
  candidateId : String
  symbol : String
  openedAt : ℤ
  entryPrice : ℚ
  entryFeeUsdt : ℚ
  initialQuantity : ℚ
  remainingQuantity : ℚ
  stopLoss : ℚ
  trailingStop : ℚ
  atr : ℚ
  plan : StagedExitPlan
  status : PositionStatus := .open
  nextTargetIndex : ℕ := 0
  realizedPnlUsdt : ℚ := 0
  exits : List LifecycleExit := []
  closureReview : Option PaperClosureReview := none

/-- `LifecyclePosition.__post_init__`. -/
def LifecycleFields.checks (p : LifecycleFields) : List (Bool × String) :=
  [(isBlank p.positionId || isBlank p.candidateId, "position identity is required"),
    (isBlank p.symbol, "position symbol is required"),
    (p.entryFeeUsdt < 0 ∨
        [p.entryPrice, p.initialQuantity, p.stopLoss, p.trailingStop, p.atr].any (· ≤ 0),
      "position values must be positive except zero fee"),
    (p.remainingQuantity < 0 ∨ p.initialQuantity < p.remainingQuantity,
      "remaining quantity is invalid"),
    (p.status = .closed ∧ p.remainingQuantity ≠ 0, "closed position cannot retain quantity"),
    (p.status ≠ .closed ∧ p.remainingQuantity = 0, "active position must retain quantity")]

/-- `LifecyclePosition`. -/
structure LifecyclePosition extends LifecycleFields where
  passes : Passes toLifecycleFields.checks

/-- `LifecyclePosition(…)`, and `replace(position, …)`. -/
def LifecyclePosition.create (p : LifecycleFields) : Except PyError LifecyclePosition :=
  if h : Passes p.checks then .ok ⟨p, h⟩ else .error (.value (firstRefusal p.checks))

lemma LifecyclePosition.create_eq_ok {p : LifecycleFields} {q : LifecyclePosition} :
    create p = .ok q ↔ q.toLifecycleFields = p := by
  rw [create]
  split_ifs with h
  · rw [Except.ok.injEq]
    constructor
    · rintro rfl
      rfl
    · rintro rfl
      rfl
  · simp only [false_iff]
    rintro rfl
    exact h q.passes

/-! ### The engine -/

/-- `PaperLifecycleEngine`. -/
structure PaperLifecycleEngine where
  feeRatio : ℚ
  slippageRatio : ℚ
  trailingMultiplier : ℚ
  tickSize : ℚ

/-- `PaperLifecycleEngine.__post_init__`. -/
def PaperLifecycleEngine.checks (e : PaperLifecycleEngine) : List (Bool × String) :=
  [(e.feeRatio < 0 ∨ 1 / 100 < e.feeRatio, "fee_ratio must be between zero and 0.01"),
    (e.slippageRatio < 0 ∨ 2 / 100 < e.slippageRatio,
      "slippage_ratio must be between zero and 0.02"),
    (min e.trailingMultiplier e.tickSize ≤ 0, "trailing multiplier and tick size must be positive")]

namespace PaperLifecycleEngine

variable (engine : PaperLifecycleEngine)

/-- `_review`. -/
def review (reason : ExitReason) (context : ClosureContext) (stagedExitUsed : Bool) :
    PaperClosureReview where
  exitReason := reason
  lifecycleError := none
  stopQuality := if reason = .takeProfitExit then "NOT_TRIGGERED" else "PROTECTIVE"
  trailingQuality := if reason = .trailingStopExit then "PROTECTIVE" else "NOT_TRIGGERED"
  ignoredSignals := context.ignoredSignals
  htfWeakness := context.htfWeakness
  volatilityExpansion := context.volatilityExpansion
  levelBreak := context.levelBreak
  stagedExitAlternative := if stagedExitUsed then "USED" else "NOT_USED_REVIEW"
  lessonCandidate :=
    if reason = .trailingStopExit then "REVIEW_PREMATURE_TRAILING" else "REVIEW_EXIT_CONTEXT"

/-- `_apply_exit`. -/
def applyExit (position : LifecyclePosition) (timestamp : ℤ) (reason : ExitReason)
    (price quantity : ℚ) (context : ClosureContext) (nextTargetIndex : ℕ) :
    Except PyError LifecyclePosition := do
  let fee := price * quantity * engine.feeRatio
  let allocatedEntryFee := position.entryFeeUsdt * quantity / position.initialQuantity
  let pnl := (price - position.entryPrice) * quantity - fee - allocatedEntryFee
  let remaining := position.remainingQuantity - quantity
  let exitEvent ← LifecycleExit.create timestamp reason price quantity fee pnl
  LifecyclePosition.create
    { position.toLifecycleFields with
      remainingQuantity := remaining
      status := if remaining = 0 then .closed else .partiallyClosed
      nextTargetIndex
      realizedPnlUsdt := position.realizedPnlUsdt + pnl
      exits := position.exits ++ [exitEvent]
      closureReview :=
        if remaining = 0 then
          some (review reason context (position.exits ≠ [] || reason = .takeProfitExit))
        else none }

/-- `_close_remaining`. -/
def closeRemaining (position : LifecyclePosition) (timestamp : ℤ) (reason : ExitReason)
    (price : ℚ) (context : ClosureContext) : Except PyError LifecyclePosition :=
  engine.applyExit position timestamp reason price position.remainingQuantity context
    position.nextTargetIndex

/-- The loop over the targets from the next one on. -/
def takeTargets (candle : OHLCVCandle) (context : ClosureContext) :
    List (ℚ × ℚ) → LifecyclePosition → Except PyError LifecyclePosition
  | [], position => .ok position
  | (target, ratio) :: rest, position =>
      if candle.high < target then .ok position
      else do
        let updated ← engine.applyExit position candle.timestamp .takeProfitExit
          (target * (1 - engine.slippageRatio))
          (min (position.initialQuantity * ratio) position.remainingQuantity) context
          (position.nextTargetIndex + 1)
        if updated.status = .closed then .ok updated
        else takeTargets candle context rest updated

/-- The targets of a position that are still to be taken, with their ratios. -/
def openTargets (position : LifecyclePosition) : List (ℚ × ℚ) :=
  (position.plan.targets.zip position.plan.quantityRatios).drop position.nextTargetIndex

/-- The trailing stop moved by the close of a candle. -/
def trail (position : LifecyclePosition) (candle : OHLCVCandle) :
    Except PyError LifecyclePosition := do
  let trailing ← updateLongTrailingStop position.trailingStop candle.close position.atr
    engine.trailingMultiplier engine.tickSize
  LifecyclePosition.create { position.toLifecycleFields with trailingStop := trailing }

/-- `process_candle`. -/
def processCandle (position : LifecyclePosition) (candle : OHLCVCandle)
    (context : ClosureContext) : Except PyError LifecyclePosition := do
  raiseIf (position.status = .closed) (.value "closed paper position cannot process candles")
  raiseIf (candle.timestamp < position.openedAt)
    (.value "paper candle cannot precede position open time")
  let effectiveStop := max position.stopLoss position.trailingStop
  if candle.low ≤ effectiveStop then
    engine.closeRemaining position candle.timestamp
      (if position.stopLoss < position.trailingStop then .trailingStopExit else .stopLossExit)
      (min candle.open effectiveStop * (1 - engine.slippageRatio)) context
  else
    let updated ← engine.takeTargets candle context (openTargets position) position
    if updated.status = .closed then return updated
    else engine.trail updated candle

end PaperLifecycleEngine

/-! ### The books of a position -/

/-- The net PnL of an exit: its price against the entry, less its fee and its
share of the entry fee. -/
def LifecyclePosition.NetPnl (position : LifecyclePosition) (e : LifecycleExit) : Prop :=
  e.netPnlUsdt = (e.price - position.entryPrice) * e.quantity - e.feeUsdt -
    position.entryFeeUsdt * e.quantity / position.initialQuantity

/-- What a candle does to the books: entry and plan stay, the new exits take
their quantities off the remaining one, and each has its net PnL. -/
structure Advances (before after : LifecyclePosition) (newExits : List LifecycleExit) : Prop where
  entryPrice_eq : after.entryPrice = before.entryPrice
  entryFee_eq : after.entryFeeUsdt = before.entryFeeUsdt
  initialQuantity_eq : after.initialQuantity = before.initialQuantity
  exits_eq : after.exits = before.exits ++ newExits
  remaining_eq : after.remainingQuantity =
    before.remainingQuantity - (newExits.map (·.quantity)).sum
  netPnl : ∀ e ∈ newExits, before.NetPnl e

namespace Advances

variable {p q r : LifecyclePosition} {newExits newExits' : List LifecycleExit}

lemma refl (p : LifecyclePosition) : Advances p p [] :=
  ⟨rfl, rfl, rfl, by simp, by simp, by simp⟩

lemma trans (h : Advances p q newExits) (h' : Advances q r newExits') :
    Advances p r (newExits ++ newExits') := by
  refine ⟨h'.entryPrice_eq.trans h.entryPrice_eq, h'.entryFee_eq.trans h.entryFee_eq,
    h'.initialQuantity_eq.trans h.initialQuantity_eq, ?_, ?_, fun e he => ?_⟩
  · rw [h'.exits_eq, h.exits_eq, List.append_assoc]
  · rw [h'.remaining_eq, h.remaining_eq, List.map_append, List.sum_append]
    ring
  · rcases List.mem_append.mp he with he | he
    · exact h.netPnl e he
    · have hnet := h'.netPnl e he
      rwa [LifecyclePosition.NetPnl, h.entryPrice_eq, h.entryFee_eq, h.initialQuantity_eq] at hnet

end Advances

namespace PaperLifecycleEngine

variable {engine : PaperLifecycleEngine} {p q : LifecyclePosition} {candle : OHLCVCandle}
  {context : ClosureContext}

lemma applyExit_advances {timestamp : ℤ} {reason : ExitReason} {price quantity : ℚ} {index : ℕ}
    (h : engine.applyExit p timestamp reason price quantity context index = .ok q) :
    ∃ newExits, Advances p q newExits := by
  simp only [applyExit, bind_eq_ok] at h
  obtain ⟨e, he, hq⟩ := h
  rw [LifecyclePosition.create_eq_ok] at hq
  rw [LifecycleExit.create] at he
  split_ifs at he
  obtain rfl := Except.ok.inj he
  refine ⟨[_], ?_, ?_, ?_, by rw [hq], ?_, ?_⟩
  · rw [hq]
  · rw [hq]
  · rw [hq]
  · rw [hq]
    simp
  · intro e' he'
    rw [List.mem_singleton.mp he']
    rfl

lemma takeTargets_advances {targets : List (ℚ × ℚ)}
    (h : engine.takeTargets candle context targets p = .ok q) :
    ∃ newExits, Advances p q newExits := by
  induction targets generalizing p with
  | nil =>
      obtain rfl := Except.ok.inj h
      exact ⟨[], .refl _⟩
  | cons t rest ih =>
      obtain ⟨target, ratio⟩ := t
      rw [takeTargets] at h
      split_ifs at h
      · obtain rfl := Except.ok.inj h
        exact ⟨[], .refl _⟩
      · obtain ⟨updated, hu, h⟩ := bind_eq_ok.mp h
        obtain ⟨newExits, hadv⟩ := applyExit_advances hu
        split_ifs at h
        · obtain rfl := Except.ok.inj h
          exact ⟨newExits, hadv⟩
        · obtain ⟨newExits', hadv'⟩ := ih h
          exact ⟨newExits ++ newExits', hadv.trans hadv'⟩

lemma trail_advances (h : engine.trail p candle = .ok q) : Advances p q [] := by
  simp only [trail, bind_eq_ok] at h
  obtain ⟨trailing, -, hq⟩ := h
  rw [LifecyclePosition.create_eq_ok] at hq
  constructor <;> simp [hq]

/-- One candle advances the books. -/
theorem processCandle_advances (h : engine.processCandle p candle context = .ok q) :
    ∃ newExits, Advances p q newExits := by
  simp only [processCandle, bind_eq_ok, raiseIf_eq_ok] at h
  obtain ⟨_, -, _, -, h⟩ := h
  by_cases hstop : candle.low ≤ max p.stopLoss p.trailingStop
  · rw [if_pos hstop] at h
    exact applyExit_advances h
  · rw [if_neg hstop] at h
    obtain ⟨updated, hu, h⟩ := bind_eq_ok.mp h
    obtain ⟨newExits, hadv⟩ := takeTargets_advances hu
    split_ifs at h
    · obtain rfl := pure_eq_ok.mp h
      exact ⟨newExits, hadv⟩
    · exact ⟨newExits ++ [], hadv.trans (trail_advances h)⟩

end PaperLifecycleEngine

end Ai4Binance

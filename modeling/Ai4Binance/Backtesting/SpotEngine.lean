/-
The Spot backtest (`research/backtesting/engine.py`, `exit_engine.py`,
`domain/research/backtest_models.py`): opening and
closing a trade, and the two replays of a rejected signal.

Prices and amounts are rationals, and every operation on an open trade rounds its
exact result (`Arithmetic`): what is proved holds for any rounding, hence for that
of the decimal context.

* `BacktestConfig`, `BacktestIntent`, `PaperPosition`, `OpenTrade`;
* `entryFill`, `openTrade`, `closeTrade`, `partialExit`;
* `evaluateLongExit`, `updatedTrailingStop`, `breakevenTriggerReached`;
* `simulateCounterfactualTradeGeneral`, `simulateSingleTargetCounterfactual`.
-/
import Ai4Binance.Backtesting.FuturesEngine
import Ai4Binance.Virtual.ProcessPosition

open Text Check

namespace Ai4Binance

/-- Decimal arithmetic: what the context keeps of an exact result. -/
structure Arithmetic where
  round : ℚ → ℚ

namespace Arithmetic

variable (a : Arithmetic)

def add (x y : ℚ) : ℚ := a.round (x + y)

def sub (x y : ℚ) : ℚ := a.round (x - y)

def mul (x y : ℚ) : ℚ := a.round (x * y)

def div (x y : ℚ) : ℚ := a.round (x / y)

/-- `sum`, from zero on. -/
def sum (xs : List ℚ) : ℚ := xs.foldl a.add 0

end Arithmetic

/-! ### Configuration and signals -/

/-- The fields of `BacktestConfig` that a trade reads. -/
structure BacktestConfig where
  quantity : ℚ := 1
  feeRatio : ℚ := 1 / 1000
  slippageRatio : ℚ := 5 / 10000
  trailingMultiplier : ℚ := 15 / 10
  tickSize : Decimal := ⟨false, 1, -8⟩
  stepSize : Decimal := ⟨false, 1, -8⟩
  liquidityStress : Option LiquidityStressConfig := none
  quantity_pos : 0 < quantity
  fee_bounds : 0 < feeRatio ∧ feeRatio ≤ 1 / 100
  slippage_bounds : 0 < slippageRatio ∧ slippageRatio ≤ 2 / 100
  trailing_pos : 0 < trailingMultiplier
  tick_pos : 0 < tickSize.toRat
  step_pos : 0 < stepSize.toRat

namespace BacktestConfig

/-! The defaults pass their checks. -/

lemma default_quantity : (0 : ℚ) < 1 := one_pos

lemma default_fee : (0 : ℚ) < 1 / 1000 ∧ (1 : ℚ) / 1000 ≤ 1 / 100 := by norm_num

lemma default_slippage : (0 : ℚ) < 5 / 10000 ∧ (5 : ℚ) / 10000 ≤ 2 / 100 := by norm_num

lemma default_trailing : (0 : ℚ) < 15 / 10 := by norm_num

lemma default_step : 0 < (⟨false, 1, -8⟩ : Decimal).toRat := by decide +kernel

end BacktestConfig

/-- The texts of a signal that the attribution of a closed trade is built from. -/
structure SignalTexts where
  strategyId : String := "UNSPECIFIED_STRATEGY"
  strategyVersion : String := "1"
  strategyConfigVersion : String := "1"
  strategyConfigHash : String := "default"
  market : String := "SPOT"
  symbol : String := ""
  regime : String := "UNKNOWN"
  timeframe : String := ""
  snapshotId : String := ""
  decisionId : String := ""
  opportunityId : String := ""
  deriving DecidableEq, Repr

/-- `VirtualMarketFunnelStage`. -/
inductive VirtualMarketFunnelStage where
  | discovered
  | readyForRisk
  | riskPass
  | validationPass
  | dgePass
  | virtualOrder
  | filled
  | closed
  deriving DecidableEq, Repr

namespace VirtualMarketFunnelStage

/-- The stages in their canonical order. -/
def all : List VirtualMarketFunnelStage :=
  [discovered, readyForRisk, riskPass, validationPass, dgePass, virtualOrder, filled, closed]

/-- `_UPSTREAM_FUNNEL_STAGES`: the stages that a signal may report. -/
def upstream : List VirtualMarketFunnelStage :=
  [discovered, readyForRisk, riskPass, validationPass, dgePass]

end VirtualMarketFunnelStage

/-- The dictionary `stage_counts`. -/
abbrev StageCounts : Type := VirtualMarketFunnelStage → ℕ

namespace StageCounts

/-- `stage_counts[stage] += 1`. -/
def record (counts : StageCounts) (stage : VirtualMarketFunnelStage) : StageCounts :=
  Function.update counts stage (counts stage + 1)

/-- The stage counts of `VirtualMarketFunnelTelemetry`. -/
def telemetry (counts : StageCounts) : List (VirtualMarketFunnelStage × ℕ) :=
  VirtualMarketFunnelStage.all.map fun stage => (stage, counts stage)

end StageCounts

/-- `BacktestIntent`, with the checks of its numbers as fields. -/
structure BacktestIntent where
  signalId : String
  timestamp : ℤ
  stopLoss : ℚ
  takeProfit : ℚ
  atr : ℚ
  reasonCodes : List String := ["BACKTEST_SIGNAL"]
  takeProfitLevels : List ℚ := []
  partialExitRatio : ℚ := 1 / 2
  texts : SignalTexts := {}
  breakevenTriggerR : Option ℚ := none
  trailingAtrMultiple : Option ℚ := none
  maximumHoldingBars : Option ℕ := none
  entryScore : ℚ := 0
  evidenceScore : ℚ := 0
  dgeStatus : String := "UNKNOWN"
  blockerHistory : List String := []
  funnelStages : List VirtualMarketFunnelStage := [.discovered, .readyForRisk]
  prices_pos : 0 < stopLoss ∧ 0 < takeProfit ∧ 0 < atr
  levels_sorted : takeProfitLevels.Pairwise (· < ·)
  ratio_bounds : 0 < partialExitRatio ∧ partialExitRatio < 1
  breakeven_pos : ∀ r ∈ breakevenTriggerR, 0 < r
  trailing_pos : ∀ m ∈ trailingAtrMultiple, 0 < m
  holding_pos : ∀ bars ∈ maximumHoldingBars, 1 ≤ bars
  funnel_ok : funnelStages ≠ [] ∧ funnelStages.Nodup ∧
    ∀ stage ∈ funnelStages, stage ∈ VirtualMarketFunnelStage.upstream := by decide

namespace BacktestIntent

/-! The defaults pass their checks. -/

lemma default_ratio : (0 : ℚ) < 1 / 2 ∧ (1 : ℚ) / 2 < 1 := by norm_num

lemma default_trigger : ∀ r ∈ (none : Option ℚ), 0 < r := nofun

lemma default_holding : ∀ bars ∈ (none : Option ℕ), 1 ≤ bars := nofun

lemma default_funnel : [VirtualMarketFunnelStage.discovered, .readyForRisk] ≠ [] ∧
    [VirtualMarketFunnelStage.discovered, .readyForRisk].Nodup ∧
    ∀ stage ∈ [VirtualMarketFunnelStage.discovered, .readyForRisk],
      stage ∈ VirtualMarketFunnelStage.upstream := by
  decide

end BacktestIntent

/-- `BacktestIntent.targets`. -/
def BacktestIntent.targets (intent : BacktestIntent) : List ℚ :=
  if intent.takeProfitLevels = [] then [intent.takeProfit] else intent.takeProfitLevels

/-- `ClosedTradeAttribution`, without the decision evidence. -/
structure ClosedTradeAttribution where
  strategyId : String
  strategyVersion : String
  strategyConfigVersion : String
  strategyConfigHash : String
  market : String
  symbol : String
  regime : String
  timeframe : String
  snapshotId : String
  decisionId : String
  opportunityId : String
  deriving DecidableEq, Repr

/-- The first text that is not empty: `first or second`. -/
def orText (first second : String) : String := if first = "" then second else first

/-- `BacktestIntent.closed_trade_attribution`.  A blank opportunity was replaced
by the constructor. -/
def BacktestIntent.closedTradeAttribution [UnicodeData] (intent : BacktestIntent) :
    ClosedTradeAttribution where
  strategyId := intent.texts.strategyId
  strategyVersion := intent.texts.strategyVersion
  strategyConfigVersion := intent.texts.strategyConfigVersion
  strategyConfigHash := intent.texts.strategyConfigHash
  market := intent.texts.market
  symbol := orText (upper (strip intent.texts.symbol)) "UNKNOWN_SYMBOL"
  regime := intent.texts.regime
  timeframe := orText (strip intent.texts.timeframe) "UNKNOWN"
  snapshotId := orText (strip intent.texts.snapshotId) intent.signalId
  decisionId := orText (strip intent.texts.decisionId) ("decision:" ++ intent.signalId)
  opportunityId :=
    if isBlank intent.texts.opportunityId then "opportunity:" ++ intent.signalId
    else intent.texts.opportunityId

/-! ### Positions and trades -/

/-- `PaperPosition`. -/
structure PaperPosition where
  candidateId : String
  symbol : String
  entryPrice : ℚ
  quantity : ℚ
  stopLoss : ℚ
  trailingStop : ℚ
  takeProfitLevels : List ℚ
  values_pos : 0 < entryPrice ∧ 0 < quantity ∧ 0 < stopLoss ∧ 0 < trailingStop
  stop_lt : stopLoss < entryPrice
  targets_gt : takeProfitLevels ≠ [] ∧ ∀ target ∈ takeProfitLevels, entryPrice < target

/-- `PaperPosition(…)`, and `replace(position, …)`. -/
def PaperPosition.create (candidateId symbol : String)
    (entryPrice quantity stopLoss trailingStop : ℚ) (takeProfitLevels : List ℚ) :
    Except PyError PaperPosition :=
  if hv : 0 < entryPrice ∧ 0 < quantity ∧ 0 < stopLoss ∧ 0 < trailingStop then
    if hs : stopLoss < entryPrice then
      if ht : takeProfitLevels ≠ [] ∧ ∀ target ∈ takeProfitLevels, entryPrice < target then
        .ok ⟨candidateId, symbol, entryPrice, quantity, stopLoss, trailingStop, takeProfitLevels,
          hv, hs, ht⟩
      else .error (.value "long paper targets must remain above entry")
    else .error (.value "long paper stop loss must remain below entry")
  else .error (.value "paper position values must be positive")

/-- `StagedExitRecord`. -/
structure StagedExitRecord where
  timestamp : ℤ
  price : ℚ
  quantity : ℚ
  feeUsdt : ℚ
  realizedPnlUsdt : ℚ
  deriving DecidableEq, Repr

/-- `_OpenTrade`. -/
structure OpenTrade where
  intent : BacktestIntent
  entryTimestamp : ℤ
  entryReferencePrice : ℚ
  entryPrice : ℚ
  entryFee : ℚ
  position : PaperPosition
  originalQuantity : ℚ
  ignoredSignals : ℕ := 0
  stagedExits : List StagedExitRecord := []
  realizedPartialPnl : ℚ := 0
  realizedExitSlippageCost : ℚ := 0
  maximumFavorableExcursion : ℚ := 0
  maximumAdverseExcursion : ℚ := 0
  barsHeld : ℕ := 0
  breakevenArmed : Bool := false
  blockerHistory : List String := []

/-- A trade has a target. -/
lemma OpenTrade.takeProfitLevels_ne_nil (trade : OpenTrade) :
    trade.position.takeProfitLevels ≠ [] :=
  trade.position.targets_gt.1

/-- `TradeRecord`, without the texts that are the same in every record and the
fields that repeat another one. -/
structure TradeRecord where
  tradeId : String
  signalId : String
  entryTimestamp : ℤ
  exitTimestamp : ℤ
  entryPrice : ℚ
  exitPrice : ℚ
  quantity : ℚ
  entryFeeUsdt : ℚ
  exitFeeUsdt : ℚ
  netPnlUsdt : ℚ
  returnRatio : ℚ
  exitReason : BacktestExitReason
  closureReview : VirtualClosureReview
  entryReason : List String
  stagedExits : List StagedExitRecord
  attribution : ClosedTradeAttribution
  initialStopLoss : ℚ
  initialTakeProfitLevels : List ℚ
  entryReferencePrice : ℚ
  grossPnlUsdt : ℚ
  feeCostUsdt : ℚ
  slippageCostUsdt : ℚ
  fundingCostUsdt : ℚ
  realizedRMultiple : ℚ
  maximumFavorableExcursion : ℚ
  maximumAdverseExcursion : ℚ
  holdingPeriod : ℤ
  riskAtEntry : ℚ
  plannedRr : ℚ
  entryScore : ℚ
  evidenceScore : ℚ
  dgeStatus : String
  blockerHistory : List String
  deriving DecidableEq, Repr

namespace BacktestConfig

variable (config : BacktestConfig) (a : Arithmetic)

/-- `_round_price`. -/
def roundPrice (price : ℚ) (rounding : Rounding) : Except PyError ℚ :=
  orRaise (Context.default.quantize rounding price config.tickSize.exp) .decimal

/-- `_round_quantity`. -/
def roundQuantity (quantity : ℚ) : Except PyError ℚ :=
  orRaise (Context.default.quantize .down quantity config.stepSize.exp) .decimal

/-! ### Opening a trade -/

/-- The quantity and the price impact of `_entry_fill`.  The blockers of a fill are
left out: opening a trade does not read them. -/
structure EntryFill where
  filledQuantity : ℚ
  priceImpactRatio : ℚ

/-- `_entry_fill`. -/
def entryFill (candle : OHLCVCandle) : Except PyError EntryFill := do
  let requestedQuantity ← config.roundQuantity config.quantity
  if requestedQuantity ≤ 0 then return ⟨0, 0⟩
  match config.liquidityStress with
  | none => return ⟨requestedQuantity, 0⟩
  | some stress =>
      let assessed ← assessLiquidityFill requestedQuantity candle.volume stress
      let roundedFilled ← config.roundQuantity assessed.filledQuantity
      return ⟨if roundedFilled ≤ 0 then 0 else roundedFilled, assessed.priceImpactRatio⟩

/-- `_open_trade`. -/
def openTrade (intent : BacktestIntent) (candle : OHLCVCandle) : Except PyError OpenTrade := do
  let fill ← config.entryFill candle
  let entry ← config.roundPrice
    (a.mul candle.open (a.add (a.add 1 config.slippageRatio) fill.priceImpactRatio)) .up
  let fee := a.mul (a.mul entry fill.filledQuantity) config.feeRatio
  let position ← PaperPosition.create intent.signalId "BACKTEST" entry fill.filledQuantity
    intent.stopLoss intent.stopLoss intent.targets
  return {
    intent
    entryTimestamp := candle.timestamp
    entryReferencePrice := candle.open
    entryPrice := entry
    entryFee := fee
    position
    originalQuantity := fill.filledQuantity }

/-! ### Closing a trade -/

/-- `_closure_review`. -/
def closureReview (reason : BacktestExitReason) (ignoredSignals : ℕ) : VirtualClosureReview where
  exitReason := reason
  lifecycleError := none
  stopQuality := if reason.isStop then "PROTECTIVE" else "NOT_TRIGGERED"
  trailingQuality := if reason = .trailingStop then "TRIGGERED" else "NOT_TRIGGERED"
  ignoredSignals
  htfWeakness := false
  volatilityExpansion := false
  levelBreak := false
  stagedExitAlternative := "REVIEW_REQUIRED"
  lessonCandidate := "REVIEW_EXIT_CONTEXT"

/-- `_close_trade`. -/
def closeTrade [UnicodeData] (trade : OpenTrade) (candle : OHLCVCandle)
    (reason : BacktestExitReason) (referenceExitPrice : ℚ) : Except PyError TradeRecord := do
  let exitPrice ← config.roundPrice
    (a.mul referenceExitPrice (a.sub 1 config.slippageRatio)) .down
  let remaining := trade.position.quantity
  let exitFee := a.mul (a.mul exitPrice remaining) config.feeRatio
  let entryCost := a.add (a.mul trade.entryPrice remaining)
    (a.mul trade.entryFee (a.div remaining trade.originalQuantity))
  let exitValue := a.sub (a.mul exitPrice remaining) exitFee
  let netPnl := a.add trade.realizedPartialPnl (a.sub exitValue entryCost)
  let fullEntryCost := a.add (a.mul trade.entryPrice trade.originalQuantity) trade.entryFee
  let stagedFees := a.sum (trade.stagedExits.map (·.feeUsdt))
  let feeCost := a.add (a.add trade.entryFee exitFee) stagedFees
  let slippageCost := a.add
    (a.mul (a.sub trade.entryPrice trade.entryReferencePrice) trade.originalQuantity)
    (a.add trade.realizedExitSlippageCost (a.mul (a.sub referenceExitPrice exitPrice) remaining))
  let riskAtEntry := a.mul (a.sub trade.entryPrice trade.intent.stopLoss) trade.originalQuantity
  return {
    tradeId := "trade:" ++ trade.intent.signalId
    signalId := trade.intent.signalId
    entryTimestamp := trade.entryTimestamp
    exitTimestamp := candle.timestamp
    entryPrice := trade.entryPrice
    exitPrice
    quantity := trade.originalQuantity
    entryFeeUsdt := trade.entryFee
    exitFeeUsdt := a.add exitFee stagedFees
    netPnlUsdt := netPnl
    returnRatio := a.div netPnl fullEntryCost
    exitReason := reason
    closureReview := closureReview reason trade.ignoredSignals
    entryReason := trade.intent.reasonCodes
    stagedExits := trade.stagedExits
    attribution := trade.intent.closedTradeAttribution
    initialStopLoss := trade.intent.stopLoss
    initialTakeProfitLevels := trade.intent.targets
    entryReferencePrice := trade.entryReferencePrice
    grossPnlUsdt := a.add (a.add (a.add netPnl feeCost) slippageCost) 0
    feeCostUsdt := feeCost
    slippageCostUsdt := slippageCost
    fundingCostUsdt := 0
    realizedRMultiple := if riskAtEntry ≤ 0 then 0 else a.div netPnl riskAtEntry
    maximumFavorableExcursion := trade.maximumFavorableExcursion
    maximumAdverseExcursion := trade.maximumAdverseExcursion
    holdingPeriod := (candle.timestamp - trade.entryTimestamp).tdiv 1000000
    riskAtEntry
    plannedRr :=
      if 0 < riskAtEntry then
        a.div (a.mul (a.sub trade.intent.takeProfit trade.entryPrice) trade.originalQuantity)
          riskAtEntry
      else 0
    entryScore := trade.intent.entryScore
    evidenceScore := trade.intent.evidenceScore
    dgeStatus := trade.intent.dgeStatus
    blockerHistory := (trade.intent.blockerHistory ++ trade.blockerHistory).eraseDups }

/-- `_partial_exit`. -/
def partialExit (trade : OpenTrade) (candle : OHLCVCandle) (rawExitPrice : ℚ) :
    Except PyError OpenTrade := do
  let quantity := a.mul trade.position.quantity trade.intent.partialExitRatio
  let exitPrice ← config.roundPrice (a.mul rawExitPrice (a.sub 1 config.slippageRatio)) .down
  let fee := a.mul (a.mul exitPrice quantity) config.feeRatio
  let entryFee := a.mul trade.entryFee (a.div quantity trade.originalQuantity)
  let pnl := a.sub (a.sub (a.mul exitPrice quantity) fee)
    (a.add (a.mul trade.entryPrice quantity) entryFee)
  let position ← PaperPosition.create trade.position.candidateId trade.position.symbol
    trade.position.entryPrice (a.sub trade.position.quantity quantity) trade.position.stopLoss
    trade.position.trailingStop trade.position.takeProfitLevels.tail
  return { trade with
    stagedExits := trade.stagedExits ++ [⟨candle.timestamp, exitPrice, quantity, fee, pnl⟩]
    realizedPartialPnl := a.add trade.realizedPartialPnl pnl
    realizedExitSlippageCost := a.add trade.realizedExitSlippageCost
      (a.mul (a.sub rawExitPrice exitPrice) quantity)
    position }

/-! ### One candle of an open trade -/

/-- `PaperBroker.evaluate_long_exit`, and the canonical reason that
`_protective_or_target_exit` gives it. -/
def protectiveOrTargetExit (position : PaperPosition) (candle : OHLCVCandle) :
    Option ExitDecision :=
  let effectiveStop := max position.stopLoss position.trailingStop
  if candle.low ≤ effectiveStop then
    let reason : ExitReason :=
      if position.stopLoss < position.trailingStop then .trailingStopExit else .stopLossExit
    some ⟨reason.canonical, min candle.open effectiveStop⟩
  else
    let firstTarget := position.takeProfitLevels.head position.targets_gt.1
    if firstTarget ≤ candle.high then some ⟨ExitReason.takeProfitExit.canonical, firstTarget⟩
    else none

/-- `VirtualExitEngine.evaluate_long_exit`. -/
def evaluateLongExit (intent : BacktestIntent) (position : PaperPosition) (candle : OHLCVCandle)
    (barsHeld : ℕ) : Option ExitDecision :=
  protectiveOrTargetExit position candle <|>
    if intent.maximumHoldingBars.any (· < barsHeld) then some ⟨.timeExit, candle.close⟩ else none

/-- `_update_excursions`. -/
def updateExcursions (trade : OpenTrade) (candle : OHLCVCandle) : OpenTrade :=
  let favorable := a.mul (max (a.sub candle.high trade.entryPrice) 0) trade.originalQuantity
  let adverse := a.mul (max (a.sub trade.entryPrice candle.low) 0) trade.originalQuantity
  { trade with
    maximumFavorableExcursion := max trade.maximumFavorableExcursion favorable
    maximumAdverseExcursion := max trade.maximumAdverseExcursion adverse }

/-- `_breakeven_trigger_reached`. -/
def breakevenTriggerReached (trade : OpenTrade) : Bool :=
  match trade.intent.breakevenTriggerR with
  | none => false
  | some trigger =>
      let initialRisk := a.mul (a.sub trade.entryPrice trade.intent.stopLoss) trade.originalQuantity
      if initialRisk ≤ 0 then false
      else decide (a.mul initialRisk trigger ≤ trade.maximumFavorableExcursion)

/-- `update_long_trailing_stop(…).new_stop`, in rounded arithmetic. -/
def updateLongTrailingStop (previousStop currentPrice currentAtr multiplier : ℚ) :
    Except PyError ℚ := do
  let tickSize := config.tickSize.toRat
  raiseIf ([previousStop, currentPrice, currentAtr, multiplier, tickSize].any (· ≤ 0))
    (.value "trailing-stop inputs must be positive")
  raiseIf (currentPrice ≤ previousStop)
    (.value "previous_stop must remain below current_price")
  let candidate := a.sub currentPrice (a.mul multiplier currentAtr)
  return max previousStop (a.mul (Rounding.down.toInt (a.div candidate tickSize)) tickSize)

/-- `_updated_trailing_stop`. -/
def updatedTrailingStop (trade : OpenTrade) (close : ℚ) : Except PyError ℚ := do
  let currentStop := trade.position.trailingStop
  let updatedStop ←
    if currentStop < close then
      config.updateLongTrailingStop a currentStop close trade.intent.atr
        (trade.intent.trailingAtrMultiple.getD config.trailingMultiplier)
    else .ok currentStop
  return if trade.breakevenArmed then max updatedStop trade.entryPrice else updatedStop

/-! ### The two replays -/

/-- `replace(position, trailing_stop=…)`. -/
def withTrailingStop (position : PaperPosition) (trailingStop : ℚ) :
    Except PyError PaperPosition :=
  PaperPosition.create position.candidateId position.symbol position.entryPrice position.quantity
    position.stopLoss trailingStop position.takeProfitLevels

/-- The end of a candle of the general replay: break-even and trailing stop. -/
def endCandle (trade : OpenTrade) (candle : OHLCVCandle) : Except PyError OpenTrade := do
  let armed := { trade with
    breakevenArmed := trade.breakevenArmed || breakevenTriggerReached a trade }
  let trailingStop ← config.updatedTrailingStop a armed candle.close
  let position ← withTrailingStop armed.position trailingStop
  return { armed with position }

/-- A candle of the general replay before it asks for an exit: the excursions and
one more bar held. -/
def holdCandle (trade : OpenTrade) (candle : OHLCVCandle) : OpenTrade :=
  let excursed := updateExcursions a trade candle
  { excursed with barsHeld := excursed.barsHeld + 1 }

/-- What the general replay does with the exit of a candle: the trade it leaves
open, or the closed trade. -/
def applyExit [UnicodeData] (held : OpenTrade) (candle : OHLCVCandle) :
    Option ExitDecision → Except PyError (OpenTrade ⊕ TradeRecord)
  | some exit =>
      if exit.reason = .target ∧ 1 < held.position.takeProfitLevels.length then do
        let reduced ← config.partialExit a held candle exit.referencePrice
        let next ← config.endCandle a reduced candle
        return .inl next
      else do
        let record ← config.closeTrade a held candle exit.reason exit.referencePrice
        return .inr record
  | none => do
      let next ← config.endCandle a held candle
      return .inl next

/-- A candle of the general replay. -/
def generalCandle [UnicodeData] (trade : OpenTrade) (candle : OHLCVCandle) :
    Except PyError (OpenTrade ⊕ TradeRecord) :=
  let held := holdCandle a trade candle
  config.applyExit a held candle
    (evaluateLongExit held.intent held.position candle held.barsHeld)

/-- The loop of `_simulate_counterfactual_trade_general`; `last` is the last candle
of the replay. -/
def generalLoop [UnicodeData] (last : OHLCVCandle) (trade : OpenTrade) :
    List OHLCVCandle → Except PyError TradeRecord
  | [] => config.closeTrade a trade last .endOfData last.close
  | candle :: rest => do
      match ← config.generalCandle a trade candle with
      | .inl next => generalLoop last next rest
      | .inr record => return record

/-- `_simulate_counterfactual_trade_general`. -/
def simulateCounterfactualTradeGeneral [UnicodeData] (trade : OpenTrade) (first : OHLCVCandle)
    (rest : List OHLCVCandle) : Except PyError TradeRecord :=
  config.generalLoop a ((first :: rest).getLast (by simp)) trade (first :: rest)

/-- The local variables of `_simulate_single_target_counterfactual`. -/
structure SingleTargetState where
  trailingStop : ℚ
  barsHeld : ℕ := 0
  breakevenArmed : Bool := false
  maximumFavorable : ℚ := 0
  maximumAdverse : ℚ := 0

/-- `_close_single_target_counterfactual`. -/
def closeSingleTargetCounterfactual [UnicodeData] (trade : OpenTrade) (candle : OHLCVCandle)
    (reason : BacktestExitReason) (referenceExitPrice : ℚ) (s : SingleTargetState) :
    Except PyError TradeRecord := do
  let position ← withTrailingStop trade.position s.trailingStop
  config.closeTrade a
    { trade with
      position
      barsHeld := s.barsHeld
      breakevenArmed := s.breakevenArmed
      maximumFavorableExcursion := s.maximumFavorable
      maximumAdverseExcursion := s.maximumAdverse }
    candle reason referenceExitPrice

/-- The trailing stop at the end of a candle of the single-target replay. -/
def trailedStop (trade : OpenTrade) (trailingDistance close : ℚ) (armed : Bool)
    (trailingStop : ℚ) : ℚ :=
  let trailed :=
    if trailingStop < close then
      let candidate := a.sub close trailingDistance
      let units := Rounding.down.toInt (a.div candidate config.tickSize.toRat)
      max trailingStop (a.mul units config.tickSize.toRat)
    else trailingStop
  if armed then max trailed trade.entryPrice else trailed

/-- The loop of `_simulate_single_target_counterfactual`. -/
def singleTargetLoop [UnicodeData] (last : OHLCVCandle) (trade : OpenTrade) (target : ℚ)
    (triggerThreshold : Option ℚ) (trailingDistance : ℚ) (s : SingleTargetState) :
    List OHLCVCandle → Except PyError TradeRecord
  | [] => config.closeSingleTargetCounterfactual a trade last .endOfData last.close s
  | candle :: rest =>
      let quantity := trade.originalQuantity
      let held := { s with
        barsHeld := s.barsHeld + 1
        maximumFavorable := max s.maximumFavorable
          (a.mul (max (a.sub candle.high trade.entryPrice) 0) quantity)
        maximumAdverse := max s.maximumAdverse
          (a.mul (max (a.sub trade.entryPrice candle.low) 0) quantity) }
      let stopLoss := trade.position.stopLoss
      let effectiveStop := max stopLoss held.trailingStop
      if candle.low ≤ effectiveStop then
        config.closeSingleTargetCounterfactual a trade candle
          (if stopLoss < held.trailingStop then .trailingStop else .hardStop)
          (min candle.open effectiveStop) held
      else if target ≤ candle.high then
        config.closeSingleTargetCounterfactual a trade candle .target target held
      else if trade.intent.maximumHoldingBars.any (· < held.barsHeld) then
        config.closeSingleTargetCounterfactual a trade candle .timeExit candle.close held
      else
        let armed := held.breakevenArmed || triggerThreshold.any (· ≤ held.maximumFavorable)
        singleTargetLoop last trade target triggerThreshold trailingDistance
          { held with
            breakevenArmed := armed
            trailingStop :=
              config.trailedStop a trade trailingDistance candle.close armed held.trailingStop }
          rest

/-- The threshold of the break-even trigger of the single-target replay. -/
def triggerThreshold (trade : OpenTrade) : Option ℚ :=
  let initialRisk := a.mul (a.sub trade.entryPrice trade.intent.stopLoss) trade.originalQuantity
  if 0 < initialRisk then trade.intent.breakevenTriggerR.map (a.mul initialRisk) else none

/-- The trailing distance of the single-target replay. -/
def trailingDistance (trade : OpenTrade) : ℚ :=
  a.mul (trade.intent.trailingAtrMultiple.getD config.trailingMultiplier) trade.intent.atr

/-- `_simulate_single_target_counterfactual`. -/
def simulateSingleTargetCounterfactual [UnicodeData] (trade : OpenTrade) (first : OHLCVCandle)
    (rest : List OHLCVCandle) : Except PyError TradeRecord :=
  config.singleTargetLoop a ((first :: rest).getLast (by simp)) trade
    (trade.position.takeProfitLevels.head trade.position.targets_gt.1) (triggerThreshold a trade)
    (config.trailingDistance a trade) { trailingStop := trade.position.trailingStop }
    (first :: rest)

/-- `try: … except ValueError: return None`. -/
def noneOnValueError {α : Type} : Except PyError α → Except PyError (Option α)
  | .ok x => .ok (some x)
  | .error (.value _) => .ok none
  | .error e => .error e

/-- `_simulate_counterfactual_trade`, with the replay of an opened trade as a
parameter. -/
def counterfactualWith [UnicodeData]
    (simulate : OpenTrade → OHLCVCandle → List OHLCVCandle → Except PyError TradeRecord)
    (intent : BacktestIntent) : List OHLCVCandle → Except PyError (Option TradeRecord)
  | [] => .ok none
  | first :: rest =>
      if "FUTURES".toList <:+: (upper intent.texts.market).toList then .ok none
      else do
        match ← noneOnValueError (config.openTrade a intent first) with
        | none => return none
        | some trade => some <$> simulate trade first rest

/-- `_simulate_counterfactual_trade`. -/
def simulateCounterfactualTrade [UnicodeData] (intent : BacktestIntent) :
    List OHLCVCandle → Except PyError (Option TradeRecord) :=
  config.counterfactualWith a
    (if intent.targets.length = 1 then config.simulateSingleTargetCounterfactual a
      else config.simulateCounterfactualTradeGeneral a) intent

end BacktestConfig

end Ai4Binance

/-
The trades of the Futures backtest (`research/backtesting/futures_engine.py`): opening,
holding and closing one, and the replay of a rejected signal.

As in the Spot backtest every operation rounds its exact result (`Arithmetic`).  The exit
decisions are those of the exit loop (`FuturesEngine`), which compare and do not round.

* `FuturesRunConfig`, `FuturesSignal`, `FuturesTrade`;
* `Arithmetic.isolatedLiquidationPrice`: the liquidation solver;
* `entryBlockers`, `openTrade`: an entry, and what blocks it;
* `applyFunding`, `markPathFunding`, `holdBar`: what a bar does to an open trade;
* `exitTrade`, `closeAtEndOfData`: the record of a closed trade;
* `replayTrade`, `simulateCounterfactualTrade`.
-/
import Ai4Binance.Backtesting.ReplayDataset
import Ai4Binance.Backtesting.SpotRun

open Text Check

namespace Ai4Binance

/-! ### Configuration and signals -/

/-- The fields of `FuturesBacktestConfig`. -/
structure FuturesRunConfig extends SpotBacktestConfig where
  leverage : ℕ := 2
  maintenanceMarginRatio : ℚ := 5 / 1000
  liquidationFeeRatio : ℚ := 5 / 1000
  requireMarkPricePath : Bool := false
  allowIntrabarFundingBounds : Bool := false
  maintenanceBrackets : List FuturesRiskBracket := []
  bounds_need_mark : allowIntrabarFundingBounds = true → requireMarkPricePath = true
  brackets_ok : requireMarkPricePath = true → validateFuturesBrackets maintenanceBrackets = .ok ()
  leverage_bounds : 1 ≤ leverage ∧ leverage ≤ 125
  liquidationFee_bounds : 0 ≤ liquidationFeeRatio ∧ liquidationFeeRatio ≤ 2 / 100
  maintenance_pos : 0 < maintenanceMarginRatio
  maintenance_lt : ∀ initial ∈ Context.default.div 1 leverage, maintenanceMarginRatio < initial

/-- The fields of `FuturesBacktestIntent`, with the checks of its constructor. -/
structure FuturesSignal extends FuturesBacktestIntent where
  signalId : String
  timestamp : ℤ
  reasonCodes : List String := ["FUTURES_BACKTEST_SIGNAL"]
  texts : SignalTexts := { market := "USD_M_FUTURES", timeframe := "1h" }
  entryScore : ℚ := 0
  evidenceScore : ℚ := 0
  dgeStatus : String := "UNKNOWN"
  blockerHistory : List String := []
  funnelStages : List VirtualMarketFunnelStage := [.discovered, .readyForRisk]
  market_eq : texts.market = "USD_M_FUTURES"
  identified : [signalId, texts.strategyId, texts.strategyVersion, texts.strategyConfigVersion,
    texts.strategyConfigHash, texts.regime, texts.timeframe, dgeStatus].all (!isBlank ·)
  reasons_ok : reasonCodes ≠ [] ∧ reasonCodes.all (!isBlank ·) ∧ reasonCodes.Nodup
  scores_nonneg : 0 ≤ entryScore ∧ 0 ≤ evidenceScore
  blockers_ok : blockerHistory.Nodup ∧ blockerHistory.all (!isBlank ·)
  funnel_ok : funnelStages ≠ [] ∧ funnelStages.Nodup ∧
    ∀ stage ∈ funnelStages, stage ∈ VirtualMarketFunnelStage.upstream := by decide

namespace FuturesSignal

/-! The defaults pass their checks. -/

lemma default_market : ({ market := "USD_M_FUTURES", timeframe := "1h" } : SignalTexts).market =
    "USD_M_FUTURES" :=
  rfl

lemma default_reasons : ["FUTURES_BACKTEST_SIGNAL"] ≠ [] ∧
    ["FUTURES_BACKTEST_SIGNAL"].all (!isBlank ·) ∧ ["FUTURES_BACKTEST_SIGNAL"].Nodup := by
  decide +kernel

lemma default_scores : (0 : ℚ) ≤ 0 ∧ (0 : ℚ) ≤ 0 := ⟨le_rfl, le_rfl⟩

lemma default_blockers : ([] : List String).Nodup ∧ ([] : List String).all (!isBlank ·) := by
  decide +kernel

variable (signal : FuturesSignal)

/-- `FuturesBacktestIntent.closed_trade_attribution`.  A blank opportunity was replaced by
the constructor. -/
def closedTradeAttribution : ClosedTradeAttribution where
  strategyId := signal.texts.strategyId
  strategyVersion := signal.texts.strategyVersion
  strategyConfigVersion := signal.texts.strategyConfigVersion
  strategyConfigHash := signal.texts.strategyConfigHash
  market := "USD_M_FUTURES"
  symbol := signal.texts.symbol
  regime := signal.texts.regime
  timeframe := signal.texts.timeframe
  snapshotId := signal.texts.snapshotId
  decisionId := signal.texts.decisionId
  opportunityId :=
    if isBlank signal.texts.opportunityId then "opportunity:" ++ signal.signalId
    else signal.texts.opportunityId

/-- `_normalize_intent`. -/
def normalize [UnicodeData] [CanonicalDigest RuntimeFuturesReplayDataset]
    (dataset : RuntimeFuturesReplayDataset) : FuturesSignal :=
  { signal with
    texts := { signal.texts with
      symbol := orText (upper (strip signal.texts.symbol)) dataset.symbol
      snapshotId := orText (strip signal.texts.snapshotId) (CanonicalDigest.hexdigest dataset)
      decisionId := orText (strip signal.texts.decisionId) ("decision:" ++ signal.signalId) }
    market_eq := signal.market_eq
    identified := signal.identified }

/-- `_pre_veto_observation_id`. -/
def preVetoObservationId (index : ℕ) : String :=
  "pre-veto:usd_m_futures:" ++ orText signal.texts.snapshotId signal.signalId ++ ":" ++
    toString index ++ ":" ++ signal.signalId

/-- `_pre_veto_observation`: the identity of the record, or the exception that its
constructor raises. -/
def preVetoObservation (candle : OHLCVCandle) (index : ℕ) : Except PyError String := do
  let observationId := signal.preVetoObservationId index
  raiseIf ([observationId, signal.signalId, orText signal.texts.snapshotId signal.signalId,
      signal.texts.strategyId, signal.texts.strategyVersion, signal.texts.regime,
      signal.texts.symbol, signal.dgeStatus].any isBlank)
    (.value "pre-veto opportunity identity is required")
  raiseIf (min candle.close (min signal.stopLoss signal.takeProfit) ≤ 0)
    (.value "pre-veto opportunity geometry must be positive")
  return observationId

end FuturesSignal

/-- `_OpenFuturesTrade`. -/
structure FuturesTrade where
  intent : FuturesSignal
  entryTimestamp : ℤ
  entryReferencePrice : ℚ
  entryPrice : ℚ
  quantity : ℚ
  entryFee : ℚ
  initialMargin : ℚ
  liquidationPrice : ℚ
  fundingCost : ℚ := 0
  lastFundingTimestamp : Option ℤ := none
  maximumFavorableExcursion : ℚ := 0
  maximumAdverseExcursion : ℚ := 0
  barsHeld : ℕ := 0
  ignoredSignals : ℕ := 0
  blockerHistory : List String := []

/-- `TradeRecord` of a Futures trade. -/
structure FuturesTradeRecord extends TradeRecord where
  direction : TradeDirection
  leverage : ℕ
  deriving DecidableEq

/-! ### The liquidation solver -/

namespace Arithmetic

variable (a : Arithmetic)

/-- The price at which the margin of a position is the maintenance of a tier. -/
def tierPrice (sign entry quantity walletMargin : ℚ) (tier : FuturesRiskBracket) : ℚ :=
  a.div
    (a.sub (a.sub (a.mul (a.mul sign entry) quantity) walletMargin) tier.cumulativeMaintenance)
    (a.mul quantity (a.sub sign tier.maintenanceRatio))

/-- The loop over the tiers of `isolated_liquidation_price`. -/
def solveTiers (long : Bool) (entry quantity walletMargin : ℚ) :
    List FuturesRiskBracket → Except PyError ℚ
  | [] => .error (.value "liquidation notional is outside verified maintenance brackets")
  | tier :: rest =>
      let price := a.tierPrice (if long then 1 else -1) entry quantity walletMargin tier
      if long ∧ price ≤ 0 then .ok 0
      else if tier.notionalFloor ≤ a.mul price quantity ∧
          a.mul price quantity < tier.notionalCap then .ok price
      else solveTiers long entry quantity walletMargin rest

/-- `isolated_liquidation_price`, of tiers that are compared without rounding. -/
def isolatedLiquidationPrice (long : Bool) (entry quantity walletMargin : ℚ)
    (brackets : List FuturesRiskBracket) : Except PyError ℚ := do
  validateFuturesBrackets brackets
  raiseIf (min entry quantity ≤ 0) (.value "isolated liquidation position is invalid")
  a.solveTiers long entry quantity walletMargin brackets

end Arithmetic

/-! ### An open trade -/

namespace FuturesTrade

variable (a : Arithmetic) (trade : FuturesTrade)

/-- The part of a trade that the exit loop moves. -/
def exitLoopTrade : OpenFuturesTrade where
  intent := trade.intent.toFuturesBacktestIntent
  entryTimestamp := trade.entryTimestamp
  entryPrice := trade.entryPrice
  quantity := trade.quantity
  initialMargin := trade.initialMargin
  liquidationPrice := trade.liquidationPrice
  fundingCost := trade.fundingCost
  lastFundingTimestamp := trade.lastFundingTimestamp
  maximumFavorableExcursion := trade.maximumFavorableExcursion
  maximumAdverseExcursion := trade.maximumAdverseExcursion
  barsHeld := trade.barsHeld

/-- `direction_sign`. -/
def sign : ℚ := trade.intent.direction.side.sign

/-- The time up to which funding is settled. -/
def fundedUntil : ℤ := trade.lastFundingTimestamp.getD trade.entryTimestamp

/-- One funding point: its cost is added, and its time is remembered. -/
def settle (point : MetricPoint) (amount : ℚ) : FuturesTrade :=
  { trade with
    fundingCost := a.add trade.fundingCost amount
    lastFundingTimestamp := some point.timestamp }

/-- The points of `_apply_funding`. -/
def dueBy (points : List MetricPoint) (candleTimestamp : ℤ) : List MetricPoint :=
  points.filter fun p => trade.fundedUntil < p.timestamp ∧ p.timestamp ≤ candleTimestamp

/-- The cost of a funding point in `_apply_funding`. -/
def fundingAmount (point : MetricPoint) : ℚ :=
  a.mul (a.mul (a.mul trade.entryPrice trade.quantity) point.value) trade.sign

/-- `_apply_funding`. -/
def applyFunding (points : List MetricPoint) (candleTimestamp : ℤ) : FuturesTrade :=
  (trade.dueBy points candleTimestamp).foldl (fun t p => t.settle a p (t.fundingAmount a p)) trade

/-- The points of `_mark_path_funding`. -/
def dueBefore (points : List MetricPoint) (windowEnd : ℤ) : List MetricPoint :=
  points.filter fun p => trade.fundedUntil < p.timestamp ∧ p.timestamp < windowEnd

/-- The cost of a funding point in `_mark_path_funding`: at the open of the mark candle the
mark is known, and inside the candle the adverse bound is debited. -/
def markFundingAmount (mark : OHLCVCandle) (point : MetricPoint) : ℚ :=
  if point.timestamp ≠ mark.timestamp then
    a.mul (a.mul trade.quantity mark.high) (max (a.mul point.value trade.sign) 0)
  else a.mul (a.mul (a.mul trade.quantity mark.open) point.value) trade.sign

/-- One funding point of `_mark_path_funding`. -/
def settleOnMark (config : FuturesRunConfig) (mark : OHLCVCandle) (t : FuturesTrade)
    (point : MetricPoint) : Except PyError FuturesTrade := do
  if point.timestamp ≠ mark.timestamp then
    raiseIf (¬ config.allowIntrabarFundingBounds)
      (.value "funding settlement requires a finer native mark path")
    return { t.settle a point (t.markFundingAmount a mark point) with
      blockerHistory := t.blockerHistory ++ ["INTRABAR_FUNDING_ADVERSE_BOUND"] }
  else return t.settle a point (t.markFundingAmount a mark point)

/-- `_mark_path_funding`. -/
def markPathFunding (config : FuturesRunConfig) (points : List MetricPoint) (mark : OHLCVCandle)
    (interval : ℤ) : Except PyError FuturesTrade := do
  let settled ← (trade.dueBefore points (mark.timestamp + interval)).foldlM
    (settleOnMark a config mark) trade
  let liquidationPrice ← a.isolatedLiquidationPrice (settled.intent.direction = .long)
    settled.entryPrice settled.quantity (a.sub settled.initialMargin settled.fundingCost)
    config.maintenanceBrackets
  return { settled with liquidationPrice }

/-- `_update_excursions`. -/
def updateExcursions (candle : OHLCVCandle) : FuturesTrade :=
  let (favorable, adverse) := match trade.intent.direction with
    | .long =>
        (max (a.sub candle.high trade.entryPrice) 0, max (a.sub trade.entryPrice candle.low) 0)
    | .short =>
        (max (a.sub trade.entryPrice candle.low) 0, max (a.sub candle.high trade.entryPrice) 0)
  { trade with
    maximumFavorableExcursion :=
      max trade.maximumFavorableExcursion (a.mul favorable trade.quantity)
    maximumAdverseExcursion :=
      max trade.maximumAdverseExcursion (a.mul adverse trade.quantity) }

/-- `_exit_decision`. -/
def exitDecision (bar : ReplayCandle) : Option ExitDecision :=
  trade.exitLoopTrade.exitDecision bar

/-- The note that `_exit_decision` leaves on a trade that the mark path liquidates. -/
def noteDecision (bar : ReplayCandle) (decision : ExitDecision) : FuturesTrade :=
  if decision.reason = .liquidation ∧ bar.markCandle.isSome then
    { trade with blockerHistory := trade.blockerHistory ++ ["MARK_OHLC_INTRABAR_ORDER_UNKNOWN"] }
  else trade

end FuturesTrade

namespace RuntimeFuturesReplayDataset

variable (dataset : RuntimeFuturesReplayDataset)

/-- `funding_points`. -/
def fundingPoints : List MetricPoint :=
  (dataset.derivatives.points .fundingRate).map (·.toMetricPoint)

/-- `candles[1].timestamp - candles[0].timestamp`. -/
def interval : ℤ :=
  (dataset.candles[1]?.map (·.timestamp)).getD 0 - (dataset.candles[0]?.map (·.timestamp)).getD 0

/-- The candles with the mark candles of the same numbers. -/
def bars (marks : List OHLCVCandle) : List ReplayCandle :=
  dataset.candles.zipIdx.map fun (candle, index) => ⟨candle, marks[index]?⟩

end RuntimeFuturesReplayDataset

namespace FuturesRunConfig

variable (config : FuturesRunConfig) (a : Arithmetic)

/-! ### Entries -/

/-- `_entry_price`. -/
def entryPrice (direction : TradeDirection) (referencePrice : ℚ)
    (fill : BacktestConfig.EntryFill) : Except PyError ℚ :=
  let drag := a.add config.slippageRatio fill.priceImpactRatio
  match direction with
  | .long => config.roundPrice (a.mul referencePrice (a.add 1 drag)) .up
  | .short => config.roundPrice (a.mul referencePrice (a.sub 1 drag)) .down

/-- `_liquidation_price`. -/
def liquidationPrice (direction : TradeDirection)
    (entryPrice quantity isolatedMargin maintenanceMargin : ℚ) : Except PyError ℚ :=
  if config.requireMarkPricePath then
    a.isolatedLiquidationPrice (direction = .long) entryPrice quantity isolatedMargin
      config.maintenanceBrackets
  else
    let bufferPerUnit := a.div (a.sub isolatedMargin maintenanceMargin) quantity
    match direction with
    | .long => .ok (a.sub entryPrice bufferPerUnit)
    | .short => .ok (a.add entryPrice bufferPerUnit)

/-- `_mark_entry_bracket_blockers`. -/
def markEntryBracketBlockers (entry mark quantity : ℚ) : List String :=
  let tier (price : ℚ) := config.maintenanceBrackets.find? fun b =>
    b.notionalFloor ≤ a.mul price quantity ∧ a.mul price quantity < b.notionalCap
  match tier entry, tier mark with
  | some entryTier, some markTier =>
      blockerWhen (entryTier.initialLeverage < config.leverage ∨
        markTier.initialLeverage < config.leverage) "FUTURES_EXCHANGE_INITIAL_LEVERAGE_EXCEEDED"
  | _, _ => ["FUTURES_NOTIONAL_OUTSIDE_BRACKETS"]

/-- The stop and the target of a signal lie on the wrong side of its entry. -/
def geometryBlockers (signal : FuturesSignal) (entry : ℚ) : List String :=
  match signal.direction with
  | .long => blockerWhen (entry ≤ signal.stopLoss ∨ signal.takeProfit ≤ entry)
      "FUTURES_LONG_GEOMETRY_INVALID"
  | .short => blockerWhen (signal.stopLoss ≤ entry ∨ entry ≤ signal.takeProfit)
      "FUTURES_SHORT_GEOMETRY_INVALID"

/-- The stop of a signal lies beyond the liquidation price. -/
def StopBeyond (signal : FuturesSignal) (liquidation : ℚ) : Prop :=
  match signal.direction with
  | .long => signal.stopLoss ≤ liquidation
  | .short => liquidation ≤ signal.stopLoss

instance (signal : FuturesSignal) (liquidation : ℚ) : Decidable (StopBeyond signal liquidation) :=
  match h : signal.direction with
  | .long => decidable_of_iff (signal.stopLoss ≤ liquidation) (by rw [StopBeyond, h])
  | .short => decidable_of_iff (liquidation ≤ signal.stopLoss) (by rw [StopBeyond, h])

/-- `mark_price or entry`. -/
def markOr (bar : ReplayCandle) (entry : ℚ) : ℚ :=
  match bar.markCandle with
  | some mark => if mark.open = 0 then entry else mark.open
  | none => entry

/-- The blockers of an entry at a price that is positive, without that of the stop. -/
def pricedBlockers (signal : FuturesSignal) (bar : ReplayCandle) (availableCash : ℚ)
    (entry quantity : ℚ) : List String :=
  let notional := a.mul entry quantity
  geometryBlockers signal entry ++
    blockerWhen (availableCash <
        a.add (a.div notional config.leverage) (a.mul notional config.feeRatio))
      "INSUFFICIENT_BACKTEST_MARGIN" ++
    blockerWhen (notional < config.minimumNotional) "MIN_NOTIONAL_NOT_REACHED" ++
    if config.requireMarkPricePath then
      config.markEntryBracketBlockers a entry (markOr bar entry) quantity
    else []

/-- `_entry_blockers`. -/
def entryBlockers (signal : FuturesSignal) (bar : ReplayCandle) (availableCash : ℚ) :
    Except PyError (List String) := do
  let fill ← config.entryFill bar.candle
  let fillBlockers ← config.entryFillBlockers bar.candle
  let entry ← config.entryPrice a signal.direction bar.candle.open fill
  if entry ≤ 0 then return fillBlockers ++ ["INVALID_NEXT_BAR_ENTRY_PRICE"]
  let blockers := fillBlockers ++
    config.pricedBlockers a signal bar availableCash entry fill.filledQuantity
  -- a blocked entry is not taken to the liquidation solver of the mark path
  if (config.requireMarkPricePath = true ∧ blockers ≠ []) ∨ fill.filledQuantity ≤ 0 then
    return blockers.eraseDups
  let notional := a.mul entry fill.filledQuantity
  let liquidation ← config.liquidationPrice a signal.direction entry fill.filledQuantity
    (a.div notional config.leverage) (a.mul notional config.maintenanceMarginRatio)
  return (blockers ++
    blockerWhen (StopBeyond signal liquidation) "STOP_BEYOND_LIQUIDATION").eraseDups

/-- `_open_trade`. -/
def openTrade (signal : FuturesSignal) (candle : OHLCVCandle) : Except PyError FuturesTrade := do
  let fill ← config.entryFill candle
  let entry ← config.entryPrice a signal.direction candle.open fill
  let notional := a.mul entry fill.filledQuantity
  let initialMargin := a.div notional config.leverage
  let liquidationPrice ← config.liquidationPrice a signal.direction entry fill.filledQuantity
    initialMargin (a.mul notional config.maintenanceMarginRatio)
  return {
    intent := signal
    entryTimestamp := candle.timestamp
    entryReferencePrice := candle.open
    entryPrice := entry
    quantity := fill.filledQuantity
    entryFee := a.mul notional config.feeRatio
    initialMargin
    liquidationPrice
    lastFundingTimestamp := some candle.timestamp }

/-! ### Exits -/

/-- `_closure_review`. -/
def closureReview (reason : BacktestExitReason) (ignoredSignals : ℕ) : VirtualClosureReview where
  exitReason := reason
  lifecycleError := none
  stopQuality :=
    if reason = .liquidation then "LIQUIDATED"
    else if reason = .hardStop then "PROTECTIVE"
    else "NOT_TRIGGERED"
  trailingQuality := "NOT_APPLICABLE"
  ignoredSignals
  htfWeakness := false
  volatilityExpansion := false
  levelBreak := false
  stagedExitAlternative := "NOT_APPLICABLE"
  lessonCandidate :=
    if reason = .liquidation then "REVIEW_LIQUIDATION_BUFFER" else "REVIEW_EXIT_CONTEXT"

/-- The exit price of `_close_trade`. -/
def exitPrice (direction : TradeDirection) (referencePrice : ℚ) : Except PyError ℚ :=
  match direction with
  | .long => config.roundPrice (a.mul referencePrice (a.sub 1 config.slippageRatio)) .down
  | .short => config.roundPrice (a.mul referencePrice (a.add 1 config.slippageRatio)) .up

/-- The difference of two prices, the other way round for a short trade. -/
def slippage : TradeDirection → ℚ → ℚ → ℚ
  | .long, x, y => a.sub x y
  | .short, x, y => a.sub y x

/-- `_close_trade`. -/
def closeTrade (trade : FuturesTrade) (exitTimestamp : ℤ) (decision : ExitDecision) :
    Except PyError FuturesTradeRecord := do
  let direction := trade.intent.direction
  let exitPrice ← config.exitPrice a direction decision.referencePrice
  let entrySlippage := slippage a direction trade.entryPrice trade.entryReferencePrice
  let exitSlippage := slippage a direction decision.referencePrice exitPrice
  let grossPnl := a.mul
    (a.mul (a.sub decision.referencePrice trade.entryReferencePrice) trade.quantity) trade.sign
  let exitFee := a.mul (a.mul exitPrice trade.quantity) config.feeRatio
  let liquidationFee :=
    if decision.reason = .liquidation then
      a.mul (a.mul exitPrice trade.quantity) config.liquidationFeeRatio
    else 0
  let feeCost := a.add (a.add trade.entryFee exitFee) liquidationFee
  let slippageCost := a.mul (a.add entrySlippage exitSlippage) trade.quantity
  let netPnl := a.sub (a.sub (a.sub grossPnl feeCost) slippageCost) trade.fundingCost
  let riskAtEntry := a.mul |a.sub trade.entryPrice trade.intent.stopLoss| trade.quantity
  let plannedReward := a.mul |a.sub trade.intent.takeProfit trade.entryPrice| trade.quantity
  let exitBlockers :=
    if decision.reason = .liquidation then ["FUTURES_LIQUIDATION_OCCURRED"] else []
  return {
    tradeId := "trade:" ++ trade.intent.signalId
    signalId := trade.intent.signalId
    entryTimestamp := trade.entryTimestamp
    exitTimestamp
    entryPrice := trade.entryPrice
    exitPrice
    quantity := trade.quantity
    entryFeeUsdt := trade.entryFee
    exitFeeUsdt := a.add exitFee liquidationFee
    netPnlUsdt := netPnl
    returnRatio := a.div netPnl (a.add trade.initialMargin trade.entryFee)
    exitReason := decision.reason
    closureReview := closureReview decision.reason trade.ignoredSignals
    entryReason := trade.intent.reasonCodes
    stagedExits := []
    attribution := trade.intent.closedTradeAttribution
    initialStopLoss := trade.intent.stopLoss
    initialTakeProfitLevels := [trade.intent.takeProfit]
    entryReferencePrice := trade.entryReferencePrice
    grossPnlUsdt := grossPnl
    feeCostUsdt := feeCost
    slippageCostUsdt := slippageCost
    fundingCostUsdt := trade.fundingCost
    realizedRMultiple := if 0 < riskAtEntry then a.div netPnl riskAtEntry else 0
    maximumFavorableExcursion := trade.maximumFavorableExcursion
    maximumAdverseExcursion := trade.maximumAdverseExcursion
    holdingPeriod := (exitTimestamp - trade.entryTimestamp).tdiv 1000000
    riskAtEntry
    plannedRr := if 0 < riskAtEntry then a.div plannedReward riskAtEntry else 0
    entryScore := trade.intent.entryScore
    evidenceScore := trade.intent.evidenceScore
    dgeStatus := trade.intent.dgeStatus
    blockerHistory :=
      (trade.intent.blockerHistory ++ trade.blockerHistory ++ exitBlockers).eraseDups
    direction
    leverage := config.leverage }

/-! ### The bars of an open trade -/

variable (dataset : RuntimeFuturesReplayDataset)

/-- `_apply_candle_close_funding`. -/
def applyCandleCloseFunding (trade : FuturesTrade) (candle : OHLCVCandle) : FuturesTrade :=
  if config.requireMarkPricePath then trade
  else
    let windowEnd := candle.timestamp + dataset.interval
    trade.applyFunding a
      (dataset.fundingPoints.filter fun point => decide (point.timestamp < windowEnd)) windowEnd

/-- The funding of a bar. -/
def fundBar (trade : FuturesTrade) (bar : ReplayCandle) : Except PyError FuturesTrade :=
  match bar.markCandle with
  | some mark => trade.markPathFunding a config dataset.fundingPoints mark dataset.interval
  | none => .ok (trade.applyFunding a dataset.fundingPoints bar.candle.timestamp)

/-- What a bar does to an open trade before the exit decision. -/
def holdBar (trade : FuturesTrade) (bar : ReplayCandle) : Except PyError FuturesTrade := do
  let funded ← config.fundBar a dataset trade bar
  let updated := funded.updateExcursions a bar.candle
  return { updated with barsHeld := updated.barsHeld + 1 }

/-- The record of a trade that a bar closes. -/
def exitTrade (held : FuturesTrade) (bar : ReplayCandle) (decision : ExitDecision) :
    Except PyError FuturesTradeRecord :=
  let noted := held.noteDecision bar decision
  let funded :=
    if decision.reason = .timeExit then config.applyCandleCloseFunding a dataset noted bar.candle
    else noted
  config.closeTrade a funded bar.candle.timestamp decision

/-- The record of a trade that is open after the last candle. -/
def closeAtEndOfData (trade : FuturesTrade) (last : OHLCVCandle) :
    Except PyError FuturesTradeRecord :=
  config.closeTrade a (config.applyCandleCloseFunding a dataset trade last) last.timestamp
    ⟨.endOfData, last.close⟩

/-- The loop of `_simulate_counterfactual_trade`; `last` is the last candle of the
dataset. -/
def replayTrade (last : OHLCVCandle) (trade : FuturesTrade) :
    List ReplayCandle → Except PyError FuturesTradeRecord
  | [] => config.closeAtEndOfData a dataset trade last
  | bar :: rest => do
      let held ← config.holdBar a dataset trade bar
      match held.exitDecision bar with
      | some decision => config.exitTrade a dataset held bar decision
      | none => replayTrade last held rest

/-- `_simulate_counterfactual_trade`, on the bars from the entry on. -/
def simulateCounterfactualTrade (last : OHLCVCandle) (signal : FuturesSignal) :
    List ReplayCandle → Except PyError (Option FuturesTradeRecord)
  | [] => return none
  | first :: rest => do
      let blockers ← config.entryBlockers a signal first config.initialCashUsdt
      if ∃ blocker ∈ blockers, blocker ≠ "STOP_BEYOND_LIQUIDATION" then return none
      let trade ← config.openTrade a signal first.candle
      some <$> config.replayTrade a dataset last trade (first :: rest)

end FuturesRunConfig

end Ai4Binance

/-
One candle of a Futures position (`_process_futures_position` and its helpers in
`application/virtual_runtime_engine.py`).

The code decides the exits of a candle one after the other and passes a
reason, a reference price and a quantity to `_futures_exit` for each.  Here
these arguments are collected first (`futuresExitOrders`), and every order then
goes through `futuresExit`; the last theorem says that the exits a processed
candle adds to the position are exactly these.

* `futuresProtectiveExit`: liquidation, then the protective or trailing stop;
* `futuresExitOrders`: the exits of a candle;
* `futuresExit`: slippage, tick, fees and PnL of one exit;
* `futuresPortfolioAfterPositionUpdate`, `processFuturesPosition`.
-/
import Ai4Binance.Virtual.ManagedPosition

open Text Check

namespace Ai4Binance

/-- The arguments of one call of `_futures_exit`. -/
structure ExitOrder where
  reason : BacktestExitReason
  referencePrice : ℚ
  quantity : ℚ
  deriving DecidableEq

/-- `VirtualPositionUpdateDecision`, without the closed-trade record and without
the time of the candle among the audit references. -/
structure VirtualPositionUpdateDecision where
  positionBefore : VirtualManagedPosition
  positionAfter : VirtualManagedPosition
  portfolioAfter : VirtualPortfolioState
  exitReason : Option BacktestExitReason
  reasonCodes : List String
  auditRefs : List String

/-- The sign of a direction. -/
def VirtualPositionSide.sign : VirtualPositionSide → ℚ
  | .long => 1
  | .short => -1

namespace VirtualManagedPosition

variable (position : VirtualManagedPosition)

/-! ### Stops -/

/-- The stop in force: the tighter one of the protective and the trailing stop. -/
def protectiveStop : ℚ :=
  match position.positionSide with
  | .long => max position.stopLoss position.trailingStop
  | .short => min position.stopLoss position.trailingStop

/-- The first part of `_futures_protective_exit`: the candle of the mark, or
that of the trade, reaches the liquidation price. -/
def liquidated (liquidationCandle : OHLCVCandle) (liquidationPrice : ℚ) : Bool :=
  match position.positionSide with
  | .long => liquidationCandle.low ≤ liquidationPrice
  | .short => liquidationPrice ≤ liquidationCandle.high

/-- `_futures_protective_exit`. -/
def futuresProtectiveExit (candle : OHLCVCandle) (markCandle : Option OHLCVCandle)
    (liquidationPrice : ℚ) : Option (BacktestExitReason × ℚ) :=
  let liquidationCandle := markCandle.getD candle
  if position.liquidated liquidationCandle liquidationPrice then
    match position.positionSide with
    | .long => some (.liquidation, min liquidationCandle.open liquidationPrice)
    | .short => some (.liquidation, max liquidationCandle.open liquidationPrice)
  else
    match position.positionSide with
    | .long =>
        if candle.low ≤ position.protectiveStop then
          some (if position.stopLoss < position.protectiveStop then .trailingStop else .hardStop,
            position.protectiveStop)
        else none
    | .short =>
        if position.protectiveStop ≤ candle.high then
          some (if position.protectiveStop < position.stopLoss then .trailingStop else .hardStop,
            position.protectiveStop)
        else none

/-- `_breakeven_trigger_reached`. -/
def breakevenTriggerReached (maximumFavorableExcursionUsdt : ℚ) : Bool :=
  match position.breakevenTriggerR with
  | none => false
  | some trigger =>
      let initialRisk := |position.entryPrice - position.stopLoss| * position.initialQuantity
      0 < initialRisk ∧ initialRisk * trigger ≤ maximumFavorableExcursionUsdt

/-- `_futures_trailing_stop`. -/
def futuresTrailingStop (candle : OHLCVCandle) (maximumFavorableExcursionUsdt : ℚ) : ℚ :=
  match position.positionSide with
  | .long =>
      let trailing :=
        if position.breakevenTriggerReached maximumFavorableExcursionUsdt then
          max position.trailingStop position.entryPrice
        else position.trailingStop
      match position.trailingAtrMultiple with
      | none => trailing
      | some multiple => max trailing (candle.close - position.atr * multiple)
  | .short =>
      let trailing :=
        if position.breakevenTriggerReached maximumFavorableExcursionUsdt then
          min position.trailingStop position.entryPrice
        else position.trailingStop
      match position.trailingAtrMultiple with
      | none => trailing
      | some multiple => min trailing (candle.close + position.atr * multiple)

/-! ### The exits of a candle -/

/-- The funding of the candle, positive where it is paid. -/
def fundingDelta (futuresContext : VirtualFuturesPositionContext) : ℚ :=
  if futuresContext.fundingPaymentDue then
    (match futuresContext.markPath with
      | some m => m.markCandle.open
      | none => position.entryPrice) * position.remainingQuantity * futuresContext.fundingRate *
      position.positionSide.sign
  else 0

/-- The liquidation price the candle is held against: solved from the mark path
after funding, or the one recorded at entry. -/
def futuresLiquidationPrice (margin : FuturesMargin)
    (futuresContext : VirtualFuturesPositionContext) : Except PyError ℚ :=
  match futuresContext.markPath with
  | some m =>
      isolatedLiquidationPrice (position.positionSide = .long) position.entryPrice
        position.remainingQuantity
        (m.isolatedWalletMargin - position.fundingDelta futuresContext) m.maintenanceBrackets
  | none => .ok margin.liquidationPrice

/-- The loop over the targets from the next one on: `targets` are the levels
with their ratios, and `remaining` is what is left of the position. -/
def targetOrders (candle : OHLCVCandle) : List (ℚ × ℚ) → ℚ → List ExitOrder
  | [], _ => []
  | (target, ratio) :: rest, remaining =>
      let reached : Bool := match position.positionSide with
        | .long => target ≤ candle.high
        | .short => candle.low ≤ target
      if reached then
        let quantity :=
          if rest = [] then remaining else min remaining (position.initialQuantity * ratio)
        ⟨.target, target, quantity⟩ ::
          if remaining - quantity = 0 then [] else targetOrders candle rest (remaining - quantity)
      else []

/-- The targets that are still to be taken, with their ratios. -/
def openTargets : List (ℚ × ℚ) :=
  (position.takeProfitLevels.zip position.takeProfitQuantityRatios).drop position.nextTargetIndex

/-- What the orders of a candle leave of the position. -/
def remainingAfter (orders : List ExitOrder) : ℚ :=
  position.remainingQuantity - (orders.map (·.quantity)).sum

/-- The exits of a candle: liquidation or a stop for all that remains, else a
forced exit at the close, else the targets reached and then, if something
remains, the time exit. -/
def futuresExitOrders (margin : FuturesMargin) (candle : OHLCVCandle)
    (context : VirtualExitContext) (futuresContext : VirtualFuturesPositionContext) :
    Except PyError (List ExitOrder) := do
  let liquidationPrice ← position.futuresLiquidationPrice margin futuresContext
  match position.futuresProtectiveExit candle (futuresContext.markPath.map (·.markCandle))
      liquidationPrice with
  | some (reason, price) => return [⟨reason, price, position.remainingQuantity⟩]
  | none =>
      match context.forcedExitReason with
      | some reason => return [⟨reason, candle.close, position.remainingQuantity⟩]
      | none =>
          let orders := position.targetOrders candle position.openTargets
            position.remainingQuantity
          if 0 < position.remainingAfter orders ∧
              position.maximumHoldingBars.any (· < position.barsHeld + 1) then
            return orders ++ [⟨.timeExit, candle.close, position.remainingAfter orders⟩]
          else return orders

/-- `_futures_exit`. -/
def futuresExit (timestamp : ℤ) (order : ExitOrder) : Except PyError VirtualPositionExit := do
  let price ← match position.positionSide with
    | .long => orRaise (Context.default.quantize .down
        (order.referencePrice * (1 - position.slippageRatio)) position.tickSize.exp) .decimal
    | .short => orRaise (Context.default.quantize .up
        (order.referencePrice * (1 + position.slippageRatio)) position.tickSize.exp) .decimal
  let grossPnl := match position.positionSide with
    | .long => (price - position.entryPrice) * order.quantity
    | .short => (position.entryPrice - price) * order.quantity
  let exitFee := price * order.quantity * position.feeRatio
  let liquidationFee :=
    if order.reason = .liquidation then price * order.quantity * position.liquidationFeeRatio
    else 0
  let allocatedEntryFee := position.entryFeeUsdt * order.quantity / position.initialQuantity
  VirtualPositionExit.create timestamp order.reason price order.quantity
    (exitFee + liquidationFee) (grossPnl - exitFee - liquidationFee - allocatedEntryFee)
    (|price - order.referencePrice| * order.quantity)

/-! ### The portfolio and the position after a candle -/

/-- `_futures_portfolio_after_position_update`. -/
def futuresPortfolioAfterPositionUpdate (margin : FuturesMargin)
    (portfolio : VirtualPortfolioState) (after : VirtualManagedPosition) (markPrice fundingDelta : ℚ) :
    Except PyError VirtualPortfolioState :=
  let newExits := after.exits.drop position.exits.length
  let cashUsdt := portfolio.cashUsdt - fundingDelta + (newExits.map fun e =>
    margin.isolatedMarginUsdt * e.quantity / position.initialQuantity +
      (e.price - position.entryPrice) * e.quantity * position.positionSide.sign - e.feeUsdt).sum
  let realizedPnlDelta := -fundingDelta + (newExits.map (·.netPnlUsdt)).sum
  let remainingRatio := after.remainingQuantity / position.initialQuantity
  let isolatedMargin := margin.isolatedMarginUsdt * remainingRatio
  let notional := markPrice * after.remainingQuantity
  let unrealizedPnl :=
    (markPrice - position.entryPrice) * position.positionSide.sign * after.remainingQuantity
  let equityUsdt := cashUsdt + isolatedMargin + unrealizedPnl
  let highWatermark := max portfolio.highWatermarkUsdt equityUsdt
  let drawdown := if 0 < highWatermark then (highWatermark - equityUsdt) / highWatermark else 0
  let closed := after.status = .closed
  let unlessClosed {α : Type} (a : α) : Option α := if closed then none else some a
  VirtualPortfolioState.create
    { portfolio.toPortfolioFields with
      cashUsdt, equityUsdt
      realizedPnlUsdt := portfolio.realizedPnlUsdt + realizedPnlDelta
      unrealizedPnlUsdt := unrealizedPnl
      feesPaidUsdt := portfolio.feesPaidUsdt + (newExits.map (·.feeUsdt)).sum
      slippageCostUsdt := portfolio.slippageCostUsdt + (newExits.map (·.slippageCostUsdt)).sum
      fundingCostUsdt := portfolio.fundingCostUsdt + fundingDelta
      highWatermarkUsdt := highWatermark
      maxDrawdownRatio := max portfolio.maxDrawdownRatio drawdown
      currentOpenRiskUsdt :=
        if closed then 0 else |position.entryPrice - position.stopLoss| * after.remainingQuantity
      positionSide := unlessClosed position.positionSide
      positionEntryPrice := unlessClosed position.entryPrice
      positionMarkPrice := unlessClosed markPrice
      positionNotionalUsdt := unlessClosed notional
      isolatedMarginUsdt := unlessClosed isolatedMargin
      initialMarginUsdt := unlessClosed (margin.initialMarginUsdt * remainingRatio)
      maintenanceMarginUsdt := unlessClosed (notional * margin.maintenanceMarginRatio)
      liquidationPrice := unlessClosed margin.liquidationPrice
      leverage := unlessClosed margin.leverage
      marginUtilizationRatio :=
        if ¬ closed ∧ 0 < equityUsdt then some (min 1 (isolatedMargin / equityUsdt)) else none
      openPositionCount := if closed then 0 else portfolio.openPositionCount
      consecutiveLosses :=
        if closed then (if after.realizedPnlUsdt < 0 then portfolio.consecutiveLosses + 1 else 0)
        else portfolio.consecutiveLosses }

/-- The largest favorable and adverse excursions up to and with a candle. -/
def excursions (candle : OHLCVCandle) : ℚ × ℚ :=
  let (favorable, adverse) := match position.positionSide with
    | .long => (max (candle.high - position.entryPrice) 0, max (position.entryPrice - candle.low) 0)
    | .short => (max (position.entryPrice - candle.low) 0, max (candle.high - position.entryPrice) 0)
  (max position.maximumFavorableExcursionUsdt (favorable * position.initialQuantity),
    max position.maximumAdverseExcursionUsdt (adverse * position.initialQuantity))

/-- The status after a candle that leaves `remaining`. -/
def statusAfter (remaining : ℚ) (exits : List VirtualPositionExit) :
    VirtualPositionLifecycleStatus :=
  if remaining = 0 then .closed
  else if exits ≠ [] ∨ position.status = .partiallyClosed then .partiallyClosed
  else .open

/-- The review of a position that the orders of a candle close.  A position that
is closed without an order has no reason to review, and reading its text fails. -/
def closureReviewAfter (status : VirtualPositionLifecycleStatus) (context : VirtualExitContext)
    (orders : List ExitOrder) : Except PyError (Option VirtualClosureReview) :=
  match status, orders.getLast? with
  | .closed, some last =>
      .ok (some (virtualReview last.reason context (1 < position.exits.length + orders.length)))
  | .closed, none => .error .attribute
  | _, _ => .ok none

/-- The position after the exits of a candle. -/
def futuresPositionAfter (candle : OHLCVCandle) (context : VirtualExitContext)
    (fundingDelta : ℚ) (orders : List ExitOrder) (exits : List VirtualPositionExit) :
    Except PyError VirtualManagedPosition := do
  let remaining := position.remainingAfter orders
  let (mfe, mae) := position.excursions candle
  let status := position.statusAfter remaining exits
  let closureReview ← position.closureReviewAfter status context orders
  VirtualManagedPosition.create
    { position.toPositionFields with
      remainingQuantity := remaining
      trailingStop :=
        if 0 < remaining then position.futuresTrailingStop candle mfe else position.trailingStop
      status, closureReview
      nextTargetIndex :=
        position.nextTargetIndex + (orders.filter (·.reason = .target)).length
      realizedPnlUsdt :=
        position.realizedPnlUsdt - fundingDelta + (exits.map (·.netPnlUsdt)).sum
      exits := position.exits ++ exits
      barsHeld := position.barsHeld + 1
      maximumFavorableExcursionUsdt := mfe
      maximumAdverseExcursionUsdt := mae
      fundingCostUsdt := position.fundingCostUsdt + fundingDelta }

/-- `_process_futures_position`. -/
def processFuturesPosition (margin : FuturesMargin) (portfolio : VirtualPortfolioState)
    (candle : OHLCVCandle) (context : VirtualExitContext)
    (futuresContext : VirtualFuturesPositionContext) :
    Except PyError VirtualPositionUpdateDecision := do
  let fundingDelta := position.fundingDelta futuresContext
  let orders ← position.futuresExitOrders margin candle context futuresContext
  let exits ← orders.mapM (position.futuresExit candle.timestamp)
  let after ← position.futuresPositionAfter candle context fundingDelta orders exits
  let portfolioAfter ← position.futuresPortfolioAfterPositionUpdate margin portfolio after
    futuresContext.markPrice fundingDelta
  let auditRefs := [position.positionId, position.candidateId, position.symbol]
  let auditChecks := uniqueNonblankChecks "virtual position update audit refs" auditRefs
  raiseIf (¬ Passes auditChecks) (.value (firstRefusal auditChecks))
  return {
    positionBefore := position
    positionAfter := after
    portfolioAfter
    exitReason := orders.getLast?.map (·.reason)
    reasonCodes := (exits.map (·.reason.value) ++
      (if fundingDelta ≠ 0 then ["FUTURES_FUNDING_APPLIED"] else []) ++
      [after.status.value]).eraseDups
    auditRefs }

/-- The exits a processed candle adds to the position are those of its orders. -/
theorem processFuturesPosition_exits {margin : FuturesMargin} {portfolio : VirtualPortfolioState}
    {candle : OHLCVCandle} {context : VirtualExitContext}
    {futuresContext : VirtualFuturesPositionContext} {decision : VirtualPositionUpdateDecision}
    (h : position.processFuturesPosition margin portfolio candle context futuresContext =
      .ok decision) :
    ∃ orders exits, position.futuresExitOrders margin candle context futuresContext = .ok orders ∧
      orders.mapM (position.futuresExit candle.timestamp) = .ok exits ∧
      decision.positionAfter.exits = position.exits ++ exits := by
  simp only [processFuturesPosition, bind_eq_ok, raiseIf_eq_ok, pure_eq_ok] at h
  obtain ⟨orders, ho, exits, he, after, ha, _, -, _, -, rfl⟩ := h
  refine ⟨orders, exits, ho, he, ?_⟩
  simp only [futuresPositionAfter, bind_eq_ok] at ha
  obtain ⟨review, -, hc⟩ := ha
  rw [create_eq_ok] at hc
  rw [hc, PositionFields.normalized]
  split_ifs <;> rfl

end VirtualManagedPosition

end Ai4Binance

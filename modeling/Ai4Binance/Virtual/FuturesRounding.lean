/-
The Futures round trip in the decimal context.

The engine rounds every result to the digits of the context (`Arithmetic`), and the identities
of `futures_round_trip` are those of exact arithmetic.  Here the entry and the candles of a
position are written with every operation rounded, in the order of the source.  Without rounding
they are the functions of the other modules; in the decimal context the cash of a large wallet
loses digits that the PnL of the position keeps.

* `Arithmetic.filledPreview`, `futuresPortfolioAfterFill`, `materializeManagedPosition`: the entry;
* `Arithmetic.futuresExit`, `futuresPositionAfter`, `futuresPortfolioAfterPositionUpdate`,
  `processFuturesPosition`: a candle;
* `exact_processFuturesPosition`: without rounding;
* `decimal_round_trip_unbalanced`: a round trip whose equity and PnL differ.
-/
import Ai4Binance.Backtesting.SpotConservation
import Ai4Binance.Virtual.FuturesConservation
import Ai4Binance.Virtual.Leverage

open Text Check

namespace Ai4Binance

namespace Arithmetic

variable (a : Arithmetic)

/-! ### The entry -/

section Entry

variable (request : VirtualRuntimeRequest)

/-- The preview of a positive fill, every operation rounded. -/
def filledPreview (filled impact : ℚ) (blockers reasonCodes : List String) :
    Except PyError VirtualFillPreview := do
  let adjustment := a.add (a.add request.slippageRatio request.halfSpreadRatio) impact
  let executionPrice ← request.roundPrice (a.mul request.entryPrice
    (if request.action = .buy then a.add 1 adjustment else a.sub 1 adjustment))
  let grossNotional := a.mul executionPrice filled
  return {
    requestedQuantity := request.quantity
    filledQuantity := filled
    remainingQuantity := a.sub request.quantity filled
    fillRatio := a.div filled request.quantity
    executionPrice
    grossNotionalUsdt := grossNotional
    feeUsdt := a.mul grossNotional request.feeRatio
    slippageCostUsdt := a.mul |a.sub executionPrice request.entryPrice| filled
    priceImpactRatio := impact
    reasonCodes
    blockers := (blockers ++
      if grossNotional < request.minimumNotional then ["MIN_NOTIONAL_NOT_REACHED"]
      else []).eraseDups }

/-- `_futures_portfolio_after_fill`, every operation rounded. -/
def futuresPortfolioAfterFill (preview : VirtualFillPreview) (side : VirtualPositionSide)
    (markPrice fundingRate isolatedMargin maintenanceMarginRatio : ℚ) (leverage : ℤ) :
    Except PyError VirtualPortfolioState :=
  let portfolio := request.portfolio
  let notional := preview.grossNotionalUsdt
  let maintenanceMargin := a.mul notional maintenanceMarginRatio
  let buffer := a.div (a.sub isolatedMargin maintenanceMargin) preview.filledQuantity
  let (unrealizedPnl, liquidationPrice, funding) := match side with
    | .long =>
        (a.mul (a.sub markPrice preview.executionPrice) preview.filledQuantity,
          a.sub preview.executionPrice buffer, a.mul notional fundingRate)
    | .short =>
        (a.mul (a.sub preview.executionPrice markPrice) preview.filledQuantity,
          a.add preview.executionPrice buffer, a.mul (a.round (-notional)) fundingRate)
  let fundingCost := if request.fundingPaymentDue then funding else 0
  let availableCash :=
    a.sub (a.sub (a.sub portfolio.cashUsdt isolatedMargin) preview.feeUsdt) fundingCost
  let equityUsdt := a.add (a.add availableCash isolatedMargin) unrealizedPnl
  let highWatermark := max portfolio.highWatermarkUsdt equityUsdt
  let drawdown :=
    if 0 < highWatermark then a.div (a.sub highWatermark equityUsdt) highWatermark else 0
  VirtualPortfolioState.create
    { portfolio.toPortfolioFields with
      cashUsdt := availableCash
      equityUsdt
      realizedPnlUsdt := a.sub portfolio.realizedPnlUsdt fundingCost
      unrealizedPnlUsdt := unrealizedPnl
      feesPaidUsdt := a.add portfolio.feesPaidUsdt preview.feeUsdt
      slippageCostUsdt := a.add portfolio.slippageCostUsdt preview.slippageCostUsdt
      fundingCostUsdt := a.add portfolio.fundingCostUsdt fundingCost
      highWatermarkUsdt := highWatermark
      maxDrawdownRatio := max portfolio.maxDrawdownRatio drawdown
      currentOpenRiskUsdt :=
        a.mul |a.sub preview.executionPrice request.stopLoss| preview.filledQuantity
      positionSide := some side
      positionEntryPrice := some preview.executionPrice
      positionMarkPrice := some markPrice
      positionNotionalUsdt := some notional
      isolatedMarginUsdt := some isolatedMargin
      initialMarginUsdt := some (a.div notional leverage)
      maintenanceMarginUsdt := some maintenanceMargin
      liquidationPrice := some liquidationPrice
      leverage := some leverage
      marginUtilizationRatio :=
        some (if 0 < equityUsdt then min 1 (a.div isolatedMargin equityUsdt) else 0)
      openPositionCount := 1 }

/-- `materialize_managed_position`, every operation rounded. -/
def materializeManagedPosition (decision : VirtualRuntimeDecision) (openedAt : ℤ)
    (positionId : Option String) : Except PyError VirtualManagedPosition := do
  let intent ← orRaise decision.tradeIntent
    (.value "managed position requires an ORDER_READY virtual runtime decision")
  let after := decision.portfolioAfter
  let fundingCost := a.sub after.fundingCostUsdt request.portfolio.fundingCostUsdt
  VirtualManagedPosition.create
    { openingFields request after.toPortfolioFields intent.entryPrice intent.quantity openedAt
        positionId with
      entryFeeUsdt := a.sub after.feesPaidUsdt request.portfolio.feesPaidUsdt
      atr := |a.sub intent.entryPrice request.stopLoss|
      entrySlippageCostUsdt := a.mul |a.sub intent.entryPrice request.entryPrice| intent.quantity
      fundingCostUsdt := fundingCost
      realizedPnlUsdt := a.round (-fundingCost) }

end Entry

/-! ### The exits of a candle -/

section Candle

variable (position : VirtualManagedPosition)

/-- The funding of the candle, every operation rounded. -/
def fundingDelta (futuresContext : VirtualFuturesPositionContext) : ℚ :=
  if futuresContext.fundingPaymentDue then
    a.mul (a.mul (a.mul (match futuresContext.markPath with
      | some m => m.markCandle.open
      | none => position.entryPrice) position.remainingQuantity) futuresContext.fundingRate)
      position.positionSide.sign
  else 0

/-- The liquidation price the candle is held against, every operation rounded. -/
def futuresLiquidationPrice (margin : FuturesMargin)
    (futuresContext : VirtualFuturesPositionContext) : Except PyError ℚ :=
  match futuresContext.markPath with
  | some m =>
      a.isolatedLiquidationPrice (position.positionSide = .long) position.entryPrice
        position.remainingQuantity
        (a.sub m.isolatedWalletMargin (a.fundingDelta position futuresContext))
        m.maintenanceBrackets
  | none => .ok margin.liquidationPrice

/-- The loop over the targets, every operation rounded. -/
def targetOrders (candle : OHLCVCandle) : List (ℚ × ℚ) → ℚ → List ExitOrder
  | [], _ => []
  | (target, ratio) :: rest, remaining =>
      let reached : Bool := match position.positionSide with
        | .long => target ≤ candle.high
        | .short => candle.low ≤ target
      if reached then
        let quantity :=
          if rest = [] then remaining else min remaining (a.mul position.initialQuantity ratio)
        ⟨.target, target, quantity⟩ ::
          if a.sub remaining quantity = 0 then []
          else targetOrders candle rest (a.sub remaining quantity)
      else []

/-- What the orders of a candle leave of the position. -/
def remainingAfter (orders : List ExitOrder) : ℚ :=
  orders.foldl (fun remaining order => a.sub remaining order.quantity) position.remainingQuantity

/-- The exits of a candle, every operation rounded. -/
def futuresExitOrders (margin : FuturesMargin) (candle : OHLCVCandle)
    (context : VirtualExitContext) (futuresContext : VirtualFuturesPositionContext) :
    Except PyError (List ExitOrder) := do
  let liquidationPrice ← a.futuresLiquidationPrice position margin futuresContext
  match position.futuresProtectiveExit candle (futuresContext.markPath.map (·.markCandle))
      liquidationPrice with
  | some (reason, price) => return [⟨reason, price, position.remainingQuantity⟩]
  | none =>
      match context.forcedExitReason with
      | some reason => return [⟨reason, candle.close, position.remainingQuantity⟩]
      | none =>
          let orders := a.targetOrders position candle position.openTargets
            position.remainingQuantity
          let remaining := a.remainingAfter position orders
          if 0 < remaining ∧ position.maximumHoldingBars.any (· < position.barsHeld + 1) then
            return orders ++ [⟨.timeExit, candle.close, remaining⟩]
          else return orders

/-- `_futures_exit`, every operation rounded. -/
def futuresExit (timestamp : ℤ) (order : ExitOrder) : Except PyError VirtualPositionExit := do
  let price ← match position.positionSide with
    | .long =>
        orRaise (Context.default.quantize .down
          (a.mul order.referencePrice (a.sub 1 position.slippageRatio))
          position.tickSize.exp) .decimal
    | .short =>
        orRaise (Context.default.quantize .up
          (a.mul order.referencePrice (a.add 1 position.slippageRatio))
          position.tickSize.exp) .decimal
  let grossPnl := match position.positionSide with
    | .long => a.mul (a.sub price position.entryPrice) order.quantity
    | .short => a.mul (a.sub position.entryPrice price) order.quantity
  let exitFee := a.mul (a.mul price order.quantity) position.feeRatio
  let liquidationFee :=
    if order.reason = .liquidation then
      a.mul (a.mul price order.quantity) position.liquidationFeeRatio
    else 0
  let allocatedEntryFee :=
    a.div (a.mul position.entryFeeUsdt order.quantity) position.initialQuantity
  VirtualPositionExit.create timestamp order.reason price order.quantity
    (a.add exitFee liquidationFee)
    (a.sub (a.sub (a.sub grossPnl exitFee) liquidationFee) allocatedEntryFee)
    (a.mul |a.sub price order.referencePrice| order.quantity)

/-! ### The portfolio and the position after a candle -/

/-- `_futures_portfolio_after_position_update`, every operation rounded. -/
def futuresPortfolioAfterPositionUpdate (margin : FuturesMargin)
    (portfolio : VirtualPortfolioState) (after : VirtualManagedPosition)
    (markPrice fundingDelta : ℚ) : Except PyError VirtualPortfolioState :=
  let newExits := after.exits.drop position.exits.length
  let cashUsdt := newExits.foldl (fun cash e =>
    a.add cash (a.sub (a.add
      (a.div (a.mul margin.isolatedMarginUsdt e.quantity) position.initialQuantity)
      (a.mul (a.mul (a.sub e.price position.entryPrice) e.quantity) position.positionSide.sign))
      e.feeUsdt)) (a.sub portfolio.cashUsdt fundingDelta)
  let realizedPnlDelta :=
    newExits.foldl (fun pnl e => a.add pnl e.netPnlUsdt) (a.round (-fundingDelta))
  let remainingRatio :=
    if after.remainingQuantity = 0 then 0
    else a.div after.remainingQuantity position.initialQuantity
  let isolatedMargin := a.mul margin.isolatedMarginUsdt remainingRatio
  let notional := a.mul markPrice after.remainingQuantity
  let unrealizedPnl := match position.positionSide with
    | .long => a.mul (a.sub markPrice position.entryPrice) after.remainingQuantity
    | .short => a.mul (a.sub position.entryPrice markPrice) after.remainingQuantity
  let equityUsdt := a.add (a.add cashUsdt isolatedMargin) unrealizedPnl
  let highWatermark := max portfolio.highWatermarkUsdt equityUsdt
  let drawdown :=
    if 0 < highWatermark then a.div (a.sub highWatermark equityUsdt) highWatermark else 0
  let closed := after.status = .closed
  let unlessClosed {α : Type} (x : α) : Option α := if closed then none else some x
  VirtualPortfolioState.create
    { portfolio.toPortfolioFields with
      cashUsdt, equityUsdt
      realizedPnlUsdt := a.add portfolio.realizedPnlUsdt realizedPnlDelta
      unrealizedPnlUsdt := unrealizedPnl
      feesPaidUsdt := a.add portfolio.feesPaidUsdt (a.sum (newExits.map (·.feeUsdt)))
      slippageCostUsdt :=
        a.add portfolio.slippageCostUsdt (a.sum (newExits.map (·.slippageCostUsdt)))
      fundingCostUsdt := a.add portfolio.fundingCostUsdt fundingDelta
      highWatermarkUsdt := highWatermark
      maxDrawdownRatio := max portfolio.maxDrawdownRatio drawdown
      currentOpenRiskUsdt :=
        if closed then 0
        else a.mul |a.sub position.entryPrice position.stopLoss| after.remainingQuantity
      positionSide := unlessClosed position.positionSide
      positionEntryPrice := unlessClosed position.entryPrice
      positionMarkPrice := unlessClosed markPrice
      positionNotionalUsdt := unlessClosed notional
      isolatedMarginUsdt := unlessClosed isolatedMargin
      initialMarginUsdt := unlessClosed (a.mul margin.initialMarginUsdt remainingRatio)
      maintenanceMarginUsdt := unlessClosed (a.mul notional margin.maintenanceMarginRatio)
      liquidationPrice := unlessClosed margin.liquidationPrice
      leverage := unlessClosed margin.leverage
      marginUtilizationRatio :=
        if ¬ closed ∧ 0 < equityUsdt then some (min 1 (a.div isolatedMargin equityUsdt)) else none
      openPositionCount := if closed then 0 else portfolio.openPositionCount
      consecutiveLosses :=
        if closed then (if after.realizedPnlUsdt < 0 then portfolio.consecutiveLosses + 1 else 0)
        else portfolio.consecutiveLosses }

/-- The largest excursions up to and with a candle, every operation rounded. -/
def excursions (candle : OHLCVCandle) : ℚ × ℚ :=
  let (favorable, adverse) := match position.positionSide with
    | .long =>
        (max (a.sub candle.high position.entryPrice) 0,
          max (a.sub position.entryPrice candle.low) 0)
    | .short =>
        (max (a.sub position.entryPrice candle.low) 0,
          max (a.sub candle.high position.entryPrice) 0)
  (max position.maximumFavorableExcursionUsdt (a.mul favorable position.initialQuantity),
    max position.maximumAdverseExcursionUsdt (a.mul adverse position.initialQuantity))

/-- `_breakeven_trigger_reached`, every operation rounded. -/
def breakevenTriggerReached (maximumFavorableExcursionUsdt : ℚ) : Bool :=
  match position.breakevenTriggerR with
  | none => false
  | some trigger =>
      let initialRisk :=
        a.mul |a.sub position.entryPrice position.stopLoss| position.initialQuantity
      0 < initialRisk ∧ a.mul initialRisk trigger ≤ maximumFavorableExcursionUsdt

/-- `_futures_trailing_stop`, every operation rounded. -/
def futuresTrailingStop (candle : OHLCVCandle) (maximumFavorableExcursionUsdt : ℚ) : ℚ :=
  match position.positionSide with
  | .long =>
      let trailing :=
        if a.breakevenTriggerReached position maximumFavorableExcursionUsdt then
          max position.trailingStop position.entryPrice
        else position.trailingStop
      match position.trailingAtrMultiple with
      | none => trailing
      | some multiple => max trailing (a.sub candle.close (a.mul position.atr multiple))
  | .short =>
      let trailing :=
        if a.breakevenTriggerReached position maximumFavorableExcursionUsdt then
          min position.trailingStop position.entryPrice
        else position.trailingStop
      match position.trailingAtrMultiple with
      | none => trailing
      | some multiple => min trailing (a.add candle.close (a.mul position.atr multiple))

/-- The position after the exits of a candle, every operation rounded. -/
def futuresPositionAfter (candle : OHLCVCandle) (context : VirtualExitContext)
    (fundingDelta : ℚ) (orders : List ExitOrder) (exits : List VirtualPositionExit) :
    Except PyError VirtualManagedPosition := do
  let remaining := a.remainingAfter position orders
  let (mfe, mae) := a.excursions position candle
  let status := position.statusAfter remaining exits
  let closureReview ← position.closureReviewAfter status context orders
  VirtualManagedPosition.create
    { position.toPositionFields with
      remainingQuantity := remaining
      trailingStop :=
        if 0 < remaining then a.futuresTrailingStop position candle mfe else position.trailingStop
      status, closureReview
      nextTargetIndex :=
        position.nextTargetIndex + (orders.filter (·.reason = .target)).length
      realizedPnlUsdt := exits.foldl (fun pnl e => a.add pnl e.netPnlUsdt)
        (a.sub position.realizedPnlUsdt fundingDelta)
      exits := position.exits ++ exits
      barsHeld := position.barsHeld + 1
      maximumFavorableExcursionUsdt := mfe
      maximumAdverseExcursionUsdt := mae
      fundingCostUsdt := a.add position.fundingCostUsdt fundingDelta }

/-- `_process_futures_position`, every operation rounded. -/
def processFuturesPosition (margin : FuturesMargin) (portfolio : VirtualPortfolioState)
    (candle : OHLCVCandle) (context : VirtualExitContext)
    (futuresContext : VirtualFuturesPositionContext) :
    Except PyError VirtualPositionUpdateDecision := do
  let fundingDelta := a.fundingDelta position futuresContext
  let orders ← a.futuresExitOrders position margin candle context futuresContext
  let exits ← orders.mapM (a.futuresExit position candle.timestamp)
  let after ← a.futuresPositionAfter position candle context fundingDelta orders exits
  let portfolioAfter ← a.futuresPortfolioAfterPositionUpdate position margin portfolio after
    futuresContext.markPrice fundingDelta
  let auditRefs := [position.positionId, position.candidateId, position.symbol]
  let auditChecks := uniqueNonblankChecks "virtual position update audit refs" auditRefs
  raiseIf (¬ Passes auditChecks) (.value (firstRefusal auditChecks))
  return {
    positionBefore := position
    positionAfter := after
    portfolioAfter
    exitReason := orders.getLast?.map (·.reason)
    reasonCodes := (exits.map (·.reason.value) ++
      (if fundingDelta ≠ 0 then ["FUTURES_FUNDING_APPLIED"] else []) ++
      [after.status.value]).eraseDups
    auditRefs }

end Candle

/-! ### Without rounding -/

section Exact

variable (request : VirtualRuntimeRequest) (position : VirtualManagedPosition)

lemma exact_filledPreview : exact.filledPreview request = request.filledPreview := rfl

lemma exact_materializeManagedPosition :
    exact.materializeManagedPosition request = Ai4Binance.materializeManagedPosition request := rfl

lemma exact_futuresPortfolioAfterFill :
    exact.futuresPortfolioAfterFill request = request.futuresPortfolioAfterFill := by
  funext preview side markPrice fundingRate isolatedMargin maintenanceMarginRatio leverage
  have hround (x : ℚ) : exact.round x = x := rfl
  cases side with
  | long =>
      simp only [futuresPortfolioAfterFill, VirtualRuntimeRequest.futuresPortfolioAfterFill,
        exact_add, exact_sub, exact_mul, exact_div, one_mul, mul_one]
      rfl
  | short =>
      simp only [futuresPortfolioAfterFill, VirtualRuntimeRequest.futuresPortfolioAfterFill,
        exact_add, exact_sub, exact_mul, exact_div, hround, neg_mul, one_mul, mul_neg, mul_one,
        sub_neg_eq_add, neg_sub]

/-- What is added step by step is added at once. -/
lemma foldl_add {α : Type} (f : α → ℚ) (xs : List α) (x : ℚ) :
    xs.foldl (fun y a => y + f a) x = x + (xs.map f).sum := by
  induction xs generalizing x with
  | nil => simp
  | cons y ys ih =>
      rw [List.foldl_cons, ih, List.map_cons, List.sum_cons]
      ring

/-- What is taken off step by step is taken off at once. -/
lemma foldl_sub {α : Type} (f : α → ℚ) (xs : List α) (x : ℚ) :
    xs.foldl (fun y a => y - f a) x = x - (xs.map f).sum := by
  have hsum : (xs.map fun a => -f a).sum = -(xs.map f).sum := by
    rw [List.sum_neg, List.map_map]
    rfl
  simp only [sub_eq_add_neg, foldl_add fun a => -f a, hsum]

lemma exact_futuresLiquidationPrice :
    exact.futuresLiquidationPrice position = position.futuresLiquidationPrice := by
  funext margin futuresContext
  rw [futuresLiquidationPrice, VirtualManagedPosition.futuresLiquidationPrice]
  cases futuresContext.markPath with
  | none => rfl
  | some m => exact exact_isolatedLiquidationPrice _ _ _ _ _

lemma exact_targetOrders (candle : OHLCVCandle) :
    exact.targetOrders position candle = position.targetOrders candle := by
  funext targets
  induction targets with
  | nil => rfl
  | cons t rest ih =>
      funext remaining
      simp only [targetOrders, VirtualManagedPosition.targetOrders, ih]
      rfl

lemma exact_remainingAfter : exact.remainingAfter position = position.remainingAfter := by
  funext orders
  exact foldl_sub _ _ _

lemma exact_futuresExitOrders :
    exact.futuresExitOrders position = position.futuresExitOrders := by
  funext margin candle context futuresContext
  rw [futuresExitOrders, exact_futuresLiquidationPrice, exact_targetOrders, exact_remainingAfter]
  rfl

lemma exact_futuresExit : exact.futuresExit position = position.futuresExit := rfl

lemma exact_futuresPortfolioAfterPositionUpdate :
    exact.futuresPortfolioAfterPositionUpdate position =
      position.futuresPortfolioAfterPositionUpdate := by
  funext margin portfolio after markPrice fundingDelta
  have hratio : (if after.remainingQuantity = 0 then 0
      else after.remainingQuantity / position.initialQuantity) =
        after.remainingQuantity / position.initialQuantity := by
    split_ifs with h
    · rw [h, zero_div]
    · rfl
  have hunrealized : (match position.positionSide with
      | .long => (markPrice - position.entryPrice) * after.remainingQuantity
      | .short => (position.entryPrice - markPrice) * after.remainingQuantity) =
        (markPrice - position.entryPrice) * position.positionSide.sign *
          after.remainingQuantity := by
    cases position.positionSide with
    | long => rw [VirtualPositionSide.sign, mul_one]
    | short => rw [VirtualPositionSide.sign, mul_neg, mul_one, neg_sub]
  have hround (x : ℚ) : exact.round x = x := rfl
  simp only [futuresPortfolioAfterPositionUpdate,
    VirtualManagedPosition.futuresPortfolioAfterPositionUpdate, exact_add, exact_sub, exact_mul,
    exact_div, exact_sum, hround, hratio, hunrealized, foldl_add]

lemma exact_futuresPositionAfter :
    exact.futuresPositionAfter position = position.futuresPositionAfter := by
  funext candle context fundingDelta orders exits
  rw [futuresPositionAfter, exact_remainingAfter]
  simp only [exact_add, exact_sub, foldl_add]
  rfl

/-- Without rounding the candle of a position is that of the engine in exact arithmetic. -/
theorem exact_processFuturesPosition :
    exact.processFuturesPosition position = position.processFuturesPosition := by
  funext margin portfolio candle context futuresContext
  rw [processFuturesPosition, exact_futuresExitOrders, exact_futuresExit,
    exact_futuresPositionAfter, exact_futuresPortfolioAfterPositionUpdate]
  rfl

end Exact

end Arithmetic

/-! ### A wallet too large for its digits -/

/-- A flat Futures wallet with ten million in cash. -/
def largeWallet : VirtualPortfolioState where
  portfolioId := "virtual-futures"
  market := .usdMFutures
  cashUsdt := 10000000
  equityUsdt := 10000000
  passes := by decide +kernel

/-- A long of 0.01234567 at 30000, with a fee of 0.00075 and a target with eight decimals.  The
mark makes up for the entry fee, so that all amounts of the entry are short. -/
def fineLong : VirtualRuntimeRequest where
  toRequestFields :=
    { unitRequest largeWallet .buy 30000 28500 (75 / 100000) with
      market := .usdMFutures
      quantity := 1234567 / 10 ^ 8
      takeProfitLevels := [3123456789121 / 10 ^ 8]
      positionSide := some .long
      markPrice := some (300225 / 10)
      fundingRate := some 0
      leverage := some 5
      isolatedMarginUsdt := some (75308587 / 10 ^ 6)
      maintenanceMarginRatio := some (1 / 100) }
  passes := by decide +kernel

/-- A candle that reaches the target. -/
def fineCandle : OHLCVCandle where
  timestamp := 60
  «open» := 31000
  high := 31300
  low := 30900
  close := 31200
  volume := 10
  nonneg := by norm_num
  low_le_high := by norm_num
  max_le_high := by norm_num
  low_le_min := by norm_num

/-- The mark and the funding at its close. -/
def fineContext : VirtualFuturesPositionContext where
  observedAt := 60
  markPrice := 31200
  fundingRate := 0
  fundingPaymentDue := true
  markPrice_pos := by norm_num
  aligned := by simp

/-- Rounding breaks the identities of a round trip.  The entry of the long is the same in the
decimal context as in exact arithmetic; at its target the cash, which has eight digits before the
point, keeps twenty decimals, the PnL of the position twenty-one. -/
theorem decimal_round_trip_unbalanced : ∃ decision preview opened margin update,
    fineLong.evaluate = .ok decision ∧ decision.tradeIntent.isSome ∧
      fineLong.portfolio.cashUsdt = fineLong.portfolio.equityUsdt ∧
      fineLong.fillPreview = .ok preview ∧
      Arithmetic.decimal.filledPreview fineLong preview.filledQuantity 0 [] [] = .ok preview ∧
      Arithmetic.decimal.futuresPortfolioAfterFill fineLong preview .long (300225 / 10) 0
        (75308587 / 10 ^ 6) (1 / 100) 5 = .ok decision.portfolioAfter ∧
      Arithmetic.decimal.materializeManagedPosition fineLong decision 0 none = .ok opened ∧
      opened.margin = some margin ∧
      Arithmetic.decimal.processFuturesPosition opened margin decision.portfolioAfter fineCandle {}
        fineContext = .ok update ∧
      update.positionAfter.status = .closed ∧
      update.portfolioAfter.equityUsdt - fineLong.portfolio.equityUsdt =
        1467458145164145477948 / 10 ^ 20 ∧
      update.positionAfter.realizedPnlUsdt = 14674581451641454779475 / 10 ^ 21 ∧
      update.portfolioAfter.realizedPnlUsdt - fineLong.portfolio.realizedPnlUsdt =
        update.positionAfter.realizedPnlUsdt := by
  have hrun : fineLong.evaluate.toOption.any fun decision =>
      fineLong.fillPreview.toOption.any fun preview =>
        (Arithmetic.decimal.filledPreview fineLong preview.filledQuantity 0 [] []).toOption.any
          fun rounded => (Arithmetic.decimal.futuresPortfolioAfterFill fineLong preview .long
            (300225 / 10) 0 (75308587 / 10 ^ 6) (1 / 100) 5).toOption.any
          fun after => (Arithmetic.decimal.materializeManagedPosition fineLong decision 0
            none).toOption.any
          fun opened => opened.margin.any
          fun margin => (Arithmetic.decimal.processFuturesPosition opened margin
            decision.portfolioAfter fineCandle {} fineContext).toOption.any
          fun update => decide (decision.tradeIntent.isSome ∧ rounded = preview ∧
            after.toPortfolioFields = decision.portfolioAfter.toPortfolioFields ∧
            update.positionAfter.status = .closed ∧
            update.portfolioAfter.equityUsdt - fineLong.portfolio.equityUsdt =
              1467458145164145477948 / 10 ^ 20 ∧
            update.positionAfter.realizedPnlUsdt = 14674581451641454779475 / 10 ^ 21 ∧
            update.portfolioAfter.realizedPnlUsdt - fineLong.portfolio.realizedPnlUsdt =
              update.positionAfter.realizedPnlUsdt) := by
    decide +kernel
  obtain ⟨decision, hdecision, hrun⟩ := exists_ok_of_any hrun
  obtain ⟨preview, hpreview, hrun⟩ := exists_ok_of_any hrun
  obtain ⟨rounded, hrounded, hrun⟩ := exists_ok_of_any hrun
  obtain ⟨after, hafter, hrun⟩ := exists_ok_of_any hrun
  obtain ⟨opened, hopened, hrun⟩ := exists_ok_of_any hrun
  obtain ⟨margin, hmargin, hrun⟩ := (Option.any_eq_true _ _).mp hrun
  obtain ⟨update, hupdate, hend⟩ := exists_ok_of_any hrun
  obtain ⟨hready, rfl, hfields, hclosed, hequity, hrealized, hportfolio⟩ := of_decide_eq_true hend
  have hsame : after = decision.portfolioAfter :=
    Except.ok.inj ((VirtualPortfolioState.create_eq_ok.mpr hfields).symm.trans
      (VirtualPortfolioState.create_eq_ok.mpr rfl))
  rw [hsame] at hafter
  exact ⟨decision, rounded, opened, margin, update, hdecision, hready, rfl, hpreview, hrounded,
    hafter, hopened, hmargin, hupdate, hclosed, hequity, hrealized, hportfolio⟩

end Ai4Binance

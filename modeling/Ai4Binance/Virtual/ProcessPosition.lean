/-
Opening a managed position and moving it by one candle
(`materialize_managed_position` and `process_position` in
`application/virtual_runtime_engine.py`).

A Spot position is carried through the paper lifecycle: it is translated into a
`LifecyclePosition`, processed, possibly closed at once by a forced or a time
exit, and translated back; the portfolio then books the new exits.

* `materializeManagedPosition`;
* `lifecyclePosition`, `closeLifecycleRemaining`, `managedPositionFromLifecycle`,
  `spotPortfolioAfterPositionUpdate`, `processSpotPosition`, `processPosition`;
* `Books`: what a processed candle does to the books of a Spot position, with
  `processSpotPosition_books`.
-/
import Ai4Binance.Virtual.Evaluate
import Ai4Binance.Virtual.FuturesPosition
import Ai4Binance.Virtual.PaperLifecycle

open Text Check

namespace Ai4Binance

/-! ### Opening -/

/-- `materialize_managed_position`. -/
def materializeManagedPosition (request : VirtualRuntimeRequest)
    (decision : VirtualRuntimeDecision) (openedAt : ℤ) (positionId : Option String) :
    Except PyError VirtualManagedPosition := do
  let intent ← orRaise decision.tradeIntent
    (.value "managed position requires an ORDER_READY virtual runtime decision")
  let after := decision.portfolioAfter
  let fundingCost := after.fundingCostUsdt - request.portfolio.fundingCostUsdt
  VirtualManagedPosition.create {
    positionId := (positionId.filter (· ≠ "")).getD ("virtual-position:" ++ request.candidateId)
    candidateId := request.candidateId
    symbol := request.symbol
    market := request.market
    openedAt
    entryPrice := intent.entryPrice
    entryFeeUsdt := after.feesPaidUsdt - request.portfolio.feesPaidUsdt
    initialQuantity := intent.quantity
    remainingQuantity := intent.quantity
    stopLoss := request.stopLoss
    trailingStop := request.stopLoss
    atr := |intent.entryPrice - request.stopLoss|
    takeProfitLevels := request.takeProfitLevels
    opportunityId := request.opportunity
    feeRatio := request.feeRatio
    slippageRatio := request.slippageRatio
    tickSize := request.tickSize
    positionSide := request.positionSide.getD .long
    lineage := request.lineage
    entryReason := request.entryReason
    entrySlippageCostUsdt := |intent.entryPrice - request.entryPrice| * intent.quantity
    fundingCostUsdt := fundingCost
    realizedPnlUsdt := -fundingCost
    isolatedMarginUsdt := after.isolatedMarginUsdt
    initialMarginUsdt := after.initialMarginUsdt
    maintenanceMarginRatio := request.maintenanceMarginRatio
    liquidationPrice := after.liquidationPrice
    leverage := after.leverage
    liquidationFeeRatio := request.liquidationFeeRatio }

/-! ### Between the two representations -/

/-- `_paper_exit_reason`. -/
def BacktestExitReason.paper : BacktestExitReason → ExitReason
  | .hardStop => .stopLossExit
  | .trailingStop => .trailingStopExit
  | _ => .takeProfitExit

/-- `_canonical_backtest_reason`. -/
def ExitReason.canonical : ExitReason → BacktestExitReason
  | .stopLossExit => .hardStop
  | .trailingStopExit => .trailingStop
  | .takeProfitExit => .target

/-- An exit as the paper lifecycle keeps it. -/
def VirtualPositionExit.paper (e : VirtualPositionExit) : LifecycleExit :=
  ⟨e.timestamp, e.reason.paper, e.price, e.quantity, e.feeUsdt, e.netPnlUsdt, e.nonneg.1,
    e.nonneg.2.1, e.nonneg.2.2.1⟩

/-- `_virtual_exit`. -/
def LifecycleExit.virtual (e : LifecycleExit) : VirtualPositionExit :=
  ⟨e.timestamp, e.reason.canonical, e.price, e.quantity, e.feeUsdt, e.netPnlUsdt, 0, e.nonneg.1,
    e.nonneg.2.1, e.nonneg.2.2, le_rfl⟩

/-- The exits with the reason of the last one replaced. -/
def withLastReason (reason : BacktestExitReason) (exits : List VirtualPositionExit) :
    List VirtualPositionExit :=
  exits.dropLast ++ (exits.getLast?.map fun e => { e with reason }).toList

namespace VirtualManagedPosition

variable (position : VirtualManagedPosition)

/-- `_lifecycle_position`. -/
def lifecyclePosition : Except PyError LifecyclePosition := do
  let plan ← StagedExitPlan.create (position.takeProfitLevels.insertionSort (· ≤ ·))
    position.takeProfitQuantityRatios
  LifecyclePosition.create {
    positionId := position.positionId
    candidateId := position.candidateId
    symbol := position.symbol
    openedAt := position.openedAt
    entryPrice := position.entryPrice
    entryFeeUsdt := position.entryFeeUsdt
    initialQuantity := position.initialQuantity
    remainingQuantity := position.remainingQuantity
    stopLoss := position.stopLoss
    trailingStop := position.trailingStop
    atr := position.atr
    plan
    status := position.status
    nextTargetIndex := position.nextTargetIndex
    realizedPnlUsdt := position.realizedPnlUsdt
    exits := position.exits.map (·.paper)
    closureReview := position.closureReview.map (·.mapReason (·.paper)) }

/-- `_managed_position_from_lifecycle`. -/
def managedPositionFromLifecycle (lifecycle : LifecyclePosition) (barsHeld : ℕ)
    (maximumFavorableExcursionUsdt : ℚ) (reasonOverride : Option BacktestExitReason) :
    Except PyError VirtualManagedPosition :=
  let exits := lifecycle.exits.map (·.virtual)
  let review := lifecycle.closureReview.map (·.mapReason (·.canonical))
  let (exits, closureReview) := match reasonOverride, review with
    | some reason, some r => (withLastReason reason exits, some { r with exitReason := reason })
    | none, some r =>
        (if lifecycle.status = .closed then withLastReason r.exitReason exits else exits, some r)
    | _, none => (exits, none)
  VirtualManagedPosition.create
    { position.toPositionFields with
      remainingQuantity := lifecycle.remainingQuantity
      trailingStop := lifecycle.trailingStop
      status := lifecycle.status
      nextTargetIndex := lifecycle.nextTargetIndex
      realizedPnlUsdt := lifecycle.realizedPnlUsdt
      exits, closureReview, barsHeld, maximumFavorableExcursionUsdt }

/-- `_close_lifecycle_remaining`. -/
def closeLifecycleRemaining (lifecycle : LifecyclePosition) (timestamp : ℤ)
    (reason : BacktestExitReason) (referencePrice : ℚ) (context : VirtualExitContext) :
    Except PyError LifecyclePosition := do
  let quantity := lifecycle.remainingQuantity
  let price := referencePrice * (1 - position.slippageRatio)
  let fee := price * quantity * position.feeRatio
  let allocatedEntryFee := lifecycle.entryFeeUsdt * quantity / lifecycle.initialQuantity
  let pnl := (price - lifecycle.entryPrice) * quantity - fee - allocatedEntryFee
  let exitEvent ← LifecycleExit.create timestamp .takeProfitExit price quantity fee pnl
  LifecyclePosition.create
    { lifecycle.toLifecycleFields with
      remainingQuantity := 0
      status := .closed
      realizedPnlUsdt := lifecycle.realizedPnlUsdt + pnl
      exits := lifecycle.exits ++ [exitEvent]
      closureReview :=
        some ((virtualReview reason context (lifecycle.exits ≠ [])).mapReason (·.paper)) }

/-! ### One candle of a Spot position -/

/-- `_spot_portfolio_after_position_update`. -/
def spotPortfolioAfterPositionUpdate (portfolio : VirtualPortfolioState)
    (after : VirtualManagedPosition) (markPrice : ℚ) : Except PyError VirtualPortfolioState :=
  let newExits := after.exits.drop position.exits.length
  let cashUsdt := portfolio.cashUsdt +
    (newExits.map fun e => e.price * e.quantity - e.feeUsdt).sum
  let inventoryQuantity := portfolio.inventoryQuantity - (newExits.map (·.quantity)).sum
  let inventoryCostBasis :=
    if inventoryQuantity = 0 then 0
    else portfolio.inventoryCostBasisUsdt -
      (newExits.map fun e => position.entryPrice * e.quantity).sum
  let markValue := inventoryQuantity * markPrice
  let equityUsdt := cashUsdt + markValue
  let highWatermark := max portfolio.highWatermarkUsdt equityUsdt
  let drawdown := if 0 < highWatermark then (highWatermark - equityUsdt) / highWatermark else 0
  let closed := after.status = .closed
  VirtualPortfolioState.create
    { portfolio.toPortfolioFields with
      cashUsdt, equityUsdt, inventoryQuantity
      inventoryCostBasisUsdt := max inventoryCostBasis 0
      realizedPnlUsdt := portfolio.realizedPnlUsdt + (newExits.map (·.netPnlUsdt)).sum
      unrealizedPnlUsdt := markValue - inventoryCostBasis
      feesPaidUsdt := portfolio.feesPaidUsdt + (newExits.map (·.feeUsdt)).sum
      highWatermarkUsdt := highWatermark
      maxDrawdownRatio := max portfolio.maxDrawdownRatio drawdown
      currentOpenRiskUsdt :=
        max (after.remainingQuantity * max (after.entryPrice - after.stopLoss) 0) 0
      consecutiveLosses :=
        if closed then (if after.realizedPnlUsdt < 0 then portfolio.consecutiveLosses + 1 else 0)
        else portfolio.consecutiveLosses
      openPositionCount := if closed then 0 else portfolio.openPositionCount }

/-- The lifecycle engine of a Spot position. -/
def engine : PaperLifecycleEngine where
  feeRatio := position.feeRatio
  slippageRatio := position.slippageRatio
  trailingMultiplier := position.trailingAtrMultiple.getD (15 / 10)
  tickSize := position.tickSize.toRat

/-- The part of an exit context that the paper lifecycle reads. -/
def closureContext (context : VirtualExitContext) : ClosureContext where
  ignoredSignals := context.ignoredSignals
  htfWeakness := context.htfWeakness
  volatilityExpansion := context.volatilityExpansion
  levelBreak := context.levelBreak

/-- The trailing stop raised to the entry price once break-even is reached. -/
def breakeven (lifecycle : LifecyclePosition) (mfe : ℚ) : Except PyError LifecyclePosition :=
  if lifecycle.status ≠ .closed ∧ position.breakevenTriggerReached mfe then
    LifecyclePosition.create
      { lifecycle.toLifecycleFields with
        trailingStop := max lifecycle.trailingStop lifecycle.entryPrice }
  else .ok lifecycle

/-- The reason for which an open position is closed at the close of the candle:
a forced exit, or the end of the holding time. -/
def closingReason (context : VirtualExitContext) : Option BacktestExitReason :=
  match context.forcedExitReason with
  | some reason => some reason
  | none =>
      if position.maximumHoldingBars.any (· < position.barsHeld + 1) then some .timeExit else none

/-- The position and its override reason after the forced and the time exit. -/
def closeForced (lifecycle : LifecyclePosition) (candle : OHLCVCandle)
    (context : VirtualExitContext) :
    Except PyError (LifecyclePosition × Option BacktestExitReason) :=
  match position.closingReason context with
  | some reason =>
      if lifecycle.status ≠ .closed then do
        let closed ← position.closeLifecycleRemaining lifecycle candle.timestamp reason
          candle.close context
        return (closed, some reason)
      else return (lifecycle, none)
  | none => return (lifecycle, none)

/-- The Spot part of `process_position`. -/
def processSpotPosition (portfolio : VirtualPortfolioState) (candle : OHLCVCandle)
    (context : VirtualExitContext) : Except PyError VirtualPositionUpdateDecision := do
  raiseIf (position.positionSide ≠ .long)
    (.value "Spot virtual position lifecycle requires a long position")
  raiseIf (¬ Passes position.engine.checks) (.value (firstRefusal position.engine.checks))
  let lifecycle ← position.lifecyclePosition
  let processed ← position.engine.processCandle lifecycle candle (closureContext context)
  let mfe := max position.maximumFavorableExcursionUsdt
    (max (candle.high - position.entryPrice) 0 * position.initialQuantity)
  let protected' ← position.breakeven processed mfe
  let (final, reasonOverride) ← position.closeForced protected' candle context
  let after ← position.managedPositionFromLifecycle final (position.barsHeld + 1) mfe
    reasonOverride
  let portfolioAfter ← position.spotPortfolioAfterPositionUpdate portfolio after candle.close
  let newExits := after.exits.drop position.exits.length
  let auditRefs := [position.positionId, position.candidateId, position.symbol]
  let auditChecks := uniqueNonblankChecks "virtual position update audit refs" auditRefs
  raiseIf (¬ Passes auditChecks) (.value (firstRefusal auditChecks))
  return {
    positionBefore := position
    positionAfter := after
    portfolioAfter
    exitReason := newExits.getLast?.map (·.reason)
    reasonCodes := (newExits.map (·.reason.value) ++ [after.status.value]).eraseDups
    auditRefs }

/-- `process_position`. -/
def processPosition (portfolio : VirtualPortfolioState) (candle : OHLCVCandle)
    (context : VirtualExitContext) (futuresContext : Option VirtualFuturesPositionContext)
    (candleAvailableAt : Option ℤ) : Except PyError VirtualPositionUpdateDecision := do
  raiseIf (position.market ≠ portfolio.market)
    (.value "virtual managed position market must match portfolio market")
  match position.market, futuresContext with
  | .usdMFutures, none =>
      .error (.value "Futures virtual position lifecycle requires mark and funding context")
  | .usdMFutures, some futuresContext =>
      raiseIf (futuresContext.observedAt ≠ candleAvailableAt.getD candle.timestamp)
        (.value "Futures position context must match the candle availability time")
      let margin ← orRaise position.margin .attribute
      position.processFuturesPosition margin portfolio candle context futuresContext
  | .spot, some _ => .error (.value "Spot position lifecycle cannot use Futures context")
  | .spot, none => position.processSpotPosition portfolio candle context

end VirtualManagedPosition

/-! ### The books of a Spot position -/

/-- The amounts of an exit: price, quantity, fee and net PnL. -/
def VirtualPositionExit.amounts (e : VirtualPositionExit) : ℚ × ℚ × ℚ × ℚ :=
  (e.price, e.quantity, e.feeUsdt, e.netPnlUsdt)

/-- The amounts of an exit of the paper lifecycle. -/
def LifecycleExit.amounts (e : LifecycleExit) : ℚ × ℚ × ℚ × ℚ :=
  (e.price, e.quantity, e.feeUsdt, e.netPnlUsdt)

/-- A new reason leaves the amounts as they are. -/
lemma withLastReason_amounts (reason : BacktestExitReason) (exits : List VirtualPositionExit) :
    (withLastReason reason exits).map (·.amounts) = exits.map (·.amounts) := by
  rcases List.eq_nil_or_concat' exits with rfl | ⟨l, e, rfl⟩
  · rfl
  · simp [withLastReason, VirtualPositionExit.amounts]

/-- What a candle does to the books of a position, as `Advances` says it of the
paper lifecycle. -/
structure Books (before after : VirtualManagedPosition) : Prop where
  entryPrice_eq : after.entryPrice = before.entryPrice
  entryFee_eq : after.entryFeeUsdt = before.entryFeeUsdt
  initialQuantity_eq : after.initialQuantity = before.initialQuantity
  remaining_eq : after.remainingQuantity = before.remainingQuantity -
    ((after.exits.drop before.exits.length).map (·.quantity)).sum
  netPnl : ∀ e ∈ after.exits.drop before.exits.length, e.netPnlUsdt =
    (e.price - before.entryPrice) * e.quantity - e.feeUsdt -
      before.entryFeeUsdt * e.quantity / before.initialQuantity

namespace VirtualManagedPosition

variable {position after : VirtualManagedPosition} {lifecycle final : LifecyclePosition}
  {candle : OHLCVCandle} {context : VirtualExitContext}

lemma breakeven_advances {mfe : ℚ} (h : position.breakeven lifecycle mfe = .ok final) :
    Advances lifecycle final [] := by
  rw [breakeven] at h
  split_ifs at h
  · rw [LifecyclePosition.create_eq_ok] at h
    constructor <;> simp [h]
  · obtain rfl := Except.ok.inj h
    exact .refl _

lemma closeLifecycleRemaining_advances {timestamp : ℤ} {reason : BacktestExitReason} {price : ℚ}
    (h : position.closeLifecycleRemaining lifecycle timestamp reason price context = .ok final) :
    ∃ newExits, Advances lifecycle final newExits := by
  simp only [closeLifecycleRemaining, bind_eq_ok] at h
  obtain ⟨e, he, hq⟩ := h
  rw [LifecyclePosition.create_eq_ok] at hq
  rw [LifecycleExit.create] at he
  split_ifs at he
  obtain rfl := Except.ok.inj he
  refine ⟨[_], ?_, ?_, ?_, by rw [hq], ?_, ?_⟩
  · rw [hq]
  · rw [hq]
  · rw [hq]
  · rw [hq]
    simp
  · intro e' he'
    rw [List.mem_singleton.mp he']
    rfl

lemma closeForced_advances {reasonOverride : Option BacktestExitReason}
    (h : position.closeForced lifecycle candle context = .ok (final, reasonOverride)) :
    ∃ newExits, Advances lifecycle final newExits := by
  rw [closeForced] at h
  split at h
  · split_ifs at h
    · simp only [bind_eq_ok, pure_eq_ok, Prod.mk.injEq] at h
      obtain ⟨closed, hc, rfl, -⟩ := h
      exact closeLifecycleRemaining_advances hc
    · obtain ⟨rfl, -⟩ := Prod.mk.inj (pure_eq_ok.mp h)
      exact ⟨[], .refl _⟩
  · obtain ⟨rfl, -⟩ := Prod.mk.inj (pure_eq_ok.mp h)
    exact ⟨[], .refl _⟩

/-- Normalizing the ratios leaves every other field. -/
lemma create_books {p : PositionFields} (h : create p = .ok after) :
    after.entryPrice = p.entryPrice ∧ after.entryFeeUsdt = p.entryFeeUsdt ∧
      after.initialQuantity = p.initialQuantity ∧ after.market = p.market ∧
      after.remainingQuantity = p.remainingQuantity ∧ after.exits = p.exits := by
  rw [create_eq_ok] at h
  rw [h, PositionFields.normalized]
  split_ifs <;> exact ⟨rfl, rfl, rfl, rfl, rfl, rfl⟩

/-- The translation back keeps entry, market, remaining quantity and amounts. -/
lemma managedPositionFromLifecycle_books {barsHeld : ℕ} {mfe : ℚ}
    {reasonOverride : Option BacktestExitReason}
    (h : position.managedPositionFromLifecycle final barsHeld mfe reasonOverride = .ok after) :
    after.entryPrice = position.entryPrice ∧ after.entryFeeUsdt = position.entryFeeUsdt ∧
      after.initialQuantity = position.initialQuantity ∧ after.market = position.market ∧
      after.remainingQuantity = final.remainingQuantity ∧
      after.exits.map (·.amounts) = final.exits.map (·.amounts) := by
  obtain ⟨h1, h2, h3, h4, h5, h6⟩ := create_books h
  refine ⟨h1, h2, h3, h4, h5, ?_⟩
  have hvirtual : (final.exits.map (·.virtual)).map (·.amounts) = final.exits.map (·.amounts) := by
    rw [List.map_map]
    rfl
  rw [h6]
  split
  · rw [withLastReason_amounts, hvirtual]
  · dsimp only
    split_ifs
    · rw [withLastReason_amounts, hvirtual]
    · exact hvirtual
  · exact hvirtual

/-- A lifecycle that started from a position and advanced gives the books of the
position it is translated back to. -/
lemma books_of_advances {newExits : List LifecycleExit}
    (hstart : position.lifecyclePosition = .ok lifecycle) (hadv : Advances lifecycle final newExits)
    (hafter : after.entryPrice = position.entryPrice ∧
      after.entryFeeUsdt = position.entryFeeUsdt ∧
      after.initialQuantity = position.initialQuantity ∧ after.market = position.market ∧
      after.remainingQuantity = final.remainingQuantity ∧
      after.exits.map (·.amounts) = final.exits.map (·.amounts)) : Books position after := by
  obtain ⟨h1, h2, h3, -, h5, h6⟩ := hafter
  simp only [lifecyclePosition, bind_eq_ok] at hstart
  obtain ⟨plan, -, hl⟩ := hstart
  rw [LifecyclePosition.create_eq_ok] at hl
  have hlen : lifecycle.exits.length = position.exits.length := by
    rw [hl]
    simp
  -- the exits past the old ones carry the amounts of the new exits
  have hnew : (after.exits.drop position.exits.length).map (·.amounts) =
      newExits.map (·.amounts) := by
    rw [List.map_drop, h6, hadv.exits_eq, List.map_append, List.drop_left']
    rw [List.length_map, hlen]
  refine ⟨h1, h2, h3, ?_, fun e he => ?_⟩
  · have hq : (after.exits.drop position.exits.length).map (·.quantity) =
        newExits.map (·.quantity) := by
      have := congrArg (List.map fun a => a.2.1) hnew
      simpa [List.map_map, Function.comp_def, VirtualPositionExit.amounts,
        LifecycleExit.amounts] using this
    rw [h5, hadv.remaining_eq, hq, hl]
  · have hmem : e.amounts ∈ newExits.map (·.amounts) := by
      rw [← hnew]
      exact List.mem_map_of_mem he
    obtain ⟨e', he', hee'⟩ := List.mem_map.mp hmem
    obtain ⟨hp, hq, hf, hn⟩ : e'.price = e.price ∧ e'.quantity = e.quantity ∧
        e'.feeUsdt = e.feeUsdt ∧ e'.netPnlUsdt = e.netPnlUsdt := by
      simpa [VirtualPositionExit.amounts, LifecycleExit.amounts] using hee'
    have hnet := hadv.netPnl e' he'
    rw [LifecyclePosition.NetPnl, hp, hq, hf, hn, hl] at hnet
    exact hnet

/-- One candle of a Spot position: the books of the position, and the portfolio
that books its new exits. -/
theorem processSpotPosition_books {portfolio : VirtualPortfolioState}
    {decision : VirtualPositionUpdateDecision}
    (h : position.processSpotPosition portfolio candle context = .ok decision) :
    Books position decision.positionAfter ∧ decision.positionAfter.market = position.market ∧
      position.spotPortfolioAfterPositionUpdate portfolio decision.positionAfter candle.close =
        .ok decision.portfolioAfter := by
  simp only [processSpotPosition, bind_eq_ok, raiseIf_eq_ok, pure_eq_ok] at h
  obtain ⟨_, -, _, -, lifecycle, hstart, processed, hp, protected', hb, ⟨final, reason⟩, hf,
    after, ha, portfolioAfter, hportfolio, _, -, rfl⟩ := h
  obtain ⟨newExits, hadv⟩ := PaperLifecycleEngine.processCandle_advances hp
  obtain ⟨newExits', hadv'⟩ := closeForced_advances hf
  have hafter := managedPositionFromLifecycle_books ha
  exact ⟨books_of_advances hstart ((hadv.trans (breakeven_advances hb)).trans hadv') hafter,
    hafter.2.2.2.1, hportfolio⟩

end VirtualManagedPosition

end Ai4Binance

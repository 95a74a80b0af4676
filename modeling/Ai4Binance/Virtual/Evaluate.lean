/-
One virtual decision (`VirtualMarketRuntime.evaluate` in
`application/virtual_runtime_engine.py`, with
`application/virtual_runtime_portfolio.py`,
`application/virtual_runtime_eligibility.py` and
`domain/blocker_reduction.py`).

A request passes through the fill preview, the blockers of the portfolio, of the
governor and of the request's own stages, and the eligibility that reduces them;
an eligible request becomes an intent and a new portfolio.

* `portfolioBlockers`, `portfolioGovernorBlockers`: the vetoes;
* `evaluateEligibility`: the ordered root causes;
* `spotPortfolioAfterFill`, `futuresPortfolioAfterFill`: the accounting;
* `evaluate`, and `evaluate_orderReady`, what an executable decision says.
-/
import Ai4Binance.Virtual.Request

open Text Check

namespace Ai4Binance

/-! ### Contracts -/

/-- `VirtualTradeIntent`. -/
structure VirtualTradeIntent where
  lineage : TradeLineage
  candidateId : String
  symbol : String
  market : Market
  action : Action
  quantity : ℚ
  entryPrice : ℚ
  stopLoss : ℚ
  takeProfitLevels : List ℚ
  reasonCodes : List String
  opportunityId : String
  positionSide : Option VirtualPositionSide
  deriving DecidableEq

/-- `VirtualTradeIntent.__post_init__` for an intent without blockers. -/
def VirtualTradeIntent.checks (i : VirtualTradeIntent) : List (Bool × String) :=
  [([i.lineage.snapshotId, i.lineage.decisionId, i.candidateId, i.symbol, i.opportunityId].any
        isBlank,
      "virtual trade intent identity is required")] ++
  uniqueNonblankChecks "virtual trade intent reason codes" i.reasonCodes ++
  [(decide (i.action ≠ .buy ∧ i.action ≠ .sell), "virtual trade intent action must be BUY or SELL"),
    (i.market = .usdMFutures ∧ i.positionSide = none,
      "futures virtual trade intent requires explicit direction"),
    (i.quantity ≤ 0 ∨ i.entryPrice ≤ 0 ∨ i.stopLoss ≤ 0 ∨ i.takeProfitLevels = [],
      "fillable virtual trade intent requires positive geometry")]

/-- A checked intent buys or sells, at a positive price. -/
lemma VirtualTradeIntent.of_passes {i : VirtualTradeIntent} (h : Passes i.checks) :
    (i.action = .buy ∨ i.action = .sell) ∧ 0 < i.entryPrice := by
  simp only [checks, passes_append, passes_cons, decide_eq_false_iff_not, not_or, not_le,
    not_and, not_not] at h
  refine ⟨?_, h.2.2.2.1.2.1⟩
  by_cases hbuy : i.action = .buy
  · exact .inl hbuy
  · exact .inr (h.2.1 hbuy)

/-- `VirtualSimulationEligibility`: the reason codes and the root causes. -/
structure VirtualSimulationEligibility where
  executionSurface : ExecutionSurface
  reasonCodes : List String
  blockers : List String
  deriving DecidableEq

/-- A simulation without blockers is eligible. -/
def VirtualSimulationEligibility.eligible (e : VirtualSimulationEligibility) : Prop :=
  e.blockers = []

instance (e : VirtualSimulationEligibility) : Decidable e.eligible :=
  inferInstanceAs (Decidable (e.blockers = []))

/-- `VirtualRuntimeDecision`, without the halt review of a vetoed decision.  The
status is `ORDER_READY` exactly when there is an intent. -/
structure VirtualRuntimeDecision where
  eligibility : VirtualSimulationEligibility
  tradeIntent : Option VirtualTradeIntent
  portfolioBefore : VirtualPortfolioState
  portfolioAfter : VirtualPortfolioState
  auditRefs : List String

/-! ### Eligibility -/

/-- The reason codes of the envelope of a surface. -/
def ExecutionSurface.reasonCodes : ExecutionSurface → List String
  | .binanceMarket =>
      ["BINANCE_MARKET", "HUMAN_HAND_MANUAL_ONLY", "AUTO_SIMULATION_DISABLED",
        "LIVE_ORDER_BLOCKED"]
  | .virtualMarket =>
      ["VIRTUAL_MARKET", "BOUNDED_AUTONOMOUS_SIMULATION", "EXTERNAL_ORDER_BLOCKED",
        "LIVE_ORDER_BLOCKED"]

/-- The blockers of the authority envelope of a surface. -/
def ExecutionSurface.authorityBlockers : ExecutionSurface → List String
  | .binanceMarket =>
      ["EXECUTION_SURFACE_NOT_VIRTUAL_MARKET", "VIRTUAL_SIMULATION_NOT_ALLOWED",
        "AUTO_SIMULATION_NOT_ALLOWED"]
  | .virtualMarket => []

/-- `evaluate_virtual_simulation_eligibility`, on the blockers of the stages in
their order, each with its name. -/
def evaluateEligibility (surface : ExecutionSurface) (stages : List (String × List String)) :
    Except PyError VirtualSimulationEligibility := do
  let groups := stages ++ [("authority blockers", surface.authorityBlockers)]
  let groupChecks := groups.flatMap fun g => uniqueNonblankChecks g.1 g.2
  raiseIf (¬ Passes groupChecks) (.value (firstRefusal groupChecks))
  let blockers := (groups.flatMap (·.2)).eraseDups
  return {
    executionSurface := surface
    reasonCodes :=
      if blockers = [] then surface.reasonCodes else (surface.reasonCodes ++ blockers).eraseDups
    blockers }

namespace VirtualRuntimeRequest

variable (request : VirtualRuntimeRequest) (preview : VirtualFillPreview)

/-! ### Vetoes -/

/-- `_futures_blockers`. -/
def futuresBlockers : List String :=
  match request.positionSide with
  | none => ["FUTURES_POSITION_SIDE_REQUIRED"]
  | some side =>
      match request.markPrice, request.fundingRate, request.leverage, request.isolatedMarginUsdt,
        request.maintenanceMarginRatio with
      | some _, some _, some leverage, some isolatedMargin, some maintenanceMarginRatio =>
          failedCodes
            [(side = .long ∧ (preview.executionPrice ≤ request.stopLoss ∨
                  request.takeProfitLevels.any (· ≤ preview.executionPrice)),
                "FUTURES_LONG_GEOMETRY_INVALID"),
              (side = .short ∧ (request.stopLoss ≤ preview.executionPrice ∨
                  request.takeProfitLevels.any (preview.executionPrice ≤ ·)),
                "FUTURES_SHORT_GEOMETRY_INVALID"),
              (isolatedMargin < preview.grossNotionalUsdt / leverage,
                "INSUFFICIENT_VIRTUAL_MARGIN"),
              (isolatedMargin ≤ preview.grossNotionalUsdt * maintenanceMarginRatio,
                "LIQUIDATION_BUFFER_INSUFFICIENT")]
      | _, _, _, _, _ =>
          failedCodes
            [(request.markPrice = none, "FUTURES_MARK_PRICE_UNAVAILABLE"),
              (request.fundingRate = none, "FUNDING_DATA_UNAVAILABLE"),
              (request.leverage = none, "FUTURES_LEVERAGE_UNAVAILABLE"),
              (request.isolatedMarginUsdt = none, "FUTURES_ISOLATED_MARGIN_UNAVAILABLE"),
              (request.maintenanceMarginRatio = none, "FUTURES_MAINTENANCE_MARGIN_UNAVAILABLE")]

/-- `build_virtual_portfolio_blockers`. -/
def portfolioBlockers : List String :=
  let portfolio := request.portfolio
  let full := portfolio.maxConcurrentPositions ≤ portfolio.openPositionCount
  (failedCodes
    [(request.market ≠ portfolio.market, "PORTFOLIO_MARKET_MISMATCH"),
      (full ∧ (request.action = .buy ∨ portfolio.market ≠ .spot), "PORTFOLIO_CAPACITY_EXCEEDED"),
      (portfolio.market = .spot ∧ request.action = .buy ∧
          portfolio.cashUsdt < preview.grossNotionalUsdt + preview.feeUsdt,
        "INSUFFICIENT_VIRTUAL_CASH"),
      (portfolio.market = .spot ∧ request.action = .sell ∧
          portfolio.inventoryQuantity < request.quantity,
        "SPOT_INVENTORY_INSUFFICIENT")] ++
    if portfolio.market = .usdMFutures then request.futuresBlockers preview else []).eraseDups

/-- `_default_current_exposures`. -/
def defaultCurrentExposures : Except PyError (List PositionExposure) :=
  let portfolio := request.portfolio
  match portfolio.market, portfolio.positionNotionalUsdt with
  | .spot, _ =>
      if 0 < portfolio.inventoryQuantity then do
        let price := (portfolio.positionEntryPrice.filter (· ≠ 0)).getD
          (portfolio.inventoryCostBasisUsdt / portfolio.inventoryQuantity)
        let exposure ← PositionExposure.create request.symbol request.lineage.strategyId
          request.correlationGroup (portfolio.inventoryQuantity * price)
        return [exposure]
      else return []
  | .usdMFutures, some notional =>
      if 0 < portfolio.openPositionCount then do
        let exposure ← PositionExposure.create request.symbol request.lineage.strategyId
          request.correlationGroup notional
        return [exposure]
      else return []
  | .usdMFutures, none => return []

/-- `_proposed_risk_usdt`. -/
def proposedRiskUsdt : ℚ :=
  match request.portfolio.market with
  | .usdMFutures => |preview.executionPrice - request.stopLoss| * preview.filledQuantity
  | .spot => max (preview.executionPrice - request.stopLoss) 0 * preview.filledQuantity

/-- The margin utilization that a Futures entry would lead to. -/
def projectedMarginUtilization : Option ℚ :=
  match request.isolatedMarginUsdt, request.fundingRate, request.markPrice with
  | some isolatedMargin, some fundingRate, some markPrice =>
      let fundingCost :=
        if request.fundingPaymentDue then |fundingRate| * preview.grossNotionalUsdt else 0
      let sign : ℚ := if request.positionSide = some .long then 1 else -1
      let markLoss := max 0 ((preview.executionPrice - markPrice) * sign) * preview.filledQuantity
      let equityAfterCosts :=
        request.portfolio.equityUsdt - preview.feeUsdt - fundingCost - markLoss
      if 0 < equityAfterCosts then
        some ((request.portfolio.isolatedMarginUsdt.getD 0 + isolatedMargin) / equityAfterCosts)
      else none
  | _, _, _ => none

/-- `_futures_margin_blockers`. -/
def futuresMarginBlockers : List String :=
  let portfolio := request.portfolio
  let current :=
    if portfolio.marginUtilizationRatio = none ∧ portfolio.openPositionCount = 0 ∧
        portfolio.isolatedMarginUsdt.all (· = 0) then some 0
    else portfolio.marginUtilizationRatio
  (request.portfolioGovernor.futuresEntryBlockers request.leverage current
      (request.projectedMarginUtilization preview) ++
    if request.requireStructuralMarginProof then
      request.portfolioGovernor.structuralMarginBlockers request.structuralMarginContext
        request.leverage request.lineage.snapshotId request.symbol preview.executionPrice
        request.stopLoss preview.filledQuantity request.markPrice request.isolatedMarginUsdt
        (2 * (request.feeRatio + request.slippageRatio + request.halfSpreadRatio) +
          request.liquidationFeeRatio)
        (min (request.structuralRiskBudgetUsdt.getD 0)
          request.portfolioGovernor.maximumRiskPerTradeUsdt)
    else []).eraseDups

/-- `_portfolio_governor_blockers`. -/
def portfolioGovernorBlockers : Except PyError (List String) := do
  let governor := request.portfolioGovernor
  let portfolio := request.portfolio
  let spotSell : Bool := portfolio.market = .spot ∧ request.action = .sell
  let current ←
    if request.currentExposures = [] then request.defaultCurrentExposures
    else pure request.currentExposures
  let proposedBlockers ←
    if spotSell then pure []
    else do
      let proposed ← PositionExposure.create request.symbol request.lineage.strategyId
        request.correlationGroup preview.grossNotionalUsdt
      pure (assessProposedExposure current proposed governor.exposurePolicy)
  let proposedRisk := request.proposedRiskUsdt preview
  return (assessCurrentExposure current governor.exposurePolicy ++ proposedBlockers ++
    failedCodes
      [(governor.maximumRiskPerTradeUsdt < proposedRisk, "VIRTUAL_RISK_PER_TRADE_LIMIT_EXCEEDED"),
        (governor.maximumOpenRiskUsdt < portfolio.currentOpenRiskUsdt + proposedRisk,
          "VIRTUAL_OPEN_RISK_LIMIT_EXCEEDED"),
        (governor.maximumDrawdownRatio < portfolio.maxDrawdownRatio,
          "VIRTUAL_DRAWDOWN_LIMIT_EXCEEDED"),
        (governor.maximumConsecutiveLosses ≤ portfolio.consecutiveLosses ∧
            0 < governor.maximumConsecutiveLosses,
          "VIRTUAL_LOSS_STREAK_LIMIT_EXCEEDED"),
        (!spotSell ∧ portfolio.maxConcurrentPositions ≤ portfolio.openPositionCount,
          "VIRTUAL_MAX_CONCURRENT_POSITIONS_EXCEEDED")] ++
    if portfolio.market = .usdMFutures then request.futuresMarginBlockers preview
    else []).eraseDups

/-! ### The portfolio after a fill -/

/-- The amounts `_spot_portfolio_after_fill` computes first: cash, inventory,
cost basis, realized PnL and number of open positions. -/
structure SpotLedger where
  cashUsdt : ℚ
  inventoryQuantity : ℚ
  inventoryCostBasisUsdt : ℚ
  realizedPnlDelta : ℚ
  openPositionCount : ℕ

/-- The ledger after a buy. -/
def ledgerAfterBuy : SpotLedger where
  cashUsdt := request.portfolio.cashUsdt - (preview.grossNotionalUsdt + preview.feeUsdt)
  inventoryQuantity := request.portfolio.inventoryQuantity + preview.filledQuantity
  inventoryCostBasisUsdt := request.portfolio.inventoryCostBasisUsdt + preview.grossNotionalUsdt
  realizedPnlDelta := 0
  openPositionCount := request.portfolio.openPositionCount + 1

/-- The ledger after a sell, which releases the cost of the quantity at the
average cost of the inventory. -/
def ledgerAfterSell : SpotLedger :=
  let portfolio := request.portfolio
  let averageCost :=
    if 0 < portfolio.inventoryQuantity then
      portfolio.inventoryCostBasisUsdt / portfolio.inventoryQuantity
    else 0
  let releasedCostBasis := averageCost * preview.filledQuantity
  let proceeds := preview.grossNotionalUsdt - preview.feeUsdt
  let inventoryQuantity := portfolio.inventoryQuantity - preview.filledQuantity
  { cashUsdt := portfolio.cashUsdt + proceeds
    inventoryQuantity
    inventoryCostBasisUsdt :=
      if inventoryQuantity = 0 then 0 else portfolio.inventoryCostBasisUsdt - releasedCostBasis
    realizedPnlDelta := proceeds - releasedCostBasis
    openPositionCount :=
      if inventoryQuantity = 0 then portfolio.openPositionCount - 1
      else portfolio.openPositionCount }

/-- The ledger after a fill. -/
def spotLedger : SpotLedger :=
  if request.action = .buy then request.ledgerAfterBuy preview
  else request.ledgerAfterSell preview

/-- `_spot_portfolio_after_fill`. -/
def spotPortfolioAfterFill : Except PyError VirtualPortfolioState :=
  let portfolio := request.portfolio
  let ledger := request.spotLedger preview
  let markValue := ledger.inventoryQuantity * preview.executionPrice
  let equityUsdt := ledger.cashUsdt + markValue
  let highWatermark := max portfolio.highWatermarkUsdt equityUsdt
  let drawdown := if 0 < highWatermark then (highWatermark - equityUsdt) / highWatermark else 0
  VirtualPortfolioState.create
    { portfolio.toPortfolioFields with
      cashUsdt := ledger.cashUsdt
      equityUsdt
      inventoryQuantity := ledger.inventoryQuantity
      inventoryCostBasisUsdt := ledger.inventoryCostBasisUsdt
      realizedPnlUsdt := portfolio.realizedPnlUsdt + ledger.realizedPnlDelta
      unrealizedPnlUsdt := markValue - ledger.inventoryCostBasisUsdt
      feesPaidUsdt := portfolio.feesPaidUsdt + preview.feeUsdt
      slippageCostUsdt := portfolio.slippageCostUsdt + preview.slippageCostUsdt
      highWatermarkUsdt := highWatermark
      maxDrawdownRatio := max portfolio.maxDrawdownRatio drawdown
      currentOpenRiskUsdt :=
        max (preview.filledQuantity * max (preview.executionPrice - request.stopLoss) 0) 0
      openPositionCount := ledger.openPositionCount }

/-- `_futures_portfolio_after_fill`; the five Futures terms of the request are
present in a request that the vetoes let through. -/
def futuresPortfolioAfterFill (side : VirtualPositionSide)
    (markPrice fundingRate isolatedMargin maintenanceMarginRatio : ℚ) (leverage : ℤ) :
    Except PyError VirtualPortfolioState :=
  let portfolio := request.portfolio
  let notional := preview.grossNotionalUsdt
  let maintenanceMargin := notional * maintenanceMarginRatio
  let sign : ℚ := match side with
    | .long => 1
    | .short => -1
  let unrealizedPnl := (markPrice - preview.executionPrice) * sign * preview.filledQuantity
  let liquidationPrice := preview.executionPrice -
    sign * ((isolatedMargin - maintenanceMargin) / preview.filledQuantity)
  let fundingCost := if request.fundingPaymentDue then sign * notional * fundingRate else 0
  let availableCash := portfolio.cashUsdt - isolatedMargin - preview.feeUsdt - fundingCost
  let equityUsdt := availableCash + isolatedMargin + unrealizedPnl
  let highWatermark := max portfolio.highWatermarkUsdt equityUsdt
  let drawdown := if 0 < highWatermark then (highWatermark - equityUsdt) / highWatermark else 0
  VirtualPortfolioState.create
    { portfolio.toPortfolioFields with
      cashUsdt := availableCash
      equityUsdt
      realizedPnlUsdt := portfolio.realizedPnlUsdt - fundingCost
      unrealizedPnlUsdt := unrealizedPnl
      feesPaidUsdt := portfolio.feesPaidUsdt + preview.feeUsdt
      slippageCostUsdt := portfolio.slippageCostUsdt + preview.slippageCostUsdt
      fundingCostUsdt := portfolio.fundingCostUsdt + fundingCost
      highWatermarkUsdt := highWatermark
      maxDrawdownRatio := max portfolio.maxDrawdownRatio drawdown
      currentOpenRiskUsdt := |preview.executionPrice - request.stopLoss| * preview.filledQuantity
      positionSide := some side
      positionEntryPrice := some preview.executionPrice
      positionMarkPrice := some markPrice
      positionNotionalUsdt := some notional
      isolatedMarginUsdt := some isolatedMargin
      initialMarginUsdt := some (notional / leverage)
      maintenanceMarginUsdt := some maintenanceMargin
      liquidationPrice := some liquidationPrice
      leverage := some leverage
      marginUtilizationRatio :=
        some (if 0 < equityUsdt then min 1 (isolatedMargin / equityUsdt) else 0)
      openPositionCount := 1 }

/-- `_portfolio_after_fill`. -/
def portfolioAfterFill : Except PyError VirtualPortfolioState :=
  match request.portfolio.market with
  | .spot => request.spotPortfolioAfterFill preview
  | .usdMFutures =>
      match request.positionSide, request.markPrice, request.fundingRate,
        request.isolatedMarginUsdt, request.maintenanceMarginRatio, request.leverage with
      | some side, some markPrice, some fundingRate, some isolatedMargin, some maintenance,
        some leverage =>
          request.futuresPortfolioAfterFill preview side markPrice fundingRate isolatedMargin
            maintenance leverage
      | _, _, _, _, _, _ => .error .attribute

/-! ### The decision -/

/-- The intent of an eligible request. -/
def tradeIntent (eligibility : VirtualSimulationEligibility) : VirtualTradeIntent where
  lineage := request.lineage
  candidateId := request.candidateId
  symbol := request.symbol
  market := request.market
  action := request.action
  quantity := preview.filledQuantity
  entryPrice := preview.executionPrice
  stopLoss := request.stopLoss
  takeProfitLevels := request.takeProfitLevels
  reasonCodes := (eligibility.reasonCodes ++ preview.reasonCodes).eraseDups
  opportunityId := request.opportunity
  positionSide := request.positionSide

/-- The eligibility of a request with a fill preview. -/
def eligibility : Except PyError VirtualSimulationEligibility := do
  let governorBlockers ← request.portfolioGovernorBlockers preview
  evaluateEligibility request.executionSurface
    [("analysis blockers", request.analysisBlockers),
      ("candidate blockers", request.candidateBlockers),
      ("risk blockers", request.riskBlockers),
      ("validation blockers", request.validationBlockers),
      ("dge blockers", request.effectiveDgeBlockers),
      ("portfolio blockers", (request.portfolioBlockers preview ++ governorBlockers).eraseDups),
      ("feasibility blockers", preview.blockers)]

/-- The executable decision of an eligible request. -/
def orderReady (eligibility : VirtualSimulationEligibility) :
    Except PyError VirtualRuntimeDecision := do
  let intent := request.tradeIntent preview eligibility
  raiseIf (¬ Passes intent.checks) (.value (firstRefusal intent.checks))
  let portfolioAfter ← request.portfolioAfterFill preview
  let auditRefs :=
    [request.lineage.snapshotId, request.lineage.decisionId, request.portfolio.portfolioId]
  let auditChecks := uniqueNonblankChecks "virtual runtime audit refs" auditRefs
  raiseIf (¬ Passes auditChecks) (.value (firstRefusal auditChecks))
  return {
    eligibility
    tradeIntent := some intent
    portfolioBefore := request.portfolio
    portfolioAfter
    auditRefs }

/-- The decision of a vetoed request, which leaves the portfolio as it is. -/
def noAction (eligibility : VirtualSimulationEligibility) :
    Except PyError VirtualRuntimeDecision := do
  let auditRefs :=
    [request.lineage.snapshotId, request.lineage.decisionId, request.portfolio.portfolioId]
  let auditChecks := uniqueNonblankChecks "virtual runtime audit refs" auditRefs
  raiseIf (¬ Passes auditChecks) (.value (firstRefusal auditChecks))
  return {
    eligibility
    tradeIntent := none
    portfolioBefore := request.portfolio
    portfolioAfter := request.portfolio
    auditRefs }

/-- `VirtualMarketRuntime.evaluate`. -/
def evaluate : Except PyError VirtualRuntimeDecision := do
  let preview ← request.fillPreview
  let eligibility ← request.eligibility preview
  if eligibility.eligible then request.orderReady preview eligibility
  else request.noAction eligibility

/-! ### What an executable decision says -/

/-- An eligible request has no blockers of any stage. -/
lemma blockers_eq_nil {eligibility : VirtualSimulationEligibility}
    (h : request.eligibility preview = .ok eligibility) (he : eligibility.eligible) :
    preview.blockers = [] ∧ request.portfolioBlockers preview = [] := by
  simp only [VirtualRuntimeRequest.eligibility, evaluateEligibility, bind_eq_ok, raiseIf_eq_ok,
    pure_eq_ok] at h
  obtain ⟨governorBlockers, -, _, -, rfl⟩ := h
  rw [VirtualSimulationEligibility.eligible] at he
  simp only [Check.eraseDups_eq_nil, List.flatMap_cons, List.cons_append, List.append_eq_nil_iff]
    at he
  exact ⟨he.2.2.2.2.2.2.1, he.2.2.2.2.2.1.1⟩

/-- What an executable decision says: the request is a buy or a sell, it is
filled without blockers, and the decision carries the portfolio after that fill. -/
structure Executes (decision : VirtualRuntimeDecision) : Prop where
  fillPreview_eq : request.fillPreview = .ok preview
  blockers_nil : preview.blockers = []
  portfolioBlockers_nil : request.portfolioBlockers preview = []
  action_eq : request.action = .buy ∨ request.action = .sell
  price_pos : 0 < preview.executionPrice
  portfolioAfter_eq : request.portfolioAfterFill preview = .ok decision.portfolioAfter
  intent_eq : decision.tradeIntent = some (request.tradeIntent preview decision.eligibility)

/-- Inversion of an executable decision. -/
theorem evaluate_orderReady {decision : VirtualRuntimeDecision}
    (h : request.evaluate = .ok decision) (hready : decision.tradeIntent.isSome) :
    ∃ preview, request.Executes preview decision := by
  simp only [evaluate, bind_eq_ok] at h
  obtain ⟨preview, hp, eligibility, he, h⟩ := h
  split_ifs at h with hel
  · simp only [orderReady, bind_eq_ok, raiseIf_eq_ok, not_not, pure_eq_ok] at h
    obtain ⟨_, hintent, portfolioAfter, hafter, _, -, rfl⟩ := h
    obtain ⟨hb, hpb⟩ := blockers_eq_nil request preview he hel
    obtain ⟨haction, hprice⟩ := VirtualTradeIntent.of_passes hintent
    exact ⟨preview, hp, hb, hpb, haction, hprice, hafter, rfl⟩
  · simp only [noAction, bind_eq_ok, raiseIf_eq_ok, pure_eq_ok] at h
    obtain ⟨_, -, rfl⟩ := h
    exact absurd hready (by simp)

end VirtualRuntimeRequest

end Ai4Binance

/-
One accepted Spot evaluation as a step between portfolios.

* `SpotStep`: a request is evaluated on its portfolio, is executable, and leads
  to the next portfolio;
* `FillEffect`: what the step does, field by field, in terms of the fill and of
  the ledger it makes; `spotStep_effect` is the one place where the definitions
  of the evaluation are taken apart.
-/
import Ai4Binance.Virtual.Evaluate

open Check

namespace Ai4Binance

/-- The request is evaluated on the portfolio, is executable, and leads to the
next portfolio. -/
def SpotStep (p : VirtualPortfolioState) (request : VirtualRuntimeRequest)
    (q : VirtualPortfolioState) : Prop :=
  request.portfolio = p ∧ p.market = .spot ∧
    ∃ decision, request.evaluate = .ok decision ∧ decision.tradeIntent.isSome ∧
      decision.portfolioAfter = q

/-- What a fill does to a Spot portfolio. -/
structure FillEffect (p : VirtualPortfolioState) (request : VirtualRuntimeRequest)
    (preview : VirtualFillPreview) (q : VirtualPortfolioState) : Prop where
  fillPreview_eq : request.fillPreview = .ok preview
  filled : request.Filled preview
  action_eq : request.action = .buy ∨ request.action = .sell
  sell_le : request.action = .sell → request.quantity ≤ p.inventoryQuantity
  market_eq : q.market = .spot
  cash_eq : q.cashUsdt = (request.spotLedger preview).cashUsdt
  inventory_eq : q.inventoryQuantity = (request.spotLedger preview).inventoryQuantity
  costBasis_eq : q.inventoryCostBasisUsdt = (request.spotLedger preview).inventoryCostBasisUsdt
  realized_eq : q.realizedPnlUsdt =
    p.realizedPnlUsdt + (request.spotLedger preview).realizedPnlDelta
  fees_eq : q.feesPaidUsdt = p.feesPaidUsdt + preview.feeUsdt
  equity_eq : q.equityUsdt = q.cashUsdt + q.inventoryQuantity * preview.executionPrice
  openRisk_eq : q.currentOpenRiskUsdt =
    max (preview.filledQuantity * max (preview.executionPrice - request.stopLoss) 0) 0
  count_eq : q.openPositionCount = (request.spotLedger preview).openPositionCount

/-- A sell that no blocker stops finds its quantity in the inventory. -/
lemma VirtualRuntimeRequest.quantity_le_inventory {request : VirtualRuntimeRequest}
    {preview : VirtualFillPreview} (hspot : request.portfolio.market = .spot)
    (hb : request.portfolioBlockers preview = []) (hsell : request.action = .sell) :
    request.quantity ≤ request.portfolio.inventoryQuantity := by
  by_contra hlt
  rw [VirtualRuntimeRequest.portfolioBlockers, Check.eraseDups_eq_nil,
    List.append_eq_nil_iff] at hb
  have h := hb.1
  simp [failedCodes, hspot, hsell, not_le.mp hlt] at h

/-- The effect of an executable decision on the portfolio of its request. -/
theorem VirtualRuntimeRequest.Executes.fillEffect {request : VirtualRuntimeRequest}
    {preview : VirtualFillPreview} {decision : VirtualRuntimeDecision}
    (hex : request.Executes preview decision) (hspot : request.portfolio.market = .spot) :
    FillEffect request.portfolio request preview decision.portfolioAfter := by
  have hafter := hex.portfolioAfter_eq
  simp only [VirtualRuntimeRequest.portfolioAfterFill, hspot] at hafter
  rw [VirtualRuntimeRequest.spotPortfolioAfterFill, VirtualPortfolioState.create_eq_ok] at hafter
  refine ⟨hex.fillPreview_eq, request.fillPreview_spec hex.fillPreview_eq hex.blockers_nil,
    hex.action_eq, VirtualRuntimeRequest.quantity_le_inventory hspot hex.portfolioBlockers_nil,
    ?_, ?_, ?_, ?_, ?_, ?_, ?_, ?_, ?_⟩
  · rw [hafter]
    exact hspot
  all_goals rw [hafter]

/-- **What one fill does.** -/
theorem spotStep_effect {p q : VirtualPortfolioState} {request : VirtualRuntimeRequest}
    (h : SpotStep p request q) : ∃ preview, FillEffect p request preview q := by
  obtain ⟨rfl, hspot, decision, hok, hready, rfl⟩ := h
  obtain ⟨preview, hex⟩ := request.evaluate_orderReady hok hready
  exact ⟨preview, hex.fillEffect hspot⟩

namespace FillEffect

variable {p q : VirtualPortfolioState} {request : VirtualRuntimeRequest}
  {preview : VirtualFillPreview}

/-- A buy moves the notional from cash into inventory and pays the fee. -/
lemma buy (h : FillEffect p request preview q) (hp : request.portfolio = p)
    (hbuy : request.action = .buy) :
    q.cashUsdt = p.cashUsdt - (preview.grossNotionalUsdt + preview.feeUsdt) ∧
      q.inventoryQuantity = p.inventoryQuantity + preview.filledQuantity ∧
      q.inventoryCostBasisUsdt = p.inventoryCostBasisUsdt + preview.grossNotionalUsdt ∧
      q.realizedPnlUsdt = p.realizedPnlUsdt ∧ q.openPositionCount = p.openPositionCount + 1 := by
  rw [h.cash_eq, h.inventory_eq, h.costBasis_eq, h.realized_eq, h.count_eq,
    VirtualRuntimeRequest.spotLedger, if_pos hbuy, VirtualRuntimeRequest.ledgerAfterBuy, hp]
  exact ⟨rfl, rfl, rfl, add_zero _, rfl⟩

/-- A sell releases the cost of the quantity at the average cost. -/
lemma sell (h : FillEffect p request preview q) (hp : request.portfolio = p)
    (hsell : request.action = .sell) :
    q.cashUsdt = p.cashUsdt + (preview.grossNotionalUsdt - preview.feeUsdt) ∧
      q.inventoryQuantity = p.inventoryQuantity - preview.filledQuantity ∧
      q.inventoryCostBasisUsdt = (if q.inventoryQuantity = 0 then 0 else
        p.inventoryCostBasisUsdt -
          p.inventoryCostBasisUsdt / p.inventoryQuantity * preview.filledQuantity) ∧
      q.realizedPnlUsdt = p.realizedPnlUsdt + (preview.grossNotionalUsdt - preview.feeUsdt -
        p.inventoryCostBasisUsdt / p.inventoryQuantity * preview.filledQuantity) ∧
      q.openPositionCount =
        if q.inventoryQuantity = 0 then p.openPositionCount - 1 else p.openPositionCount := by
  have hne : request.action ≠ .buy := by rw [hsell]; decide
  rw [h.cash_eq, h.inventory_eq, h.costBasis_eq, h.realized_eq, h.count_eq,
    VirtualRuntimeRequest.spotLedger, if_neg hne, VirtualRuntimeRequest.ledgerAfterSell, hp]
  dsimp only
  rcases p.balances_nonneg.2.1.eq_or_lt with h0 | hpos
  · -- division by an empty inventory is zero, as the code's average cost is
    rw [← h0]
    simp
  · rw [if_pos hpos]
    exact ⟨rfl, rfl, rfl, rfl, rfl⟩

end FillEffect

/-! ### Sample requests -/

/-- A decision with a given portfolio makes a step. -/
lemma spotStep_of_evaluate {request : VirtualRuntimeRequest} {q : VirtualPortfolioState}
    (hspot : request.portfolio.market = .spot)
    (h : request.evaluate.toOption.map (fun d => (d.tradeIntent.isSome,
      d.portfolioAfter.toPortfolioFields)) = some (true, q.toPortfolioFields)) :
    SpotStep request.portfolio request q := by
  obtain ⟨d, hd, heq⟩ := Option.map_eq_some_iff.mp h
  obtain ⟨hready, hfields⟩ := Prod.mk.inj heq
  exact ⟨rfl, hspot, d, toOption_eq_some.mp hd, hready,
    VirtualPortfolioState.eq_of_fields_eq hfields⟩

/-- An approved request for one unit of BTCUSDT. -/
def unitRequest (portfolio : VirtualPortfolioState) (action : Action)
    (price stop feeRatio : ℚ) : RequestFields where
  candidateId := "c1"
  symbol := "BTCUSDT"
  market := .spot
  action
  quantity := 1
  entryPrice := price
  stopLoss := stop
  takeProfitLevels := [130]
  portfolio
  feeRatio
  lineage := { snapshotId := "s1", decisionId := "d1", dgeDecision := "APPROVED_PAPER_ONLY" }
  dgeSimulationAllowed := true

/-- A wallet with a thousand in cash. -/
def freshWallet : VirtualPortfolioState where
  portfolioId := "virtual-spot"
  market := .spot
  cashUsdt := 1000
  equityUsdt := 1000
  passes := by decide +kernel

end Ai4Binance

/-
One accepted Futures evaluation.

An entry that no veto stops has all its Futures terms, and its geometry and its
margin satisfy the vetoes of `_futures_blockers`; the portfolio after the fill is
then given by the fill and these terms alone.

* `FuturesTerms`: the direction, prices and margin of an entry;
* `EntersFutures`: what the vetoes leave of a request;
* `FuturesFillEffect`: what the fill does to the portfolio, field by field.
-/
import Ai4Binance.Virtual.Evaluate
import Ai4Binance.Virtual.FuturesPosition

open Text Check

namespace Ai4Binance

/-- The Futures terms of a request. -/
structure FuturesTerms where
  side : VirtualPositionSide
  markPrice : ℚ
  fundingRate : ℚ
  isolatedMargin : ℚ
  maintenanceMarginRatio : ℚ
  leverage : ℤ
  deriving DecidableEq

namespace VirtualRuntimeRequest

variable (request : VirtualRuntimeRequest)

/-! ### What the constructor of a request promises -/

/-- The market of a request is that of its portfolio. -/
lemma market_eq : request.market = request.portfolio.market := by
  have h := request.passes
  simp only [RequestFields.checks, passes_append, passes_cons, decide_eq_false_iff_not,
    not_not] at h
  exact h.2.2.2.2.2.2.2.2.2.2.2.2.2.2.2.2.1

/-- The fee ratio and the stop of a request, and its liquidation fee. -/
lemma ratios_bounds : 0 ≤ request.feeRatio ∧ 0 < request.stopLoss ∧
    0 ≤ request.liquidationFeeRatio ∧ request.liquidationFeeRatio ≤ 2 / 100 ∧
    0 < request.tickSize.toRat := by
  have h := request.passes
  simp only [RequestFields.checks, passes_append, passes_cons, decide_eq_false_iff_not, not_or,
    not_le, not_lt] at h
  obtain ⟨-, -, hgeometry, -, hfee, -, -, htick, -, -, -, -, -, -, -, hliq, -⟩ := h
  exact ⟨hfee.1, hgeometry.2.2, hliq.1, hliq.2, htick⟩

/-- The bounds of the Futures terms that a request carries. -/
lemma terms_bounds : (∀ m ∈ request.markPrice, 0 < m) ∧ (∀ l ∈ request.leverage, 1 ≤ l) ∧
    (∀ m ∈ request.isolatedMarginUsdt, 0 < m) ∧
    ∀ r ∈ request.maintenanceMarginRatio, 0 < r ∧ r < 1 := by
  have h := request.passes
  simp only [RequestFields.checks, passes_append, passes_cons, Option.any_eq_false,
    decide_eq_false_iff_not, not_or, not_le, not_lt] at h
  obtain ⟨-, -, -, -, -, -, -, -, -, -, -, hmark, hleverage, hisolated, hratio, -⟩ := h
  exact ⟨hmark, hleverage, hisolated, hratio⟩

/-- The texts that identify a request are not blank. -/
lemma identity_nonblank : ∀ text ∈ request.lineage.texts ++
    [request.candidateId, request.symbol, request.correlationGroup, request.opportunity],
    isBlank text = false := by
  have h := request.passes
  simp only [RequestFields.checks, passes_append, passes_cons, List.any_eq_false,
    Bool.not_eq_true] at h
  exact h.1.1.1.2.1

/-- The reasons of an entry are distinct and not blank. -/
lemma entryReason_valid :
    Passes (uniqueNonblankChecks "virtual managed position entry reason" request.entryReason) := by
  have h := request.passes
  simp only [RequestFields.checks, passes_append, RequestFields.uniqueValuesChecks,
    passes_cons] at h
  simp only [uniqueNonblankChecks, passes_cons]
  exact ⟨h.1.1.2.2.1, h.1.1.2.1, passes_nil⟩

end VirtualRuntimeRequest

/-! ### An entry that no veto stops -/

/-- The request carries the terms, and its fill passes the vetoes of a Futures
entry. -/
structure EntersFutures (request : VirtualRuntimeRequest) (preview : VirtualFillPreview)
    (terms : FuturesTerms) : Prop where
  side_eq : request.positionSide = some terms.side
  mark_eq : request.markPrice = some terms.markPrice
  funding_eq : request.fundingRate = some terms.fundingRate
  isolated_eq : request.isolatedMarginUsdt = some terms.isolatedMargin
  maintenance_eq : request.maintenanceMarginRatio = some terms.maintenanceMarginRatio
  leverage_eq : request.leverage = some terms.leverage
  long_geometry : terms.side = .long → request.stopLoss < preview.executionPrice ∧
    ∀ target ∈ request.takeProfitLevels, preview.executionPrice < target
  short_geometry : terms.side = .short → preview.executionPrice < request.stopLoss ∧
    ∀ target ∈ request.takeProfitLevels, target < preview.executionPrice
  initial_le : preview.grossNotionalUsdt / terms.leverage ≤ terms.isolatedMargin
  maintenance_lt : preview.grossNotionalUsdt * terms.maintenanceMarginRatio < terms.isolatedMargin

lemma failedCodes_eq_nil_iff {l : List (Bool × String)} :
    failedCodes l = [] ↔ ∀ c ∈ l, c.1 = false := by
  simp [failedCodes]

/-- Inversion of the vetoes of a Futures entry. -/
theorem entersFutures_of_blockers {request : VirtualRuntimeRequest} {preview : VirtualFillPreview}
    (h : request.futuresBlockers preview = []) : ∃ terms, EntersFutures request preview terms := by
  rw [VirtualRuntimeRequest.futuresBlockers] at h
  split at h
  · simp at h
  · next side hside =>
    split at h
    · next mark rate leverage isolated ratio hmark hrate hleverage hisolated hratio =>
      simp only [failedCodes_eq_nil_iff, List.mem_cons, List.not_mem_nil, or_false,
        forall_eq_or_imp, forall_eq, decide_eq_false_iff_not, not_and, not_or, not_le, not_lt,
        List.any_eq_true, not_exists, decide_eq_true_eq] at h
      obtain ⟨hlong, hshort, hinitial, hmaintenance⟩ := h
      exact ⟨⟨side, mark, rate, isolated, ratio, leverage⟩, hside, hmark, hrate, hisolated, hratio,
        hleverage, hlong, hshort, hinitial, hmaintenance⟩
    · next hnone =>
      exfalso
      simp only [failedCodes_eq_nil_iff, List.mem_cons, List.not_mem_nil, or_false,
        forall_eq_or_imp, forall_eq, decide_eq_false_iff_not] at h
      obtain ⟨h1, h2, h3, h4, h5⟩ := h
      obtain ⟨mark, hmark⟩ := Option.ne_none_iff_exists'.mp h1
      obtain ⟨rate, hrate⟩ := Option.ne_none_iff_exists'.mp h2
      obtain ⟨leverage, hleverage⟩ := Option.ne_none_iff_exists'.mp h3
      obtain ⟨isolated, hisolated⟩ := Option.ne_none_iff_exists'.mp h4
      obtain ⟨ratio, hratio⟩ := Option.ne_none_iff_exists'.mp h5
      exact hnone _ _ _ _ _ hmark hrate hleverage hisolated hratio

/-- An executable Futures decision enters with all its terms. -/
lemma VirtualRuntimeRequest.Executes.entersFutures {request : VirtualRuntimeRequest}
    {preview : VirtualFillPreview} {decision : VirtualRuntimeDecision}
    (hex : request.Executes preview decision) (hm : request.portfolio.market = .usdMFutures) :
    ∃ terms, EntersFutures request preview terms := by
  have h := hex.portfolioBlockers_nil
  rw [VirtualRuntimeRequest.portfolioBlockers, Check.eraseDups_eq_nil,
    List.append_eq_nil_iff, if_pos hm] at h
  exact entersFutures_of_blockers h.2

/-! ### The portfolio after the fill -/

namespace FuturesTerms

variable (terms : FuturesTerms) (request : VirtualRuntimeRequest) (preview : VirtualFillPreview)

/-- The funding paid at entry. -/
def fundingCost : ℚ :=
  if request.fundingPaymentDue then
    terms.side.sign * preview.grossNotionalUsdt * terms.fundingRate
  else 0

/-- The liquidation price the portfolio records at entry. -/
def liquidationPrice : ℚ :=
  preview.executionPrice - terms.side.sign *
    ((terms.isolatedMargin - preview.grossNotionalUsdt * terms.maintenanceMarginRatio) /
      preview.filledQuantity)

end FuturesTerms

/-- What a fill does to a Futures portfolio. -/
structure FuturesFillEffect (p : VirtualPortfolioState) (request : VirtualRuntimeRequest)
    (preview : VirtualFillPreview) (terms : FuturesTerms) (q : VirtualPortfolioState) : Prop where
  market_eq : q.market = p.market
  cash_eq : q.cashUsdt = p.cashUsdt - terms.isolatedMargin - preview.feeUsdt -
    terms.fundingCost request preview
  unrealized_eq : q.unrealizedPnlUsdt =
    (terms.markPrice - preview.executionPrice) * terms.side.sign * preview.filledQuantity
  equity_eq : q.equityUsdt = q.cashUsdt + terms.isolatedMargin + q.unrealizedPnlUsdt
  realized_eq : q.realizedPnlUsdt = p.realizedPnlUsdt - terms.fundingCost request preview
  fees_eq : q.feesPaidUsdt = p.feesPaidUsdt + preview.feeUsdt
  funding_eq : q.fundingCostUsdt = p.fundingCostUsdt + terms.fundingCost request preview
  isolated_eq : q.isolatedMarginUsdt = some terms.isolatedMargin
  initial_eq : q.initialMarginUsdt = some (preview.grossNotionalUsdt / terms.leverage)
  maintenance_eq : q.maintenanceMarginUsdt =
    some (preview.grossNotionalUsdt * terms.maintenanceMarginRatio)
  liquidation_eq : q.liquidationPrice = some (terms.liquidationPrice preview)
  leverage_eq : q.leverage = some terms.leverage
  count_eq : q.openPositionCount = 1

/-- The effect of an executable decision on the Futures portfolio of its request. -/
theorem VirtualRuntimeRequest.Executes.futuresFillEffect {request : VirtualRuntimeRequest}
    {preview : VirtualFillPreview} {decision : VirtualRuntimeDecision} {terms : FuturesTerms}
    (hex : request.Executes preview decision) (hm : request.portfolio.market = .usdMFutures)
    (ht : EntersFutures request preview terms) :
    FuturesFillEffect request.portfolio request preview terms decision.portfolioAfter := by
  have hafter := hex.portfolioAfter_eq
  simp only [VirtualRuntimeRequest.portfolioAfterFill, hm, ht.side_eq, ht.mark_eq, ht.funding_eq,
    ht.isolated_eq, ht.maintenance_eq, ht.leverage_eq] at hafter
  unfold VirtualRuntimeRequest.futuresPortfolioAfterFill at hafter
  rw [VirtualPortfolioState.create_eq_ok] at hafter
  obtain ⟨side, mark, rate, isolated, ratio, leverage⟩ := terms
  cases side <;> constructor <;> rw [hafter] <;> rfl

end Ai4Binance

/-
Open risk and open positions of a Spot portfolio over runs of fills.

A portfolio without inventory should report no open risk and no open position.
`_spot_portfolio_after_fill` sets the open risk to that of the quantity just
filled, also when a sell empties the inventory, and takes one position off the
count then, however many buys made up the inventory.  The main result
(`law_iff_safeExits`) is the exact condition for a run of fills: the law holds
in every state reached if and only if every sell that empties the inventory is
at or below its stop and finds at most one open position.

* `SpotLaw`, `SafeExit`: the law and the condition;
* `SpotStep.law_iff`: one fill keeps the law exactly when it is a safe exit.
-/
import Ai4Binance.Lib.Run
import Ai4Binance.Virtual.SpotFill

open Check

namespace Ai4Binance

/-- **The law**: without inventory there is no open risk and no open position,
and with inventory there is an open position. -/
structure SpotLaw (p : VirtualPortfolioState) : Prop where
  flat : p.inventoryQuantity = 0 → p.currentOpenRiskUsdt = 0 ∧ p.openPositionCount = 0
  held : 0 < p.inventoryQuantity → 0 < p.openPositionCount

/-- A flat Spot portfolio. -/
structure FlatSpot (p : VirtualPortfolioState) : Prop where
  market_eq : p.market = .spot
  inventory_eq : p.inventoryQuantity = 0
  openRisk_eq : p.currentOpenRiskUsdt = 0
  openPositionCount_eq : p.openPositionCount = 0

/-- A sell that fills the whole inventory is filled at or below its stop, and
there is at most one open position before it. -/
def SafeExit (request : VirtualRuntimeRequest) : Prop :=
  request.action = .sell → ∀ preview, request.fillPreview = .ok preview →
    preview.filledQuantity = request.portfolio.inventoryQuantity →
      preview.executionPrice ≤ request.stopLoss ∧ request.portfolio.openPositionCount ≤ 1

lemma FlatSpot.law {p : VirtualPortfolioState} (h : FlatSpot p) : SpotLaw p where
  flat _ := ⟨h.openRisk_eq, h.openPositionCount_eq⟩
  held hpos := absurd h.inventory_eq hpos.ne'

/-! ### One fill -/

/-- The open risk a fill records is zero exactly at or below the stop. -/
lemma FillEffect.openRisk_eq_zero_iff {p q : VirtualPortfolioState}
    {request : VirtualRuntimeRequest} {preview : VirtualFillPreview}
    (h : FillEffect p request preview q) :
    q.currentOpenRiskUsdt = 0 ↔ preview.executionPrice ≤ request.stopLoss := by
  have hpos := h.filled.quantity_pos
  have hnonneg : 0 ≤ preview.filledQuantity * max (preview.executionPrice - request.stopLoss) 0 :=
    mul_nonneg hpos.le (le_max_right _ _)
  rw [h.openRisk_eq, max_eq_left hnonneg, mul_eq_zero, or_iff_right hpos.ne', max_eq_right_iff,
    sub_nonpos]

/-- A fill keeps a Spot portfolio with inventory counted. -/
lemma SpotStep.held {p q : VirtualPortfolioState} {request : VirtualRuntimeRequest}
    (h : SpotStep p request q) (hp : 0 < p.inventoryQuantity → 0 < p.openPositionCount)
    (hq : 0 < q.inventoryQuantity) : 0 < q.openPositionCount := by
  obtain ⟨preview, heff⟩ := spotStep_effect h
  rcases heff.action_eq with hbuy | hsell
  · obtain ⟨-, -, -, -, hcount⟩ := heff.buy h.1 hbuy
    omega
  · obtain ⟨-, hinv, -, -, hcount⟩ := heff.sell h.1 hsell
    rw [hcount, if_neg hq.ne']
    refine hp ?_
    have hpos := heff.filled.quantity_pos
    linarith

/-- **One fill**: from a portfolio whose inventory is counted, the law holds
after the fill exactly when the fill is a safe exit. -/
theorem SpotStep.law_iff {p q : VirtualPortfolioState} {request : VirtualRuntimeRequest}
    (h : SpotStep p request q) (hp : 0 < p.inventoryQuantity → 0 < p.openPositionCount) :
    SpotLaw q ↔ SafeExit request := by
  obtain ⟨preview, heff⟩ := spotStep_effect h
  have hportfolio : request.portfolio = p := h.1
  have hpos := heff.filled.quantity_pos
  have hinvp := p.balances_nonneg.2.1
  rcases heff.action_eq with hbuy | hsell
  · -- a buy leaves inventory, and is no exit
    obtain ⟨-, hinv, -⟩ := heff.buy h.1 hbuy
    constructor
    · intro _ hsell
      rw [hbuy] at hsell
      exact absurd hsell (by decide)
    · intro _
      exact ⟨fun h0 => absurd h0 (by linarith), fun hq => h.held hp hq⟩
  · obtain ⟨-, hinv, -, -, hcount⟩ := heff.sell h.1 hsell
    have hempty : q.inventoryQuantity = 0 ↔
        preview.filledQuantity = request.portfolio.inventoryQuantity := by
      rw [hinv, hportfolio, sub_eq_zero, eq_comm]
    constructor
    · intro hlaw _ preview' hpreview' hfull
      obtain rfl : preview = preview' := by
        rw [heff.fillPreview_eq] at hpreview'
        exact Except.ok.inj hpreview'
      have h0 := hempty.mpr hfull
      obtain ⟨hrisk, hzero⟩ := hlaw.flat h0
      rw [hcount, if_pos h0] at hzero
      rw [hportfolio]
      exact ⟨heff.openRisk_eq_zero_iff.mp hrisk, by omega⟩
    · intro hsafe
      refine ⟨fun h0 => ?_, fun hq => h.held hp hq⟩
      obtain ⟨hprice, hone⟩ := hsafe hsell preview heff.fillPreview_eq (hempty.mp h0)
      rw [hportfolio] at hone
      refine ⟨heff.openRisk_eq_zero_iff.mpr hprice, ?_⟩
      rw [hcount, if_pos h0]
      omega

/-! ### Runs of fills -/

/-- Every state a run of fills reaches from a counted portfolio is counted. -/
lemma held_of_run {p q : VirtualPortfolioState} {l : List VirtualRuntimeRequest}
    (h : Run SpotStep p l q) (hp : 0 < p.inventoryQuantity → 0 < p.openPositionCount) :
    0 < q.inventoryQuantity → 0 < q.openPositionCount :=
  h.invariant (fun hstep hs => hstep.held hs) hp

/-- **The law over runs**: for every run of fills from a flat Spot portfolio, the
law holds in every state reached if and only if every request of the run is a
safe exit. -/
theorem law_iff_safeExits {p q : VirtualPortfolioState} {l : List VirtualRuntimeRequest}
    (hflat : FlatSpot p) (hrun : Run SpotStep p l q) :
    (∀ l₁ l₂ t, l = l₁ ++ l₂ → Run SpotStep p l₁ t → SpotLaw t) ↔ ∀ r ∈ l, SafeExit r := by
  constructor
  · intro hlaw r hr
    obtain ⟨l₁, l₂, rfl⟩ := List.append_of_mem hr
    obtain ⟨s, hs, hrest⟩ := run_append_iff.mp hrun
    obtain ⟨t, hst, -⟩ := run_cons_iff.mp hrest
    have ht : SpotLaw t := hlaw (l₁ ++ [r]) l₂ t (by simp) (run_snoc_iff.mpr ⟨s, hs, hst⟩)
    exact (hst.law_iff (held_of_run hs hflat.law.held)).mp ht
  · intro hsafe l₁ l₂ t hl ht
    rcases List.eq_nil_or_concat' l₁ with rfl | ⟨l', r, rfl⟩
    · rw [← run_nil_iff.mp ht]
      exact hflat.law
    · obtain ⟨s, hs, hst⟩ := run_snoc_iff.mp ht
      exact (hst.law_iff (held_of_run hs hflat.law.held)).mpr (hsafe r (by simp [hl]))

/-! ### Two runs

A buy of one unit at 100, and a sell of it at 110: with a stop at 120, and with
one at 90. -/

/-- The wallet after the buy. -/
def heldWallet : VirtualPortfolioState where
  portfolioId := "virtual-spot"
  market := .spot
  cashUsdt := 900
  equityUsdt := 1000
  inventoryQuantity := 1
  inventoryCostBasisUsdt := 100
  currentOpenRiskUsdt := 10
  openPositionCount := 1
  passes := by decide +kernel

/-- The wallet after a sell at 110 that records an open risk. -/
def soldWallet (openRisk : ℚ) (h : 0 ≤ openRisk) : VirtualPortfolioState where
  portfolioId := "virtual-spot"
  market := .spot
  cashUsdt := 1010
  equityUsdt := 1010
  realizedPnlUsdt := 10
  currentOpenRiskUsdt := openRisk
  passes := by
    simp [PortfolioFields.checks, PortfolioFields.commonChecks, PortfolioFields.spotChecks,
      PortfolioFields.futuresScalars, not_lt.mpr h]
    decide +kernel

/-- The buy at 100 with a stop at 90. -/
def buyRequest : VirtualRuntimeRequest := ⟨unitRequest freshWallet .buy 100 90 0, by decide +kernel⟩

/-- The sell at 110 with a stop at 120. -/
def stoppedSell : VirtualRuntimeRequest := ⟨unitRequest heldWallet .sell 110 120 0, by decide +kernel⟩

/-- The sell at 110 with the stop of the buy. -/
def profitableSell : VirtualRuntimeRequest :=
  ⟨unitRequest heldWallet .sell 110 90 0, by decide +kernel⟩

lemma freshWallet_flat : FlatSpot freshWallet := ⟨rfl, rfl, rfl, rfl⟩

lemma buyRequest_step : SpotStep freshWallet buyRequest heldWallet :=
  spotStep_of_evaluate rfl (by decide +kernel)

lemma stoppedSell_step : SpotStep heldWallet stoppedSell (soldWallet 0 le_rfl) :=
  spotStep_of_evaluate rfl (by decide +kernel)

lemma stoppedSell_safeExit : SafeExit stoppedSell := by
  intro _ preview hpreview _
  have hprice : stoppedSell.fillPreview.toOption.map (·.executionPrice) = some 110 := by
    decide +kernel
  rw [hpreview] at hprice
  have h110 : preview.executionPrice = 110 := Option.some.inj hprice
  exact ⟨by rw [h110]; decide +kernel, le_rfl⟩

/-- The law holds along the run that sells below the stop. -/
theorem law_of_stoppedSell :
    FlatSpot freshWallet ∧ ∀ l₁ l₂ t, [buyRequest, stoppedSell] = l₁ ++ l₂ →
      Run SpotStep freshWallet l₁ t → SpotLaw t := by
  refine ⟨freshWallet_flat, (law_iff_safeExits freshWallet_flat
    (.cons buyRequest_step (.single stoppedSell_step))).mpr fun r hr => ?_⟩
  rcases List.mem_cons.mp hr with rfl | hr
  · intro hsell
    exact absurd hsell (by decide)
  · rw [List.mem_singleton.mp hr]
    exact stoppedSell_safeExit

/-- After the run that sells at a profit the wallet is empty and still reports
an open risk of 20. -/
theorem profitableSell_leaves_open_risk :
    FlatSpot freshWallet ∧ ∃ q, Run SpotStep freshWallet [buyRequest, profitableSell] q ∧
      q.inventoryQuantity = 0 ∧ q.currentOpenRiskUsdt = 20 ∧ ¬ SpotLaw q := by
  refine ⟨freshWallet_flat, soldWallet 20 (by norm_num), ?_, rfl, rfl, fun hlaw => ?_⟩
  · exact .cons buyRequest_step (.single (spotStep_of_evaluate rfl (by decide +kernel)))
  · have hrisk : (20 : ℚ) = 0 := (hlaw.flat rfl).1
    exact absurd hrisk (by norm_num)

end Ai4Binance

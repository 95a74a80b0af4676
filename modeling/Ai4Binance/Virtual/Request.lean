/-
Requests of the virtual runtime and the fill they would get
(`domain/research/virtual_runtime_request.py`, `domain/research/liquidity.py`,
`application/virtual_runtime_portfolio.py`).

* `RequestFields`, `VirtualRuntimeRequest`: a request, its checks and its
  constructor;
* `assessLiquidityFill`: the part of a quantity that the volume of a candle
  admits, and its impact on the price;
* `fillPreview`: the fill of a request before any portfolio is touched, and
  `fillPreview_spec`, what a fill without blockers is.
-/
import Ai4Binance.Virtual.ManagedPosition

open Text Check

namespace Ai4Binance

/-- `Action`. -/
inductive Action where
  | buy
  | sell
  | hold
  | wait
  | noTrade
  deriving DecidableEq, Repr

/-- `ExecutionSurface`. -/
inductive ExecutionSurface where
  | binanceMarket
  | virtualMarket
  deriving DecidableEq, Repr

/-- `LiquidityStressConfig`. -/
structure LiquidityStressConfig where
  maxVolumeParticipation : ℚ := 1 / 100
  minimumFillRatio : ℚ := 25 / 100
  impactRatio : ℚ := 1 / 1000
  maximumImpactRatio : ℚ := 1 / 100
  participation_pos : 0 < maxVolumeParticipation := by norm_num
  participation_le_one : maxVolumeParticipation ≤ 1 := by norm_num
  fillRatio_pos : 0 < minimumFillRatio := by norm_num
  fillRatio_le_one : minimumFillRatio ≤ 1 := by norm_num
  impact_nonneg : 0 ≤ impactRatio := by norm_num
  impact_le : impactRatio ≤ maximumImpactRatio := by norm_num

/-- What a request keeps of its governance evaluation. -/
structure VirtualGovernanceResult where
  decisionId : String
  status : String
  blockers : List String
  simulationAllowed : Bool
  deriving DecidableEq, Repr

/-- The fields of `VirtualRuntimeRequest`, as given to its constructor. -/
structure RequestFields where
  candidateId : String
  symbol : String
  market : Market
  action : Action
  quantity : ℚ
  entryPrice : ℚ
  stopLoss : ℚ
  takeProfitLevels : List ℚ
  portfolio : VirtualPortfolioState
  opportunityId : String := ""
  feeRatio : ℚ := 0
  slippageRatio : ℚ := 0
  halfSpreadRatio : ℚ := 0
  tickSize : Decimal := ⟨false, 1, -8⟩
  stepSize : Decimal := ⟨false, 1, -8⟩
  minimumNotional : ℚ := 5
  candleVolume : Option ℚ := none
  liquidityStress : LiquidityStressConfig := {}
  lineage : TradeLineage := {}
  correlationGroup : String := "UNSPECIFIED_GROUP"
  currentExposures : List PositionExposure := []
  portfolioGovernor : VirtualPortfolioRiskGovernor := .default
  positionSide : Option VirtualPositionSide := none
  markPrice : Option ℚ := none
  fundingRate : Option ℚ := none
  fundingPaymentDue : Bool := true
  leverage : Option ℤ := none
  isolatedMarginUsdt : Option ℚ := none
  maintenanceMarginRatio : Option ℚ := none
  liquidationFeeRatio : ℚ := 5 / 1000
  executionSurface : ExecutionSurface := .virtualMarket
  analysisBlockers : List String := []
  candidateBlockers : List String := []
  riskBlockers : List String := []
  validationBlockers : List String := []
  dgeBlockers : List String := []
  dgeSimulationAllowed : Bool := false
  dgeEvaluation : Option VirtualGovernanceResult := none
  entryReason : List String := ["VIRTUAL_MARKET_ENTRY"]
  requireStructuralMarginProof : Bool := false
  structuralMarginContext : Option StructuralMarginContext := none
  structuralRiskBudgetUsdt : Option ℚ := none

namespace RequestFields

/-- `_require_unique_nonblank` of the request module. -/
def uniqueValuesChecks (name : String) (values : List String) : List (Bool × String) :=
  [(values.any isBlank, name ++ " cannot contain blank values"),
    (¬ values.Nodup, name ++ " must be unique")]

/-- The opportunity of a request; a blank one is named after the candidate. -/
def opportunity (r : RequestFields) : String :=
  if isBlank r.opportunityId then "opportunity:" ++ r.candidateId else r.opportunityId

/-- `VirtualRuntimeRequest.__post_init__`. -/
def checks (r : RequestFields) : List (Bool × String) :=
  [(r.structuralRiskBudgetUsdt.any (· < 0),
      "structural risk budget must be finite and nonnegative"),
    ((r.lineage.texts ++ [r.candidateId, r.symbol, r.correlationGroup, r.opportunity]).any isBlank,
      "virtual runtime request identity is required")] ++
  uniqueValuesChecks "virtual runtime request entry reason" r.entryReason ++
  uniqueValuesChecks "virtual runtime request DGE blockers" r.dgeBlockers ++
  [(r.dgeEvaluation.any fun e => e.decisionId ≠ r.lineage.decisionId ∨
        e.status ≠ r.lineage.dgeDecision ∨ e.simulationAllowed ≠ r.dgeSimulationAllowed ∨
        e.blockers ≠ r.dgeBlockers,
      "virtual runtime DGE evaluation does not match request"),
    (r.quantity ≤ 0 ∨ r.entryPrice ≤ 0 ∨ r.stopLoss ≤ 0,
      "virtual runtime request geometry must be positive"),
    (r.takeProfitLevels = [], "virtual runtime request requires take-profit evidence"),
    (r.feeRatio < 0 ∨ 1 / 100 < r.feeRatio,
      "virtual runtime request fee ratio must stay between zero and 0.01"),
    (r.slippageRatio < 0 ∨ 2 / 100 < r.slippageRatio,
      "virtual runtime request slippage ratio must stay between zero and 0.02"),
    (r.halfSpreadRatio < 0 ∨ 2 / 100 < r.halfSpreadRatio,
      "virtual runtime request half spread ratio must stay between zero and 0.02"),
    (r.tickSize.toRat ≤ 0, "virtual runtime request tick size must be positive"),
    (r.stepSize.toRat ≤ 0, "virtual runtime request step size must be positive"),
    (r.minimumNotional ≤ 0, "virtual runtime request minimum notional must be positive"),
    (r.candleVolume.any (· < 0),
      "virtual runtime request candle volume must be finite and non-negative"),
    (r.markPrice.any (· ≤ 0), "virtual runtime request mark price must be positive"),
    (r.leverage.any (· < 1), "virtual runtime request leverage must be positive"),
    (r.isolatedMarginUsdt.any (· ≤ 0),
      "virtual runtime request isolated margin must be positive"),
    (r.maintenanceMarginRatio.any fun m => m ≤ 0 ∨ 1 ≤ m,
      "virtual runtime request maintenance margin ratio must stay within zero and one"),
    (r.liquidationFeeRatio < 0 ∨ 2 / 100 < r.liquidationFeeRatio,
      "virtual runtime request liquidation fee ratio is invalid"),
    (r.market ≠ r.portfolio.market,
      "virtual runtime request market must match portfolio market")]

/-- The DGE blockers the constructor leaves: without an approval of the
simulation, the refusal is added. -/
def effectiveDgeBlockers (r : RequestFields) : List String :=
  if r.executionSurface = .virtualMarket ∧ r.lineage.dgeDecision = "APPROVED_PAPER_ONLY" ∧
      r.dgeSimulationAllowed ∧ r.dgeBlockers = [] then r.dgeBlockers
  else (r.dgeBlockers ++ ["DGE_SIMULATION_NOT_APPROVED"]).eraseDups

end RequestFields

/-- `VirtualRuntimeRequest`. -/
structure VirtualRuntimeRequest extends RequestFields where
  passes : Passes toRequestFields.checks

/-- `VirtualFillPreview`. -/
structure VirtualFillPreview where
  requestedQuantity : ℚ
  filledQuantity : ℚ
  remainingQuantity : ℚ
  fillRatio : ℚ
  executionPrice : ℚ
  grossNotionalUsdt : ℚ
  feeUsdt : ℚ
  slippageCostUsdt : ℚ
  priceImpactRatio : ℚ
  reasonCodes : List String := []
  blockers : List String := []
  deriving DecidableEq

/-! ### Liquidity -/

/-- `LiquidityFillDecision`. -/
structure LiquidityFillDecision where
  filledQuantity : ℚ
  priceImpactRatio : ℚ
  blockers : List String
  deriving DecidableEq

/-- `assess_liquidity_fill`. -/
def assessLiquidityFill (requestedQuantity candleVolume : ℚ) (config : LiquidityStressConfig) :
    Except PyError LiquidityFillDecision := do
  raiseIf (requestedQuantity ≤ 0)
    (.value "requested fill quantity must be finite and positive")
  raiseIf (candleVolume < 0) (.value "candle volume must be finite and non-negative")
  let capacity := candleVolume * config.maxVolumeParticipation
  let filled := min requestedQuantity capacity
  let utilization := if 0 < capacity then filled / capacity else 0
  return {
    filledQuantity := filled
    priceImpactRatio := min config.maximumImpactRatio (config.impactRatio * utilization)
    blockers :=
      if filled ≤ 0 then ["LIQUIDITY_FILL_UNAVAILABLE"]
      else if filled / requestedQuantity < config.minimumFillRatio then
        ["LIQUIDITY_PARTIAL_FILL_BELOW_MINIMUM"]
      else [] }

/-! ### The fill -/

namespace VirtualRuntimeRequest

variable (request : VirtualRuntimeRequest)

/-- `_round_quantity`. -/
def roundQuantity (quantity : ℚ) : Except PyError ℚ :=
  orRaise (Context.default.quantize .down quantity request.stepSize.exp) .decimal

/-- `_round_price`: up for a buy, down otherwise. -/
def roundPrice (price : ℚ) : Except PyError ℚ :=
  orRaise (Context.default.quantize (if request.action = .buy then .up else .down) price
    request.tickSize.exp) .decimal

/-- The preview of a request that gets no fill. -/
def unfilled (priceImpactRatio : ℚ) (blockers : List String) : VirtualFillPreview where
  requestedQuantity := request.quantity
  filledQuantity := 0
  remainingQuantity := request.quantity
  fillRatio := 0
  executionPrice := request.entryPrice
  grossNotionalUsdt := 0
  feeUsdt := 0
  slippageCostUsdt := 0
  priceImpactRatio
  blockers := blockers.eraseDups

/-- The quantity that gets filled of the rounded one, its price impact, and the
blockers and reason codes of the liquidity. -/
def liquidityFill (rounded : ℚ) : Except PyError (ℚ × ℚ × List String × List String) :=
  match request.candleVolume with
  | none => .ok (rounded, 0, [], [])
  | some volume => do
      let liquidity ← assessLiquidityFill rounded volume request.liquidityStress
      let filled ← request.roundQuantity liquidity.filledQuantity
      return (filled, liquidity.priceImpactRatio, liquidity.blockers,
        if 0 < filled ∧ filled < rounded ∧ liquidity.blockers = [] then
          ["ENTRY_PARTIALLY_FILLED"]
        else [])

/-- The preview of a positive fill. -/
def filledPreview (filled impact : ℚ) (blockers reasonCodes : List String) :
    Except PyError VirtualFillPreview := do
  let adjustment := request.slippageRatio + request.halfSpreadRatio + impact
  let executionPrice ← request.roundPrice
    (request.entryPrice * if request.action = .buy then 1 + adjustment else 1 - adjustment)
  let grossNotional := executionPrice * filled
  return {
    requestedQuantity := request.quantity
    filledQuantity := filled
    remainingQuantity := request.quantity - filled
    fillRatio := filled / request.quantity
    executionPrice
    grossNotionalUsdt := grossNotional
    feeUsdt := grossNotional * request.feeRatio
    slippageCostUsdt := |executionPrice - request.entryPrice| * filled
    priceImpactRatio := impact
    reasonCodes
    blockers := (blockers ++
      if grossNotional < request.minimumNotional then ["MIN_NOTIONAL_NOT_REACHED"]
      else []).eraseDups }

/-- `build_virtual_fill_preview`. -/
def fillPreview : Except PyError VirtualFillPreview := do
  let rounded ← request.roundQuantity request.quantity
  if rounded ≤ 0 then return request.unfilled 0 ["STEP_SIZE_ROUNDED_TO_ZERO"]
  else
    let (filled, impact, blockers, reasonCodes) ← request.liquidityFill rounded
    if filled ≤ 0 then return request.unfilled impact (blockers ++ ["LIQUIDITY_FILL_UNAVAILABLE"])
    else request.filledPreview filled impact blockers reasonCodes

/-- A fill without blockers: a positive quantity at a positive price, for at
least the minimum notional. -/
structure Filled (preview : VirtualFillPreview) : Prop where
  quantity_pos : 0 < preview.filledQuantity
  gross_eq : preview.grossNotionalUsdt = preview.executionPrice * preview.filledQuantity
  fee_eq : preview.feeUsdt = preview.grossNotionalUsdt * request.feeRatio
  minimum_le : request.minimumNotional ≤ preview.grossNotionalUsdt

/-- The minimum notional of a request is positive. -/
lemma minimumNotional_pos : 0 < request.minimumNotional := by
  have h := request.passes
  simp only [RequestFields.checks, passes_append, passes_cons, decide_eq_false_iff_not,
    not_le] at h
  exact h.2.2.2.2.2.2.2.2.2.1

lemma Filled.gross_nonneg {request : VirtualRuntimeRequest} {preview : VirtualFillPreview}
    (h : request.Filled preview) : 0 ≤ preview.grossNotionalUsdt :=
  request.minimumNotional_pos.le.trans h.minimum_le

/-- A preview without blockers is a fill. -/
theorem fillPreview_spec {preview : VirtualFillPreview} (h : request.fillPreview = .ok preview)
    (hb : preview.blockers = []) : request.Filled preview := by
  have hne : ∀ (a : String) (l : List String), (a :: l).eraseDups ≠ [] := by
    intro a l
    simp [List.eraseDups_cons]
  simp only [fillPreview, bind_eq_ok] at h
  obtain ⟨rounded, -, h⟩ := h
  split_ifs at h with h0
  · obtain rfl := pure_eq_ok.mp h
    exact absurd hb (hne _ _)
  · simp only [bind_eq_ok] at h
    obtain ⟨⟨filled, impact, blockers, reasonCodes⟩, -, h⟩ := h
    dsimp only at h
    split_ifs at h with hf
    · obtain rfl := pure_eq_ok.mp h
      refine absurd hb ?_
      cases blockers with
      | nil => exact hne _ _
      | cons b bs => exact hne _ _
    · simp only [filledPreview, bind_eq_ok] at h
      obtain ⟨price, -, h⟩ := h
      obtain rfl := pure_eq_ok.mp h
      refine ⟨not_le.mp hf, rfl, rfl, ?_⟩
      by_contra hm
      dsimp only at hb hm
      rw [if_pos (not_le.mp hm)] at hb
      cases blockers with
      | nil => exact hne _ _ hb
      | cons b bs => exact hne _ _ hb

end VirtualRuntimeRequest

end Ai4Binance

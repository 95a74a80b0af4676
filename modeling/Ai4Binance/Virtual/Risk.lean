/-
Risk contracts of the virtual runtime (`domain/research/virtual_runtime_risk.py`,
`domain/risk_geometry.py`, `domain/portfolio_risk.py`).

* `FuturesRiskBracket`, `validateFuturesBrackets`, `isolatedLiquidationPrice`:
  the maintenance tiers and the liquidation solver;
* `PositionExposure`, `assessProposedExposure`, `assessCurrentExposure`: limits
  on the gross notional and on that of a symbol, a group and a strategy;
* `VirtualPortfolioRiskGovernor`: the veto policy, with
  `futuresEntryBlockers` and `structuralMarginBlockers`.
-/
import Ai4Binance.Lib.Python
import Ai4Binance.Lib.Text

open Text Check

namespace Ai4Binance

/-! ### Maintenance tiers and the liquidation solver -/

/-- `FuturesRiskBracket`. -/
@[ext] structure FuturesRiskBracket where
  notionalFloor : ℚ
  notionalCap : ℚ
  initialLeverage : ℤ
  maintenanceRatio : ℚ
  cumulativeMaintenance : ℚ
  floor_nonneg : 0 ≤ notionalFloor
  floor_lt_cap : notionalFloor < notionalCap
  ratio_pos : 0 < maintenanceRatio
  ratio_lt_one : maintenanceRatio < 1
  cumulative_nonneg : 0 ≤ cumulativeMaintenance
  cumulative_le : cumulativeMaintenance ≤ notionalFloor * maintenanceRatio
  leverage_pos : 1 ≤ initialLeverage

instance : DecidableEq FuturesRiskBracket := fun _ _ =>
  decidable_of_iff _ FuturesRiskBracket.ext_iff.symm

/-- Two neighbouring tiers continue each other. -/
def FuturesRiskBracket.Continues (left right : FuturesRiskBracket) : Prop :=
  left.notionalCap = right.notionalFloor ∧ left.maintenanceRatio ≤ right.maintenanceRatio ∧
    right.initialLeverage ≤ left.initialLeverage ∧
    right.cumulativeMaintenance = left.cumulativeMaintenance +
      right.notionalFloor * (right.maintenanceRatio - left.maintenanceRatio)

instance : DecidableRel FuturesRiskBracket.Continues := fun _ _ =>
  inferInstanceAs (Decidable (_ ∧ _ ∧ _ ∧ _))

/-- `validate_futures_brackets`. -/
def validateFuturesBrackets (brackets : List FuturesRiskBracket) : Except PyError Unit := do
  raiseIf (brackets.head?.all (·.notionalFloor ≠ 0))
    (.value "Futures maintenance brackets must start at zero")
  raiseIf (¬ brackets.IsChain FuturesRiskBracket.Continues)
    (.value "Futures maintenance brackets are discontinuous")

/-- The loop over the tiers of `isolated_liquidation_price`. -/
def solveTiers (long : Bool) (entry quantity walletMargin : ℚ) :
    List FuturesRiskBracket → Except PyError ℚ
  | [] => .error (.value "liquidation notional is outside verified maintenance brackets")
  | tier :: rest =>
      let sign : ℚ := if long then 1 else -1
      let price := (sign * entry * quantity - walletMargin - tier.cumulativeMaintenance) /
        (quantity * (sign - tier.maintenanceRatio))
      if long ∧ price ≤ 0 then .ok 0
      else if tier.notionalFloor ≤ price * quantity ∧ price * quantity < tier.notionalCap then
        .ok price
      else solveTiers long entry quantity walletMargin rest

/-- `isolated_liquidation_price`. -/
def isolatedLiquidationPrice (long : Bool) (entry quantity walletMargin : ℚ)
    (brackets : List FuturesRiskBracket) : Except PyError ℚ := do
  validateFuturesBrackets brackets
  raiseIf (min entry quantity ≤ 0) (.value "isolated liquidation position is invalid")
  solveTiers long entry quantity walletMargin brackets

/-! ### Exposure limits -/

/-- `PositionExposure`. -/
@[ext] structure PositionExposure where
  symbol : String
  strategyId : String
  correlationGroup : String
  notionalUsdt : ℚ
  identified : [symbol, strategyId, correlationGroup].all (!isBlank ·)
  notional_nonneg : 0 ≤ notionalUsdt

instance : DecidableEq PositionExposure := fun _ _ =>
  decidable_of_iff _ PositionExposure.ext_iff.symm

/-- `PositionExposure(…)`. -/
def PositionExposure.create (symbol strategyId correlationGroup : String) (notionalUsdt : ℚ) :
    Except PyError PositionExposure :=
  if hi : [symbol, strategyId, correlationGroup].all (!isBlank ·) then
    if hn : 0 ≤ notionalUsdt then
      .ok ⟨symbol, strategyId, correlationGroup, notionalUsdt, hi, hn⟩
    else .error (.value "position exposure is invalid")
  else .error (.value "position exposure is invalid")

/-- `PortfolioRiskPolicy`. -/
structure PortfolioRiskPolicy where
  maximumGrossUsdt : ℚ
  maximumSymbolUsdt : ℚ
  maximumCorrelationGroupUsdt : ℚ
  maximumStrategyUsdt : ℚ
  limits_pos : 0 < maximumGrossUsdt ∧ 0 < maximumSymbolUsdt ∧
    0 < maximumCorrelationGroupUsdt ∧ 0 < maximumStrategyUsdt

/-- The total notional of the exposures that a predicate selects. -/
def totalNotional (exposures : List PositionExposure) (p : PositionExposure → Bool) : ℚ :=
  ((exposures.filter p).map (·.notionalUsdt)).sum

/-- The codes of the failed checks, in order. -/
def failedCodes (checks : List (Bool × String)) : List String :=
  (checks.filter (·.1)).map (·.2)

/-- `assess_proposed_exposure(…).blockers`. -/
def assessProposedExposure (current : List PositionExposure) (proposed : PositionExposure)
    (policy : PortfolioRiskPolicy) : List String :=
  let combined := current ++ [proposed]
  failedCodes
    [(policy.maximumGrossUsdt < totalNotional combined fun _ => true,
        "PORTFOLIO_GROSS_LIMIT_EXCEEDED"),
      (policy.maximumSymbolUsdt < totalNotional combined (·.symbol = proposed.symbol),
        "SYMBOL_EXPOSURE_LIMIT_EXCEEDED"),
      (policy.maximumCorrelationGroupUsdt <
          totalNotional combined (·.correlationGroup = proposed.correlationGroup),
        "CORRELATION_GROUP_LIMIT_EXCEEDED"),
      (policy.maximumStrategyUsdt < totalNotional combined (·.strategyId = proposed.strategyId),
        "STRATEGY_EXPOSURE_LIMIT_EXCEEDED")]

/-- Some value of a key of the exposures has more than a limit under it. -/
def anyTotalExceeds (current : List PositionExposure) (key : PositionExposure → String)
    (limit : ℚ) : Bool :=
  current.any fun e => limit < totalNotional current (key · = key e)

/-- `assess_current_exposure(…).blockers`. -/
def assessCurrentExposure (current : List PositionExposure) (policy : PortfolioRiskPolicy) :
    List String :=
  failedCodes
    [(policy.maximumGrossUsdt < totalNotional current fun _ => true,
        "PORTFOLIO_GROSS_LIMIT_EXCEEDED"),
      (anyTotalExceeds current (·.symbol) policy.maximumSymbolUsdt,
        "SYMBOL_EXPOSURE_LIMIT_EXCEEDED"),
      (anyTotalExceeds current (·.correlationGroup) policy.maximumCorrelationGroupUsdt,
        "CORRELATION_GROUP_LIMIT_EXCEEDED"),
      (anyTotalExceeds current (·.strategyId) policy.maximumStrategyUsdt,
        "STRATEGY_EXPOSURE_LIMIT_EXCEEDED")]

/-! ### The governor -/

/-- `structural_margin_loss_per_unit`: the stressed stop and the loss to it. -/
def structuralMarginLossPerUnit (entry stop markPrice costAndFundingRatio markStressRatio : ℚ) :
    ℚ × ℚ :=
  let sign : ℚ := if stop < entry then 1 else -1
  let stressedStop := stop - sign * (|markPrice - entry| + entry * markStressRatio)
  (stressedStop, |entry - stressedStop| + entry * costAndFundingRatio)

/-- `VirtualPortfolioRiskGovernor`, with the fields of the
`FuturesLeverageGovernor` it extends. -/
structure VirtualPortfolioRiskGovernor where
  maximumMarginUtilizationRatio : ℚ
  maximumFuturesLeverage : ℤ
  exposurePolicy : PortfolioRiskPolicy
  maximumRiskPerTradeUsdt : ℚ
  maximumOpenRiskUsdt : ℚ
  maximumDrawdownRatio : ℚ
  maximumConsecutiveLosses : ℕ
  utilization_pos : 0 < maximumMarginUtilizationRatio
  utilization_le_one : maximumMarginUtilizationRatio ≤ 1
  leverage_pos : 1 ≤ maximumFuturesLeverage
  risk_pos : 0 < maximumRiskPerTradeUsdt ∧ 0 < maximumOpenRiskUsdt
  drawdown_pos : 0 < maximumDrawdownRatio
  drawdown_le_one : maximumDrawdownRatio ≤ 1

/-- `StructuralLeverageAssessment`. -/
structure StructuralLeverageAssessment where
  permittedLeverage : Option ℤ
  initialMargin : Option ℚ
  stressedStopMark : Option ℚ
  marginSurplusAtStressedStop : Option ℚ
  blockers : List String
  deriving DecidableEq

/-- What `structural_margin_blockers` decodes of its context: the tiers and the
two ratios, where a ratio that is not finite is `none`. -/
structure StructuralEvidence where
  brackets : List FuturesRiskBracket
  adverseFundingRatio : Option ℚ
  markStressRatio : Option ℚ

/-- The structural margin context of a request.  `evidence` is `none` when an
entry is missing or does not decode. -/
structure StructuralMarginContext where
  snapshotId : Option String
  symbol : Option String
  marginMode : Option String
  strategyOosApproved : Bool
  evidence : Option StructuralEvidence

namespace VirtualPortfolioRiskGovernor

variable (governor : VirtualPortfolioRiskGovernor)

/-- The defaults of the governor. -/
def default : VirtualPortfolioRiskGovernor where
  maximumMarginUtilizationRatio := 60 / 100
  maximumFuturesLeverage := 5
  exposurePolicy := ⟨5000, 2500, 3000, 2500, by norm_num⟩
  maximumRiskPerTradeUsdt := 250
  maximumOpenRiskUsdt := 500
  maximumDrawdownRatio := 15 / 100
  maximumConsecutiveLosses := 3
  utilization_pos := by norm_num
  utilization_le_one := by norm_num
  leverage_pos := by norm_num
  risk_pos := by norm_num
  drawdown_pos := by norm_num
  drawdown_le_one := by norm_num

/-- `_structural_input_blockers`, on values of which some may not be finite. -/
def structuralInputBlockers (positive : List ℚ) (entry stop : ℚ) (ratios : List (Option ℚ)) :
    List String :=
  if ratios.any (·.isNone) then ["STRUCTURAL_LEVERAGE_NONFINITE_INPUT"]
  else if positive.any (· ≤ 0) ∨ entry = stop ∨ ratios.any fun r => r.any fun v => v < 0 ∨ 1 ≤ v
  then ["STRUCTURAL_LEVERAGE_INVALID_INPUT"]
  else []

/-- `_stress_tiers`: the tier of each price, or nothing if one has none. -/
def stressTiers (brackets : List FuturesRiskBracket) (prices : List ℚ) (quantity : ℚ) :
    Option (List FuturesRiskBracket) :=
  prices.mapM fun price => brackets.find? fun b =>
    b.notionalFloor ≤ price * quantity ∧ price * quantity < b.notionalCap

/-- `assess_structural_leverage`. -/
def assessStructuralLeverage (entry stop quantity markPrice availableMargin riskBudget
    roundTripCostRatio : ℚ) (evidence : StructuralEvidence) (strategyOosApproved : Bool) :
    StructuralLeverageAssessment :=
  let ordered := evidence.brackets.insertionSort (·.notionalFloor ≤ ·.notionalFloor)
  let blockers :=
    structuralInputBlockers [entry, stop, quantity, markPrice, availableMargin, riskBudget] entry
      stop [some roundTripCostRatio, evidence.adverseFundingRatio, evidence.markStressRatio] ++
    failedCodes
      [(!strategyOosApproved, "SIMULATED_LEVERAGE_OOS_APPROVAL_MISSING"),
        (validateFuturesBrackets ordered ≠ .ok (),
          "FUTURES_RISK_BRACKETS_UNAVAILABLE_OR_INCONSISTENT")]
  match blockers, evidence.adverseFundingRatio, evidence.markStressRatio with
  | [], some funding, some stress =>
      let (stressedStop, lossPerUnit) := structuralMarginLossPerUnit entry stop markPrice
        (roundTripCostRatio + funding) stress
      if stressedStop ≤ 0 then ⟨none, none, none, none, ["FUTURES_STRESSED_STOP_INVALID"]⟩
      else
        let notional := entry * quantity
        let loss := lossPerUnit * quantity
        if riskBudget < loss then
          ⟨none, none, some stressedStop, none, ["FUTURES_STRESSED_RISK_BUDGET_EXCEEDED"]⟩
        else
          match stressTiers ordered [entry, markPrice, stressedStop] quantity with
          | some [tier₁, tier₂, tier] =>
              let maximum := min governor.maximumFuturesLeverage
                (min tier₁.initialLeverage (min tier₂.initialLeverage tier.initialLeverage))
              let required := max 1 ⌈notional / availableMargin⌉
              if maximum < required then
                ⟨none, none, some stressedStop, none, ["SIMULATED_LEVERAGE_FEASIBILITY_EXCEEDED"]⟩
              else
                let margin := notional / required
                let maintenance := max 0
                  (stressedStop * quantity * tier.maintenanceRatio - tier.cumulativeMaintenance)
                let surplus := margin - loss - maintenance
                if surplus ≤ 0 then
                  ⟨none, none, some stressedStop, some surplus,
                    ["FUTURES_LIQUIDATION_BEFORE_STRESSED_STOP"]⟩
                else ⟨some required, some margin, some stressedStop, some surplus, []⟩
          | _ => ⟨none, none, some stressedStop, none, ["FUTURES_NOTIONAL_OUTSIDE_BRACKETS"]⟩
  | blockers, _, _ => ⟨none, none, none, none, blockers.eraseDups⟩

/-- `structural_margin_blockers`. -/
def structuralMarginBlockers (context : Option StructuralMarginContext)
    (requestedLeverage : Option ℤ) (snapshotId symbol : String) (entry stop quantity : ℚ)
    (markPrice availableMargin : Option ℚ) (roundTripCostRatio riskBudget : ℚ) : List String :=
  match context, markPrice, availableMargin with
  | some context, some markPrice, some availableMargin =>
      if context.snapshotId ≠ some snapshotId ∨ context.symbol ≠ some symbol ∨
          context.marginMode ≠ some "ISOLATED" then
        ["STRUCTURAL_MARGIN_IDENTITY_OR_MODE_INVALID"]
      else
        match context.evidence with
        | none => ["STRUCTURAL_MARGIN_EVIDENCE_INVALID"]
        | some evidence =>
            let assessment := governor.assessStructuralLeverage entry stop quantity markPrice
              availableMargin riskBudget roundTripCostRatio evidence context.strategyOosApproved
            if assessment.blockers = [] ∧ requestedLeverage ≠ assessment.permittedLeverage then
              ["FUTURES_LEVERAGE_NOT_MINIMUM_FEASIBLE"]
            else assessment.blockers
  | _, _, _ => ["STRUCTURAL_MARGIN_EVIDENCE_UNAVAILABLE"]

/-- The blocker of one margin utilization; `name` says which one it is. -/
def utilizationBlockers (name : String) : Option ℚ → List String
  | none => ["FUTURES_" ++ name ++ "_MARGIN_UTILIZATION_UNAVAILABLE"]
  | some utilization =>
      if utilization < 0 then ["FUTURES_" ++ name ++ "_MARGIN_UTILIZATION_UNAVAILABLE"]
      else if governor.maximumMarginUtilizationRatio < utilization then
        ["FUTURES_MARGIN_UTILIZATION_LIMIT_EXCEEDED"]
      else []

/-- `futures_entry_blockers`. -/
def futuresEntryBlockers (requestedLeverage : Option ℤ) (current projected : Option ℚ) :
    List String :=
  let leverage :=
    if requestedLeverage.all (· < 1) then ["FUTURES_LEVERAGE_UNAVAILABLE"]
    else if requestedLeverage.any (governor.maximumFuturesLeverage < ·) then
      ["FUTURES_LEVERAGE_LIMIT_EXCEEDED"]
    else []
  (leverage ++ governor.utilizationBlockers "CURRENT" current ++
    governor.utilizationBlockers "PROJECTED" projected).eraseDups

end VirtualPortfolioRiskGovernor

end Ai4Binance

/-
Managed virtual positions (`application/virtual_runtime_engine.py`).

* `BacktestExitReason`, `VirtualPositionExit`, `VirtualClosureReview`: exits and
  the review of a closed position;
* `PositionFields`, `VirtualManagedPosition`: a position, its checks and its
  constructor;
* `VirtualExitContext`, `VirtualFuturesPositionContext`: what is observed with a
  candle besides its prices.
-/
import Ai4Binance.Lib.Quantize
import Ai4Binance.Virtual.Candle
import Ai4Binance.Virtual.PortfolioState
import Ai4Binance.Virtual.Risk

open Text Check

namespace Ai4Binance

/-- `BacktestExitReason`. -/
inductive BacktestExitReason where
  | liquidation
  | hardStop
  | target
  | trailingStop
  | structureInvalidation
  | timeExit
  | regimeExit
  | momentumFailure
  | endOfData
  deriving DecidableEq, Repr

/-- The text of a reason. -/
def BacktestExitReason.value : BacktestExitReason → String
  | .liquidation => "LIQUIDATION"
  | .hardStop => "HARD_STOP"
  | .target => "TARGET"
  | .trailingStop => "TRAILING_STOP"
  | .structureInvalidation => "STRUCTURE_INVALIDATION"
  | .timeExit => "TIME_EXIT"
  | .regimeExit => "REGIME_EXIT"
  | .momentumFailure => "MOMENTUM_FAILURE"
  | .endOfData => "END_OF_DATA"

/-- A protective or a trailing stop was hit: `"STOP" in reason.value`. -/
def BacktestExitReason.isStop : BacktestExitReason → Bool
  | .hardStop | .trailingStop => true
  | _ => false

/-- `VirtualPositionLifecycleStatus`. -/
inductive VirtualPositionLifecycleStatus where
  | open
  | partiallyClosed
  | closed
  deriving DecidableEq, Repr

/-- The text of a status. -/
def VirtualPositionLifecycleStatus.value : VirtualPositionLifecycleStatus → String
  | .open => "OPEN"
  | .partiallyClosed => "PARTIALLY_CLOSED"
  | .closed => "CLOSED"

/-- `VirtualPositionExit`. -/
structure VirtualPositionExit where
  timestamp : ℤ
  reason : BacktestExitReason
  price : ℚ
  quantity : ℚ
  feeUsdt : ℚ
  netPnlUsdt : ℚ
  slippageCostUsdt : ℚ := 0
  nonneg : 0 ≤ price ∧ 0 ≤ quantity ∧ 0 ≤ feeUsdt ∧ 0 ≤ slippageCostUsdt
  deriving DecidableEq

/-- `VirtualPositionExit(…)`. -/
def VirtualPositionExit.create (timestamp : ℤ) (reason : BacktestExitReason)
    (price quantity feeUsdt netPnlUsdt slippageCostUsdt : ℚ) :
    Except PyError VirtualPositionExit :=
  if h : 0 ≤ price ∧ 0 ≤ quantity ∧ 0 ≤ feeUsdt ∧ 0 ≤ slippageCostUsdt then
    .ok ⟨timestamp, reason, price, quantity, feeUsdt, netPnlUsdt, slippageCostUsdt, h⟩
  else .error (.value "virtual position exit values cannot be negative")

/-- An accepted exit has the values it was given. -/
lemma VirtualPositionExit.create_spec {timestamp : ℤ} {reason : BacktestExitReason}
    {price quantity feeUsdt netPnlUsdt slippageCostUsdt : ℚ} {e : VirtualPositionExit}
    (h : create timestamp reason price quantity feeUsdt netPnlUsdt slippageCostUsdt = .ok e) :
    e.timestamp = timestamp ∧ e.reason = reason ∧ e.price = price ∧ e.quantity = quantity ∧
      e.feeUsdt = feeUsdt ∧ e.netPnlUsdt = netPnlUsdt ∧
      e.slippageCostUsdt = slippageCostUsdt := by
  rw [create] at h
  split at h
  · obtain rfl := Except.ok.inj h
    exact ⟨rfl, rfl, rfl, rfl, rfl, rfl, rfl⟩
  · cases h

/-- `VirtualExitContext`. -/
structure VirtualExitContext where
  ignoredSignals : ℕ := 0
  htfWeakness : Bool := false
  volatilityExpansion : Bool := false
  levelBreak : Bool := false
  structureInvalidation : Bool := false
  regimeFailure : Bool := false
  momentumFailure : Bool := false
  deriving DecidableEq, Repr

/-- `_forced_exit_reason`. -/
def VirtualExitContext.forcedExitReason (context : VirtualExitContext) :
    Option BacktestExitReason :=
  if context.structureInvalidation then some .structureInvalidation
  else if context.regimeFailure then some .regimeExit
  else if context.momentumFailure then some .momentumFailure
  else none

/-- The default context forces no exit. -/
lemma VirtualExitContext.default_unforced : ({} : VirtualExitContext).forcedExitReason = none := rfl

/-- The review of a closed position: `VirtualClosureReview` and
`PaperClosureReview`, which differ in the reasons they name. -/
structure ClosureReview (ρ : Type) where
  exitReason : ρ
  lifecycleError : Option String
  stopQuality : String
  trailingQuality : String
  ignoredSignals : ℕ
  htfWeakness : Bool
  volatilityExpansion : Bool
  levelBreak : Bool
  stagedExitAlternative : String
  lessonCandidate : String
  deriving DecidableEq, Repr

/-- The review with its reason translated. -/
def ClosureReview.mapReason {ρ ρ' : Type} (f : ρ → ρ') (review : ClosureReview ρ) :
    ClosureReview ρ' :=
  { review with exitReason := f review.exitReason }

/-- `VirtualClosureReview`. -/
abbrev VirtualClosureReview := ClosureReview BacktestExitReason

/-- `_virtual_review`. -/
def virtualReview (reason : BacktestExitReason) (context : VirtualExitContext)
    (stagedExitUsed : Bool) : VirtualClosureReview where
  exitReason := reason
  lifecycleError := none
  stopQuality :=
    if reason = .liquidation then "LIQUIDATED"
    else if reason.isStop then "PROTECTIVE" else "NOT_TRIGGERED"
  trailingQuality := if reason = .trailingStop then "PROTECTIVE" else "NOT_TRIGGERED"
  ignoredSignals := context.ignoredSignals
  htfWeakness := context.htfWeakness
  volatilityExpansion := context.volatilityExpansion
  levelBreak := context.levelBreak
  stagedExitAlternative := if stagedExitUsed then "USED" else "NOT_USED_REVIEW"
  lessonCandidate :=
    if reason = .liquidation then "REVIEW_LIQUIDATION_BUFFER"
    else if reason = .trailingStop then "REVIEW_PREMATURE_TRAILING" else "REVIEW_EXIT_CONTEXT"

/-! ### Staged exits -/

/-- The checks of `StagedExitPlan`. -/
def stagedExitChecks (targets ratios : List ℚ) : List (Bool × String) :=
  [(targets = [] ∨ targets.length ≠ ratios.length,
      "staged targets and ratios must be non-empty and aligned"),
    ((targets ++ ratios).any (· ≤ 0), "staged exit values must be positive"),
    (¬ targets.Pairwise (· < ·), "staged targets must be strictly ascending"),
    (1 < ratios.sum, "staged exit ratios cannot exceed one")]

/-! ### Positions -/

/-- The texts that say where a trade comes from.  A request carries them, and
the position it opens keeps them. -/
structure TradeLineage where
  strategyId : String := "UNSPECIFIED_STRATEGY"
  strategyVersion : String := "1"
  strategyConfigVersion : String := "1"
  strategyConfigHash : String := "default"
  regime : String := "UNKNOWN"
  timeframe : String := "UNKNOWN"
  snapshotId : String := "UNKNOWN_SNAPSHOT"
  decisionId : String := "UNKNOWN_DECISION"
  dgeDecision : String := "UNKNOWN"
  riskPolicyVersion : String := "unknown"
  validationVersion : String := "unknown"
  deriving DecidableEq, Repr

/-- The texts of a lineage. -/
def TradeLineage.texts (l : TradeLineage) : List String :=
  [l.strategyId, l.strategyVersion, l.strategyConfigVersion, l.strategyConfigHash, l.regime,
    l.timeframe, l.snapshotId, l.decisionId, l.dgeDecision, l.riskPolicyVersion,
    l.validationVersion]

/-- The margin evidence of a Futures position. -/
structure FuturesMargin where
  isolatedMarginUsdt : ℚ
  initialMarginUsdt : ℚ
  maintenanceMarginRatio : ℚ
  liquidationPrice : ℚ
  leverage : ℤ
  deriving DecidableEq, Repr

/-- `_require_unique_nonblank`. -/
def uniqueNonblankChecks (name : String) (values : List String) : List (Bool × String) :=
  [(¬ values.Nodup, name ++ " must be unique"),
    (values.any isBlank, name ++ " cannot contain blanks")]

/-- The fields of `VirtualManagedPosition`. -/
structure PositionFields where
  positionId : String
  candidateId : String
  symbol : String
  market : Market
  openedAt : ℤ
  entryPrice : ℚ
  entryFeeUsdt : ℚ
  initialQuantity : ℚ
  remainingQuantity : ℚ
  stopLoss : ℚ
  trailingStop : ℚ
  atr : ℚ
  takeProfitLevels : List ℚ
  opportunityId : String := "UNKNOWN_OPPORTUNITY"
  takeProfitQuantityRatios : List ℚ := []
  status : VirtualPositionLifecycleStatus := .open
  nextTargetIndex : ℕ := 0
  realizedPnlUsdt : ℚ := 0
  exits : List VirtualPositionExit := []
  closureReview : Option VirtualClosureReview := none
  positionSide : VirtualPositionSide := .long
  maximumHoldingBars : Option ℕ := none
  breakevenTriggerR : Option ℚ := none
  trailingAtrMultiple : Option ℚ := none
  barsHeld : ℕ := 0
  maximumFavorableExcursionUsdt : ℚ := 0
  maximumAdverseExcursionUsdt : ℚ := 0
  feeRatio : ℚ := 1 / 1000
  slippageRatio : ℚ := 5 / 10000
  tickSize : Decimal := ⟨false, 1, -8⟩
  lineage : TradeLineage := {}
  entryReason : List String := ["VIRTUAL_MARKET_ENTRY"]
  entrySlippageCostUsdt : ℚ := 0
  fundingCostUsdt : ℚ := 0
  isolatedMarginUsdt : Option ℚ := none
  initialMarginUsdt : Option ℚ := none
  maintenanceMarginRatio : Option ℚ := none
  liquidationPrice : Option ℚ := none
  leverage : Option ℤ := none
  liquidationFeeRatio : ℚ := 5 / 1000
  deriving DecidableEq

namespace PositionFields

/-- The margin evidence, when all five parts are present. -/
def margin (p : PositionFields) : Option FuturesMargin :=
  match p.isolatedMarginUsdt, p.initialMarginUsdt, p.maintenanceMarginRatio, p.liquidationPrice,
    p.leverage with
  | some isolated, some initial, some ratio, some liquidation, some leverage =>
      some ⟨isolated, initial, ratio, liquidation, leverage⟩
  | _, _, _, _, _ => none

lemma margin_eq_some {p : PositionFields} {m : FuturesMargin} : p.margin = some m ↔
    p.isolatedMarginUsdt = some m.isolatedMarginUsdt ∧
      p.initialMarginUsdt = some m.initialMarginUsdt ∧
      p.maintenanceMarginRatio = some m.maintenanceMarginRatio ∧
      p.liquidationPrice = some m.liquidationPrice ∧ p.leverage = some m.leverage := by
  constructor
  · intro h
    rw [margin] at h
    split at h
    · next h1 h2 h3 h4 h5 =>
      obtain rfl := Option.some.inj h
      exact ⟨h1, h2, h3, h4, h5⟩
    · cases h
  · rintro ⟨h1, h2, h3, h4, h5⟩
    simp only [margin, h1, h2, h3, h4, h5]

/-- The checks of the amounts, counters and configured bounds. -/
def amountChecks (p : PositionFields) : List (Bool × String) :=
  [([p.positionId, p.candidateId, p.opportunityId, p.symbol].any isBlank,
      "virtual managed position identity is required"),
    ([p.entryPrice, p.initialQuantity, p.stopLoss, p.trailingStop, p.atr, p.tickSize.toRat].any
        (· ≤ 0),
      "virtual managed position values must be positive"),
    (p.entryFeeUsdt < 0 ∨ p.realizedPnlUsdt < -p.entryPrice * p.initialQuantity,
      "virtual managed position accounting is invalid"),
    (p.remainingQuantity < 0 ∨ p.initialQuantity < p.remainingQuantity,
      "virtual managed position remaining quantity is invalid"),
    (p.status = .closed ∧ p.remainingQuantity ≠ 0,
      "closed virtual managed position cannot retain quantity"),
    (p.status ≠ .closed ∧ p.remainingQuantity = 0,
      "active virtual managed position must retain quantity"),
    (p.maximumFavorableExcursionUsdt < 0 ∨ p.maximumAdverseExcursionUsdt < 0,
      "virtual managed position lifecycle counters must be non-negative"),
    (p.entrySlippageCostUsdt < 0, "entry slippage cost cannot be negative"),
    (p.liquidationFeeRatio < 0 ∨ 2 / 100 < p.liquidationFeeRatio,
      "liquidation fee ratio is invalid")] ++
  uniqueNonblankChecks "virtual managed position entry reason" p.entryReason ++
  [(p.maximumHoldingBars.any (· < 1), "maximum_holding_bars must be positive when configured"),
    (p.breakevenTriggerR.any (· ≤ 0), "breakeven_trigger_r must be positive when configured"),
    (p.trailingAtrMultiple.any (· ≤ 0), "trailing_atr_multiple must be positive when configured"),
    (p.takeProfitLevels = [], "virtual managed position requires take-profit levels")]

/-- The checks that depend on the side. -/
def sideChecks (p : PositionFields) : List (Bool × String) :=
  match p.positionSide with
  | .long =>
      [(¬ p.takeProfitLevels.Pairwise (· ≤ ·),
          "long virtual managed position targets must be ascending"),
        (p.entryPrice ≤ p.stopLoss, "long stop loss must remain below entry")]
  | .short => [(p.stopLoss ≤ p.entryPrice, "short stop loss must remain above entry")]

/-- The checks of the margin evidence. -/
def marginChecks (p : PositionFields) : List (Bool × String) :=
  match p.market, p.margin with
  | .spot, _ =>
      [(p.positionSide ≠ .long, "Spot virtual managed position must be long"),
        ([p.isolatedMarginUsdt, p.initialMarginUsdt, p.maintenanceMarginRatio,
            p.liquidationPrice].any (·.isSome) || p.leverage.isSome,
          "Spot virtual managed position cannot contain Futures margin")]
  | .usdMFutures, none =>
      [(true, "Futures virtual managed position requires complete margin evidence")]
  | .usdMFutures, some m =>
      [(min m.isolatedMarginUsdt (min m.initialMarginUsdt m.liquidationPrice) ≤ 0 ∨
          m.maintenanceMarginRatio ≤ 0 ∨ 1 ≤ m.maintenanceMarginRatio ∨ m.leverage < 1 ∨
          125 < m.leverage ∨ m.isolatedMarginUsdt < m.initialMarginUsdt,
        "Futures virtual managed position margin evidence is invalid"),
        (p.positionSide = .long ∧ p.entryPrice ≤ m.liquidationPrice,
          "long Futures liquidation price must remain below entry"),
        (p.positionSide = .short ∧ m.liquidationPrice ≤ p.entryPrice,
          "short Futures liquidation price must remain above entry")]

/-- The checks of the lineage and of the staged exits. -/
def planChecks (p : PositionFields) : List (Bool × String) :=
  [(p.lineage.texts.any isBlank, "virtual managed position attribution fields are required"),
    (p.takeProfitQuantityRatios = [] ∧ p.takeProfitLevels.length ≠ 1,
      "staged virtual managed position requires quantity ratios for multiple targets"),
    (p.positionSide = .short ∧ ¬ p.takeProfitLevels.Pairwise (· ≥ ·),
      "short virtual managed position targets must be descending")] ++
  (match p.positionSide with
    | .long => stagedExitChecks p.takeProfitLevels p.takeProfitQuantityRatios
    | .short => stagedExitChecks p.takeProfitLevels.reverse p.takeProfitQuantityRatios) ++
  [(decide (p.takeProfitLevels.length < p.nextTargetIndex),
      "virtual managed position target index is invalid")]

/-- `VirtualManagedPosition.__post_init__`. -/
def checks (p : PositionFields) : List (Bool × String) :=
  p.amountChecks ++ p.sideChecks ++ p.marginChecks ++ p.planChecks

/-- A single target without ratios takes the whole quantity. -/
def normalized (p : PositionFields) : PositionFields :=
  if p.takeProfitQuantityRatios = [] ∧ p.takeProfitLevels.length = 1 then
    { p with takeProfitQuantityRatios := [1] }
  else p

/-- Only the ratios are filled in. -/
lemma normalized_eq (p : PositionFields) :
    ∃ ratios, p.normalized = { p with takeProfitQuantityRatios := ratios } := by
  rw [normalized]
  split_ifs
  · exact ⟨_, rfl⟩
  · exact ⟨_, rfl⟩

/-! ### What the checks ask -/

/-- The amounts, counters and configured bounds of a position that is accepted. -/
structure AmountsValid (p : PositionFields) : Prop where
  identity : ∀ text ∈ [p.positionId, p.candidateId, p.opportunityId, p.symbol], isBlank text = false
  values_pos : ∀ x ∈ [p.entryPrice, p.initialQuantity, p.stopLoss, p.trailingStop, p.atr,
    p.tickSize.toRat], 0 < x
  entryFee_nonneg : 0 ≤ p.entryFeeUsdt
  realized_ge : -p.entryPrice * p.initialQuantity ≤ p.realizedPnlUsdt
  remaining_nonneg : 0 ≤ p.remainingQuantity
  remaining_le : p.remainingQuantity ≤ p.initialQuantity
  closed_iff : p.status = .closed ↔ p.remainingQuantity = 0
  mfe_nonneg : 0 ≤ p.maximumFavorableExcursionUsdt
  mae_nonneg : 0 ≤ p.maximumAdverseExcursionUsdt
  slippage_nonneg : 0 ≤ p.entrySlippageCostUsdt
  liquidationFee_nonneg : 0 ≤ p.liquidationFeeRatio
  liquidationFee_le : p.liquidationFeeRatio ≤ 2 / 100
  entryReason : Passes (uniqueNonblankChecks "virtual managed position entry reason" p.entryReason)
  holding_pos : ∀ bars ∈ p.maximumHoldingBars, 1 ≤ bars
  breakeven_pos : ∀ r ∈ p.breakevenTriggerR, 0 < r
  trailing_pos : ∀ r ∈ p.trailingAtrMultiple, 0 < r
  targets_ne : p.takeProfitLevels ≠ []

lemma amountChecks_iff {p : PositionFields} : Passes p.amountChecks ↔ p.AmountsValid := by
  simp only [amountChecks, passes_append, passes_cons, passes_nil, List.any_eq_false,
    Option.any_eq_false, Bool.not_eq_true, decide_eq_false_iff_not, decide_eq_true_eq, not_or,
    not_lt, not_le, not_and, not_not, and_true]
  constructor
  · rintro ⟨⟨⟨h1, h2, h3, h4, h5, h6, h7, h8, h9⟩, h10⟩, h11, h12, h13, h14⟩
    exact ⟨h1, h2, h3.1, h3.2, h4.1, h4.2, ⟨h5, fun h0 => by_contra fun hs => h6 hs h0⟩, h7.1, h7.2,
      h8, h9.1, h9.2, h10, h11, h12, h13, h14⟩
  · rintro ⟨h1, h2, h3, h3', h4, h4', h5, h7, h7', h8, h9, h9', h10, h11, h12, h13, h14⟩
    exact ⟨⟨⟨h1, h2, ⟨h3, h3'⟩, ⟨h4, h4'⟩, h5.mp, fun hs h0 => hs (h5.mpr h0), ⟨h7, h7'⟩, h8,
      ⟨h9, h9'⟩⟩, h10⟩, h11, h12, h13, h14⟩

/-- The stop of an accepted position is on its side of the entry price, and the
targets of a long ascend. -/
lemma sideChecks_iff {p : PositionFields} : Passes p.sideChecks ↔
    match p.positionSide with
    | .long => p.takeProfitLevels.Pairwise (· ≤ ·) ∧ p.stopLoss < p.entryPrice
    | .short => p.entryPrice < p.stopLoss := by
  rw [sideChecks]
  split <;> simp

/-- The margin of an accepted Futures position. -/
structure MarginValid (p : PositionFields) (m : FuturesMargin) : Prop where
  isolated_pos : 0 < m.isolatedMarginUsdt
  initial_pos : 0 < m.initialMarginUsdt
  liquidation_pos : 0 < m.liquidationPrice
  ratio_pos : 0 < m.maintenanceMarginRatio
  ratio_lt_one : m.maintenanceMarginRatio < 1
  leverage_ge : 1 ≤ m.leverage
  leverage_le : m.leverage ≤ 125
  initial_le : m.initialMarginUsdt ≤ m.isolatedMarginUsdt
  liquidation_lt : p.positionSide = .long → m.liquidationPrice < p.entryPrice
  lt_liquidation : p.positionSide = .short → p.entryPrice < m.liquidationPrice

lemma marginChecks_futures_iff {p : PositionFields} (hm : p.market = .usdMFutures) :
    Passes p.marginChecks ↔ ∃ m, p.margin = some m ∧ p.MarginValid m := by
  rw [marginChecks]
  split
  · next h => rw [hm] at h; cases h
  · next h => simp [h]
  · next m _ h =>
    simp only [h, passes_cons, passes_nil, decide_eq_false_iff_not, not_or, not_le, not_lt, not_and,
      lt_min_iff, and_true, Option.some.injEq, exists_eq_left']
    constructor
    · rintro ⟨⟨⟨h1, h2, h3⟩, h4, h5, h6, h7, h8⟩, h9, h10⟩
      exact ⟨h1, h2, h3, h4, h5, h6, h7, h8, h9, h10⟩
    · rintro ⟨h1, h2, h3, h4, h5, h6, h7, h8, h9, h10⟩
      exact ⟨⟨⟨h1, h2, h3⟩, h4, h5, h6, h7, h8⟩, h9, h10⟩

lemma marginChecks_spot_iff {p : PositionFields} (hm : p.market = .spot) :
    Passes p.marginChecks ↔ p.positionSide = .long ∧ p.isolatedMarginUsdt = none ∧
      p.initialMarginUsdt = none ∧ p.maintenanceMarginRatio = none ∧ p.liquidationPrice = none ∧
      p.leverage = none := by
  rw [marginChecks, hm]
  simp only [passes_cons, passes_nil, decide_eq_false_iff_not, not_not, List.any_cons,
    List.any_nil, Bool.or_eq_false_iff, Option.isSome_eq_false_iff, Option.isNone_iff_eq_none,
    and_true]
  constructor
  · rintro ⟨h1, ⟨h2, h3, h4, h5⟩, h6⟩
    exact ⟨h1, h2, h3, h4, h5, h6⟩
  · rintro ⟨h1, h2, h3, h4, h5, h6⟩
    exact ⟨h1, ⟨h2, h3, h4, h5⟩, h6⟩

end PositionFields

/-- The fields of a position that a candle moves. -/
structure Moved where
  remainingQuantity : ℚ
  trailingStop : ℚ
  status : VirtualPositionLifecycleStatus
  nextTargetIndex : ℕ
  realizedPnlUsdt : ℚ
  exits : List VirtualPositionExit
  closureReview : Option VirtualClosureReview
  barsHeld : ℕ
  maximumFavorableExcursionUsdt : ℚ
  maximumAdverseExcursionUsdt : ℚ
  fundingCostUsdt : ℚ

/-- The position with these fields replaced. -/
def PositionFields.move (p : PositionFields) (m : Moved) : PositionFields :=
  { p with
    remainingQuantity := m.remainingQuantity
    trailingStop := m.trailingStop
    status := m.status
    nextTargetIndex := m.nextTargetIndex
    realizedPnlUsdt := m.realizedPnlUsdt
    exits := m.exits
    closureReview := m.closureReview
    barsHeld := m.barsHeld
    maximumFavorableExcursionUsdt := m.maximumFavorableExcursionUsdt
    maximumAdverseExcursionUsdt := m.maximumAdverseExcursionUsdt
    fundingCostUsdt := m.fundingCostUsdt }

/-- What the moved fields of an accepted position satisfy. -/
structure PositionFields.MovedValid (p : PositionFields) (m : Moved) : Prop where
  trailing_pos : 0 < m.trailingStop
  realized_ge : -p.entryPrice * p.initialQuantity ≤ m.realizedPnlUsdt
  remaining_nonneg : 0 ≤ m.remainingQuantity
  remaining_le : m.remainingQuantity ≤ p.initialQuantity
  closed_iff : m.status = .closed ↔ m.remainingQuantity = 0
  mfe_nonneg : 0 ≤ m.maximumFavorableExcursionUsdt
  mae_nonneg : 0 ≤ m.maximumAdverseExcursionUsdt
  index_le : m.nextTargetIndex ≤ p.takeProfitLevels.length

/-- A candle keeps every check that is not about the fields it moves. -/
lemma PositionFields.passes_move_iff {p : PositionFields} {m : Moved} (h : Passes p.checks) :
    Passes (p.move m).checks ↔ p.MovedValid m := by
  simp only [PositionFields.checks, passes_append] at h ⊢
  obtain ⟨⟨⟨hamount, hside⟩, hmargin⟩, hplan⟩ := h
  have hside' : Passes (p.move m).sideChecks := hside
  have hmargin' : Passes (p.move m).marginChecks := hmargin
  simp only [PositionFields.planChecks, passes_append, passes_cons, passes_nil, and_true,
    decide_eq_false_iff_not, not_lt] at hplan
  rw [PositionFields.amountChecks_iff] at hamount ⊢
  constructor
  · rintro ⟨⟨⟨ha, -⟩, -⟩, hp⟩
    simp only [PositionFields.planChecks, passes_append, passes_cons, passes_nil, and_true,
      decide_eq_false_iff_not, not_lt] at hp
    refine ⟨?_, ha.realized_ge, ha.remaining_nonneg, ha.remaining_le, ha.closed_iff, ha.mfe_nonneg,
      ha.mae_nonneg, hp.2⟩
    exact ha.values_pos _ (by simp [PositionFields.move])
  · intro hv
    refine ⟨⟨⟨?_, hside'⟩, hmargin'⟩, ?_⟩
    · refine ⟨hamount.identity, ?_, hamount.entryFee_nonneg, hv.realized_ge, hv.remaining_nonneg,
        hv.remaining_le, hv.closed_iff, hv.mfe_nonneg, hv.mae_nonneg, hamount.slippage_nonneg,
        hamount.liquidationFee_nonneg, hamount.liquidationFee_le, hamount.entryReason,
        hamount.holding_pos, hamount.breakeven_pos, hamount.trailing_pos, hamount.targets_ne⟩
      have hvalues := hamount.values_pos
      simp only [List.mem_cons, List.not_mem_nil, or_false, forall_eq_or_imp, forall_eq]
        at hvalues ⊢
      obtain ⟨h1, h2, h3, -, h5, h6⟩ := hvalues
      exact ⟨h1, h2, h3, hv.trailing_pos, h5, h6⟩
    · simp only [PositionFields.planChecks, passes_append, passes_cons, passes_nil, and_true,
        decide_eq_false_iff_not, not_lt]
      exact ⟨hplan.1, hv.index_le⟩

/-- `VirtualManagedPosition`. -/
structure VirtualManagedPosition extends PositionFields where
  passes : Passes toPositionFields.checks

namespace VirtualManagedPosition

/-- `VirtualManagedPosition(…)`, and `replace(position, …)`. -/
def create (p : PositionFields) : Except PyError VirtualManagedPosition :=
  if h : Passes p.normalized.checks then .ok ⟨p.normalized, h⟩
  else .error (.value (firstRefusal p.normalized.checks))

lemma create_eq_ok {p : PositionFields} {q : VirtualManagedPosition} :
    create p = .ok q ↔ q.toPositionFields = p.normalized := by
  rw [create]
  split_ifs with h
  · rw [Except.ok.injEq]
    constructor
    · rintro rfl
      rfl
    · intro hq
      cases q
      subst hq
      rfl
  · simp only [false_iff]
    intro hq
    exact h (hq ▸ q.passes)

/-- A position is accepted exactly if its completed fields pass the checks. -/
lemma exists_create_iff {p : PositionFields} :
    (∃ q, create p = .ok q) ↔ Passes p.normalized.checks := by
  simp only [create_eq_ok]
  constructor
  · rintro ⟨q, hq⟩
    exact hq ▸ q.passes
  · intro h
    exact ⟨⟨_, h⟩, rfl⟩

variable (p : VirtualManagedPosition)

lemma amountsValid : p.AmountsValid := by
  have h := p.passes
  simp only [PositionFields.checks, passes_append] at h
  exact PositionFields.amountChecks_iff.mp h.1.1.1

/-- The price, the quantity and the stops of a position are positive. -/
lemma values_pos : 0 < p.entryPrice ∧ 0 < p.initialQuantity ∧ 0 < p.stopLoss ∧
    0 < p.trailingStop := by
  have h := p.amountsValid.values_pos
  simp only [List.mem_cons, List.not_mem_nil, or_false, forall_eq_or_imp, forall_eq] at h
  exact ⟨h.1, h.2.1, h.2.2.1, h.2.2.2.1⟩

/-- The entry fee of a position is not negative. -/
lemma entryFee_nonneg : 0 ≤ p.entryFeeUsdt := p.amountsValid.entryFee_nonneg

/-- The remaining quantity lies between nothing and the initial one. -/
lemma remaining_bounds : 0 ≤ p.remainingQuantity ∧ p.remainingQuantity ≤ p.initialQuantity :=
  ⟨p.amountsValid.remaining_nonneg, p.amountsValid.remaining_le⟩

/-- A position is closed exactly when nothing remains of it. -/
lemma closed_iff : p.status = .closed ↔ p.remainingQuantity = 0 := p.amountsValid.closed_iff

end VirtualManagedPosition

/-! ### What is observed with a candle -/

/-- The native mark path of a Futures observation. -/
structure MarkPath where
  markCandle : OHLCVCandle
  maintenanceBrackets : List FuturesRiskBracket
  isolatedWalletMargin : ℚ
  low_pos : 0 < markCandle.low
  brackets_valid : validateFuturesBrackets maintenanceBrackets = .ok ()

/-- `VirtualFuturesPositionContext`.  The brackets and the wallet margin come
with the mark candle and only with it. -/
structure VirtualFuturesPositionContext where
  observedAt : ℤ
  markPrice : ℚ
  fundingRate : ℚ
  fundingPaymentDue : Bool := false
  markPath : Option MarkPath := none
  markPrice_pos : 0 < markPrice
  aligned : ∀ m ∈ markPath, m.markCandle.timestamp = observedAt ∧ m.markCandle.close = markPrice

end Ai4Binance

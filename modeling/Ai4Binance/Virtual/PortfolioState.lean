/-
The virtual portfolio (`domain/research/virtual_runtime_portfolio_state.py`).

Amounts of the virtual runtime are exact rationals: the model computes without
the rounding of a decimal context.  The two markets and the two sides are enumerations:
the constructors refuse every other text.

* `PortfolioFields`: the fields of a portfolio, and `PortfolioFields.checks`,
  the checks of its constructor in their order;
* `VirtualPortfolioState`: fields that pass them, and `create`, the constructor.
-/
import Ai4Binance.Lib.Python
import Ai4Binance.Lib.Text

open Text Check

namespace Ai4Binance

/-- The markets of the virtual runtime. -/
inductive Market where
  | spot
  | usdMFutures
  deriving DecidableEq, Repr

/-- `VirtualPositionSide`. -/
inductive VirtualPositionSide where
  | long
  | short
  deriving DecidableEq, Repr

/-- The fields of `VirtualPortfolioState`.  The high watermark is the one the
constructor leaves: the equity where none was given. -/
structure PortfolioFields where
  portfolioId : String
  market : Market
  cashUsdt : ℚ
  equityUsdt : ℚ
  initialEquityUsdt : ℚ := 1000
  inventoryQuantity : ℚ := 0
  inventoryCostBasisUsdt : ℚ := 0
  realizedPnlUsdt : ℚ := 0
  unrealizedPnlUsdt : ℚ := 0
  feesPaidUsdt : ℚ := 0
  slippageCostUsdt : ℚ := 0
  fundingCostUsdt : ℚ := 0
  highWatermarkUsdt : ℚ := equityUsdt
  maxDrawdownRatio : ℚ := 0
  currentOpenRiskUsdt : ℚ := 0
  consecutiveLosses : ℕ := 0
  positionSide : Option VirtualPositionSide := none
  positionEntryPrice : Option ℚ := none
  positionMarkPrice : Option ℚ := none
  positionNotionalUsdt : Option ℚ := none
  isolatedMarginUsdt : Option ℚ := none
  initialMarginUsdt : Option ℚ := none
  maintenanceMarginUsdt : Option ℚ := none
  liquidationPrice : Option ℚ := none
  leverage : Option ℤ := none
  marginUtilizationRatio : Option ℚ := none
  openPositionCount : ℕ := 0
  maxConcurrentPositions : ℕ := 1
  deriving DecidableEq

namespace PortfolioFields

/-- The Futures amounts of a portfolio. -/
def futuresScalars (p : PortfolioFields) : List (Option ℚ) :=
  [p.positionEntryPrice, p.positionMarkPrice, p.positionNotionalUsdt, p.isolatedMarginUsdt,
    p.initialMarginUsdt, p.maintenanceMarginUsdt, p.liquidationPrice, p.marginUtilizationRatio]

/-- The checks every portfolio makes. -/
def commonChecks (p : PortfolioFields) : List (Bool × String) :=
  [(isBlank p.portfolioId, "virtual portfolio identity is required"),
    (min p.initialEquityUsdt p.equityUsdt ≤ 0, "virtual portfolio equity must be positive"),
    ([p.cashUsdt, p.inventoryQuantity, p.inventoryCostBasisUsdt, p.feesPaidUsdt,
        p.slippageCostUsdt, p.currentOpenRiskUsdt].any (· < 0),
      "virtual portfolio balances must be non-negative"),
    (p.maxDrawdownRatio < 0 ∨ 1 < p.maxDrawdownRatio,
      "virtual portfolio drawdown ratio must stay within zero and one"),
    (p.unrealizedPnlUsdt + p.cashUsdt < -p.equityUsdt,
      "virtual portfolio unrealized PnL is inconsistent"),
    (p.maxConcurrentPositions < 1, "virtual portfolio capacity must be positive"),
    (p.highWatermarkUsdt ≤ 0, "virtual portfolio high watermark must be positive"),
    (p.highWatermarkUsdt < p.equityUsdt, "virtual portfolio high watermark cannot trail equity")]

/-- The checks of a Spot portfolio. -/
def spotChecks (p : PortfolioFields) : List (Bool × String) :=
  [(p.inventoryQuantity = 0 ∧ p.inventoryCostBasisUsdt ≠ 0,
      "Spot virtual portfolio cannot keep cost basis without inventory"),
    (p.highWatermarkUsdt + p.realizedPnlUsdt + p.initialEquityUsdt < p.cashUsdt,
      "Spot virtual portfolio cash appears inconsistent with independent capital"),
    (p.positionSide.isSome || p.leverage.isSome || p.futuresScalars.any (·.isSome),
      "Spot virtual portfolio cannot contain Futures position fields")]

/-- The checks of a Futures portfolio. -/
def futuresChecks (p : PortfolioFields) : List (Bool × String) :=
  [(p.inventoryQuantity ≠ 0 ∨ p.inventoryCostBasisUsdt ≠ 0,
      "USD_M_FUTURES virtual portfolio cannot carry Spot inventory state"),
    (0 < p.openPositionCount ∧ (p.positionSide.isNone || p.futuresScalars.any (·.isNone)),
      "USD_M_FUTURES open virtual position requires full margin evidence"),
    (0 < p.openPositionCount ∧ p.leverage.all (· < 1),
      "USD_M_FUTURES open virtual position requires positive leverage"),
    (0 < p.openPositionCount ∧ p.marginUtilizationRatio.any fun r => r < 0 ∨ 1 < r,
      "USD_M_FUTURES margin utilization must stay within zero and one"),
    (p.openPositionCount = 0 ∧ p.positionSide.isSome,
      "USD_M_FUTURES flat virtual portfolio cannot keep directional position state")]

/-- `VirtualPortfolioState.__post_init__`. -/
def checks (p : PortfolioFields) : List (Bool × String) :=
  p.commonChecks ++
    match p.market with
    | .spot => p.spotChecks
    | .usdMFutures => p.futuresChecks

/-! ### What the checks ask -/

/-- What every accepted portfolio satisfies. -/
structure CommonValid (p : PortfolioFields) : Prop where
  identity : isBlank p.portfolioId = false
  initial_pos : 0 < p.initialEquityUsdt
  equity_pos : 0 < p.equityUsdt
  balances_nonneg : ∀ x ∈ [p.cashUsdt, p.inventoryQuantity, p.inventoryCostBasisUsdt,
    p.feesPaidUsdt, p.slippageCostUsdt, p.currentOpenRiskUsdt], 0 ≤ x
  drawdown_nonneg : 0 ≤ p.maxDrawdownRatio
  drawdown_le_one : p.maxDrawdownRatio ≤ 1
  unrealized_ge : -p.equityUsdt ≤ p.unrealizedPnlUsdt + p.cashUsdt
  capacity_pos : 1 ≤ p.maxConcurrentPositions
  highWatermark_pos : 0 < p.highWatermarkUsdt
  equity_le : p.equityUsdt ≤ p.highWatermarkUsdt

lemma commonChecks_iff {p : PortfolioFields} : Passes p.commonChecks ↔ p.CommonValid := by
  simp only [commonChecks, passes_cons, passes_nil, List.any_eq_false, decide_eq_false_iff_not,
    decide_eq_true_eq, not_or, not_lt, not_le, lt_min_iff, and_true]
  constructor
  · rintro ⟨h1, ⟨h2, h2'⟩, h3, ⟨h4, h4'⟩, h5, h6, h7, h8⟩
    exact ⟨h1, h2, h2', h3, h4, h4', h5, h6, h7, h8⟩
  · rintro ⟨h1, h2, h2', h3, h4, h4', h5, h6, h7, h8⟩
    exact ⟨h1, ⟨h2, h2'⟩, h3, ⟨h4, h4'⟩, h5, h6, h7, h8⟩

/-- What an accepted Spot portfolio satisfies. -/
structure SpotValid (p : PortfolioFields) : Prop where
  costBasis_zero : p.inventoryQuantity = 0 → p.inventoryCostBasisUsdt = 0
  cash_le : p.cashUsdt ≤ p.highWatermarkUsdt + p.realizedPnlUsdt + p.initialEquityUsdt
  side_none : p.positionSide = none
  leverage_none : p.leverage = none
  scalars_none : ∀ x ∈ p.futuresScalars, x = none

lemma spotChecks_iff {p : PortfolioFields} : Passes p.spotChecks ↔ p.SpotValid := by
  simp only [spotChecks, passes_cons, passes_nil, decide_eq_false_iff_not, not_and, not_not, not_lt,
    Bool.or_eq_false_iff, List.any_eq_false, Option.not_isSome_iff_eq_none,
    Option.isSome_eq_false_iff, Option.isNone_iff_eq_none, and_true]
  constructor
  · rintro ⟨h1, h2, ⟨h3, h4⟩, h5⟩
    exact ⟨h1, h2, h3, h4, h5⟩
  · rintro ⟨h1, h2, h3, h4, h5⟩
    exact ⟨h1, h2, ⟨h3, h4⟩, h5⟩

/-- What an accepted Futures portfolio satisfies. -/
structure FuturesValid (p : PortfolioFields) : Prop where
  inventory_zero : p.inventoryQuantity = 0
  costBasis_zero : p.inventoryCostBasisUsdt = 0
  evidence : 0 < p.openPositionCount →
    p.positionSide.isSome ∧ (∀ x ∈ p.futuresScalars, x.isSome) ∧
      (∃ leverage ∈ p.leverage, 1 ≤ leverage) ∧
      ∀ r ∈ p.marginUtilizationRatio, 0 ≤ r ∧ r ≤ 1
  side_none : p.openPositionCount = 0 → p.positionSide = none

lemma futuresChecks_iff {p : PortfolioFields} : Passes p.futuresChecks ↔ p.FuturesValid := by
  have hleverage : (∃ leverage ∈ p.leverage, 1 ≤ leverage) ↔ ¬ p.leverage.all (· < 1) := by
    cases p.leverage <;> simp
  simp only [futuresChecks, passes_cons, passes_nil, Option.any_eq_false, decide_eq_false_iff_not,
    not_and, not_or, not_lt, not_not, Bool.or_eq_true, Bool.not_eq_true, and_true]
  constructor
  · rintro ⟨⟨h1, h1'⟩, h2, h3, h4, h5⟩
    refine ⟨h1, h1', fun hc => ⟨?_, ?_, ?_, ?_⟩, fun hc => ?_⟩
    · simpa using (h2 hc).1
    · simpa [Option.isSome_iff_ne_none] using (h2 hc).2
    · exact hleverage.mpr (by simpa using h3 hc)
    · simpa using h4 hc
    · simpa using h5 hc
  · rintro ⟨h1, h1', h2, h5⟩
    refine ⟨⟨h1, h1'⟩, fun hc => ?_, fun hc => ?_, fun hc => ?_, fun hc => ?_⟩
    · exact ⟨by simpa using (h2 hc).1, by simpa [Option.isSome_iff_ne_none] using (h2 hc).2.1⟩
    · simpa using hleverage.mp (h2 hc).2.2.1
    · simpa using (h2 hc).2.2.2
    · simpa using h5 hc

lemma checks_spot_iff {p : PortfolioFields} (h : p.market = .spot) :
    Passes p.checks ↔ p.CommonValid ∧ p.SpotValid := by
  simp only [checks, h, passes_append, commonChecks_iff, spotChecks_iff]

lemma checks_futures_iff {p : PortfolioFields} (h : p.market = .usdMFutures) :
    Passes p.checks ↔ p.CommonValid ∧ p.FuturesValid := by
  simp only [checks, h, passes_append, commonChecks_iff, futuresChecks_iff]

end PortfolioFields

/-- `VirtualPortfolioState`. -/
structure VirtualPortfolioState extends PortfolioFields where
  passes : Passes toPortfolioFields.checks

namespace VirtualPortfolioState

/-- `VirtualPortfolioState(…)`, and `replace(portfolio, …)`. -/
def create (p : PortfolioFields) : Except PyError VirtualPortfolioState :=
  if h : Passes p.checks then .ok ⟨p, h⟩ else .error (.value (firstRefusal p.checks))

lemma create_eq_ok {p : PortfolioFields} {q : VirtualPortfolioState} :
    create p = .ok q ↔ q.toPortfolioFields = p := by
  rw [create]
  split_ifs with h
  · rw [Except.ok.injEq]
    constructor
    · rintro rfl
      rfl
    · rintro rfl
      rfl
  · simp only [false_iff]
    rintro rfl
    exact h q.passes

/-- A portfolio is accepted exactly if its fields pass the checks. -/
lemma exists_create_iff {p : PortfolioFields} : (∃ q, create p = .ok q) ↔ Passes p.checks := by
  simp only [create_eq_ok]
  constructor
  · rintro ⟨q, rfl⟩
    exact q.passes
  · intro h
    exact ⟨⟨_, h⟩, rfl⟩

/-- A portfolio is its fields. -/
lemma eq_of_fields_eq {p q : VirtualPortfolioState}
    (h : p.toPortfolioFields = q.toPortfolioFields) : p = q := by
  cases p
  cases q
  subst h
  rfl

variable (p : VirtualPortfolioState)

lemma commonValid : p.CommonValid := by
  have h := p.passes
  rw [PortfolioFields.checks, passes_append] at h
  exact PortfolioFields.commonChecks_iff.mp h.1

lemma spotValid (hm : p.market = .spot) : p.SpotValid :=
  ((PortfolioFields.checks_spot_iff hm).mp p.passes).2

lemma futuresValid (hm : p.market = .usdMFutures) : p.FuturesValid :=
  ((PortfolioFields.checks_futures_iff hm).mp p.passes).2

/-- The balances of a portfolio are not negative. -/
lemma balances_nonneg : 0 ≤ p.cashUsdt ∧ 0 ≤ p.inventoryQuantity ∧
    0 ≤ p.inventoryCostBasisUsdt ∧ 0 ≤ p.currentOpenRiskUsdt := by
  have h := p.commonValid.balances_nonneg
  simp only [List.mem_cons, List.not_mem_nil, or_false, forall_eq_or_imp, forall_eq] at h
  obtain ⟨h1, h2, h3, -, -, h4⟩ := h
  exact ⟨h1, h2, h3, h4⟩

/-- The high watermark and the equity are positive. -/
lemma highWatermark_pos : 0 < p.highWatermarkUsdt := p.commonValid.highWatermark_pos

/-- Without inventory a Spot portfolio has no cost basis. -/
lemma costBasis_eq_zero (hm : p.market = .spot) (hi : p.inventoryQuantity = 0) :
    p.inventoryCostBasisUsdt = 0 := (p.spotValid hm).costBasis_zero hi

/-- A Spot portfolio has no Futures fields. -/
lemma futures_none (hm : p.market = .spot) : p.leverage = none ∧
    ∀ x ∈ p.futuresScalars, x = none :=
  ⟨(p.spotValid hm).leverage_none, (p.spotValid hm).scalars_none⟩

end VirtualPortfolioState

end Ai4Binance

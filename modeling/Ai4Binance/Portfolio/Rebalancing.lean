/-
Rebalance proposals (`portfolio/rebalancing.py`).

The engine proposes a purchase or a sale that moves the share of the asset towards its target.
The fee is estimated beside the notional, and none of the bounds of the notional leaves room
for it.  Every operation rounds its exact result (`Arithmetic`).

* `StagedBuckets`, `RebalancePolicy`: what the engine reads;
* `propose`, `propose_eq_ok`: the proposal, and when it is a trade;
* `Holdings`, `RebalanceProposal.fill`: the holdings when a proposal is filled at the quoted
  price and its fee is paid;
* `Executable`, `rebalance_executable_iff`: **proposals that can be carried out** are, in exact
  arithmetic, those whose fee is covered;
* `rebalance_fee_uncovered`: a proposal that breaks the reserve, one that crosses its target, and
  one that rounding makes sell more than there is.
-/
import Ai4Binance.Backtesting.SpotConservation
import Ai4Binance.Portfolio.InventoryRotation

open Text Check

namespace Ai4Binance

/-! ### Buckets and policy -/

/-- The values of `last_side`. -/
inductive RebalanceSide where
  | none
  | buy
  | sell
  deriving DecidableEq, Repr

/-- `InventoryBuckets`, with the cash and the stage that a rotation does not read. -/
structure StagedBuckets extends InventoryBuckets where
  pendingRebuyCashQuote : ℚ := 0
  lastStage : ℤ := 0
  lastSide : RebalanceSide := .none
  lastStageClock : ℤ := -1000000
  pending_nonneg : 0 ≤ pendingRebuyCashQuote
  lastStage_nonneg : 0 ≤ lastStage

/-- `RebalancePolicy`. -/
structure RebalancePolicy where
  targetAssetRatio : ℚ
  hysteresisRatio : ℚ := 2 / 100
  minimumNotionalQuote : ℚ := 10
  minimumCoreRatio : ℚ := 60 / 100
  maximumTradeRatio : ℚ := 15 / 100
  feeRatio : ℚ := 1 / 1000
  cooldownCandles : ℤ := 4
  maximumStageJump : ℤ := 1
  ratios_nonneg : 0 ≤ hysteresisRatio ∧ 0 ≤ feeRatio
  target_bounds : 0 ≤ targetAssetRatio ∧ targetAssetRatio ≤ 1
  core_bounds : 0 ≤ minimumCoreRatio ∧ minimumCoreRatio ≤ 1
  trade_bounds : 0 < maximumTradeRatio ∧ maximumTradeRatio ≤ 1
  notional_pos : 0 < minimumNotionalQuote
  stages_nonneg : 0 ≤ cooldownCandles ∧ 0 ≤ maximumStageJump

/-- `RebalanceAction`. -/
inductive RebalanceAction where
  | hold
  | sell
  | buy
  | blocked
  deriving DecidableEq, Repr

/-- `RebalanceProposal`. -/
structure RebalanceProposal where
  action : RebalanceAction
  currentAssetRatio : ℚ
  targetAssetRatio : ℚ
  proposedUnits : ℚ
  proposedNotionalQuote : ℚ
  estimatedFeeQuote : ℚ
  stage : ℤ
  blockers : List String
  deriving DecidableEq, Repr

/-- `RebalanceProposal(…)`. -/
def RebalanceProposal.create (p : RebalanceProposal) : Except PyError RebalanceProposal := do
  raiseIf ([p.currentAssetRatio, p.targetAssetRatio, p.proposedUnits, p.proposedNotionalQuote,
      p.estimatedFeeQuote].any (· < 0) ∨ 1 < p.currentAssetRatio ∨ 1 < p.targetAssetRatio ∨
      p.stage < 0) (.value "rebalance proposal is invalid")
  return p

/-! ### The engine -/

namespace StagedBuckets

variable (a : Arithmetic) (buckets : StagedBuckets) (policy : RebalancePolicy) (priceQuote : ℚ)

/-- `total_units`. -/
def totalUnits : ℚ := a.add (a.add buckets.coreUnits buckets.strategicUnits) buckets.tacticalUnits

def assetValue : ℚ := a.mul (buckets.totalUnits a) priceQuote

def totalValue : ℚ := a.add (buckets.assetValue a priceQuote) buckets.cashQuote

/-- `current_ratio`, of an empty portfolio zero. -/
def currentRatio : ℚ :=
  if 0 < buckets.totalValue a priceQuote then
    a.div (buckets.assetValue a priceQuote) (buckets.totalValue a priceQuote)
  else 0

def deltaRatio : ℚ := a.sub policy.targetAssetRatio (buckets.currentRatio a priceQuote)

/-- The side of a trade that closes the gap to the target. -/
def side : RebalanceSide := if 0 < buckets.deltaRatio a policy priceQuote then .buy else .sell

def desiredNotional : ℚ :=
  a.mul |buckets.deltaRatio a policy priceQuote| (buckets.totalValue a priceQuote)

def maximumNotional : ℚ := a.mul policy.maximumTradeRatio (buckets.totalValue a priceQuote)

/-- What a sale can give away at most, and a purchase spend. -/
def sideNotional : ℚ :=
  if buckets.side a policy priceQuote = .sell then a.mul (buckets.rotationUnits a) priceQuote
  else buckets.availableCashQuote a

/-- The notional of a trade. -/
def notional : ℚ :=
  min (min (buckets.desiredNotional a policy priceQuote)
    (buckets.maximumNotional a policy priceQuote)) (buckets.sideNotional a policy priceQuote)

/-- The blockers of a portfolio without value. -/
def valueBlockers (riskBlockers : List String) : List String :=
  riskBlockers ++
    if buckets.totalValue a priceQuote ≤ 0 then ["PORTFOLIO_VALUE_UNAVAILABLE"] else []

/-- The blockers of a stage. -/
def stageBlockers (clockIndex requestedStage : ℤ) : List String :=
  (if clockIndex - buckets.lastStageClock < policy.cooldownCandles then
    ["REBALANCE_COOLDOWN_ACTIVE"] else []) ++
  (if policy.maximumStageJump < |requestedStage - buckets.lastStage| then
    ["REBALANCE_STAGE_JUMP_BLOCKED"] else []) ++
  (if buckets.lastSide ≠ .none ∧ buckets.lastSide ≠ buckets.side a policy priceQuote ∧
      1 < requestedStage then
    ["REBALANCE_SIDE_TRANSITION_BLOCKED"] else [])

/-- `_result`: a proposal without a trade. -/
def result (action : RebalanceAction) (stage : ℤ) (blockers : List String) :
    Except PyError RebalanceProposal :=
  RebalanceProposal.create
    { action
      currentAssetRatio := buckets.currentRatio a priceQuote
      targetAssetRatio := policy.targetAssetRatio
      proposedUnits := 0
      proposedNotionalQuote := 0
      estimatedFeeQuote := 0
      stage
      blockers := blockers.eraseDups }

/-- `propose`. -/
def propose (clockIndex requestedStage : ℤ) (riskBlockers : List String) :
    Except PyError RebalanceProposal := do
  raiseIf (priceQuote ≤ 0) (.value "rebalance price must be finite and positive")
  raiseIf (clockIndex < 0 ∨ requestedStage < 0)
    (.value "rebalance clock and stage must be non-negative")
  let blockers := buckets.valueBlockers a priceQuote riskBlockers
  if |buckets.deltaRatio a policy priceQuote| ≤ policy.hysteresisRatio then
    buckets.result a policy priceQuote .hold requestedStage
      (if blockers = [] then ["REBALANCE_HYSTERESIS_BAND"] else blockers)
  else
    let blockers := blockers ++ buckets.stageBlockers a policy priceQuote clockIndex requestedStage
    if blockers ≠ [] then
      buckets.result a policy priceQuote .blocked requestedStage blockers
    else if buckets.notional a policy priceQuote < policy.minimumNotionalQuote then
      buckets.result a policy priceQuote .blocked requestedStage
        ["REBALANCE_MINIMUM_NOTIONAL_BLOCKED"]
    else
      RebalanceProposal.create
        { action := if buckets.side a policy priceQuote = .buy then .buy else .sell
          currentAssetRatio := buckets.currentRatio a priceQuote
          targetAssetRatio := policy.targetAssetRatio
          proposedUnits := a.div (buckets.notional a policy priceQuote) priceQuote
          proposedNotionalQuote := buckets.notional a policy priceQuote
          estimatedFeeQuote := a.mul (buckets.notional a policy priceQuote) policy.feeRatio
          stage := requestedStage
          blockers := [] }

end StagedBuckets

/-! ### Carrying out a proposal -/

/-- Holdings: the core units, the units in rotation and the cash. -/
structure Holdings where
  core : ℚ
  rotation : ℚ
  cash : ℚ
  deriving DecidableEq, Repr

namespace Holdings

variable (h : Holdings) (priceQuote : ℚ)

/-- The value of holdings at a price. -/
def value : ℚ := (h.core + h.rotation) * priceQuote + h.cash

/-- The share of the asset in the value of holdings, of empty holdings zero. -/
def assetRatio : ℚ :=
  if 0 < h.value priceQuote then (h.core + h.rotation) * priceQuote / h.value priceQuote else 0

end Holdings

/-- The holdings of buckets. -/
def StagedBuckets.holdings (buckets : StagedBuckets) : Holdings where
  core := buckets.coreUnits
  rotation := buckets.strategicUnits + buckets.tacticalUnits
  cash := buckets.cashQuote

/-- The holdings after a proposal is filled at the quoted price and its fee is paid. -/
def RebalanceProposal.fill (p : RebalanceProposal) (h : Holdings) (priceQuote : ℚ) : Holdings :=
  match p.action with
  | .buy => ⟨h.core, h.rotation + p.proposedUnits,
      h.cash - p.proposedUnits * priceQuote - p.estimatedFeeQuote⟩
  | .sell => ⟨h.core, h.rotation - p.proposedUnits,
      h.cash + p.proposedUnits * priceQuote - p.estimatedFeeQuote⟩
  | _ => h

/-- A trade that can be carried out: it sells no more than is in rotation, leaves the reserved
cash, is of a notional within the bounds of the policy, and takes the share of the asset
towards its target, not beyond. -/
structure Executable (buckets : StagedBuckets) (policy : RebalancePolicy) (priceQuote : ℚ)
    (p : RebalanceProposal) : Prop where
  core_eq : (p.fill buckets.holdings priceQuote).core = buckets.coreUnits
  rotation_nonneg : 0 ≤ (p.fill buckets.holdings priceQuote).rotation
  reserved_le : buckets.reservedCashQuote ≤ (p.fill buckets.holdings priceQuote).cash
  minimum_le : policy.minimumNotionalQuote ≤ p.proposedNotionalQuote
  le_maximum : p.proposedNotionalQuote ≤
    policy.maximumTradeRatio * buckets.holdings.value priceQuote
  approaches : (p.fill buckets.holdings priceQuote).assetRatio priceQuote ∈
    Set.uIcc (buckets.holdings.assetRatio priceQuote) policy.targetAssetRatio

/-! ### What a proposed trade says -/

namespace StagedBuckets

section Trade

variable {a : Arithmetic} {buckets : StagedBuckets} {policy : RebalancePolicy} {priceQuote : ℚ}
  {clockIndex requestedStage : ℤ} {riskBlockers : List String} {p : RebalanceProposal}

/-- A proposal to trade: a portfolio with a value, off its target, and the terms of the trade. -/
structure Trade (a : Arithmetic) (buckets : StagedBuckets) (policy : RebalancePolicy)
    (priceQuote : ℚ) (p : RebalanceProposal) : Prop where
  price_pos : 0 < priceQuote
  value_pos : 0 < buckets.totalValue a priceQuote
  off_target : policy.hysteresisRatio < |buckets.deltaRatio a policy priceQuote|
  minimum_le : policy.minimumNotionalQuote ≤ buckets.notional a policy priceQuote
  action_eq : p.action = if buckets.side a policy priceQuote = .buy then .buy else .sell
  units_eq : p.proposedUnits = a.div (buckets.notional a policy priceQuote) priceQuote
  notional_eq : p.proposedNotionalQuote = buckets.notional a policy priceQuote
  fee_eq : p.estimatedFeeQuote = a.mul (buckets.notional a policy priceQuote) policy.feeRatio

lemma result_action {action : RebalanceAction} {stage : ℤ} {blockers : List String}
    (h : buckets.result a policy priceQuote action stage blockers = .ok p) : p.action = action := by
  simp only [result, RebalanceProposal.create, bind_eq_ok, raiseIf_eq_ok, pure_eq_ok] at h
  obtain ⟨_, -, rfl⟩ := h
  rfl

/-- Inversion of `propose` at a trade. -/
lemma trade_of_propose
    (h : buckets.propose a policy priceQuote clockIndex requestedStage riskBlockers = .ok p)
    (htrade : p.action = .buy ∨ p.action = .sell) : Trade a buckets policy priceQuote p := by
  have hother : p.action ≠ .hold ∧ p.action ≠ .blocked := by
    rcases htrade with h | h <;> rw [h] <;> exact ⟨nofun, nofun⟩
  simp only [propose, bind_eq_ok, raiseIf_eq_ok, not_le] at h
  obtain ⟨_, hprice, _, -, h⟩ := h
  by_cases hband : |buckets.deltaRatio a policy priceQuote| ≤ policy.hysteresisRatio
  · rw [if_pos hband] at h
    exact absurd (result_action h) hother.1
  · rw [if_neg hband] at h
    by_cases hblocked : buckets.valueBlockers a priceQuote riskBlockers ++
        buckets.stageBlockers a policy priceQuote clockIndex requestedStage ≠ []
    · rw [if_pos hblocked] at h
      exact absurd (result_action h) hother.2
    rw [if_neg hblocked] at h
    by_cases hminimum : buckets.notional a policy priceQuote < policy.minimumNotionalQuote
    · rw [if_pos hminimum] at h
      exact absurd (result_action h) hother.2
    · have hvalue : buckets.valueBlockers a priceQuote riskBlockers = [] :=
        (List.append_eq_nil_iff.mp (not_not.mp hblocked)).1
      have hpositive : ¬ buckets.totalValue a priceQuote ≤ 0 := by
        intro hle
        rw [valueBlockers, if_pos hle] at hvalue
        exact List.cons_ne_nil _ _ (List.append_eq_nil_iff.mp hvalue).2
      rw [if_neg hminimum] at h
      simp only [RebalanceProposal.create, bind_eq_ok, raiseIf_eq_ok, pure_eq_ok] at h
      obtain ⟨_, -, rfl⟩ := h
      exact ⟨hprice, not_le.mp hpositive, not_le.mp hband, not_lt.mp hminimum, rfl, rfl, rfl, rfl⟩

end Trade

/-! ### Exact arithmetic -/

section Exact

variable {buckets : StagedBuckets} {policy : RebalancePolicy} {priceQuote : ℚ}
  {p : RebalanceProposal}

lemma exact_totalValue : buckets.totalValue .exact priceQuote = buckets.holdings.value priceQuote := by
  simp only [totalValue, assetValue, totalUnits, Holdings.value, holdings, Arithmetic.exact_add,
    Arithmetic.exact_mul]
  ring

lemma exact_assetValue : buckets.assetValue .exact priceQuote =
    (buckets.holdings.core + buckets.holdings.rotation) * priceQuote := by
  simp only [assetValue, totalUnits, holdings, Arithmetic.exact_add, Arithmetic.exact_mul]
  ring

lemma exact_currentRatio :
    buckets.currentRatio .exact priceQuote = buckets.holdings.assetRatio priceQuote := by
  rw [currentRatio, Holdings.assetRatio, exact_totalValue, exact_assetValue, Arithmetic.exact_div]

end Exact

/-- The fee of a trade is covered.  A purchase needs cash for it, and room below its target, as
the fee makes the portfolio smaller; a sale of which the fee is at most the proceeds needs
nothing. -/
def FeeCovered (buckets : StagedBuckets) (policy : RebalancePolicy) (priceQuote : ℚ) : Prop :=
  if buckets.side .exact policy priceQuote = .buy then
    (1 + policy.feeRatio) * buckets.notional .exact policy priceQuote ≤
        buckets.availableCashQuote .exact ∧
      (1 + policy.feeRatio * policy.targetAssetRatio) *
        buckets.notional .exact policy priceQuote ≤ buckets.desiredNotional .exact policy priceQuote
  else
    (policy.feeRatio - 1) * buckets.notional .exact policy priceQuote ≤
        buckets.availableCashQuote .exact ∧
      policy.feeRatio * buckets.currentRatio .exact priceQuote ≤ 1

section Exact

variable {buckets : StagedBuckets} {policy : RebalancePolicy} {priceQuote : ℚ}
  {p : RebalanceProposal}

lemma exact_deltaRatio : buckets.deltaRatio .exact policy priceQuote =
    policy.targetAssetRatio - buckets.holdings.assetRatio priceQuote := by
  rw [deltaRatio, exact_currentRatio, Arithmetic.exact_sub]

/-- The share of the asset, times the value. -/
lemma assetRatio_mul_value (hvalue : 0 < buckets.holdings.value priceQuote) :
    buckets.holdings.assetRatio priceQuote * buckets.holdings.value priceQuote =
      (buckets.holdings.core + buckets.holdings.rotation) * priceQuote := by
  rw [Holdings.assetRatio, if_pos hvalue, div_mul_cancel₀ _ hvalue.ne']

lemma notional_le_maximum : buckets.notional .exact policy priceQuote ≤
    policy.maximumTradeRatio * buckets.holdings.value priceQuote := by
  rw [← exact_totalValue]
  exact (min_le_left _ _).trans (min_le_right _ _)

lemma notional_le_desired : buckets.notional .exact policy priceQuote ≤
    buckets.desiredNotional .exact policy priceQuote :=
  (min_le_left _ _).trans (min_le_left _ _)

/-- A purchase desires what the asset lacks of its target. -/
lemma desiredNotional_buy (hvalue : 0 < buckets.holdings.value priceQuote)
    (hside : 0 < buckets.deltaRatio .exact policy priceQuote) :
    buckets.desiredNotional .exact policy priceQuote =
      policy.targetAssetRatio * buckets.holdings.value priceQuote -
        (buckets.holdings.core + buckets.holdings.rotation) * priceQuote := by
  rw [desiredNotional, abs_of_pos hside, Arithmetic.exact_mul, exact_deltaRatio, exact_totalValue,
    sub_mul, assetRatio_mul_value hvalue]

/-- A sale desires what the asset has beyond its target. -/
lemma desiredNotional_sell (hvalue : 0 < buckets.holdings.value priceQuote)
    (hside : ¬ 0 < buckets.deltaRatio .exact policy priceQuote) :
    buckets.desiredNotional .exact policy priceQuote =
      (buckets.holdings.core + buckets.holdings.rotation) * priceQuote -
        policy.targetAssetRatio * buckets.holdings.value priceQuote := by
  rw [desiredNotional, abs_of_nonpos (not_lt.mp hside), Arithmetic.exact_mul, exact_deltaRatio,
    exact_totalValue, neg_mul, sub_mul, assetRatio_mul_value hvalue, neg_sub]

/-- The units of a trade are worth its notional. -/
lemma Trade.units_mul (h : Trade .exact buckets policy priceQuote p) :
    p.proposedUnits * priceQuote = buckets.notional .exact policy priceQuote := by
  rw [h.units_eq, Arithmetic.exact_div, div_mul_cancel₀ _ h.price_pos.ne']

end Exact

/-! ### The share after a trade -/

section Share

variable {before after : Holdings} {priceQuote target notional fee : ℚ}

/-- After a purchase the share lies between the one before and the target if and only if the
purchase and what the fee takes off the target are within the gap. -/
lemma buy_approaches_iff
    (hasset : (after.core + after.rotation) * priceQuote =
      (before.core + before.rotation) * priceQuote + notional)
    (hcash : after.cash = before.cash - notional - notional * fee) (hafter : 0 ≤ after.cash)
    (hbefore : 0 ≤ (before.core + before.rotation) * priceQuote)
    (hvalue : 0 < before.value priceQuote) (hnotional : 0 < notional) (hfee : 0 ≤ fee)
    (hbelow : before.assetRatio priceQuote ≤ target) :
    after.assetRatio priceQuote ∈ Set.uIcc (before.assetRatio priceQuote) target ↔
      (1 + fee * target) * notional ≤ target * before.value priceQuote -
        (before.core + before.rotation) * priceQuote := by
  have hvalue' : after.value priceQuote = before.value priceQuote - notional * fee := by
    rw [Holdings.value, Holdings.value, hasset, hcash]
    ring
  have hpositive : 0 < after.value priceQuote := by
    rw [Holdings.value, hasset]
    positivity
  rw [Set.uIcc_of_le hbelow, Set.mem_Icc, Holdings.assetRatio, Holdings.assetRatio,
    if_pos hvalue, if_pos hpositive, div_le_div_iff₀ hvalue hpositive, div_le_iff₀ hpositive,
    hasset, hvalue']
  have hgrows : (before.core + before.rotation) * priceQuote *
      (before.value priceQuote - notional * fee) ≤
      ((before.core + before.rotation) * priceQuote + notional) * before.value priceQuote := by
    nlinarith [mul_nonneg hbefore (mul_nonneg hnotional.le hfee), mul_pos hnotional hvalue]
  constructor
  · rintro ⟨-, h⟩
    linarith
  · intro h
    exact ⟨hgrows, by linarith⟩

/-- After a sale of at most what the asset has beyond its target, the share lies between the
target and the one before if and only if the fee is not more than the sale, weighted by the
share. -/
lemma sell_approaches_iff
    (hasset : (after.core + after.rotation) * priceQuote =
      (before.core + before.rotation) * priceQuote - notional)
    (hcash : after.cash = before.cash + notional - notional * fee) (hafter : 0 ≤ after.cash)
    (hleft : 0 ≤ (after.core + after.rotation) * priceQuote)
    (hvalue : 0 < before.value priceQuote) (hnotional : 0 < notional) (hfee : 0 ≤ fee)
    (htarget : 0 ≤ target) (habove : target ≤ before.assetRatio priceQuote)
    (hdesired : notional ≤ (before.core + before.rotation) * priceQuote -
      target * before.value priceQuote) :
    after.assetRatio priceQuote ∈ Set.uIcc (before.assetRatio priceQuote) target ↔
      fee * before.assetRatio priceQuote ≤ 1 := by
  have hvalue' : after.value priceQuote = before.value priceQuote - notional * fee := by
    rw [Holdings.value, Holdings.value, hasset, hcash]
    ring
  have hratio : fee * before.assetRatio priceQuote ≤ 1 ↔
      fee * ((before.core + before.rotation) * priceQuote) ≤ before.value priceQuote := by
    rw [Holdings.assetRatio, if_pos hvalue, ← mul_div_assoc, div_le_one hvalue]
  rw [hratio, Set.uIcc_of_ge habove, Set.mem_Icc]
  by_cases hpositive : 0 < after.value priceQuote
  · have hkeeps : target * (before.value priceQuote - notional * fee) ≤
        (before.core + before.rotation) * priceQuote - notional := by
      have htaken : 0 ≤ target * (notional * fee) :=
        mul_nonneg htarget (mul_nonneg hnotional.le hfee)
      linarith
    rw [Holdings.assetRatio, Holdings.assetRatio, if_pos hvalue, if_pos hpositive,
      le_div_iff₀ hpositive, div_le_div_iff₀ hpositive hvalue, hasset, hvalue']
    constructor
    · rintro ⟨-, h⟩
      have hscaled : notional * (fee * ((before.core + before.rotation) * priceQuote)) ≤
          notional * before.value priceQuote := by linarith
      exact le_of_mul_le_mul_left hscaled hnotional
    · intro h
      have hscaled := mul_le_mul_of_nonneg_left h hnotional.le
      exact ⟨hkeeps, by linarith⟩
  · -- nothing is left: the sale was of the whole asset, and the fee takes all of the cash
    rw [Holdings.value] at hpositive
    have hnone : (after.core + after.rotation) * priceQuote = 0 := by linarith
    have hspent : after.cash = 0 := by linarith
    have hall : notional = (before.core + before.rotation) * priceQuote := by linarith
    have hzero : target = 0 := by
      have hle : target * before.value priceQuote ≤ 0 := by linarith
      exact le_antisymm (nonpos_of_mul_nonpos_left hle hvalue) htarget
    have hempty : after.assetRatio priceQuote = 0 := by
      rw [Holdings.assetRatio, if_neg]
      rwa [Holdings.value]
    rw [hempty, hzero]
    have hfees : fee * ((before.core + before.rotation) * priceQuote) =
        before.value priceQuote := by
      rw [← hall, Holdings.value, ← hall]
      linarith
    exact ⟨fun _ => hfees.le, fun _ => ⟨le_rfl, hzero ▸ habove⟩⟩

end Share

variable {buckets : StagedBuckets} {policy : RebalancePolicy} {priceQuote : ℚ}
  {p : RebalanceProposal}

lemma holdings_asset_nonneg (hprice : 0 < priceQuote) :
    0 ≤ (buckets.holdings.core + buckets.holdings.rotation) * priceQuote := by
  obtain ⟨hcore, hstrategic, htactical⟩ := buckets.units_nonneg
  exact mul_nonneg (add_nonneg hcore (add_nonneg hstrategic htactical)) hprice.le

/-- A purchase can be carried out if and only if its fee is covered. -/
lemma Trade.executable_buy_iff (h : Trade .exact buckets policy priceQuote p)
    (hside : buckets.side .exact policy priceQuote = .buy) :
    Executable buckets policy priceQuote p ↔ buckets.FeeCovered policy priceQuote := by
  have hvalue : 0 < buckets.holdings.value priceQuote := exact_totalValue ▸ h.value_pos
  have hnotional := policy.notional_pos.trans_le h.minimum_le
  have hdelta : 0 < buckets.deltaRatio .exact policy priceQuote := by
    by_contra hle
    rw [side, if_neg hle] at hside
    exact absurd hside nofun
  have hbelow : buckets.holdings.assetRatio priceQuote ≤ policy.targetAssetRatio := by
    rw [exact_deltaRatio] at hdelta
    linarith
  have haction : p.action = .buy := h.action_eq.trans (if_pos hside)
  have hfill : p.fill buckets.holdings priceQuote =
      ⟨buckets.holdings.core, buckets.holdings.rotation + p.proposedUnits,
        buckets.holdings.cash - buckets.notional .exact policy priceQuote -
          buckets.notional .exact policy priceQuote * policy.feeRatio⟩ := by
    rw [RebalanceProposal.fill, haction]
    simp only [h.units_mul, h.fee_eq, Arithmetic.exact_mul]
  have hcovered : buckets.reservedCashQuote ≤ (p.fill buckets.holdings priceQuote).cash ↔
      (1 + policy.feeRatio) * buckets.notional .exact policy priceQuote ≤
        buckets.availableCashQuote .exact := by
    rw [hfill, InventoryBuckets.availableCashQuote, Arithmetic.exact_sub]
    dsimp only [holdings]
    constructor <;> intro hle <;> linarith
  have happroaches (hcash : buckets.reservedCashQuote ≤
      (p.fill buckets.holdings priceQuote).cash) :=
    buy_approaches_iff
      (by rw [hfill, ← h.units_mul]; ring) (by rw [hfill]) (buckets.cash_nonneg.2.trans hcash)
      (holdings_asset_nonneg h.price_pos) hvalue hnotional policy.ratios_nonneg.2 hbelow
  rw [FeeCovered, if_pos hside, desiredNotional_buy hvalue hdelta]
  constructor
  · intro hexec
    exact ⟨hcovered.mp hexec.reserved_le, (happroaches hexec.reserved_le).mp hexec.approaches⟩
  · rintro ⟨hcash, hgap⟩
    have hreserved := hcovered.mpr hcash
    have hunits : 0 ≤ p.proposedUnits := by
      rw [h.units_eq, Arithmetic.exact_div]
      exact div_nonneg hnotional.le h.price_pos.le
    refine ⟨by rw [hfill]; rfl, ?_, hreserved, ?_, ?_, (happroaches hreserved).mpr hgap⟩
    · rw [hfill]
      exact add_nonneg (add_nonneg buckets.units_nonneg.2.1 buckets.units_nonneg.2.2) hunits
    · rw [h.notional_eq]
      exact h.minimum_le
    · rw [h.notional_eq]
      exact notional_le_maximum

/-- A sale can be carried out if and only if its fee is covered. -/
lemma Trade.executable_sell_iff (h : Trade .exact buckets policy priceQuote p)
    (hside : buckets.side .exact policy priceQuote ≠ .buy) :
    Executable buckets policy priceQuote p ↔ buckets.FeeCovered policy priceQuote := by
  have hvalue : 0 < buckets.holdings.value priceQuote := exact_totalValue ▸ h.value_pos
  have hnotional := policy.notional_pos.trans_le h.minimum_le
  have hdelta : ¬ 0 < buckets.deltaRatio .exact policy priceQuote := by
    intro hlt
    rw [side, if_pos hlt] at hside
    exact hside rfl
  have hsell : buckets.side .exact policy priceQuote = .sell := by rw [side, if_neg hdelta]
  have habove : policy.targetAssetRatio ≤ buckets.holdings.assetRatio priceQuote := by
    rw [exact_deltaRatio] at hdelta
    linarith
  have haction : p.action = .sell := h.action_eq.trans (if_neg hside)
  have hfill : p.fill buckets.holdings priceQuote =
      ⟨buckets.holdings.core, buckets.holdings.rotation - p.proposedUnits,
        buckets.holdings.cash + buckets.notional .exact policy priceQuote -
          buckets.notional .exact policy priceQuote * policy.feeRatio⟩ := by
    rw [RebalanceProposal.fill, haction]
    simp only [h.units_mul, h.fee_eq, Arithmetic.exact_mul]
  have hcovered : buckets.reservedCashQuote ≤ (p.fill buckets.holdings priceQuote).cash ↔
      (policy.feeRatio - 1) * buckets.notional .exact policy priceQuote ≤
        buckets.availableCashQuote .exact := by
    rw [hfill, InventoryBuckets.availableCashQuote, Arithmetic.exact_sub]
    dsimp only [holdings]
    constructor <;> intro hle <;> linarith
  -- the notional is at most the units in rotation at the price
  have hrotation : 0 ≤ buckets.holdings.rotation - p.proposedUnits := by
    have hle : buckets.notional .exact policy priceQuote ≤ buckets.holdings.rotation * priceQuote := by
      have hside' : buckets.notional .exact policy priceQuote ≤
          buckets.sideNotional .exact policy priceQuote := min_le_right _ _
      rwa [sideNotional, if_pos hsell, Arithmetic.exact_mul, InventoryBuckets.rotationUnits,
        Arithmetic.exact_add] at hside'
    rw [← h.units_mul] at hle
    exact sub_nonneg.mpr (le_of_mul_le_mul_right hle h.price_pos)
  have hdesired : buckets.notional .exact policy priceQuote ≤
      (buckets.holdings.core + buckets.holdings.rotation) * priceQuote -
        policy.targetAssetRatio * buckets.holdings.value priceQuote :=
    desiredNotional_sell hvalue hdelta ▸ notional_le_desired
  have hleft : 0 ≤ ((p.fill buckets.holdings priceQuote).core +
      (p.fill buckets.holdings priceQuote).rotation) * priceQuote := by
    rw [hfill]
    exact mul_nonneg (add_nonneg buckets.units_nonneg.1 hrotation) h.price_pos.le
  have happroaches (hcash : buckets.reservedCashQuote ≤
      (p.fill buckets.holdings priceQuote).cash) :=
    sell_approaches_iff
      (by rw [hfill, ← h.units_mul]; ring) (by rw [hfill]) (buckets.cash_nonneg.2.trans hcash)
      hleft hvalue hnotional policy.ratios_nonneg.2 policy.target_bounds.1 habove hdesired
  rw [FeeCovered, if_neg hside, exact_currentRatio]
  constructor
  · intro hexec
    exact ⟨hcovered.mp hexec.reserved_le, (happroaches hexec.reserved_le).mp hexec.approaches⟩
  · rintro ⟨hcash, hfee⟩
    have hreserved := hcovered.mpr hcash
    refine ⟨by rw [hfill]; rfl, by rw [hfill]; exact hrotation, hreserved, ?_, ?_,
      (happroaches hreserved).mpr hfee⟩
    · rw [h.notional_eq]
      exact h.minimum_le
    · rw [h.notional_eq]
      exact notional_le_maximum

/-- A sale whose fee is at most its proceeds has its fee covered. -/
lemma feeCovered_sell (hside : buckets.side .exact policy priceQuote ≠ .buy)
    (h : Trade .exact buckets policy priceQuote p) (hfee : policy.feeRatio ≤ 1) :
    buckets.FeeCovered policy priceQuote := by
  have hvalue : 0 < buckets.holdings.value priceQuote := exact_totalValue ▸ h.value_pos
  have hnotional := policy.notional_pos.trans_le h.minimum_le
  have hratio : buckets.holdings.assetRatio priceQuote ≤ 1 := by
    rw [Holdings.assetRatio, if_pos hvalue, div_le_one hvalue, Holdings.value]
    exact le_add_of_nonneg_right buckets.cash_nonneg.1
  have hnonneg : 0 ≤ buckets.holdings.assetRatio priceQuote := by
    rw [Holdings.assetRatio, if_pos hvalue]
    exact div_nonneg (holdings_asset_nonneg h.price_pos) hvalue.le
  have havailable : 0 ≤ buckets.availableCashQuote .exact :=
    sub_nonneg.mpr buckets.reserved_le
  rw [FeeCovered, if_neg hside, exact_currentRatio]
  refine ⟨?_, mul_le_one₀ hfee hnonneg hratio⟩
  have hnone : (policy.feeRatio - 1) * buckets.notional .exact policy priceQuote ≤ 0 :=
    mul_nonpos_of_nonpos_of_nonneg (by linarith) hnotional.le
  exact hnone.trans havailable

/-- **Proposals that can be carried out.**  In exact arithmetic a proposed trade can be carried
out if and only if its fee is covered, and every sale of which the fee is at most the proceeds
can. -/
theorem rebalance_executable_iff {clockIndex requestedStage : ℤ} {riskBlockers : List String}
    (h : buckets.propose .exact policy priceQuote clockIndex requestedStage riskBlockers = .ok p)
    (htrade : p.action = .buy ∨ p.action = .sell) :
    (Executable buckets policy priceQuote p ↔ buckets.FeeCovered policy priceQuote) ∧
      (p.action = .sell → policy.feeRatio ≤ 1 → Executable buckets policy priceQuote p) := by
  have hterms := trade_of_propose h htrade
  by_cases hside : buckets.side .exact policy priceQuote = .buy
  · refine ⟨hterms.executable_buy_iff hside, fun hsell => ?_⟩
    rw [hterms.action_eq, if_pos hside] at hsell
    exact absurd hsell nofun
  · have hiff := hterms.executable_sell_iff hside
    exact ⟨hiff, fun _ hfee => hiff.mpr (feeCovered_sell hside hterms hfee)⟩

end StagedBuckets

/-! ### A sale, two purchases and a sale of everything -/

/-- The bounds of a ratio, a notional and the stages in the samples. -/
def samplePolicy (target hysteresis maximum fee : ℚ) (htarget : 0 ≤ target ∧ target ≤ 1)
    (hmaximum : 0 < maximum ∧ maximum ≤ 1) (hnonneg : 0 ≤ hysteresis ∧ 0 ≤ fee) :
    RebalancePolicy where
  targetAssetRatio := target
  hysteresisRatio := hysteresis
  maximumTradeRatio := maximum
  feeRatio := fee
  ratios_nonneg := hnonneg
  target_bounds := htarget
  core_bounds := by norm_num
  trade_bounds := hmaximum
  notional_pos := by norm_num
  stages_nonneg := by norm_num

/-- Buckets without a stage. -/
def sampleBuckets (core strategic cash reserved : ℚ) (hunits : 0 ≤ core ∧ 0 ≤ strategic)
    (hcash : 0 ≤ reserved ∧ reserved ≤ cash) : StagedBuckets where
  coreUnits := core
  strategicUnits := strategic
  tacticalUnits := 0
  cashQuote := cash
  reservedCashQuote := reserved
  units_nonneg := ⟨hunits.1, hunits.2, le_rfl⟩
  cash_nonneg := ⟨hcash.1.trans hcash.2, hcash.1⟩
  reserved_le := hcash.2
  pending_nonneg := le_rfl
  lastStage_nonneg := le_rfl

/-- The default policy for a target. -/
def defaultPolicy (target : ℚ) (htarget : 0 ≤ target ∧ target ≤ 1) : RebalancePolicy :=
  samplePolicy target (2 / 100) (15 / 100) (1 / 1000) htarget (by norm_num) (by norm_num)

lemma noReserve : (0 : ℚ) ≤ 0 ∧ (0 : ℚ) ≤ 100 := by norm_num

/-- Sixty core units, forty in rotation and a hundred of cash. -/
def rotationBuckets : StagedBuckets :=
  sampleBuckets 60 40 100 0 (by norm_num) noReserve

/-- A sale of thirty units from an asset share of one half can be carried out. -/
theorem thirty_units_executable : ∃ p,
    rotationBuckets.propose .exact (defaultPolicy (1 / 4) (by norm_num)) 1 10 1 [] = .ok p ∧
      p.action = .sell ∧ p.proposedUnits = 30 ∧
      Executable rotationBuckets (defaultPolicy (1 / 4) (by norm_num)) 1 p := by
  have hrun : (rotationBuckets.propose .exact (defaultPolicy (1 / 4) (by norm_num)) 1 10 1
      []).toOption.any fun p => decide (p.action = .sell ∧ p.proposedUnits = 30) := by
    decide +kernel
  obtain ⟨p, hp, hsell⟩ := exists_ok_of_any hrun
  obtain ⟨haction, hunits⟩ := of_decide_eq_true hsell
  exact ⟨p, hp, haction, hunits, (StagedBuckets.rebalance_executable_iff hp (.inr haction)).2 haction
    (by norm_num [defaultPolicy, samplePolicy])⟩

/-- Ten core units and a cash of 190, of which 170 are reserved. -/
def reservedBuckets : StagedBuckets := sampleBuckets 10 0 190 170 (by norm_num) (by norm_num)

/-- Five hundred units and as much cash. -/
def halfBuckets : StagedBuckets := sampleBuckets 500 0 500 0 (by norm_num) (by norm_num)

/-- Ninety-eight units in rotation and nothing else. -/
def soldBuckets : StagedBuckets := sampleBuckets 0 98 0 0 (by norm_num) (by norm_num)

/-- A policy that sells everything, without a fee. -/
def sellAllPolicy : RebalancePolicy :=
  samplePolicy 0 0 1 0 (by norm_num) (by norm_num) (by norm_num)

/-- A price of 28 digits. -/
def longPrice : ℚ := 3212181818181818181818181818 / 10 ^ 24

/-- Proposals that cannot be carried out, in the decimal context: a purchase for all of the
available cash, whose fee comes out of the reserve; a purchase of the whole gap, whose fee
takes the share beyond the target; and a sale whose units are rounded above those in rotation. -/
theorem rebalance_fee_uncovered :
    (∃ p, reservedBuckets.propose .decimal (defaultPolicy (8 / 10) (by norm_num)) 1 5 1 [] =
        .ok p ∧ p.action = .buy ∧
      (p.fill reservedBuckets.holdings 1).cash < reservedBuckets.reservedCashQuote) ∧
    (∃ p, halfBuckets.propose .decimal (defaultPolicy (53 / 100) (by norm_num)) 1 5 1 [] =
        .ok p ∧ p.action = .buy ∧ 53 / 100 < (p.fill halfBuckets.holdings 1).assetRatio 1) ∧
    ∃ p, soldBuckets.propose .decimal sellAllPolicy longPrice 5 1 [] = .ok p ∧
      p.action = .sell ∧ (p.fill soldBuckets.holdings longPrice).rotation < 0 := by
  have hreserve : (reservedBuckets.propose .decimal (defaultPolicy (8 / 10) (by norm_num)) 1 5 1
      []).toOption.any fun p => decide (p.action = .buy ∧
        (p.fill reservedBuckets.holdings 1).cash < reservedBuckets.reservedCashQuote) := by
    decide +kernel
  have hbeyond : (halfBuckets.propose .decimal (defaultPolicy (53 / 100) (by norm_num)) 1 5 1
      []).toOption.any fun p => decide (p.action = .buy ∧
        53 / 100 < (p.fill halfBuckets.holdings 1).assetRatio 1) := by
    decide +kernel
  have hnegative : (soldBuckets.propose .decimal sellAllPolicy longPrice 5 1 []).toOption.any
      fun p => decide (p.action = .sell ∧
        (p.fill soldBuckets.holdings longPrice).rotation < 0) := by
    decide +kernel
  obtain ⟨p, hp, h⟩ := exists_ok_of_any hreserve
  obtain ⟨q, hq, h'⟩ := exists_ok_of_any hbeyond
  obtain ⟨r, hr, h''⟩ := exists_ok_of_any hnegative
  exact ⟨⟨p, hp, of_decide_eq_true h⟩, ⟨q, hq, of_decide_eq_true h'⟩, r, hr, of_decide_eq_true h''⟩

end Ai4Binance

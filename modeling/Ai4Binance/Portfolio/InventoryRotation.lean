/-
The inventory rotation of Spot holdings (`portfolio/inventory_rotation.py`, with the
`InventoryBuckets` of `portfolio/rebalancing.py`).

A cycle sells a share of the rotation units, and buys back with the proceeds in stages.  The
engine proposes, and a person confirms what was filled.  As in the backtests every operation
rounds its exact result (`Arithmetic`).

* `InventoryBuckets`, `InventoryRotationPolicy`, `InventoryRotationContext`: what a review reads;
* `RotationFields`, `InventoryRotationState`: the state of a cycle, with the checks of its
  constructor;
* `review`, `confirmSell`, `confirmRebuy`: the operations.
-/
import Ai4Binance.Backtesting.SpotRun

open Text Check

namespace Ai4Binance

/-! ### Inputs of a review -/

/-- The fields of `InventoryBuckets` that a rotation reads, and the core units. -/
structure InventoryBuckets where
  coreUnits : ℚ
  strategicUnits : ℚ
  tacticalUnits : ℚ
  cashQuote : ℚ
  reservedCashQuote : ℚ := 0
  units_nonneg : 0 ≤ coreUnits ∧ 0 ≤ strategicUnits ∧ 0 ≤ tacticalUnits
  cash_nonneg : 0 ≤ cashQuote ∧ 0 ≤ reservedCashQuote
  reserved_le : reservedCashQuote ≤ cashQuote

namespace InventoryBuckets

variable (a : Arithmetic) (buckets : InventoryBuckets)

/-- `rotation_units`. -/
def rotationUnits : ℚ := a.add buckets.strategicUnits buckets.tacticalUnits

/-- `available_cash_quote`. -/
def availableCashQuote : ℚ := a.sub buckets.cashQuote buckets.reservedCashQuote

end InventoryBuckets

/-- `InventoryRotationPolicy`. -/
structure InventoryRotationPolicy where
  maximumSellRatioOfRotation : ℚ := 25 / 100
  maximumRebuyRatioPerStage : ℚ := 50 / 100
  minimumNotionalQuote : ℚ := 10
  feeRatio : ℚ := 1 / 1000
  resistanceToleranceRatio : ℚ := 1 / 100
  supportToleranceRatio : ℚ := 1 / 100
  minimumSellProfitRatio : ℚ := 3 / 100
  minimumRebuyDiscountRatio : ℚ := 5 / 100
  maximumRebuyDiscountRatio : ℚ := 30 / 100
  ratios_nonneg : 0 ≤ feeRatio ∧ 0 ≤ resistanceToleranceRatio ∧ 0 ≤ supportToleranceRatio ∧
    0 ≤ minimumSellProfitRatio
  sellRatio_bounds : 0 < maximumSellRatioOfRotation ∧ maximumSellRatioOfRotation ≤ 1
  rebuyRatio_bounds : 0 < maximumRebuyRatioPerStage ∧ maximumRebuyRatioPerStage ≤ 1
  notional_pos : 0 < minimumNotionalQuote
  discount_bounds : 0 < minimumRebuyDiscountRatio ∧
    minimumRebuyDiscountRatio < maximumRebuyDiscountRatio ∧ maximumRebuyDiscountRatio < 1

namespace InventoryRotationPolicy

/-! The defaults pass their checks. -/

lemma default_ratios : (0 : ℚ) ≤ 1 / 1000 ∧ (0 : ℚ) ≤ 1 / 100 ∧ (0 : ℚ) ≤ 1 / 100 ∧
    (0 : ℚ) ≤ 3 / 100 := by
  norm_num

lemma default_sellRatio : (0 : ℚ) < 25 / 100 ∧ (25 : ℚ) / 100 ≤ 1 := by norm_num

lemma default_notional : (0 : ℚ) < 10 := by norm_num

lemma default_discount : (0 : ℚ) < 5 / 100 ∧ (5 : ℚ) / 100 < 30 / 100 ∧ (30 : ℚ) / 100 < 1 := by
  norm_num

end InventoryRotationPolicy

/-- `InventoryRotationContext`. -/
structure InventoryRotationContext where
  priceQuote : ℚ
  resistanceQuote : ℚ
  supportQuote : ℚ
  sellTriggerConfirmed : Bool
  supportReclaimed : Bool
  averageRotationCostQuote : Option ℚ := none
  riskBlockers : List String := []
  prices_pos : 0 < priceQuote ∧ 0 < resistanceQuote ∧ 0 < supportQuote
  support_lt : supportQuote < resistanceQuote
  cost_pos : ∀ cost ∈ averageRotationCostQuote, 0 < cost

/-- The default cost passes its check. -/
lemma InventoryRotationContext.default_cost : ∀ cost ∈ (none : Option ℚ), 0 < cost := nofun

/-! ### The state of a cycle -/

/-- `InventoryRotationPhase`. -/
inductive InventoryRotationPhase where
  | idle
  | sellProposed
  | awaitingRebuy
  | rebuyProposed
  | closed
  deriving DecidableEq, Repr

/-- The fields of `InventoryRotationState`. -/
structure RotationFields where
  cycleId : String
  phase : InventoryRotationPhase
  updatedAt : Datetime
  stage : ℤ := 0
  soldUnits : ℚ := 0
  proceedsQuote : ℚ := 0
  remainingRebuyQuote : ℚ := 0
  pendingUnits : ℚ := 0
  pendingNotionalQuote : ℚ := 0
  referenceSellPrice : Option ℚ := none
  referenceRebuyPrice : Option ℚ := none
  averageRotationCostQuote : Option ℚ := none
  rebuyBandLowerQuote : Option ℚ := none
  rebuyBandUpperQuote : Option ℚ := none
  revision : ℤ := 0
  deriving DecidableEq

/-- `InventoryRotationState.__post_init__`. -/
def RotationFields.checks (s : RotationFields) : List (Bool × String) :=
  [(isBlank s.cycleId, "inventory rotation cycle identity is required"),
    (s.updatedAt matches .naive _, "inventory rotation timestamp must be timezone-aware"),
    ([s.soldUnits, s.proceedsQuote, s.remainingRebuyQuote, s.pendingUnits,
        s.pendingNotionalQuote].any (· < 0), "inventory rotation state values must be non-negative"),
    (s.stage < 0 ∨ s.revision < 0, "inventory rotation counters cannot be negative"),
    (s.proceedsQuote < s.remainingRebuyQuote,
      "remaining rebuy cash cannot exceed realized proceeds"),
    ([s.referenceSellPrice, s.referenceRebuyPrice, s.averageRotationCostQuote,
        s.rebuyBandLowerQuote, s.rebuyBandUpperQuote].any fun price => price.any (· ≤ 0),
      "inventory rotation reference prices must be positive"),
    (s.rebuyBandLowerQuote.any fun lower => s.rebuyBandUpperQuote.any (· ≤ lower),
      "inventory rebuy band is invalid")]

/-- What the checks ask of a state. -/
structure RotationFields.Valid (s : RotationFields) : Prop where
  identified : isBlank s.cycleId = false
  aware : ∃ instant, s.updatedAt = .aware instant
  amounts_nonneg : ∀ x ∈ [s.soldUnits, s.proceedsQuote, s.remainingRebuyQuote, s.pendingUnits,
    s.pendingNotionalQuote], 0 ≤ x
  counters_nonneg : 0 ≤ s.stage ∧ 0 ≤ s.revision
  remaining_le : s.remainingRebuyQuote ≤ s.proceedsQuote
  prices_pos : ∀ price ∈ [s.referenceSellPrice, s.referenceRebuyPrice,
    s.averageRotationCostQuote, s.rebuyBandLowerQuote, s.rebuyBandUpperQuote],
      ∀ x ∈ price, 0 < x
  band_lt : ∀ lower ∈ s.rebuyBandLowerQuote, ∀ upper ∈ s.rebuyBandUpperQuote, lower < upper

lemma RotationFields.passes_iff {s : RotationFields} : Passes s.checks ↔ s.Valid := by
  have haware : (s.updatedAt matches .naive _) = false ↔
      ∃ instant, s.updatedAt = .aware instant := by
    cases s.updatedAt <;> simp
  simp only [checks, passes_cons, passes_nil, and_true, List.any_eq_false, Option.any_eq_false,
    decide_eq_false_iff_not, decide_eq_true_eq, not_lt, not_or, not_le, haware, Bool.not_eq_true]
  constructor
  · rintro ⟨h1, h2, h3, h4, h5, h6, h7⟩
    exact ⟨h1, h2, h3, h4, h5, h6, h7⟩
  · rintro ⟨h1, h2, h3, h4, h5, h6, h7⟩
    exact ⟨h1, h2, h3, h4, h5, h6, h7⟩

/-- `InventoryRotationState`. -/
structure InventoryRotationState extends RotationFields where
  passes : Passes toRotationFields.checks

namespace InventoryRotationState

/-- `InventoryRotationState(…)`. -/
def create (s : RotationFields) : Except PyError InventoryRotationState :=
  if h : Passes s.checks then .ok ⟨s, h⟩ else .error (.value (firstRefusal s.checks))

/-- `InventoryRotationState.new`. -/
def new (cycleId : String) (timestamp : Datetime) : Except PyError InventoryRotationState :=
  create { cycleId, phase := .idle, updatedAt := timestamp }

@[simp] lemma create_eq_ok {s : RotationFields} {t : InventoryRotationState} :
    create s = .ok t ↔ t.toRotationFields = s := by
  obtain ⟨t, ht⟩ := t
  rw [create]
  split_ifs with h
  · simp only [Except.ok.injEq, mk.injEq]
    exact eq_comm
  · simp only [false_iff]
    intro heq
    exact h (heq ▸ ht)

end InventoryRotationState

/-! ### The engine -/

/-- `InventoryRotationAction`. -/
inductive InventoryRotationAction where
  | hold
  | sell
  | rebuy
  | blocked
  deriving DecidableEq, Repr

/-- `InventoryRotationProposal`. -/
structure InventoryRotationProposal where
  action : InventoryRotationAction
  proposedUnits : ℚ
  proposedNotionalQuote : ℚ
  estimatedFeeQuote : ℚ
  currentState : InventoryRotationState
  nextState : InventoryRotationState
  blockers : List String

namespace InventoryRotationProposalEngine

/-- `_hold`. -/
def hold (state : InventoryRotationState) (blockers : List String) : InventoryRotationProposal :=
  ⟨.hold, 0, 0, 0, state, state, blockers⟩

/-- `_blocked`. -/
def blocked (state : InventoryRotationState) (blockers : List String) :
    InventoryRotationProposal :=
  ⟨.blocked, 0, 0, 0, state, state, blockers⟩

variable (a : Arithmetic) (state : InventoryRotationState) (buckets : InventoryBuckets)
  (context : InventoryRotationContext) (policy : InventoryRotationPolicy)

/-- The blockers of `_sell_review`. -/
def sellBlockers : List String :=
  blockerWhen (context.sellTriggerConfirmed = false) "INVENTORY_SELL_TRIGGER_NOT_CONFIRMED" ++
    blockerWhen (context.priceQuote <
        a.mul context.resistanceQuote (a.sub 1 policy.resistanceToleranceRatio))
      "INVENTORY_RESISTANCE_NOT_REACHED" ++
    blockerWhen (buckets.rotationUnits a ≤ 0) "ROTATION_INVENTORY_UNAVAILABLE" ++
    match context.averageRotationCostQuote with
    | none => ["ROTATION_COST_BASIS_UNAVAILABLE"]
    | some cost =>
        blockerWhen (context.priceQuote < a.mul cost (a.add 1 policy.minimumSellProfitRatio))
          "ROTATION_SELL_BELOW_COST_PROFIT_FLOOR"

/-- `_sell_review`. -/
def sellReview : Except PyError InventoryRotationProposal := do
  let blockers := sellBlockers a buckets context policy
  if blockers ≠ [] then return hold state blockers
  let units := a.mul (buckets.rotationUnits a) policy.maximumSellRatioOfRotation
  let notional := a.mul units context.priceQuote
  if notional < policy.minimumNotionalQuote then
    return blocked state ["ROTATION_MINIMUM_NOTIONAL_BLOCKED"]
  let nextState ← InventoryRotationState.create { state.toRotationFields with
    phase := .sellProposed
    pendingUnits := units
    pendingNotionalQuote := notional
    referenceSellPrice := some context.priceQuote
    averageRotationCostQuote := context.averageRotationCostQuote
    revision := state.revision + 1 }
  return ⟨.sell, units, notional, a.mul notional policy.feeRatio, state, nextState, []⟩

/-- The blockers of `_rebuy_review`. -/
def rebuyBlockers : List String :=
  blockerWhen (context.supportReclaimed = false) "INVENTORY_REBUY_RECLAIM_NOT_CONFIRMED" ++
    blockerWhen (a.mul context.supportQuote (a.add 1 policy.supportToleranceRatio) <
        context.priceQuote)
      "INVENTORY_REBUY_PRICE_ABOVE_SUPPORT_BAND" ++
    (match state.rebuyBandLowerQuote, state.rebuyBandUpperQuote with
    | some lower, some upper =>
        if context.priceQuote < lower then ["INVENTORY_REBUY_PRICE_BELOW_BAND"]
        else blockerWhen (upper < context.priceQuote)
          "INVENTORY_REBUY_PRICE_ABOVE_SELL_DISCOUNT_BAND"
    | _, _ => ["INVENTORY_REBUY_BAND_UNAVAILABLE"]) ++
    blockerWhen (min state.remainingRebuyQuote (buckets.availableCashQuote a) ≤ 0)
      "INVENTORY_REBUY_CASH_UNAVAILABLE"

/-- `_rebuy_review`. -/
def rebuyReview : Except PyError InventoryRotationProposal := do
  let blockers := rebuyBlockers a state buckets context policy
  if blockers ≠ [] then return hold state blockers
  let available := min state.remainingRebuyQuote (buckets.availableCashQuote a)
  let notional := a.mul available policy.maximumRebuyRatioPerStage
  if notional < policy.minimumNotionalQuote then
    return blocked state ["ROTATION_MINIMUM_NOTIONAL_BLOCKED"]
  let units := a.div notional context.priceQuote
  let nextState ← InventoryRotationState.create { state.toRotationFields with
    phase := .rebuyProposed
    pendingUnits := units
    pendingNotionalQuote := notional
    referenceRebuyPrice := some context.priceQuote
    revision := state.revision + 1 }
  return ⟨.rebuy, units, notional, a.mul notional policy.feeRatio, state, nextState, []⟩

/-- `review`. -/
def review : Except PyError InventoryRotationProposal :=
  if context.riskBlockers ≠ [] then .ok (blocked state context.riskBlockers)
  else
    match state.phase with
    | .sellProposed | .rebuyProposed => .ok (hold state ["MANUAL_FILL_CONFIRMATION_REQUIRED"])
    | .closed => .ok (hold state ["ROTATION_CYCLE_CLOSED"])
    | .idle => sellReview a state buckets context policy
    | .awaitingRebuy => rebuyReview a state buckets context policy

/-- `confirm_sell`. -/
def confirmSell (filledUnits realizedProceedsQuote : ℚ) (confirmedAt : Datetime) :
    Except PyError InventoryRotationState := do
  raiseIf (state.phase ≠ .sellProposed)
    (.value "sell confirmation requires a pending sell proposal")
  raiseIf (¬ (0 < filledUnits ∧ filledUnits ≤ state.pendingUnits))
    (.value "confirmed sell units exceed the proposal")
  raiseIf (¬ (0 < realizedProceedsQuote ∧ realizedProceedsQuote ≤ state.pendingNotionalQuote))
    (.value "confirmed sell proceeds exceed the proposal")
  let averageSellPrice := a.div realizedProceedsQuote filledUnits
  InventoryRotationState.create { state.toRotationFields with
    phase := .awaitingRebuy
    updatedAt := confirmedAt
    soldUnits := filledUnits
    proceedsQuote := realizedProceedsQuote
    remainingRebuyQuote := realizedProceedsQuote
    referenceSellPrice := some averageSellPrice
    rebuyBandLowerQuote :=
      some (a.mul averageSellPrice (a.sub 1 policy.maximumRebuyDiscountRatio))
    rebuyBandUpperQuote :=
      some (a.mul averageSellPrice (a.sub 1 policy.minimumRebuyDiscountRatio))
    pendingUnits := 0
    pendingNotionalQuote := 0
    stage := 1
    revision := state.revision + 1 }

/-- `confirm_rebuy`. -/
def confirmRebuy (quoteSpent : ℚ) (confirmedAt : Datetime) :
    Except PyError InventoryRotationState := do
  raiseIf (state.phase ≠ .rebuyProposed)
    (.value "rebuy confirmation requires a pending proposal")
  raiseIf (¬ (0 < quoteSpent ∧
      quoteSpent ≤ min state.pendingNotionalQuote state.remainingRebuyQuote))
    (.value "confirmed rebuy spend exceeds available proposal cash")
  let remaining := a.sub state.remainingRebuyQuote quoteSpent
  InventoryRotationState.create { state.toRotationFields with
    phase := if remaining = 0 then .closed else .awaitingRebuy
    updatedAt := confirmedAt
    remainingRebuyQuote := remaining
    pendingUnits := 0
    pendingNotionalQuote := 0
    stage := state.stage + 1
    revision := state.revision + 1 }

end InventoryRotationProposalEngine

end Ai4Binance

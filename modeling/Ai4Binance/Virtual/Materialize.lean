/-
From an executable decision to a managed position
(`materialize_managed_position` after `evaluate`).

The vetoes of the evaluation and the constructor of the position judge the same
entry by different rules.  `Manageable` says what the constructor asks beyond the
vetoes, and an executable decision can be managed exactly then.

* `openingFields`: the fields a position is opened with;
* `Manageable`: the entries that pass the constructor;
* `Manages`: the position is the fill, with the margin of the portfolio.
-/
import Ai4Binance.Virtual.FuturesFill
import Ai4Binance.Virtual.ProcessPosition
import Ai4Binance.Virtual.SpotFill

open Text Check

namespace Ai4Binance

variable {request : VirtualRuntimeRequest} {decision : VirtualRuntimeDecision}
  {preview : VirtualFillPreview} {openedAt : ℤ} {positionId : Option String}

/-! ### The fields of the opened position -/

/-- The fields of the position that an intent at the given price and quantity
opens, on the portfolio after it. -/
def openingFields (request : VirtualRuntimeRequest) (after : PortfolioFields) (price quantity : ℚ)
    (openedAt : ℤ) (positionId : Option String) : PositionFields where
  positionId := (positionId.filter (· ≠ "")).getD ("virtual-position:" ++ request.candidateId)
  candidateId := request.candidateId
  symbol := request.symbol
  market := request.market
  openedAt
  entryPrice := price
  entryFeeUsdt := after.feesPaidUsdt - request.portfolio.feesPaidUsdt
  initialQuantity := quantity
  remainingQuantity := quantity
  stopLoss := request.stopLoss
  trailingStop := request.stopLoss
  atr := |price - request.stopLoss|
  takeProfitLevels := request.takeProfitLevels
  opportunityId := request.opportunity
  feeRatio := request.feeRatio
  slippageRatio := request.slippageRatio
  tickSize := request.tickSize
  positionSide := request.positionSide.getD .long
  lineage := request.lineage
  entryReason := request.entryReason
  entrySlippageCostUsdt := |price - request.entryPrice| * quantity
  fundingCostUsdt := after.fundingCostUsdt - request.portfolio.fundingCostUsdt
  realizedPnlUsdt := -(after.fundingCostUsdt - request.portfolio.fundingCostUsdt)
  isolatedMarginUsdt := after.isolatedMarginUsdt
  initialMarginUsdt := after.initialMarginUsdt
  maintenanceMarginRatio := request.maintenanceMarginRatio
  liquidationPrice := after.liquidationPrice
  leverage := after.leverage
  liquidationFeeRatio := request.liquidationFeeRatio

/-- An executable decision is materialized from its fill and its portfolio. -/
lemma materialize_eq_create (hex : request.Executes preview decision) :
    materializeManagedPosition request decision openedAt positionId =
      VirtualManagedPosition.create (openingFields request decision.portfolioAfter.toPortfolioFields
        preview.executionPrice preview.filledQuantity openedAt positionId) := by
  simp only [materializeManagedPosition, hex.intent_eq]
  rfl

/-! ### What the constructor asks beyond the vetoes -/

/-- A Spot entry that the constructor of a position accepts. -/
structure SpotManageable (request : VirtualRuntimeRequest) (preview : VirtualFillPreview) :
    Prop where
  stop_lt : request.stopLoss < preview.executionPrice
  side_ne : request.positionSide ≠ some .short
  maintenance_none : request.maintenanceMarginRatio = none

/-- A Futures entry that the constructor of a position accepts: the funding at
entry costs at most the notional, the liquidation price of a long is positive,
and the leverage is at most 125. -/
structure FuturesManageable (request : VirtualRuntimeRequest) (preview : VirtualFillPreview) :
    Prop where
  funding_le : request.fundingPaymentDue → ∀ side ∈ request.positionSide,
    ∀ rate ∈ request.fundingRate, side.sign * rate ≤ 1
  isolated_lt : request.positionSide = some .long → ∀ isolated ∈ request.isolatedMarginUsdt,
    ∀ ratio ∈ request.maintenanceMarginRatio,
      isolated < preview.grossNotionalUsdt * (1 + ratio)
  leverage_le : ∀ leverage ∈ request.leverage, leverage ≤ 125

/-- The entries that the constructor of a position accepts: one positive target,
a position id that is not blank, and the conditions of the market. -/
structure Manageable (request : VirtualRuntimeRequest) (preview : VirtualFillPreview)
    (positionId : Option String) : Prop where
  one_target : ∃ target, request.takeProfitLevels = [target] ∧ 0 < target
  id_nonblank : ∀ id ∈ positionId, id = "" ∨ isBlank id = false
  spot : request.market = .spot → SpotManageable request preview
  futures : request.market = .usdMFutures → FuturesManageable request preview

/-- The position is open and is the fill, with the margin of the portfolio. -/
structure Manages (preview : VirtualFillPreview) (after : VirtualPortfolioState)
    (position : VirtualManagedPosition) : Prop where
  status_eq : position.status = .open
  initial_eq : position.initialQuantity = preview.filledQuantity
  remaining_eq : position.remainingQuantity = preview.filledQuantity
  price_eq : position.entryPrice = preview.executionPrice
  fee_eq : position.entryFeeUsdt = preview.feeUsdt
  isolated_eq : position.isolatedMarginUsdt = after.isolatedMarginUsdt
  initialMargin_eq : position.initialMarginUsdt = after.initialMarginUsdt
  maintenance_eq : position.maintenanceMarginRatio.map (preview.grossNotionalUsdt * ·) =
    after.maintenanceMarginUsdt
  liquidation_eq : position.liquidationPrice = after.liquidationPrice
  leverage_eq : position.leverage = after.leverage

/-! ### The checks of the opened position -/

/-- The id of the opened position is blank only if a blank one was given. -/
lemma openingId_nonblank_iff (candidateId : String) :
    isBlank ((positionId.filter (· ≠ "")).getD ("virtual-position:" ++ candidateId)) = false ↔
      ∀ id ∈ positionId, id = "" ∨ isBlank id = false := by
  have hdefault : isBlank ("virtual-position:" ++ candidateId) = false := by
    rw [isBlank, String.toList_append, List.all_append, Bool.and_eq_false_iff]
    exact .inl (by decide +kernel)
  cases positionId with
  | none => simpa using hdefault
  | some id =>
    by_cases hid : id = ""
    · simpa [hid, Option.filter] using hdefault
    · simp [hid, Option.filter]

section Checks

variable {after : PortfolioFields} {price quantity : ℚ}

/-- The fields of an opened position with its one target taken in full. -/
def openingWithTarget (request : VirtualRuntimeRequest) (after : PortfolioFields)
    (price quantity : ℚ) (openedAt : ℤ) (positionId : Option String) : PositionFields :=
  { openingFields request after price quantity openedAt positionId with
    takeProfitQuantityRatios := [1] }

lemma normalized_openingFields {target : ℚ} (h : request.takeProfitLevels = [target]) :
    (openingFields request after price quantity openedAt positionId).normalized =
      openingWithTarget request after price quantity openedAt positionId := by
  rw [PositionFields.normalized, if_pos]
  · rfl
  · exact ⟨rfl, by simp [openingFields, h]⟩

/-- Several targets are refused: the opened position has no ratios for them. -/
lemma one_target_of_passes
    (h : Passes (openingFields request after price quantity openedAt positionId).normalized.checks) :
    ∃ target, request.takeProfitLevels = [target] := by
  rw [← List.length_eq_one_iff]
  by_contra hlen
  rw [PositionFields.normalized, if_neg (fun hc => hlen hc.2)] at h
  simp only [PositionFields.checks, PositionFields.planChecks, passes_append, passes_cons,
    decide_eq_false_iff_not, not_and, not_not] at h
  exact hlen (h.2.1.1.2.1 rfl)

variable (hprice : 0 < price) (hquantity : 0 < quantity)
  (hfee : request.portfolio.feesPaidUsdt ≤ after.feesPaidUsdt)

include hprice hquantity hfee in
/-- The amounts of an opened position: its id, a stop off the entry price, and
funding at entry of at most the notional. -/
lemma opening_amountChecks_iff (htargets : request.takeProfitLevels ≠ []) :
    Passes (openingWithTarget request after price quantity openedAt positionId).amountChecks ↔
      (∀ id ∈ positionId, id = "" ∨ isBlank id = false) ∧ price ≠ request.stopLoss ∧
        after.fundingCostUsdt - request.portfolio.fundingCostUsdt ≤ price * quantity := by
  obtain ⟨-, hstop, hliq, hliq', htick⟩ := request.ratios_bounds
  have hblank := request.identity_nonblank
  simp only [List.mem_append, List.mem_cons, List.not_mem_nil, or_false] at hblank
  have hcandidate := hblank request.candidateId (.inr (.inl rfl))
  have hsymbol := hblank request.symbol (.inr (.inr (.inl rfl)))
  have hopportunity := hblank request.opportunity (.inr (.inr (.inr (.inr rfl))))
  rw [PositionFields.amountChecks_iff]
  constructor
  · intro h
    have hid := h.identity _ (.head _)
    have hatr : 0 < |price - request.stopLoss| := h.values_pos _ (by simp [openingWithTarget,
      openingFields])
    have hrealized := h.realized_ge
    refine ⟨(openingId_nonblank_iff _).mp hid, sub_ne_zero.mp (abs_pos.mp hatr), ?_⟩
    simp only [openingWithTarget, openingFields] at hrealized
    linarith
  · rintro ⟨hid, hne, hfunding⟩
    have hatr : 0 < |price - request.stopLoss| := abs_pos.mpr (sub_ne_zero.mpr hne)
    refine ⟨?_, ?_, sub_nonneg.mpr hfee, ?_, hquantity.le, le_rfl, ?_, le_rfl, le_rfl, ?_, hliq,
      hliq', request.entryReason_valid, ?_, ?_, ?_, htargets⟩
    · simpa [openingWithTarget, openingFields, hcandidate, hsymbol, hopportunity] using
        (openingId_nonblank_iff _).mpr hid
    · simpa [openingWithTarget, openingFields] using
        ⟨hprice, hquantity, hstop, sub_ne_zero.mpr hne, htick⟩
    · simp only [openingWithTarget, openingFields]
      linarith
    · simp [openingWithTarget, openingFields, hquantity.ne']
    · exact mul_nonneg (abs_nonneg _) hquantity.le
    all_goals simp [openingWithTarget, openingFields]

/-- The staged exits of an opened position with one target. -/
lemma opening_planChecks_iff {target : ℚ} (h : request.takeProfitLevels = [target]) :
    Passes (openingWithTarget request after price quantity openedAt positionId).planChecks ↔
      0 < target := by
  have hblank := request.identity_nonblank
  have hlineage : request.lineage.texts.any isBlank = false :=
    List.any_eq_false.mpr fun text ht => by simp [hblank text (List.mem_append_left _ ht)]
  simp only [PositionFields.planChecks, openingWithTarget, openingFields, hlineage, h]
  cases request.positionSide.getD .long <;> simp [stagedExitChecks]

/-- The checks of a position that are not about its staged exits. -/
def PassesEntry (p : PositionFields) : Prop :=
  Passes p.amountChecks ∧ Passes p.sideChecks ∧ Passes p.marginChecks

/-- A request with one target: what all four tables of checks ask. -/
lemma opening_passes_iff {target : ℚ} (h : request.takeProfitLevels = [target]) :
    Passes (openingFields request after price quantity openedAt positionId).normalized.checks ↔
      PassesEntry (openingWithTarget request after price quantity openedAt positionId) ∧
        0 < target := by
  rw [normalized_openingFields h, PositionFields.checks, passes_append, passes_append,
    passes_append, opening_planChecks_iff h, PassesEntry]
  simp only [and_assoc]

end Checks

/-! ### Executable decisions that can be managed -/

lemma VirtualRuntimeRequest.Executes.fees_eq (hex : request.Executes preview decision) :
    decision.portfolioAfter.feesPaidUsdt = request.portfolio.feesPaidUsdt + preview.feeUsdt := by
  cases hm : request.portfolio.market with
  | spot => exact (hex.fillEffect hm).fees_eq
  | usdMFutures =>
    obtain ⟨terms, ht⟩ := hex.entersFutures hm
    exact (hex.futuresFillEffect hm ht).fees_eq

/-- A Spot fill pays no funding. -/
lemma VirtualRuntimeRequest.Executes.spot_funding (hex : request.Executes preview decision)
    (hm : request.portfolio.market = .spot) :
    decision.portfolioAfter.fundingCostUsdt = request.portfolio.fundingCostUsdt := by
  have hafter := hex.portfolioAfter_eq
  simp only [VirtualRuntimeRequest.portfolioAfterFill, hm] at hafter
  rw [VirtualRuntimeRequest.spotPortfolioAfterFill, VirtualPortfolioState.create_eq_ok] at hafter
  rw [hafter]

lemma VirtualRuntimeRequest.Filled.fee_nonneg (h : request.Filled preview) :
    0 ≤ preview.feeUsdt := by
  rw [h.fee_eq]
  exact mul_nonneg h.gross_nonneg request.ratios_bounds.1

/-- The funding at entry is at most the notional exactly if the rate, where it is
due, is at most one against the position. -/
lemma fundingCost_le_iff {terms : FuturesTerms} (hgross : 0 < preview.grossNotionalUsdt)
    (ht : EntersFutures request preview terms) :
    terms.fundingCost request preview ≤ preview.grossNotionalUsdt ↔
      (request.fundingPaymentDue → ∀ side ∈ request.positionSide, ∀ rate ∈ request.fundingRate,
        side.sign * rate ≤ 1) := by
  rw [FuturesTerms.fundingCost, ht.side_eq, ht.funding_eq]
  split_ifs with hdue
  · have hcomm : terms.side.sign * preview.grossNotionalUsdt * terms.fundingRate =
        preview.grossNotionalUsdt * (terms.side.sign * terms.fundingRate) := by ring
    simp only [hcomm, hdue, forall_const, Option.mem_def, Option.some.injEq, forall_eq']
    exact mul_le_iff_le_one_right hgross
  · simp [hgross.le, hdue]

/-- The distance between the entry and the liquidation price. -/
lemma liquidationDistance_pos (hfilled : request.Filled preview) {terms : FuturesTerms}
    (ht : EntersFutures request preview terms) :
    0 < (terms.isolatedMargin - preview.grossNotionalUsdt * terms.maintenanceMarginRatio) /
      preview.filledQuantity :=
  div_pos (sub_pos.mpr ht.maintenance_lt) hfilled.quantity_pos

/-- The liquidation price of an entry is positive exactly if, for a long, the
isolated margin is less than the notional and its maintenance margin. -/
lemma liquidationPrice_pos_iff (hprice : 0 < preview.executionPrice)
    (hfilled : request.Filled preview) {terms : FuturesTerms}
    (ht : EntersFutures request preview terms) :
    0 < terms.liquidationPrice preview ↔ (terms.side = .long →
      terms.isolatedMargin < preview.grossNotionalUsdt * (1 + terms.maintenanceMarginRatio)) := by
  have hdist := liquidationDistance_pos hfilled ht
  rw [FuturesTerms.liquidationPrice]
  cases hs : terms.side with
  | short =>
    simp only [VirtualPositionSide.sign, reduceCtorEq, false_imp_iff, iff_true]
    linarith
  | long =>
    simp only [VirtualPositionSide.sign, one_mul, sub_pos, forall_const]
    rw [div_lt_iff₀ hfilled.quantity_pos, ← hfilled.gross_eq, sub_lt_iff_lt_add, mul_add, mul_one]

section Executable

variable (hex : request.Executes preview decision)

include hex

/-- The opened Spot position is accepted exactly if its entry is manageable. -/
lemma spot_checks_iff (hm : request.market = .spot) {target : ℚ}
    (htarget : request.takeProfitLevels = [target]) :
    PassesEntry (openingWithTarget request decision.portfolioAfter.toPortfolioFields
        preview.executionPrice preview.filledQuantity openedAt positionId) ↔
      (∀ id ∈ positionId, id = "" ∨ isBlank id = false) ∧ SpotManageable request preview := by
  have hspot : request.portfolio.market = .spot := request.market_eq ▸ hm
  have hfilled := request.fillPreview_spec hex.fillPreview_eq hex.blockers_nil
  have hfees : request.portfolio.feesPaidUsdt ≤ decision.portfolioAfter.feesPaidUsdt := by
    rw [hex.fees_eq]
    linarith [hfilled.fee_nonneg]
  obtain ⟨hleverage, hscalars⟩ :=
    decision.portfolioAfter.futures_none (hex.fillEffect hspot).market_eq
  simp only [PortfolioFields.futuresScalars, List.mem_cons, List.not_mem_nil, or_false,
    forall_eq_or_imp, forall_eq] at hscalars
  obtain ⟨-, -, -, hisolated, hinitial, -, hliquidation, -⟩ := hscalars
  have hfunding := hex.spot_funding hspot
  have hnotional : 0 ≤ preview.executionPrice * preview.filledQuantity :=
    (mul_pos hex.price_pos hfilled.quantity_pos).le
  rw [PassesEntry, opening_amountChecks_iff hex.price_pos hfilled.quantity_pos hfees
    (by simp [htarget]), PositionFields.sideChecks_iff, PositionFields.marginChecks_spot_iff hm]
  simp only [openingWithTarget, openingFields, htarget, hisolated, hinitial, hliquidation,
    hleverage, hfunding, sub_self, hnotional, and_true, true_and, List.pairwise_singleton]
  constructor
  · rintro ⟨⟨hid, hne⟩, hside, hlong, hratio⟩
    rw [hlong] at hside
    refine ⟨hid, hside, ?_, hratio⟩
    intro hshort
    rw [hshort] at hlong
    cases hlong
  · rintro ⟨hid, hstop, hside, hratio⟩
    have hlong : request.positionSide.getD .long = .long := by
      cases hs : request.positionSide with
      | none => rfl
      | some side =>
        cases side with
        | long => rfl
        | short => exact absurd hs hside
    rw [hlong]
    exact ⟨⟨hid, hstop.ne'⟩, hstop, rfl, hratio⟩

/-- The margin of the opened Futures position is accepted exactly if the
liquidation price of a long is positive and the leverage is at most 125. -/
lemma marginValid_iff {terms : FuturesTerms}
    (ht : EntersFutures request preview terms) {p : PositionFields}
    (hside : p.positionSide = terms.side) (hentry : p.entryPrice = preview.executionPrice) :
    p.MarginValid ⟨terms.isolatedMargin, preview.grossNotionalUsdt / terms.leverage,
        terms.maintenanceMarginRatio, terms.liquidationPrice preview, terms.leverage⟩ ↔
      (request.positionSide = some .long → ∀ isolated ∈ request.isolatedMarginUsdt,
        ∀ ratio ∈ request.maintenanceMarginRatio,
          isolated < preview.grossNotionalUsdt * (1 + ratio)) ∧
      ∀ leverage ∈ request.leverage, leverage ≤ 125 := by
  have hfilled := request.fillPreview_spec hex.fillPreview_eq hex.blockers_nil
  have hgross : 0 < preview.grossNotionalUsdt :=
    request.minimumNotional_pos.trans_le hfilled.minimum_le
  obtain ⟨-, hleverage, hisolated, hratio⟩ := request.terms_bounds
  have hl := hleverage _ ht.leverage_eq
  have hlq : (1 : ℚ) ≤ terms.leverage := by exact_mod_cast hl
  have hdist := liquidationDistance_pos hfilled ht
  have hliq := liquidationPrice_pos_iff hex.price_pos hfilled ht
  simp only [ht.side_eq, ht.isolated_eq, ht.maintenance_eq, ht.leverage_eq, Option.mem_def,
    Option.some.injEq, forall_eq']
  rw [← hliq]
  constructor
  · intro h
    exact ⟨h.liquidation_pos, h.leverage_le⟩
  · rintro ⟨hpos, hle⟩
    refine ⟨hisolated _ ht.isolated_eq, div_pos hgross (by linarith), hpos,
      (hratio _ ht.maintenance_eq).1, (hratio _ ht.maintenance_eq).2, hl, hle, ht.initial_le,
      ?_, ?_⟩
    · intro hlong
      rw [hside] at hlong
      simp only [FuturesTerms.liquidationPrice, hlong, hentry, VirtualPositionSide.sign]
      linarith
    · intro hshort
      rw [hside] at hshort
      simp only [FuturesTerms.liquidationPrice, hshort, hentry, VirtualPositionSide.sign]
      linarith

/-- The opened Futures position is accepted exactly if its entry is manageable. -/
lemma futures_checks_iff (hm : request.market = .usdMFutures) {target : ℚ}
    (htarget : request.takeProfitLevels = [target]) :
    PassesEntry (openingWithTarget request decision.portfolioAfter.toPortfolioFields
        preview.executionPrice preview.filledQuantity openedAt positionId) ↔
      (∀ id ∈ positionId, id = "" ∨ isBlank id = false) ∧ FuturesManageable request preview := by
  have hfutures : request.portfolio.market = .usdMFutures := request.market_eq ▸ hm
  have hfilled := request.fillPreview_spec hex.fillPreview_eq hex.blockers_nil
  have hgross : 0 < preview.grossNotionalUsdt :=
    request.minimumNotional_pos.trans_le hfilled.minimum_le
  have hfees : request.portfolio.feesPaidUsdt ≤ decision.portfolioAfter.feesPaidUsdt := by
    rw [hex.fees_eq]
    linarith [hfilled.fee_nonneg]
  obtain ⟨terms, ht⟩ := hex.entersFutures hfutures
  have heffect := hex.futuresFillEffect hfutures ht
  set p := openingWithTarget request decision.portfolioAfter.toPortfolioFields
    preview.executionPrice preview.filledQuantity openedAt positionId with hp
  have hside : p.positionSide = terms.side := by
    simp [hp, openingWithTarget, openingFields, ht.side_eq]
  have hmargin : p.margin = some ⟨terms.isolatedMargin, preview.grossNotionalUsdt / terms.leverage,
      terms.maintenanceMarginRatio, terms.liquidationPrice preview, terms.leverage⟩ := by
    simp [hp, openingWithTarget, openingFields, PositionFields.margin, heffect.isolated_eq,
      heffect.initial_eq, ht.maintenance_eq, heffect.liquidation_eq, heffect.leverage_eq]
  have hfunding : decision.portfolioAfter.fundingCostUsdt - request.portfolio.fundingCostUsdt =
      terms.fundingCost request preview := by
    rw [heffect.funding_eq]
    ring
  -- the geometry of the entry is the one the vetoes have checked
  have hgeometry : Passes p.sideChecks ∧ preview.executionPrice ≠ request.stopLoss := by
    rw [PositionFields.sideChecks_iff, hside]
    cases hs : terms.side with
    | long =>
      have hstop := (ht.long_geometry hs).1
      exact ⟨⟨by simp [hp, openingWithTarget, openingFields, htarget], hstop⟩, hstop.ne'⟩
    | short =>
      have hstop := (ht.short_geometry hs).1
      exact ⟨hstop, hstop.ne⟩
  rw [PassesEntry, opening_amountChecks_iff hex.price_pos hfilled.quantity_pos hfees
    (by simp [htarget]), PositionFields.marginChecks_futures_iff hm, hfunding, ← hfilled.gross_eq,
    fundingCost_le_iff hgross ht, hmargin]
  simp only [Option.some.injEq, exists_eq_left', marginValid_iff hex ht hside rfl]
  constructor
  · rintro ⟨⟨hid, -, hrate⟩, -, hisolated, hleverage⟩
    exact ⟨hid, hrate, hisolated, hleverage⟩
  · rintro ⟨hid, hrate, hisolated, hleverage⟩
    exact ⟨⟨hid, hgeometry.2, hrate⟩, hgeometry.1, hisolated, hleverage⟩

/-- The constructor accepts the opened position exactly if the entry is
manageable. -/
lemma opening_accepted_iff :
    Passes (openingFields request decision.portfolioAfter.toPortfolioFields
        preview.executionPrice preview.filledQuantity openedAt positionId).normalized.checks ↔
      Manageable request preview positionId := by
  constructor
  · intro h
    obtain ⟨target, htarget⟩ := one_target_of_passes h
    obtain ⟨hentry, hpos⟩ := (opening_passes_iff htarget).mp h
    cases hm : request.market with
    | spot =>
      obtain ⟨hid, hspot⟩ := (spot_checks_iff hex hm htarget).mp hentry
      exact ⟨⟨target, htarget, hpos⟩, hid, fun _ => hspot, fun h => by rw [hm] at h; cases h⟩
    | usdMFutures =>
      obtain ⟨hid, hfutures⟩ := (futures_checks_iff hex hm htarget).mp hentry
      exact ⟨⟨target, htarget, hpos⟩, hid, fun h => (by rw [hm] at h; cases h), fun _ => hfutures⟩
  · rintro ⟨⟨target, htarget, hpos⟩, hid, hspot, hfutures⟩
    refine (opening_passes_iff htarget).mpr ⟨?_, hpos⟩
    cases hm : request.market with
    | spot => exact (spot_checks_iff hex hm htarget).mpr ⟨hid, hspot hm⟩
    | usdMFutures => exact (futures_checks_iff hex hm htarget).mpr ⟨hid, hfutures hm⟩

/-- The opened position is the fill, with the margin of the portfolio. -/
lemma manages_of_create {position : VirtualManagedPosition}
    (hm : Manageable request preview positionId)
    (h : VirtualManagedPosition.create (openingFields request
      decision.portfolioAfter.toPortfolioFields preview.executionPrice preview.filledQuantity
      openedAt positionId) = .ok position) :
    Manages preview decision.portfolioAfter position := by
  obtain ⟨target, htarget, -⟩ := hm.one_target
  rw [VirtualManagedPosition.create_eq_ok, normalized_openingFields htarget] at h
  have hmaintenance : request.maintenanceMarginRatio.map (preview.grossNotionalUsdt * ·) =
      decision.portfolioAfter.maintenanceMarginUsdt := by
    cases hmarket : request.market with
    | spot =>
      have hspot : request.portfolio.market = .spot := request.market_eq ▸ hmarket
      obtain ⟨-, hnone⟩ := decision.portfolioAfter.futures_none (hex.fillEffect hspot).market_eq
      have hafter : decision.portfolioAfter.maintenanceMarginUsdt = none :=
        hnone _ (by simp [PortfolioFields.futuresScalars])
      rw [(hm.spot hmarket).maintenance_none, hafter]
      rfl
    | usdMFutures =>
      have hfutures : request.portfolio.market = .usdMFutures := request.market_eq ▸ hmarket
      obtain ⟨terms, ht⟩ := hex.entersFutures hfutures
      rw [ht.maintenance_eq, (hex.futuresFillEffect hfutures ht).maintenance_eq]
      rfl
  refine ⟨?_, ?_, ?_, ?_, ?_, ?_, ?_, ?_, ?_, ?_⟩ <;> rw [h] <;>
    simp only [openingWithTarget, openingFields]
  · rw [hex.fees_eq]
    ring
  · exact hmaintenance

end Executable

/-- **Managing an executable decision.**  A decision that the evaluation executes
becomes a managed position, equal to the fill and with the margin of the
resulting portfolio, exactly if its entry is manageable. -/
theorem managed_iff_manageable (request : VirtualRuntimeRequest)
    (decision : VirtualRuntimeDecision) (preview : VirtualFillPreview) (openedAt : ℤ)
    (positionId : Option String) (hok : request.evaluate = .ok decision)
    (hready : decision.tradeIntent.isSome) (hpreview : request.fillPreview = .ok preview) :
    (∃ position, materializeManagedPosition request decision openedAt positionId = .ok position ∧
      Manages preview decision.portfolioAfter position) ↔
      Manageable request preview positionId := by
  obtain ⟨preview', hex⟩ := request.evaluate_orderReady hok hready
  obtain rfl : preview = preview' := Except.ok.inj (hpreview.symm.trans hex.fillPreview_eq)
  have haccepted : Passes (openingFields request decision.portfolioAfter.toPortfolioFields
      preview.executionPrice preview.filledQuantity openedAt positionId).normalized.checks ↔
      Manageable request preview positionId := opening_accepted_iff hex
  rw [materialize_eq_create hex]
  constructor
  · rintro ⟨position, hcreate, -⟩
    have hfields := VirtualManagedPosition.create_eq_ok.mp hcreate
    exact haccepted.mp (hfields ▸ position.passes)
  · intro h
    have hcreate := VirtualManagedPosition.create_eq_ok
      (p := openingFields request decision.portfolioAfter.toPortfolioFields
        preview.executionPrice preview.filledQuantity openedAt positionId)
      (q := ⟨_, haccepted.mpr h⟩) |>.mpr rfl
    exact ⟨_, hcreate, manages_of_create hex h hcreate⟩

/-! ### Sample entries -/

/-- A Spot buy of one unit at 100 with the given targets. -/
def targetsBuy (targets : List ℚ) : RequestFields :=
  { unitRequest freshWallet .buy 100 90 0 with takeProfitLevels := targets }

/-- A buy with one target. -/
def oneTargetBuy : VirtualRuntimeRequest where
  toRequestFields := targetsBuy [130]
  passes := by decide +kernel

/-- A buy with two targets. -/
def twoTargetBuy : VirtualRuntimeRequest where
  toRequestFields := targetsBuy [120, 130]
  passes := by decide +kernel

/-- The fill of one unit at 100. -/
def unitFill : VirtualFillPreview where
  requestedQuantity := 1
  filledQuantity := 1
  remainingQuantity := 0
  fillRatio := 1
  executionPrice := 100
  grossNotionalUsdt := 100
  feeUsdt := 0
  slippageCostUsdt := 0
  priceImpactRatio := 0

/-- An executable decision read off an evaluation. -/
lemma exists_ready (request : VirtualRuntimeRequest)
    (h : (request.evaluate.toOption.bind (·.tradeIntent)).isSome) :
    ∃ decision, request.evaluate = .ok decision ∧ decision.tradeIntent.isSome := by
  obtain ⟨intent, h⟩ := Option.isSome_iff_exists.mp h
  obtain ⟨decision, hd, hi⟩ := Option.bind_eq_some_iff.mp h
  exact ⟨decision, toOption_eq_some.mp hd, by simp [hi]⟩

/-- A buy with one target is managed. -/
theorem oneTargetBuy_is_managed : ∃ decision position,
    oneTargetBuy.evaluate = .ok decision ∧ decision.tradeIntent.isSome ∧
      materializeManagedPosition oneTargetBuy decision 0 none = .ok position ∧
      Manages unitFill decision.portfolioAfter position := by
  obtain ⟨decision, hok, hready⟩ := exists_ready oneTargetBuy (by decide +kernel)
  have hpreview : oneTargetBuy.fillPreview = .ok unitFill :=
    toOption_eq_some.mp (by decide +kernel)
  have hmanageable : Manageable oneTargetBuy unitFill none := by
    refine ⟨⟨130, rfl, by norm_num⟩, by simp, fun _ => ⟨?_, ?_, rfl⟩, ?_⟩
    · decide +kernel
    · decide
    · intro h
      cases h
  obtain ⟨position, hp, hmanages⟩ := (managed_iff_manageable oneTargetBuy decision unitFill 0 none
    hok hready hpreview).mpr hmanageable
  exact ⟨decision, position, hok, hready, hp, hmanages⟩

/-- A buy with two targets is executed, and there is no position to manage it. -/
theorem twoTargetBuy_is_not_managed : ∃ decision,
    twoTargetBuy.action = .buy ∧ twoTargetBuy.market = .spot ∧
      twoTargetBuy.evaluate = .ok decision ∧ decision.tradeIntent.isSome ∧
      decision.portfolioAfter.cashUsdt < twoTargetBuy.portfolio.cashUsdt ∧
      ∀ openedAt position,
        materializeManagedPosition twoTargetBuy decision openedAt none ≠ .ok position := by
  obtain ⟨decision, hok, hready⟩ := exists_ready twoTargetBuy (by decide +kernel)
  obtain ⟨preview, hex⟩ := twoTargetBuy.evaluate_orderReady hok hready
  have hspot := hex.fillEffect rfl
  have hbuy := hspot.buy rfl rfl
  refine ⟨decision, rfl, rfl, hok, hready, ?_, ?_⟩
  · have hgross := twoTargetBuy.minimumNotional_pos.trans_le hspot.filled.minimum_le
    have hfee := hspot.filled.fee_nonneg
    linarith [hbuy.1]
  · intro openedAt position h
    rw [materialize_eq_create hex, VirtualManagedPosition.create_eq_ok] at h
    obtain ⟨target, htarget⟩ := one_target_of_passes (h ▸ position.passes)
    simp [twoTargetBuy, targetsBuy] at htarget

end Ai4Binance

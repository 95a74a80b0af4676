/-
When a candle of a Futures position is accepted.

A position that was materialized and has not been closed is as it was opened, but
for its funding, its counters and, on Spot, its trailing stop (`Pristine`).  A
candle either leaves all of it open or closes all of it, and the constructors of
the position and of the portfolio then refuse exactly the candles whose losses
and funding they do not cover.

* `Pristine`: an open position as materialization leaves it;
* `FuturesHold`, `FuturesCovered`: what is asked of a candle without and with an
  exit;
* `processFuturesPosition_accepted_iff`: a candle is accepted exactly then.
-/
import Ai4Binance.Virtual.FuturesConservation

open Text Check

namespace Ai4Binance.VirtualManagedPosition

/-- A position as it was materialized: nothing of it is closed, it has one target
for all of it and no configured exits, and its PnL is the funding it paid. -/
structure Pristine (position : VirtualManagedPosition) : Prop where
  one_target : ∃ target, position.takeProfitLevels = [target]
  ratios_eq : position.takeProfitQuantityRatios = [1]
  index_eq : position.nextTargetIndex = 0
  exits_eq : position.exits = []
  status_eq : position.status = .open
  remaining_eq : position.remainingQuantity = position.initialQuantity
  holding_none : position.maximumHoldingBars = none
  breakeven_none : position.breakevenTriggerR = none
  trailing_none : position.trailingAtrMultiple = none
  realized_eq : position.realizedPnlUsdt = -position.fundingCostUsdt
  fee_nonneg : 0 ≤ position.feeRatio
  fee_le : position.feeRatio ≤ 1 / 100
  slippage_nonneg : 0 ≤ position.slippageRatio
  slippage_le : position.slippageRatio ≤ 2 / 100

variable {position : VirtualManagedPosition} {margin : FuturesMargin} {p : VirtualPortfolioState}
  {candle : OHLCVCandle} {context : VirtualExitContext}
  {futuresContext : VirtualFuturesPositionContext} {orders : List ExitOrder}

/-! ### The exit of a candle -/

/-- The stop in force is positive. -/
lemma protectiveStop_pos (position : VirtualManagedPosition) : 0 < position.protectiveStop := by
  obtain ⟨-, -, hstop, htrailing⟩ := position.values_pos
  rw [protectiveStop]
  cases position.positionSide with
  | long => exact lt_max_of_lt_left hstop
  | short => exact lt_min hstop htrailing

/-- A protective exit has a price that is not negative. -/
lemma futuresProtectiveExit_nonneg {markCandle : Option OHLCVCandle} {liquidationPrice price : ℚ}
    {reason : BacktestExitReason}
    (h : position.futuresProtectiveExit candle markCandle liquidationPrice =
      some (reason, price)) : 0 ≤ price := by
  have hstop := position.protectiveStop_pos.le
  set liquidationCandle := markCandle.getD candle with hc
  obtain ⟨hopen, -, hlow, -⟩ := liquidationCandle.nonneg
  rw [futuresProtectiveExit, liquidated, ← hc] at h
  cases hs : position.positionSide with
  | long =>
    simp only [hs, decide_eq_true_eq] at h
    split at h
    · next hl =>
      obtain ⟨-, rfl⟩ := Prod.mk.inj (Option.some.inj h)
      exact le_min hopen (hlow.trans hl)
    · split at h
      · obtain ⟨-, rfl⟩ := Prod.mk.inj (Option.some.inj h)
        exact hstop
      · cases h
  | short =>
    simp only [hs, decide_eq_true_eq] at h
    split at h
    · obtain ⟨-, rfl⟩ := Prod.mk.inj (Option.some.inj h)
      exact le_max_of_le_left hopen
    · split at h
      · obtain ⟨-, rfl⟩ := Prod.mk.inj (Option.some.inj h)
        exact hstop
      · cases h

/-- The targets of a position, in the order of its side, pass the checks of a
staged exit plan. -/
lemma staged_passes (position : VirtualManagedPosition) :
    ∃ targets, targets.Perm position.takeProfitLevels ∧
      Passes (stagedExitChecks targets position.takeProfitQuantityRatios) := by
  have hpasses := position.passes
  simp only [PositionFields.checks, PositionFields.planChecks, passes_append] at hpasses
  have hstaged := hpasses.2.1.2
  split at hstaged
  · exact ⟨_, .refl _, hstaged⟩
  · exact ⟨_, List.reverse_perm _, hstaged⟩

/-- The targets of a position are positive. -/
lemma targets_pos (position : VirtualManagedPosition) {target : ℚ}
    (h : target ∈ position.takeProfitLevels) : 0 < target := by
  obtain ⟨targets, hperm, hstaged⟩ := position.staged_passes
  simp only [stagedExitChecks, passes_cons, List.any_append, Bool.or_eq_false_iff,
    List.any_eq_false, decide_eq_true_eq, not_le] at hstaged
  exact hstaged.2.1.1 target (hperm.mem_iff.mpr h)

/-- Every target has a ratio. -/
lemma ratios_length (position : VirtualManagedPosition) :
    position.takeProfitQuantityRatios.length = position.takeProfitLevels.length := by
  obtain ⟨targets, hperm, hstaged⟩ := position.staged_passes
  simp only [stagedExitChecks, passes_cons, decide_eq_false_iff_not, not_or, not_not] at hstaged
  rw [← hstaged.1.2, hperm.length_eq]

namespace Pristine

/-- The one target takes all that remains. -/
lemma targetOrders_eq (hp : position.Pristine) :
    position.targetOrders candle position.openTargets position.remainingQuantity = [] ∨
      ∃ target ∈ position.takeProfitLevels, position.targetOrders candle position.openTargets
        position.remainingQuantity = [⟨.target, target, position.remainingQuantity⟩] := by
  obtain ⟨target, htarget⟩ := hp.one_target
  have hopen : position.openTargets = [(target, 1)] := by
    simp [openTargets, htarget, hp.ratios_eq, hp.index_eq]
  rw [hopen, targetOrders]
  simp only [if_true, sub_self]
  split_ifs
  · exact .inr ⟨target, by simp [htarget], rfl⟩
  · exact .inl rfl

/-- A candle closes a pristine position in full, at a price that is not negative,
or not at all. -/
lemma exitOrders_cases (hp : position.Pristine)
    (h : position.futuresExitOrders margin candle context futuresContext = .ok orders) :
    orders = [] ∨ ∃ order, orders = [order] ∧ order.quantity = position.initialQuantity ∧
      0 ≤ order.referencePrice := by
  simp only [futuresExitOrders, bind_eq_ok] at h
  obtain ⟨liquidationPrice, -, h⟩ := h
  split at h
  · next reason price hexit =>
    obtain rfl := pure_eq_ok.mp h
    exact .inr ⟨_, rfl, hp.remaining_eq, futuresProtectiveExit_nonneg hexit⟩
  · split at h
    · obtain rfl := pure_eq_ok.mp h
      exact .inr ⟨_, rfl, hp.remaining_eq, candle.nonneg.2.2.2.1⟩
    · rw [hp.holding_none] at h
      simp only [Option.any_none, Bool.false_eq_true, and_false, if_false] at h
      obtain rfl := pure_eq_ok.mp h
      rcases hp.targetOrders_eq with hnil | ⟨target, htarget, hone⟩
      · exact .inl hnil
      · exact .inr ⟨_, hone, hp.remaining_eq, (position.targets_pos htarget).le⟩

end Pristine

/-! ### What a candle must leave -/

/-- The price of an exit after slippage, at the tick of the position. -/
def exitPrice (position : VirtualManagedPosition) (order : ExitOrder) : Option ℚ :=
  match position.positionSide with
  | .long => Context.default.quantize .down
      (order.referencePrice * (1 - position.slippageRatio)) position.tickSize.exp
  | .short => Context.default.quantize .up
      (order.referencePrice * (1 + position.slippageRatio)) position.tickSize.exp

/-- The fees of an exit at a price. -/
def exitFees (position : VirtualManagedPosition) (order : ExitOrder) (price : ℚ) : ℚ :=
  price * order.quantity * position.feeRatio +
    if order.reason = .liquidation then price * order.quantity * position.liquidationFeeRatio
    else 0

/-- The price PnL of the whole position at a price. -/
def pricePnl (position : VirtualManagedPosition) (price : ℚ) : ℚ :=
  (price - position.entryPrice) * position.positionSide.sign * position.initialQuantity

/-- A candle without an exit: the portfolio counts the position, cash pays the
funding, the funding in total stays within the notional, and at the mark the
equity is positive and the loss exceeds the cash by at most half of the margin. -/
structure FuturesHold (position : VirtualManagedPosition) (margin : FuturesMargin)
    (p : VirtualPortfolioState) (futuresContext : VirtualFuturesPositionContext) : Prop where
  counted : 0 < p.openPositionCount
  funding_le_cash : position.fundingDelta futuresContext ≤ p.cashUsdt
  funding_le_notional : position.fundingCostUsdt + position.fundingDelta futuresContext ≤
    position.entryPrice * position.initialQuantity
  equity_pos : 0 < p.cashUsdt - position.fundingDelta futuresContext + margin.isolatedMarginUsdt +
    position.pricePnl futuresContext.markPrice
  loss_le : 0 ≤ 2 * (p.cashUsdt - position.fundingDelta futuresContext +
    position.pricePnl futuresContext.markPrice) + margin.isolatedMarginUsdt

/-- An exit at a price: the loss in total stays within the notional, and cash and
margin are more than what the candle costs. -/
structure FuturesCovered (position : VirtualManagedPosition) (margin : FuturesMargin)
    (p : VirtualPortfolioState) (futuresContext : VirtualFuturesPositionContext)
    (order : ExitOrder) (price : ℚ) : Prop where
  loss_le_notional : position.fundingCostUsdt + position.fundingDelta futuresContext +
    position.entryFeeUsdt + position.exitFees order price - position.pricePnl price ≤
      position.entryPrice * position.initialQuantity
  cost_lt_wallet : position.fundingDelta futuresContext + position.exitFees order price -
    position.pricePnl price < p.cashUsdt + margin.isolatedMarginUsdt

/-- The candles that a pristine Futures position and its portfolio take. -/
structure FuturesAccepts (position : VirtualManagedPosition) (margin : FuturesMargin)
    (p : VirtualPortfolioState) (candle : OHLCVCandle) (context : VirtualExitContext)
    (futuresContext : VirtualFuturesPositionContext) : Prop where
  distinct : [position.positionId, position.candidateId, position.symbol].Nodup
  exits : ∃ orders, position.futuresExitOrders margin candle context futuresContext = .ok orders ∧
    (orders = [] → position.FuturesHold margin p futuresContext) ∧
    ∀ order ∈ orders, ∃ price, position.exitPrice order = some price ∧
      position.FuturesCovered margin p futuresContext order price

/-! ### One exit -/

/-- An exit is made at its price, with its fees. -/
lemma futuresExit_values {timestamp : ℤ} {order : ExitOrder} {e : VirtualPositionExit}
    (h : position.futuresExit timestamp order = .ok e) :
    position.exitPrice order = some e.price ∧ e.quantity = order.quantity ∧
      e.feeUsdt = position.exitFees order e.price := by
  simp only [futuresExit] at h
  rw [exitPrice]
  cases hs : position.positionSide with
  | long =>
    simp only [hs, bind_eq_ok, orRaise_eq_ok] at h
    obtain ⟨price, hprice, h⟩ := h
    obtain ⟨-, -, hp, hq, hf, -, -⟩ := VirtualPositionExit.create_spec h
    rw [hp]
    exact ⟨hprice, hq, hf⟩
  | short =>
    simp only [hs, bind_eq_ok, orRaise_eq_ok] at h
    obtain ⟨price, hprice, h⟩ := h
    obtain ⟨-, -, hp, hq, hf, -, -⟩ := VirtualPositionExit.create_spec h
    rw [hp]
    exact ⟨hprice, hq, hf⟩

lemma Pristine.exitPrice_nonneg (hp : position.Pristine) {order : ExitOrder} {price : ℚ}
    (href : 0 ≤ order.referencePrice) (h : position.exitPrice order = some price) : 0 ≤ price := by
  have hslip := hp.slippage_nonneg
  have hslip' := hp.slippage_le
  rw [exitPrice] at h
  split at h
  · exact Context.quantize_nonneg (mul_nonneg href (by linarith)) h
  · exact Context.quantize_nonneg (mul_nonneg href (by linarith)) h

lemma Pristine.exitFees_nonneg (hp : position.Pristine) {order : ExitOrder} {price : ℚ}
    (hprice : 0 ≤ price) (hq : 0 ≤ order.quantity) : 0 ≤ position.exitFees order price := by
  have hfee := hp.fee_nonneg
  have hliq := position.amountsValid.liquidationFee_nonneg
  rw [exitFees]
  split_ifs <;> positivity

/-- An exit of a pristine position is made exactly if its price fits the tick. -/
lemma Pristine.futuresExit_iff (hp : position.Pristine) (timestamp : ℤ) {order : ExitOrder}
    (href : 0 ≤ order.referencePrice) (hq : 0 ≤ order.quantity) :
    (∃ e, position.futuresExit timestamp order = .ok e) ↔
      ∃ price, position.exitPrice order = some price := by
  constructor
  · rintro ⟨e, he⟩
    exact ⟨e.price, (futuresExit_values he).1⟩
  · rintro ⟨price, hprice⟩
    have hnonneg := hp.exitPrice_nonneg href hprice
    have hfees := hp.exitFees_nonneg hnonneg hq
    have hvalues : 0 ≤ price ∧ 0 ≤ order.quantity ∧ 0 ≤ position.exitFees order price ∧
        0 ≤ |price - order.referencePrice| * order.quantity :=
      ⟨hnonneg, hq, hfees, mul_nonneg (abs_nonneg _) hq⟩
    simp only [exitPrice] at hprice
    simp only [futuresExit]
    cases hs : position.positionSide with
    | long =>
      simp only [hs] at hprice
      simp only [hprice, orRaise, ok_bind]
      exact ⟨_, dif_pos hvalues⟩
    | short =>
      simp only [hs] at hprice
      simp only [hprice, orRaise, ok_bind]
      exact ⟨_, dif_pos hvalues⟩

/-! ### The position after a candle -/

/-- The excursions of a candle are not negative. -/
lemma excursions_nonneg (position : VirtualManagedPosition) (candle : OHLCVCandle) :
    0 ≤ (position.excursions candle).1 ∧ 0 ≤ (position.excursions candle).2 := by
  have h := position.amountsValid
  exact ⟨le_max_of_le_left h.mfe_nonneg, le_max_of_le_left h.mae_nonneg⟩

/-- A Futures position without break-even trigger and trailing multiple keeps its
trailing stop. -/
lemma futuresTrailingStop_eq (hbreakeven : position.breakevenTriggerR = none)
    (htrailing : position.trailingAtrMultiple = none) (mfe : ℚ) :
    position.futuresTrailingStop candle mfe = position.trailingStop := by
  rw [futuresTrailingStop, breakevenTriggerReached, hbreakeven, htrailing]
  cases position.positionSide <;> rfl

/-- A moved pristine position is accepted exactly if its moved fields are valid. -/
lemma Pristine.move_accepted_iff (hp : position.Pristine) (m : Moved) :
    (∃ after, create (position.toPositionFields.move m) = .ok after) ↔ position.MovedValid m := by
  have hnormal : (position.toPositionFields.move m).normalized =
      position.toPositionFields.move m := by
    rw [PositionFields.normalized, if_neg]
    intro h
    have hratios : position.takeProfitQuantityRatios = [] := h.1
    rw [hp.ratios_eq] at hratios
    cases hratios
  rw [exists_create_iff, hnormal, PositionFields.passes_move_iff position.passes]

/-- The fields that a candle with the given orders and exits moves. -/
def movedBy (position : VirtualManagedPosition) (candle : OHLCVCandle) (fundingDelta : ℚ)
    (orders : List ExitOrder) (exits : List VirtualPositionExit)
    (closureReview : Option VirtualClosureReview) : Moved where
  remainingQuantity := position.remainingAfter orders
  trailingStop :=
    if 0 < position.remainingAfter orders then
      position.futuresTrailingStop candle (position.excursions candle).1
    else position.trailingStop
  status := position.statusAfter (position.remainingAfter orders) exits
  nextTargetIndex := position.nextTargetIndex + (orders.filter (·.reason = .target)).length
  realizedPnlUsdt := position.realizedPnlUsdt - fundingDelta + (exits.map (·.netPnlUsdt)).sum
  exits := position.exits ++ exits
  closureReview
  barsHeld := position.barsHeld + 1
  maximumFavorableExcursionUsdt := (position.excursions candle).1
  maximumAdverseExcursionUsdt := (position.excursions candle).2
  fundingCostUsdt := position.fundingCostUsdt + fundingDelta

lemma futuresPositionAfter_eq {fundingDelta : ℚ} {exits : List VirtualPositionExit}
    {review : Option VirtualClosureReview}
    (h : position.closureReviewAfter (position.statusAfter (position.remainingAfter orders) exits)
      context orders = .ok review) :
    position.futuresPositionAfter candle context fundingDelta orders exits =
      create (position.toPositionFields.move
        (position.movedBy candle fundingDelta orders exits review)) := by
  simp only [futuresPositionAfter, h, ok_bind]
  rfl

/-- The position after a candle without an exit is accepted exactly if its funding
stays within the notional. -/
lemma Pristine.positionAfter_hold_iff (hp : position.Pristine) (candle : OHLCVCandle)
    (context : VirtualExitContext) {fundingDelta : ℚ} :
    (∃ after, position.futuresPositionAfter candle context fundingDelta [] [] = .ok after) ↔
      position.fundingCostUsdt + fundingDelta ≤
        position.entryPrice * position.initialQuantity := by
  obtain ⟨-, hpos, -, htrailing⟩ := position.values_pos
  have hremaining : position.remainingAfter [] = position.initialQuantity := by
    simp [remainingAfter, hp.remaining_eq]
  have hstatus : position.statusAfter (position.remainingAfter []) [] = .open := by
    simp [statusAfter, hremaining, hpos.ne', hp.status_eq]
  have hexc := position.excursions_nonneg candle
  have hreview : position.closureReviewAfter
      (position.statusAfter (position.remainingAfter []) []) context [] = .ok none := by
    rw [hstatus]
    rfl
  rw [futuresPositionAfter_eq hreview, hp.move_accepted_iff]
  constructor
  · intro h
    have hrealized := h.realized_ge
    simp only [movedBy, hp.realized_eq, List.map_nil, List.sum_nil, add_zero] at hrealized
    linarith
  · intro h
    refine ⟨?_, ?_, ?_, ?_, ?_, hexc.1, hexc.2, ?_⟩
    · simp only [movedBy, hremaining, if_pos hpos, futuresTrailingStop_eq hp.breakeven_none hp.trailing_none, htrailing]
    · simp only [movedBy, hp.realized_eq, List.map_nil, List.sum_nil, add_zero]
      linarith
    · simp only [movedBy, hremaining, hpos.le]
    · simp only [movedBy, hremaining, le_refl]
    · simp only [movedBy, hstatus]
      simp [hremaining, hpos.ne']
    · simp [movedBy, hp.index_eq]

/-- The position that an exit closes is accepted exactly if its loss stays within
the notional. -/
lemma Pristine.positionAfter_exit_iff (hp : position.Pristine) (context : VirtualExitContext)
    {fundingDelta : ℚ}
    {order : ExitOrder} {e : VirtualPositionExit} (hq : order.quantity = position.initialQuantity)
    (he : position.futuresExit candle.timestamp order = .ok e) :
    (∃ after, position.futuresPositionAfter candle context fundingDelta [order] [e] = .ok after) ↔
      position.fundingCostUsdt + fundingDelta + position.entryFeeUsdt +
          position.exitFees order e.price - position.pricePnl e.price ≤
        position.entryPrice * position.initialQuantity := by
  obtain ⟨-, hpos, -, htrailing⟩ := position.values_pos
  obtain ⟨-, heq, hfee⟩ := futuresExit_values he
  have hnet := (futuresExit_spec he).2.2
  rw [hfee, heq, hq, grossPnl, heq, hq, mul_div_assoc, div_self hpos.ne', mul_one] at hnet
  have hremaining : position.remainingAfter [order] = 0 := by
    simp [remainingAfter, hp.remaining_eq, hq]
  have hstatus : position.statusAfter (position.remainingAfter [order]) [e] = .closed := by
    simp [statusAfter, hremaining]
  have hexc := position.excursions_nonneg candle
  rw [futuresPositionAfter_eq (by rw [hstatus]; rfl), hp.move_accepted_iff]
  constructor
  · intro h
    have hrealized := h.realized_ge
    simp only [movedBy, hp.realized_eq, List.map_cons, List.map_nil, List.sum_cons, List.sum_nil,
      add_zero, hnet] at hrealized
    rw [pricePnl]
    linarith
  · intro h
    rw [pricePnl] at h
    refine ⟨?_, ?_, ?_, ?_, ?_, hexc.1, hexc.2, ?_⟩
    · simp only [movedBy, hremaining, lt_irrefl, if_false, htrailing]
    · simp only [movedBy, hp.realized_eq, List.map_cons, List.map_nil, List.sum_cons, List.sum_nil,
        add_zero, hnet]
      linarith
    · simp only [movedBy, hremaining, le_refl]
    · simp only [movedBy, hremaining, hpos.le]
    · simp only [movedBy, hstatus]
      simp [hremaining]
    · obtain ⟨target, htarget⟩ := hp.one_target
      simp only [movedBy, hp.index_eq, htarget, zero_add, List.length_singleton]
      exact (List.length_filter_le _ _).trans (by simp)

/-! ### The portfolio after a candle -/

/-- The drawdown that a positive equity leaves is at most one. -/
lemma drawdown_bounds (p : VirtualPortfolioState) {equity : ℚ} (h : 0 < equity) :
    let highWatermark := max p.highWatermarkUsdt equity
    0 ≤ max p.maxDrawdownRatio
        (if 0 < highWatermark then (highWatermark - equity) / highWatermark else 0) ∧
      max p.maxDrawdownRatio
        (if 0 < highWatermark then (highWatermark - equity) / highWatermark else 0) ≤ 1 := by
  intro highWatermark
  have hpos : 0 < highWatermark := lt_max_of_lt_right h
  have hdrawdown : (highWatermark - equity) / highWatermark ≤ 1 := by
    rw [div_le_one hpos]
    linarith
  rw [if_pos hpos]
  exact ⟨le_max_of_le_left p.commonValid.drawdown_nonneg,
    max_le p.commonValid.drawdown_le_one hdrawdown⟩

section Portfolio

variable {after : VirtualManagedPosition} {markPrice fundingDelta : ℚ}
  (hm : p.market = .usdMFutures)

include hm

/-- The portfolio after a candle without an exit. -/
lemma futuresPortfolio_hold_iff (hmargin : position.MarginValid margin) (hopen : after.status ≠ .closed)
    (hexits : after.exits.drop position.exits.length = [])
    (hremaining : after.remainingQuantity = position.initialQuantity) :
    (∃ q, position.futuresPortfolioAfterPositionUpdate margin p after markPrice fundingDelta =
      .ok q) ↔
      0 < p.openPositionCount ∧ fundingDelta ≤ p.cashUsdt ∧
        0 < p.cashUsdt - fundingDelta + margin.isolatedMarginUsdt + position.pricePnl markPrice ∧
        0 ≤ 2 * (p.cashUsdt - fundingDelta + position.pricePnl markPrice) +
          margin.isolatedMarginUsdt := by
  obtain ⟨-, hpos, -, -⟩ := position.values_pos
  have hone : after.remainingQuantity / position.initialQuantity = 1 := by
    rw [hremaining, div_self hpos.ne']
  have hpnl : (markPrice - position.entryPrice) * position.positionSide.sign *
      after.remainingQuantity = position.pricePnl markPrice := by
    rw [hremaining, pricePnl]
  unfold futuresPortfolioAfterPositionUpdate
  simp only [hexits, hone, hpnl, hopen, List.map_nil, List.sum_nil, add_zero, mul_one, if_false,
    not_false_eq_true, true_and]
  rw [VirtualPortfolioState.exists_create_iff, PortfolioFields.checks_futures_iff (by exact hm)]
  have hbalances := p.commonValid.balances_nonneg
  simp only [List.mem_cons, List.not_mem_nil, or_false, forall_eq_or_imp, forall_eq] at hbalances
  obtain ⟨-, hinventory, hbasis, hfees, hslippage, -⟩ := hbalances
  constructor
  · rintro ⟨hcommon, hfutures⟩
    have hcash := hcommon.balances_nonneg _ List.mem_cons_self
    have hunrealized := hcommon.unrealized_ge
    dsimp only at hcash hunrealized
    refine ⟨?_, by linarith, hcommon.equity_pos, by linarith⟩
    by_contra hzero
    have hside := hfutures.side_none (Nat.eq_zero_of_not_pos hzero)
    cases hside
  · rintro ⟨hcount, hcash, hequity, hunrealized⟩
    have hdrawdown := drawdown_bounds p hequity
    refine ⟨⟨p.commonValid.identity, p.commonValid.initial_pos, hequity, ?_, hdrawdown.1,
      hdrawdown.2, ?_, p.commonValid.capacity_pos, lt_max_of_lt_right hequity, le_max_right _ _⟩,
      ⟨(p.futuresValid hm).inventory_zero, (p.futuresValid hm).costBasis_zero, ?_, ?_⟩⟩
    · simp only [List.mem_cons, List.not_mem_nil, or_false, forall_eq_or_imp, forall_eq]
      refine ⟨by linarith, hinventory, hbasis, hfees, hslippage, ?_⟩
      rw [hremaining]
      exact mul_nonneg (abs_nonneg _) hpos.le
    · dsimp only
      linarith
    · intro _
      refine ⟨rfl, ?_, ⟨margin.leverage, rfl, hmargin.leverage_ge⟩, ?_⟩
      · simp [PortfolioFields.futuresScalars, hequity]
      · intro r hr
        simp only [hequity, if_true, Option.mem_def, Option.some.injEq] at hr
        subst hr
        exact ⟨le_min zero_le_one (div_nonneg hmargin.isolated_pos.le hequity.le), min_le_left _ _⟩
    · intro hzero
      exact absurd hzero hcount.ne'

/-- The portfolio after an exit that closes the position. -/
lemma futuresPortfolio_exit_iff {e : VirtualPositionExit} (hclosed : after.status = .closed)
    (hexits : after.exits.drop position.exits.length = [e])
    (hq : e.quantity = position.initialQuantity) :
    (∃ q, position.futuresPortfolioAfterPositionUpdate margin p after markPrice fundingDelta =
      .ok q) ↔
      fundingDelta + e.feeUsdt - position.pricePnl e.price <
        p.cashUsdt + margin.isolatedMarginUsdt := by
  obtain ⟨-, hpos, -, -⟩ := position.values_pos
  have hzero : after.remainingQuantity = 0 := after.closed_iff.mp hclosed
  have hcash : p.cashUsdt - fundingDelta +
      (margin.isolatedMarginUsdt * e.quantity / position.initialQuantity +
        (e.price - position.entryPrice) * e.quantity * position.positionSide.sign - e.feeUsdt) =
      p.cashUsdt + margin.isolatedMarginUsdt -
        (fundingDelta + e.feeUsdt - position.pricePnl e.price) := by
    rw [hq, mul_div_assoc, div_self hpos.ne', pricePnl]
    ring
  obtain ⟨hprice, hquantity, hfee, hslip⟩ := e.nonneg
  unfold futuresPortfolioAfterPositionUpdate
  simp only [hexits, hzero, hclosed, zero_div, mul_zero, add_zero, not_true_eq_false,
    false_and, if_true, if_false, List.map_singleton, List.sum_singleton, hcash]
  rw [VirtualPortfolioState.exists_create_iff, PortfolioFields.checks_futures_iff (by exact hm)]
  have hbalances := p.commonValid.balances_nonneg
  simp only [List.mem_cons, List.not_mem_nil, or_false, forall_eq_or_imp, forall_eq] at hbalances
  obtain ⟨-, hinventory, hbasis, hfees, hslippage, -⟩ := hbalances
  constructor
  · rintro ⟨hcommon, -⟩
    have hequity := hcommon.equity_pos
    dsimp only at hequity
    linarith
  · intro hcost
    have hequity : 0 < p.cashUsdt + margin.isolatedMarginUsdt -
        (fundingDelta + e.feeUsdt - position.pricePnl e.price) := by linarith
    have hdrawdown := drawdown_bounds p hequity
    refine ⟨⟨p.commonValid.identity, p.commonValid.initial_pos, hequity, ?_, hdrawdown.1,
      hdrawdown.2, ?_, p.commonValid.capacity_pos, lt_max_of_lt_right hequity, le_max_right _ _⟩,
      ⟨(p.futuresValid hm).inventory_zero, (p.futuresValid hm).costBasis_zero, ?_, ?_⟩⟩
    · simp only [List.mem_cons, List.not_mem_nil, or_false, forall_eq_or_imp, forall_eq]
      exact ⟨hequity.le, hinventory, hbasis, by linarith, by linarith, le_rfl⟩
    · dsimp only
      linarith
    · intro h
      exact absurd h (lt_irrefl 0)
    · intro _
      rfl

end Portfolio

/-! ### Acceptance -/

/-- The exits of one order. -/
lemma mapM_singleton {f : ExitOrder → Except PyError VirtualPositionExit} {order : ExitOrder}
    {exits : List VirtualPositionExit} :
    [order].mapM f = .ok exits ↔ ∃ e, f order = .ok e ∧ exits = [e] := by
  rw [mapM_eq_ok, List.forall₂_cons_left_iff]
  constructor
  · rintro ⟨e, rest, he, hrest, rfl⟩
    rw [List.forall₂_nil_left_iff] at hrest
    exact ⟨e, he, by rw [hrest]⟩
  · rintro ⟨e, he, rfl⟩
    exact ⟨e, [], he, .nil, rfl⟩

/-- The texts of the audit trail are accepted exactly if they are distinct. -/
lemma auditRefs_iff (position : VirtualManagedPosition) :
    Passes (uniqueNonblankChecks "virtual position update audit refs"
        [position.positionId, position.candidateId, position.symbol]) ↔
      [position.positionId, position.candidateId, position.symbol].Nodup := by
  have h := position.amountsValid.identity
  have hblank : [position.positionId, position.candidateId, position.symbol].any isBlank =
      false := by
    rw [List.any_eq_false]
    intro text htext
    rw [h text]
    · simp
    · simp only [List.mem_cons, List.not_mem_nil, or_false] at htext ⊢
      tauto
  simp only [uniqueNonblankChecks, passes_cons, passes_nil, hblank, decide_eq_false_iff_not,
    not_not, and_true]

/-- The statuses of the two kinds of candles. -/
lemma futuresPositionAfter_status {fundingDelta : ℚ} {exits : List VirtualPositionExit}
    {after : VirtualManagedPosition}
    (h : position.futuresPositionAfter candle context fundingDelta orders exits = .ok after) :
    after.status = position.statusAfter (position.remainingAfter orders) exits := by
  simp only [futuresPositionAfter, bind_eq_ok] at h
  obtain ⟨review, -, hc⟩ := h
  obtain ⟨ratios, hr⟩ := PositionFields.normalized_eq _
  rw [create_eq_ok, hr] at hc
  rw [hc]

/-- A candle is accepted once all its parts are. -/
lemma exists_update {exits : List VirtualPositionExit} {after : VirtualManagedPosition}
    {q : VirtualPortfolioState}
    (ho : position.futuresExitOrders margin candle context futuresContext = .ok orders)
    (he : orders.mapM (position.futuresExit candle.timestamp) = .ok exits)
    (ha : position.futuresPositionAfter candle context (position.fundingDelta futuresContext) orders
      exits = .ok after)
    (hq : position.futuresPortfolioAfterPositionUpdate margin p after futuresContext.markPrice
      (position.fundingDelta futuresContext) = .ok q)
    (hdistinct : [position.positionId, position.candidateId, position.symbol].Nodup) :
    ∃ update, position.processFuturesPosition margin p candle context futuresContext =
      .ok update := by
  simp only [processFuturesPosition, ho, he, ha, hq, ok_bind, bind_eq_ok, raiseIf_eq_ok, pure_eq_ok,
    not_not, auditRefs_iff]
  exact ⟨_, (), hdistinct, rfl⟩

/-- **Acceptance of a Futures candle.**  A pristine position and its portfolio take
a candle exactly if its exit can be priced and its losses and funding are covered. -/
theorem processFuturesPosition_accepted_iff (hp : position.Pristine)
    (hm : p.market = .usdMFutures) (hmargin : position.MarginValid margin) :
    (∃ update, position.processFuturesPosition margin p candle context futuresContext =
      .ok update) ↔
      position.FuturesAccepts margin p candle context futuresContext := by
  obtain ⟨-, hpos, -, -⟩ := position.values_pos
  constructor
  · rintro ⟨update, h⟩
    simp only [processFuturesPosition, bind_eq_ok, raiseIf_eq_ok, pure_eq_ok, not_not,
      auditRefs_iff] at h
    obtain ⟨orders, ho, exits, he, after, ha, q, hq, _, hdistinct, -⟩ := h
    have hspec := futuresPositionAfter_spec ha
    have hstatus := futuresPositionAfter_status ha
    have hdrop : after.exits.drop position.exits.length = exits := by
      rw [hspec.2.1, List.drop_left]
    refine ⟨hdistinct, orders, ho, fun hnil => ?_, fun order horder => ?_⟩
    · subst hnil
      obtain rfl : exits = [] := by simpa [mapM_eq_ok] using he
      have hopen : after.status ≠ .closed := by
        rw [hstatus]
        simp [statusAfter, remainingAfter, hp.remaining_eq, hpos.ne', hp.status_eq]
      have hremaining : after.remainingQuantity = position.initialQuantity := by
        rw [hspec.2.2.1]
        simp [remainingAfter, hp.remaining_eq]
      obtain ⟨h1, h2, h3, h4⟩ :=
        (futuresPortfolio_hold_iff hm hmargin hopen hdrop hremaining).mp ⟨q, hq⟩
      exact ⟨h1, h2, (hp.positionAfter_hold_iff candle context).mp ⟨after, ha⟩, h3, h4⟩
    · obtain rfl | ⟨order', rfl, hquantity, href⟩ := hp.exitOrders_cases ho
      · cases horder
      · obtain rfl := List.mem_singleton.mp horder
        obtain ⟨e, hexit, rfl⟩ := mapM_singleton.mp he
        obtain ⟨hprice, heq, hfee⟩ := futuresExit_values hexit
        have hclosed : after.status = .closed := by
          rw [hstatus]
          simp [statusAfter, remainingAfter, hp.remaining_eq, hquantity]
        refine ⟨e.price, hprice, (hp.positionAfter_exit_iff context hquantity hexit).mp ⟨after, ha⟩, ?_⟩
        rw [← hfee]
        exact (futuresPortfolio_exit_iff hm hclosed hdrop (heq.trans hquantity)).mp ⟨q, hq⟩
  · rintro ⟨hdistinct, orders, ho, hhold, hexit⟩
    obtain rfl | ⟨order, rfl, hquantity, href⟩ := hp.exitOrders_cases ho
    · have hold := hhold rfl
      obtain ⟨after, ha⟩ := (hp.positionAfter_hold_iff candle context).mpr
        hold.funding_le_notional
      have hspec := futuresPositionAfter_spec ha
      have hopen : after.status ≠ .closed := by
        rw [futuresPositionAfter_status ha]
        simp [statusAfter, remainingAfter, hp.remaining_eq, hpos.ne', hp.status_eq]
      have hremaining : after.remainingQuantity = position.initialQuantity := by
        rw [hspec.2.2.1]
        simp [remainingAfter, hp.remaining_eq]
      have hdrop : after.exits.drop position.exits.length = [] := by
        rw [hspec.2.1, List.drop_left]
      obtain ⟨q, hq⟩ := (futuresPortfolio_hold_iff hm hmargin hopen hdrop hremaining).mpr
        ⟨hold.counted, hold.funding_le_cash, hold.equity_pos, hold.loss_le⟩
      exact exists_update ho rfl ha hq hdistinct
    · obtain ⟨price, hprice, hcovered⟩ := hexit order List.mem_cons_self
      obtain ⟨e, he⟩ := (hp.futuresExit_iff candle.timestamp href
        (hquantity ▸ hpos.le)).mpr ⟨price, hprice⟩
      obtain ⟨hprice', heq, hfee⟩ := futuresExit_values he
      obtain rfl : price = e.price := Option.some.inj (hprice.symm.trans hprice')
      obtain ⟨after, ha⟩ := (hp.positionAfter_exit_iff context hquantity he).mpr
        hcovered.loss_le_notional
      have hspec := futuresPositionAfter_spec ha
      have hclosed : after.status = .closed := by
        rw [futuresPositionAfter_status ha]
        simp [statusAfter, remainingAfter, hp.remaining_eq, hquantity]
      have hdrop : after.exits.drop position.exits.length = [e] := by
        rw [hspec.2.1, List.drop_left]
      have hcost := hcovered.cost_lt_wallet
      rw [← hfee] at hcost
      obtain ⟨q, hq⟩ :=
        (futuresPortfolio_exit_iff hm hclosed hdrop (heq.trans hquantity)).mpr hcost
      exact exists_update ho (mapM_singleton.mpr ⟨e, he, rfl⟩) ha hq hdistinct

end Ai4Binance.VirtualManagedPosition

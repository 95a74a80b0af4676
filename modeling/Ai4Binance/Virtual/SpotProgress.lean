/-
When a candle of a Spot position is accepted.

The paper lifecycle closes a pristine position in full (at its stop, at its
target, or at the close on a forced exit) or moves its trailing stop.  It never
refuses a candle itself; what refuses are the constructors of the managed
position and of the portfolio.

* `spotExitReference`: the price a candle closes the position at, before slippage;
* `LifeClosed`, `LifeHeld`: what the lifecycle does, with
  `processCandle_pristine`;
* `SpotHold`, `SpotCovered`, `SpotAccepts`: what is asked of a candle;
* `processSpotPosition_accepted_iff`: a candle is accepted exactly then.
-/
import Ai4Binance.Virtual.FuturesProgress

open Text Check

namespace Ai4Binance

variable {position : VirtualManagedPosition} {p : VirtualPortfolioState} {candle : OHLCVCandle}
  {context : VirtualExitContext} {lifecycle final : LifecyclePosition}

/-! ### The conditions -/

namespace VirtualManagedPosition

/-- The price at which a candle closes a position, before slippage: the stop or a
worse open, the target, or the close on a forced exit. -/
def spotExitReference (position : VirtualManagedPosition) (candle : OHLCVCandle)
    (context : VirtualExitContext) : Option ℚ :=
  let stop := max position.stopLoss position.trailingStop
  if candle.low ≤ stop then some (min candle.open stop)
  else
    match position.takeProfitLevels.find? (· ≤ candle.high) with
    | some target => some target
    | none => if context.forcedExitReason.isSome then some candle.close else none

/-- What the whole position brings in at a reference price. -/
def spotProceeds (position : VirtualManagedPosition) (reference : ℚ) : ℚ :=
  reference * (1 - position.slippageRatio) * position.initialQuantity * (1 - position.feeRatio)

/-- A candle without an exit: at its close the portfolio has a positive equity of
at least half of its cost basis. -/
structure SpotHold (p : VirtualPortfolioState) (candle : OHLCVCandle) : Prop where
  equity_pos : 0 < p.cashUsdt + p.inventoryQuantity * candle.close
  basis_le : p.inventoryCostBasisUsdt ≤ 2 * (p.cashUsdt + p.inventoryQuantity * candle.close)

/-- The inventory that an exit of the position leaves. -/
def inventoryLeft (position : VirtualManagedPosition) (p : VirtualPortfolioState) : ℚ :=
  p.inventoryQuantity - position.initialQuantity

/-- The equity that an exit leaves, at the close of the candle. -/
def equityLeft (position : VirtualManagedPosition) (p : VirtualPortfolioState)
    (candle : OHLCVCandle) (reference : ℚ) : ℚ :=
  p.cashUsdt + position.spotProceeds reference + position.inventoryLeft p * candle.close

/-- An exit at a reference price: the proceeds cover the entry fee, the inventory
holds the quantity, the equity left is positive and at least half of the cost
basis left, and the cash is explained by watermark, realized PnL and initial
equity. -/
structure SpotCovered (position : VirtualManagedPosition) (p : VirtualPortfolioState)
    (candle : OHLCVCandle) (reference : ℚ) : Prop where
  fee_le : position.entryFeeUsdt ≤ position.spotProceeds reference
  held : position.initialQuantity ≤ p.inventoryQuantity
  equity_pos : 0 < position.equityLeft p candle reference
  basis_le : position.inventoryLeft p ≠ 0 →
    p.inventoryCostBasisUsdt - position.entryPrice * position.initialQuantity ≤
      2 * position.equityLeft p candle reference
  cash_le : p.cashUsdt + position.spotProceeds reference ≤
    max p.highWatermarkUsdt (position.equityLeft p candle reference) +
      (p.realizedPnlUsdt + (position.spotProceeds reference -
        position.entryPrice * position.initialQuantity - position.entryFeeUsdt)) +
      p.initialEquityUsdt

/-- The candles that a pristine Spot position and its portfolio take. -/
structure SpotAccepts (position : VirtualManagedPosition) (p : VirtualPortfolioState)
    (candle : OHLCVCandle) (context : VirtualExitContext) : Prop where
  distinct : [position.positionId, position.candidateId, position.symbol].Nodup
  hold : position.spotExitReference candle context = none → SpotHold p candle
  exit : ∀ reference ∈ position.spotExitReference candle context,
    position.SpotCovered p candle reference

end VirtualManagedPosition

/-! ### The paper lifecycle of a pristine position -/

/-- The lifecycle closes the whole position at a price, with its fee. -/
structure LifeClosed (l q : LifecyclePosition) (price feeRatio : ℚ) : Prop where
  remaining_eq : q.remainingQuantity = 0
  status_eq : q.status = .closed
  trailing_ge : l.trailingStop ≤ q.trailingStop
  index_le : q.nextTargetIndex ≤ l.nextTargetIndex + 1
  realized_eq : q.realizedPnlUsdt = l.realizedPnlUsdt +
    ((price - l.entryPrice) * l.remainingQuantity - price * l.remainingQuantity * feeRatio -
      l.entryFeeUsdt * l.remainingQuantity / l.initialQuantity)
  exits_eq : ∃ e, q.exits = l.exits ++ [e] ∧ e.price = price ∧ e.quantity = l.remainingQuantity ∧
    e.feeUsdt = price * l.remainingQuantity * feeRatio ∧
    e.netPnlUsdt = (price - l.entryPrice) * l.remainingQuantity -
      price * l.remainingQuantity * feeRatio -
      l.entryFeeUsdt * l.remainingQuantity / l.initialQuantity

/-- The lifecycle keeps the position open and at most moves its trailing stop. -/
structure LifeHeld (l q : LifecyclePosition) : Prop where
  remaining_eq : q.remainingQuantity = l.remainingQuantity
  status_eq : q.status = l.status
  trailing_ge : l.trailingStop ≤ q.trailingStop
  index_eq : q.nextTargetIndex = l.nextTargetIndex
  realized_eq : q.realizedPnlUsdt = l.realizedPnlUsdt
  exits_eq : q.exits = l.exits
  entryPrice_eq : q.entryPrice = l.entryPrice
  entryFee_eq : q.entryFeeUsdt = l.entryFeeUsdt
  initial_eq : q.initialQuantity = l.initialQuantity

/-- Held first, closed then. -/
lemma LifeHeld.closed {l m q : LifecyclePosition} {price feeRatio : ℚ} (h : LifeHeld l m)
    (h' : LifeClosed m q price feeRatio) : LifeClosed l q price feeRatio := by
  obtain ⟨e, he⟩ := h'.exits_eq
  refine ⟨h'.remaining_eq, h'.status_eq, h.trailing_ge.trans h'.trailing_ge, ?_, ?_, e, ?_⟩
  · rw [← h.index_eq]
    exact h'.index_le
  · rw [h'.realized_eq, h.realized_eq, h.remaining_eq, h.entryPrice_eq, h.entryFee_eq, h.initial_eq]
  · rw [h.exits_eq, h.remaining_eq, h.entryPrice_eq, h.entryFee_eq, h.initial_eq] at he
    exact he

/-- A lifecycle position with changed remaining quantity, status and stop is
accepted if these fit together. -/
lemma LifecycleFields.passes_closed {l : LifecyclePosition} {f : LifecycleFields}
    (hf : f.positionId = l.positionId ∧ f.candidateId = l.candidateId ∧ f.symbol = l.symbol ∧
      f.entryFeeUsdt = l.entryFeeUsdt ∧ f.entryPrice = l.entryPrice ∧
      f.initialQuantity = l.initialQuantity ∧ f.stopLoss = l.stopLoss ∧
      f.trailingStop = l.trailingStop ∧ f.atr = l.atr)
    (hr : f.remainingQuantity = 0) (hs : f.status = .closed) : Passes f.checks := by
  have h := l.passes
  obtain ⟨h1, h2, h3, h4, h5, h6, h7, h8, h9⟩ := hf
  simp only [LifecycleFields.checks, passes_cons, passes_nil, decide_eq_false_iff_not, not_or,
    not_and, not_not, not_lt] at h ⊢
  rw [h1, h2, h3, h4, h5, h6, h7, h8, h9, hr, hs]
  exact ⟨h.1, h.2.1, h.2.2.1, ⟨le_rfl, h.2.2.2.1.1.trans h.2.2.2.1.2⟩, fun _ => rfl,
    fun hc => absurd rfl hc, trivial⟩

/-- An exit of all that remains closes the position. -/
lemma PaperLifecycleEngine.applyExit_closed {engine : PaperLifecycleEngine} {price : ℚ}
    (hfee : 0 ≤ engine.feeRatio) (hprice : 0 ≤ price) (timestamp : ℤ) (reason : ExitReason)
    (context : ClosureContext) {index : ℕ} (hi : index ≤ lifecycle.nextTargetIndex + 1) :
    ∃ q, engine.applyExit lifecycle timestamp reason price lifecycle.remainingQuantity context
      index = .ok q ∧ LifeClosed lifecycle q price engine.feeRatio := by
  have hremaining : 0 ≤ lifecycle.remainingQuantity := by
    have h := lifecycle.passes
    simp only [LifecycleFields.checks, passes_cons, decide_eq_false_iff_not, not_or, not_lt] at h
    exact h.2.2.2.1.1
  have hnonneg : 0 ≤ price ∧ 0 ≤ lifecycle.remainingQuantity ∧
      0 ≤ price * lifecycle.remainingQuantity * engine.feeRatio :=
    ⟨hprice, hremaining, by positivity⟩
  simp only [applyExit, LifecycleExit.create, dif_pos hnonneg, ok_bind, sub_self, if_true]
  rw [LifecyclePosition.create, dif_pos]
  · exact ⟨_, rfl, rfl, rfl, le_rfl, hi, rfl, _, rfl, rfl, rfl, rfl, rfl⟩
  · exact LifecycleFields.passes_closed ⟨rfl, rfl, rfl, rfl, rfl, rfl, rfl, rfl, rfl⟩ rfl rfl

/-- A forced or time exit closes the position. -/
lemma VirtualManagedPosition.closeLifecycleRemaining_closed (lifecycle : LifecyclePosition)
    {reference : ℚ} (hfee : 0 ≤ position.feeRatio) (hprice : 0 ≤ reference * (1 - position.slippageRatio))
    (timestamp : ℤ) (reason : BacktestExitReason) (context : VirtualExitContext) :
    ∃ q, position.closeLifecycleRemaining lifecycle timestamp reason reference context = .ok q ∧
      LifeClosed lifecycle q (reference * (1 - position.slippageRatio)) position.feeRatio := by
  have hremaining : 0 ≤ lifecycle.remainingQuantity := by
    have h := lifecycle.passes
    simp only [LifecycleFields.checks, passes_cons, decide_eq_false_iff_not, not_or, not_lt] at h
    exact h.2.2.2.1.1
  have hnonneg : 0 ≤ reference * (1 - position.slippageRatio) ∧ 0 ≤ lifecycle.remainingQuantity ∧
      0 ≤ reference * (1 - position.slippageRatio) * lifecycle.remainingQuantity *
        position.feeRatio :=
    ⟨hprice, hremaining, by positivity⟩
  simp only [closeLifecycleRemaining, LifecycleExit.create, dif_pos hnonneg, ok_bind]
  rw [LifecyclePosition.create, dif_pos]
  · exact ⟨_, rfl, rfl, rfl, le_rfl, Nat.le_succ _, rfl, _, rfl, rfl, rfl, rfl, rfl⟩
  · exact LifecycleFields.passes_closed ⟨rfl, rfl, rfl, rfl, rfl, rfl, rfl, rfl, rfl⟩ rfl rfl

/-- A candle above the stop moves the trailing stop. -/
lemma PaperLifecycleEngine.trail_held {engine : PaperLifecycleEngine}
    (hengine : Passes engine.checks) (hlow : lifecycle.trailingStop < candle.low) :
    ∃ q, engine.trail lifecycle candle = .ok q ∧ LifeHeld lifecycle q := by
  have h := lifecycle.passes
  simp only [LifecycleFields.checks, passes_cons, decide_eq_false_iff_not, not_or, not_lt,
    List.any_cons, List.any_nil, Bool.or_eq_true, decide_eq_true_eq, not_le] at h
  obtain ⟨hid, hsymbol, ⟨hfee, hprice, hinitial, hstop, htrailing, hatr, -⟩, hremaining⟩ := h
  simp only [PaperLifecycleEngine.checks, passes_cons, decide_eq_false_iff_not, not_le,
    lt_min_iff] at hengine
  have hclose : lifecycle.trailingStop < candle.close :=
    hlow.trans_le (le_min_iff.mp candle.low_le_min).2
  have hinputs : ¬ ([lifecycle.trailingStop, candle.close, lifecycle.atr, engine.trailingMultiplier,
      engine.tickSize].any (· ≤ 0)) = true := by
    simp only [List.any_cons, List.any_nil, Bool.or_eq_true, decide_eq_true_eq, not_or, not_le]
    exact ⟨htrailing, htrailing.trans hclose, hatr, hengine.2.2.1.1, hengine.2.2.1.2, by simp⟩
  simp only [trail, updateLongTrailingStop, raiseIf_of_not hinputs,
    raiseIf_of_not (not_le.mpr hclose), ok_bind, pure_bind]
  rw [LifecyclePosition.create, dif_pos]
  · exact ⟨_, rfl, rfl, rfl, le_max_left _ _, rfl, rfl, rfl, rfl, rfl, rfl⟩
  · simp only [LifecycleFields.checks, passes_cons, decide_eq_false_iff_not, not_or, not_lt,
      List.any_cons, List.any_nil, Bool.or_eq_true, decide_eq_true_eq, not_le]
    exact ⟨hid, hsymbol, ⟨hfee, hprice, hinitial, hstop, lt_max_of_lt_left htrailing, hatr,
      by simp⟩, hremaining⟩

/-- **One candle of the paper lifecycle** for a position with one target for all of
it: the stop, the target, or a moved trailing stop; no candle is refused. -/
theorem PaperLifecycleEngine.processCandle_pristine {engine : PaperLifecycleEngine}
    (hengine : Passes engine.checks) (hopen : lifecycle.status ≠ .closed)
    (htime : lifecycle.openedAt ≤ candle.timestamp) {target : ℚ}
    (htargets : openTargets lifecycle = [(target, 1)]) (htarget : 0 ≤ target)
    (hremaining : lifecycle.remainingQuantity = lifecycle.initialQuantity)
    (context : ClosureContext) :
    ∃ q, engine.processCandle lifecycle candle context = .ok q ∧
      if candle.low ≤ max lifecycle.stopLoss lifecycle.trailingStop then
        LifeClosed lifecycle q (min candle.open (max lifecycle.stopLoss lifecycle.trailingStop) *
          (1 - engine.slippageRatio)) engine.feeRatio
      else if target ≤ candle.high then
        LifeClosed lifecycle q (target * (1 - engine.slippageRatio)) engine.feeRatio
      else LifeHeld lifecycle q := by
  have hchecks := hengine
  simp only [PaperLifecycleEngine.checks, passes_cons, decide_eq_false_iff_not, not_or,
    not_lt] at hchecks
  obtain ⟨⟨hfee, -⟩, ⟨hslip, hslip'⟩, -⟩ := hchecks
  have hfactor : 0 ≤ 1 - engine.slippageRatio := by linarith
  simp only [processCandle, raiseIf_of_not hopen, raiseIf_of_not (not_lt.mpr htime), ok_bind]
  by_cases hstop : candle.low ≤ max lifecycle.stopLoss lifecycle.trailingStop
  · simp only [if_pos hstop]
    have hprice : 0 ≤ min candle.open (max lifecycle.stopLoss lifecycle.trailingStop) :=
      le_min candle.nonneg.1 (candle.nonneg.2.2.1.trans hstop)
    exact applyExit_closed hfee (mul_nonneg hprice hfactor) _ _ _ (Nat.le_succ _)
  · simp only [if_neg hstop, htargets, takeTargets]
    by_cases hhigh : target ≤ candle.high
    · simp only [if_neg (not_lt.mpr hhigh), if_pos hhigh, mul_one, hremaining, min_self]
      obtain ⟨q, hq, hclosed⟩ := applyExit_closed hfee (mul_nonneg htarget hfactor)
        candle.timestamp .takeProfitExit context (le_refl (lifecycle.nextTargetIndex + 1))
      rw [hremaining] at hq
      refine ⟨q, ?_, hclosed⟩
      simp only [hq, ok_bind, hclosed.status_eq, if_true]
      rfl
    · simp only [if_pos (not_le.mp hhigh), if_neg hhigh, ok_bind, if_neg hopen]
      exact trail_held hengine ((le_max_right _ _).trans_lt (not_le.mp hstop))

/-! ### A pristine position through the lifecycle -/

namespace VirtualManagedPosition

/-- The lifecycle form of a pristine Spot position. -/
structure LifecycleOf (position : VirtualManagedPosition) (l : LifecyclePosition) (target : ℚ) :
    Prop where
  openTargets_eq : PaperLifecycleEngine.openTargets l = [(target, 1)]
  status_eq : l.status = .open
  openedAt_eq : l.openedAt = position.openedAt
  entryPrice_eq : l.entryPrice = position.entryPrice
  entryFee_eq : l.entryFeeUsdt = position.entryFeeUsdt
  initial_eq : l.initialQuantity = position.initialQuantity
  remaining_eq : l.remainingQuantity = position.initialQuantity
  stop_eq : l.stopLoss = position.stopLoss
  trailing_eq : l.trailingStop = position.trailingStop
  index_eq : l.nextTargetIndex = 0
  realized_eq : l.realizedPnlUsdt = position.realizedPnlUsdt
  exits_eq : l.exits = []

/-- A Spot position is long. -/
lemma side_of_spot (hm : position.market = .spot) : position.positionSide = .long := by
  have h := position.passes
  simp only [PositionFields.checks, passes_append] at h
  exact ((PositionFields.marginChecks_spot_iff hm).mp h.1.2).1

lemma Pristine.lifecyclePosition_ok (hp : position.Pristine) {target : ℚ}
    (htarget : position.takeProfitLevels = [target]) :
    ∃ l, position.lifecyclePosition = .ok l ∧ position.LifecycleOf l target := by
  have hpos := position.targets_pos (show target ∈ position.takeProfitLevels by simp [htarget])
  have hplan : Passes (stagedExitChecks [target] [1]) := by
    simp [stagedExitChecks, hpos]
  have hamounts := position.amountsValid
  have hidentity := hamounts.identity
  have hvalues := hamounts.values_pos
  simp only [List.mem_cons, List.not_mem_nil, or_false, forall_eq_or_imp, forall_eq]
    at hidentity hvalues
  obtain ⟨hid, hcandidate, -, hsymbol⟩ := hidentity
  obtain ⟨h1, h2, h3, h4, h5, -⟩ := hvalues
  simp only [lifecyclePosition, htarget, hp.ratios_eq, List.insertionSort_cons,
    List.insertionSort_nil, List.orderedInsert_nil, StagedExitPlan.create, dif_pos hplan, ok_bind]
  rw [LifecyclePosition.create, dif_pos]
  · refine ⟨_, rfl, ?_, hp.status_eq, rfl, rfl, rfl, rfl, hp.remaining_eq, rfl, rfl, hp.index_eq,
      rfl, ?_⟩
    · simp [PaperLifecycleEngine.openTargets, hp.index_eq]
    · simp [hp.exits_eq]
  · simp [LifecycleFields.checks, hid, hcandidate, hsymbol, hamounts.entryFee_nonneg, h1, h2, h3, h4,
      h5, hp.status_eq, hp.remaining_eq, h2.le, h2.ne']

/-- The engine of a pristine position is accepted. -/
lemma Pristine.engine_passes (hp : position.Pristine) : Passes position.engine.checks := by
  have htick := position.amountsValid.values_pos position.tickSize.toRat (by simp)
  simp only [PaperLifecycleEngine.checks, engine, hp.trailing_none, passes_cons, passes_nil,
    decide_eq_false_iff_not, not_or, not_lt, not_le, lt_min_iff, Option.getD_none, and_true]
  exact ⟨⟨hp.fee_nonneg, hp.fee_le⟩, ⟨hp.slippage_nonneg, hp.slippage_le⟩, by norm_num, htick⟩

/-- What the lifecycle, the break-even stop and the forced exit make of a pristine
position. -/
lemma Pristine.lifecycle_final (hp : position.Pristine) (htime : position.openedAt ≤ candle.timestamp)
    (context : VirtualExitContext) (mfe : ℚ) :
    ∃ l processed final reason, position.lifecyclePosition = .ok l ∧
      position.engine.processCandle l candle (closureContext context) = .ok processed ∧
      position.breakeven processed mfe = .ok processed ∧
      position.closeForced processed candle context = .ok (final, reason) ∧
      (∃ target, position.LifecycleOf l target) ∧
      match position.spotExitReference candle context with
      | some reference => LifeClosed l final (reference * (1 - position.slippageRatio))
          position.feeRatio
      | none => LifeHeld l final := by
  obtain ⟨target, htarget⟩ := hp.one_target
  obtain ⟨l, hl, hof⟩ := hp.lifecyclePosition_ok htarget
  have hpos := position.targets_pos (show target ∈ position.takeProfitLevels by simp [htarget])
  have hopen : l.status ≠ .closed := by simp [hof.status_eq]
  obtain ⟨processed, hprocessed, hcases⟩ := PaperLifecycleEngine.processCandle_pristine
    hp.engine_passes hopen (hof.openedAt_eq ▸ htime) hof.openTargets_eq hpos.le
    (hof.remaining_eq.trans hof.initial_eq.symm) (closureContext context)
  have hbreakeven : position.breakeven processed mfe = .ok processed := by
    rw [breakeven, breakevenTriggerReached, hp.breakeven_none]
    simp
  have hreason : position.closingReason context = context.forcedExitReason := by
    rw [closingReason, hp.holding_none]
    cases context.forcedExitReason <;> rfl
  have hfind : position.takeProfitLevels.find? (· ≤ candle.high) =
      if target ≤ candle.high then some target else none := by
    rw [htarget, List.find?_singleton]
    simp
  rw [hof.stop_eq, hof.trailing_eq] at hcases
  by_cases hstop : candle.low ≤ max position.stopLoss position.trailingStop
  · rw [if_pos hstop] at hcases
    refine ⟨l, processed, processed, none, hl, hprocessed, hbreakeven, ?_, ⟨target, hof⟩, ?_⟩
    · rw [closeForced, hcases.status_eq]
      split <;> rfl
    · simp only [spotExitReference, if_pos hstop]
      exact hcases
  · rw [if_neg hstop] at hcases
    by_cases hhigh : target ≤ candle.high
    · rw [if_pos hhigh] at hcases
      refine ⟨l, processed, processed, none, hl, hprocessed, hbreakeven, ?_, ⟨target, hof⟩, ?_⟩
      · rw [closeForced, hcases.status_eq]
        split <;> rfl
      · simp only [spotExitReference, if_neg hstop, hfind, if_pos hhigh]
        exact hcases
    · rw [if_neg hhigh] at hcases
      cases hforced : context.forcedExitReason with
      | none =>
        refine ⟨l, processed, processed, none, hl, hprocessed, hbreakeven, ?_, ⟨target, hof⟩, ?_⟩
        · rw [closeForced, hreason, hforced]
          rfl
        · simp only [spotExitReference, if_neg hstop, hfind, if_neg hhigh, hforced]
          exact hcases
      | some forced =>
        have hprice : 0 ≤ candle.close * (1 - position.slippageRatio) :=
          mul_nonneg candle.nonneg.2.2.2.1 (by linarith [hp.slippage_le])
        obtain ⟨final, hfinal, hclosed⟩ := closeLifecycleRemaining_closed processed
          hp.fee_nonneg hprice candle.timestamp forced context
        refine ⟨l, processed, final, some forced, hl, hprocessed, hbreakeven, ?_, ⟨target, hof⟩, ?_⟩
        · have hstill : processed.status ≠ .closed := by
            rw [hcases.status_eq]
            exact hopen
          simp only [closeForced, hreason, hforced, if_pos hstill, hfinal, ok_bind]
          rfl
        · simp only [spotExitReference, if_neg hstop, hfind, if_neg hhigh, hforced]
          exact hcases.closed hclosed

/-! ### The position and the portfolio after a candle -/

/-- The translation back moves the position to the fields of the lifecycle. -/
lemma managedPositionFromLifecycle_eq (position : VirtualManagedPosition)
    (final : LifecyclePosition) (barsHeld : ℕ) (mfe : ℚ) (reason : Option BacktestExitReason) :
    ∃ exits review, position.managedPositionFromLifecycle final barsHeld mfe reason =
      create (position.toPositionFields.move ⟨final.remainingQuantity, final.trailingStop,
        final.status, final.nextTargetIndex, final.realizedPnlUsdt, exits, review, barsHeld, mfe,
        position.maximumAdverseExcursionUsdt, position.fundingCostUsdt⟩) := by
  unfold managedPositionFromLifecycle
  exact ⟨_, _, rfl⟩

/-- The position that the lifecycle leaves is accepted exactly if its realized PnL
stays within the notional. -/
lemma Pristine.fromLifecycle_iff (hp : position.Pristine) {final : LifecyclePosition}
    (htrailing : position.trailingStop ≤ final.trailingStop) (hindex : final.nextTargetIndex ≤ 1)
    {barsHeld : ℕ} {mfe : ℚ} (hmfe : 0 ≤ mfe) {reason : Option BacktestExitReason}
    (hle : final.remainingQuantity ≤ position.initialQuantity) :
    (∃ after, position.managedPositionFromLifecycle final barsHeld mfe reason = .ok after) ↔
      -position.entryPrice * position.initialQuantity ≤ final.realizedPnlUsdt := by
  obtain ⟨exits, review, heq⟩ :=
    position.managedPositionFromLifecycle_eq final barsHeld mfe reason
  rw [heq, hp.move_accepted_iff]
  have hl := final.passes
  simp only [LifecycleFields.checks, passes_cons, decide_eq_false_iff_not, not_or, not_lt, not_and,
    not_not] at hl
  obtain ⟨-, -, -, ⟨hnonneg, -⟩, hclosed, hactive, -⟩ := hl
  constructor
  · intro h
    exact h.realized_ge
  · intro h
    refine ⟨position.values_pos.2.2.2.trans_le htrailing, h, hnonneg, hle, ⟨hclosed, fun h0 => ?_⟩,
      hmfe, position.amountsValid.mae_nonneg, ?_⟩
    · by_contra hs
      exact hactive hs h0
    · obtain ⟨target, htarget⟩ := hp.one_target
      rw [htarget]
      exact hindex

section Portfolio

variable {after : VirtualManagedPosition} {markPrice : ℚ} (hm : p.market = .spot)

include hm

/-- The portfolio after a candle without an exit. -/
lemma spotPortfolio_hold_iff (hexits : after.exits.drop position.exits.length = []) :
    (∃ q, position.spotPortfolioAfterPositionUpdate p after candle.close = .ok q) ↔
      SpotHold p candle := by
  have hbalances := p.commonValid.balances_nonneg
  simp only [List.mem_cons, List.not_mem_nil, or_false, forall_eq_or_imp, forall_eq] at hbalances
  obtain ⟨hcash, hinventory, hbasis, hfees, hslippage, -⟩ := hbalances
  have hzero : (if p.inventoryQuantity = 0 then 0 else p.inventoryCostBasisUsdt) =
      p.inventoryCostBasisUsdt := by
    split_ifs with h0
    · exact ((p.spotValid hm).costBasis_zero h0).symm
    · rfl
  unfold spotPortfolioAfterPositionUpdate
  simp only [hexits, List.map_nil, List.sum_nil, add_zero, sub_zero, hzero, max_eq_left hbasis]
  rw [VirtualPortfolioState.exists_create_iff, PortfolioFields.checks_spot_iff (by exact hm)]
  constructor
  · rintro ⟨hcommon, -⟩
    have hunrealized := hcommon.unrealized_ge
    dsimp only at hunrealized
    exact ⟨hcommon.equity_pos, by linarith⟩
  · rintro ⟨hequity, hle⟩
    have hdrawdown := drawdown_bounds p hequity
    have hspot := p.spotValid hm
    refine ⟨⟨p.commonValid.identity, p.commonValid.initial_pos, hequity, ?_, hdrawdown.1,
      hdrawdown.2, ?_, p.commonValid.capacity_pos, lt_max_of_lt_right hequity, le_max_right _ _⟩,
      ⟨hspot.costBasis_zero, ?_, hspot.side_none, hspot.leverage_none, hspot.scalars_none⟩⟩
    · simp only [List.mem_cons, List.not_mem_nil, or_false, forall_eq_or_imp, forall_eq]
      exact ⟨hcash, hinventory, hbasis, hfees, hslippage, le_max_right _ _⟩
    · dsimp only
      linarith
    · dsimp only
      have hwatermark := le_max_left p.highWatermarkUsdt
        (p.cashUsdt + p.inventoryQuantity * candle.close)
      linarith [hspot.cash_le]

/-- The portfolio after an exit that closes the position. -/
lemma spotPortfolio_exit_iff (hp : position.Pristine) {e : VirtualPositionExit} {reference : ℚ}
    (hexits : after.exits.drop position.exits.length = [e])
    (hprice : e.price = reference * (1 - position.slippageRatio))
    (hquantity : e.quantity = position.initialQuantity)
    (hfee : e.feeUsdt = e.price * position.initialQuantity * position.feeRatio)
    (hnet : e.netPnlUsdt = position.spotProceeds reference -
      position.entryPrice * position.initialQuantity - position.entryFeeUsdt) :
    (∃ q, position.spotPortfolioAfterPositionUpdate p after candle.close = .ok q) ↔
      position.initialQuantity ≤ p.inventoryQuantity ∧
        0 < position.equityLeft p candle reference ∧
        (position.inventoryLeft p ≠ 0 →
          p.inventoryCostBasisUsdt - position.entryPrice * position.initialQuantity ≤
            2 * position.equityLeft p candle reference) ∧
        p.cashUsdt + position.spotProceeds reference ≤
          max p.highWatermarkUsdt (position.equityLeft p candle reference) +
            (p.realizedPnlUsdt + (position.spotProceeds reference -
              position.entryPrice * position.initialQuantity - position.entryFeeUsdt)) +
            p.initialEquityUsdt := by
  have hbalances := p.commonValid.balances_nonneg
  simp only [List.mem_cons, List.not_mem_nil, or_false, forall_eq_or_imp, forall_eq] at hbalances
  obtain ⟨hcash, hinventory, hbasis, hfees, hslippage, -⟩ := hbalances
  obtain ⟨-, hpos, -, -⟩ := position.values_pos
  have hproceeds : e.price * e.quantity - e.feeUsdt = position.spotProceeds reference := by
    rw [hfee, hquantity, hprice, spotProceeds]
    ring
  have hnonneg : 0 ≤ position.spotProceeds reference := by
    have hfactor : 0 ≤ 1 - position.feeRatio := by linarith [hp.fee_le]
    have hvalue : 0 ≤ e.price * position.initialQuantity * (1 - position.feeRatio) :=
      mul_nonneg (mul_nonneg e.nonneg.1 hpos.le) hfactor
    rwa [hprice] at hvalue
  have hleft : p.inventoryQuantity - e.quantity = position.inventoryLeft p := by
    rw [hquantity, inventoryLeft]
  have hequity : p.cashUsdt + position.spotProceeds reference +
      position.inventoryLeft p * candle.close = position.equityLeft p candle reference := rfl
  unfold spotPortfolioAfterPositionUpdate
  simp only [hexits, List.map_singleton, List.sum_singleton, hproceeds, hleft, hequity, hnet]
  rw [VirtualPortfolioState.exists_create_iff, PortfolioFields.checks_spot_iff (by exact hm)]
  constructor
  · rintro ⟨hcommon, hspot⟩
    have hheld := hcommon.balances_nonneg (position.inventoryLeft p) (by simp)
    have hunrealized := hcommon.unrealized_ge
    dsimp only at hunrealized
    refine ⟨by rw [inventoryLeft] at hheld; linarith, hcommon.equity_pos, fun hne => ?_, hspot.cash_le⟩
    rw [if_neg hne, hquantity, ← hequity] at hunrealized
    rw [← hequity]
    linarith
  · rintro ⟨hheld, hpositive, hle, hcashle⟩
    have hdrawdown := drawdown_bounds p hpositive
    have hspot := p.spotValid hm
    refine ⟨⟨p.commonValid.identity, p.commonValid.initial_pos, hpositive, ?_, hdrawdown.1,
      hdrawdown.2, ?_, p.commonValid.capacity_pos, lt_max_of_lt_right hpositive,
      le_max_right _ _⟩, ⟨?_, hcashle, hspot.side_none, hspot.leverage_none, hspot.scalars_none⟩⟩
    · simp only [List.mem_cons, List.not_mem_nil, or_false, forall_eq_or_imp, forall_eq]
      exact ⟨by linarith, by rw [inventoryLeft]; linarith, le_max_right _ _,
        by linarith [e.nonneg.2.2.1], hslippage, le_max_right _ _⟩
    · dsimp only
      split_ifs with h0
      · rw [← hequity] at hpositive ⊢
        rw [h0] at hpositive ⊢
        linarith
      · have hbound := hle h0
        rw [hquantity]
        rw [← hequity] at hbound ⊢
        linarith
    · intro h0
      dsimp only at h0 ⊢
      rw [if_pos h0, max_self]

end Portfolio

/-! ### Acceptance -/

/-- The amounts of the exits that an accepted translation back carries. -/
lemma drop_exits_amounts {final : LifecyclePosition} {barsHeld : ℕ} {mfe : ℚ}
    {reason : Option BacktestExitReason} {after : VirtualManagedPosition}
    (hexits : position.exits = [])
    (h : position.managedPositionFromLifecycle final barsHeld mfe reason = .ok after) :
    (after.exits.drop position.exits.length).map (·.amounts) = final.exits.map (·.amounts) := by
  rw [hexits, List.length_nil, List.drop_zero]
  exact (managedPositionFromLifecycle_books h).2.2.2.2.2

/-- The largest favorable excursion up to and with a candle of a Spot position. -/
def spotMfe (position : VirtualManagedPosition) (candle : OHLCVCandle) : ℚ :=
  max position.maximumFavorableExcursionUsdt
    (max (candle.high - position.entryPrice) 0 * position.initialQuantity)

/-- A candle is accepted exactly if the position and the portfolio that the
lifecycle leads to are, and the texts of its audit trail are distinct. -/
lemma processSpotPosition_parts_iff (hp : position.Pristine) (hside : position.market = .spot)
    {l processed final : LifecyclePosition} {reason : Option BacktestExitReason}
    (hl : position.lifecyclePosition = .ok l)
    (hprocessed : position.engine.processCandle l candle (closureContext context) = .ok processed)
    (hbreakeven : position.breakeven processed (position.spotMfe candle) = .ok processed)
    (hforced : position.closeForced processed candle context = .ok (final, reason)) :
    (∃ update, position.processSpotPosition p candle context = .ok update) ↔
      (∃ after, position.managedPositionFromLifecycle final (position.barsHeld + 1)
        (position.spotMfe candle) reason = .ok after ∧
        ∃ q, position.spotPortfolioAfterPositionUpdate p after candle.close = .ok q) ∧
      [position.positionId, position.candidateId, position.symbol].Nodup := by
  have hlong : ¬ position.positionSide ≠ .long := not_not.mpr (side_of_spot hside)
  simp only [spotMfe] at hbreakeven ⊢
  simp only [processSpotPosition, raiseIf_of_not hlong,
    raiseIf_of_not (not_not.mpr hp.engine_passes), hl, hprocessed, hbreakeven, hforced, ok_bind,
    bind_eq_ok, raiseIf_eq_ok, pure_eq_ok, not_not, auditRefs_iff]
  constructor
  · rintro ⟨update, after, ha, q, hq, _, hdistinct, -⟩
    exact ⟨⟨after, ha, q, hq⟩, hdistinct⟩
  · rintro ⟨⟨after, ha, q, hq⟩, hdistinct⟩
    exact ⟨_, after, ha, q, hq, (), hdistinct, rfl⟩

section Cases

variable {l final : LifecyclePosition} {target : ℚ} {reason : Option BacktestExitReason}
  (hp : position.Pristine) (hof : position.LifecycleOf l target) (hm : p.market = .spot)
  (hrealized : position.realizedPnlUsdt = 0)

include hp hof hm hrealized

/-- The position and the portfolio after a candle without an exit. -/
lemma spotParts_hold_iff (hlife : LifeHeld l final) :
    (∃ after, position.managedPositionFromLifecycle final (position.barsHeld + 1)
      (position.spotMfe candle) reason = .ok after ∧
      ∃ q, position.spotPortfolioAfterPositionUpdate p after candle.close = .ok q) ↔
      SpotHold p candle := by
  obtain ⟨hentry, hpos, -, -⟩ := position.values_pos
  have hposition : (∃ after, position.managedPositionFromLifecycle final (position.barsHeld + 1)
      (position.spotMfe candle) reason = .ok after) := by
    refine (hp.fromLifecycle_iff ?_ ?_ ?_ ?_).mpr ?_
    · rw [← hof.trailing_eq]
      exact hlife.trailing_ge
    · rw [hlife.index_eq, hof.index_eq]
      exact Nat.zero_le 1
    · exact le_max_of_le_left position.amountsValid.mfe_nonneg
    · rw [hlife.remaining_eq, hof.remaining_eq]
    · rw [hlife.realized_eq, hof.realized_eq, hrealized, neg_mul]
      exact neg_nonpos.mpr (mul_pos hentry hpos).le
  have hdrop : ∀ {after}, position.managedPositionFromLifecycle final (position.barsHeld + 1)
      (position.spotMfe candle) reason = .ok after →
      after.exits.drop position.exits.length = [] := by
    intro after ha
    have h := drop_exits_amounts hp.exits_eq ha
    rw [hlife.exits_eq, hof.exits_eq] at h
    exact List.map_eq_nil_iff.mp h
  constructor
  · rintro ⟨after, ha, hq⟩
    exact (spotPortfolio_hold_iff hm (hdrop ha)).mp hq
  · intro hhold
    obtain ⟨after, ha⟩ := hposition
    exact ⟨after, ha, (spotPortfolio_hold_iff hm (hdrop ha)).mpr hhold⟩

/-- The position and the portfolio after an exit. -/
lemma spotParts_exit_iff {reference : ℚ}
    (hlife : LifeClosed l final (reference * (1 - position.slippageRatio)) position.feeRatio) :
    (∃ after, position.managedPositionFromLifecycle final (position.barsHeld + 1)
      (position.spotMfe candle) reason = .ok after ∧
      ∃ q, position.spotPortfolioAfterPositionUpdate p after candle.close = .ok q) ↔
      position.SpotCovered p candle reference := by
  obtain ⟨-, hpos, -, -⟩ := position.values_pos
  -- the net PnL of the exit, in terms of the proceeds
  have hvalue : (reference * (1 - position.slippageRatio) - l.entryPrice) * l.remainingQuantity -
      reference * (1 - position.slippageRatio) * l.remainingQuantity * position.feeRatio -
      l.entryFeeUsdt * l.remainingQuantity / l.initialQuantity = position.spotProceeds reference -
        position.entryPrice * position.initialQuantity - position.entryFeeUsdt := by
    rw [hof.entryPrice_eq, hof.remaining_eq, hof.entryFee_eq, hof.initial_eq, mul_div_assoc,
      div_self hpos.ne', spotProceeds]
    ring
  have hposition : (∃ after, position.managedPositionFromLifecycle final (position.barsHeld + 1)
      (position.spotMfe candle) reason = .ok after) ↔
      position.entryFeeUsdt ≤ position.spotProceeds reference := by
    have h := hlife.realized_eq
    rw [hvalue, hof.realized_eq, hrealized, zero_add] at h
    rw [hp.fromLifecycle_iff, h]
    · constructor <;> intro hle <;> linarith
    · rw [← hof.trailing_eq]
      exact hlife.trailing_ge
    · have hindex := hlife.index_le
      rwa [hof.index_eq] at hindex
    · exact le_max_of_le_left position.amountsValid.mfe_nonneg
    · rw [hlife.remaining_eq]
      exact hpos.le
  have hportfolio : ∀ {after}, position.managedPositionFromLifecycle final (position.barsHeld + 1)
      (position.spotMfe candle) reason = .ok after → ∀ h : position.entryFeeUsdt ≤
        position.spotProceeds reference,
      ((∃ q, position.spotPortfolioAfterPositionUpdate p after candle.close = .ok q) ↔
        position.SpotCovered p candle reference) := by
    intro after ha hfee
    obtain ⟨e, hexits, hprice, hquantity, hexitFee, hnet⟩ := hlife.exits_eq
    have h := drop_exits_amounts hp.exits_eq ha
    rw [hexits, hof.exits_eq, List.nil_append, List.map_singleton] at h
    obtain ⟨e', hdrop, hamounts⟩ := List.map_eq_singleton_iff.mp h
    obtain ⟨h1, h2, h3, h4⟩ : e'.price = e.price ∧ e'.quantity = e.quantity ∧
        e'.feeUsdt = e.feeUsdt ∧ e'.netPnlUsdt = e.netPnlUsdt := by
      simpa [VirtualPositionExit.amounts, LifecycleExit.amounts] using hamounts
    rw [spotPortfolio_exit_iff hm hp hdrop (h1.trans hprice)
      (h2.trans (hquantity.trans hof.remaining_eq)) ?_ (h4.trans (hnet.trans hvalue))]
    · constructor
      · rintro ⟨hheld, hequity, hbasis, hcash⟩
        exact ⟨hfee, hheld, hequity, hbasis, hcash⟩
      · rintro ⟨-, hheld, hequity, hbasis, hcash⟩
        exact ⟨hheld, hequity, hbasis, hcash⟩
    · rw [h3, hexitFee, h1, hprice, hof.remaining_eq]
  constructor
  · rintro ⟨after, ha, hq⟩
    exact (hportfolio ha (hposition.mp ⟨after, ha⟩)).mp hq
  · intro hcovered
    obtain ⟨after, ha⟩ := hposition.mpr hcovered.fee_le
    exact ⟨after, ha, (hportfolio ha hcovered.fee_le).mpr hcovered⟩

end Cases

/-- **Acceptance of a Spot candle.**  A pristine position and its portfolio take a
candle exactly if its exit, or the value at its close, is covered. -/
theorem processSpotPosition_accepted_iff (hp : position.Pristine) (hside : position.market = .spot)
    (hm : p.market = .spot) (hfunding : position.fundingCostUsdt = 0)
    (htime : position.openedAt ≤ candle.timestamp) :
    (∃ update, position.processSpotPosition p candle context = .ok update) ↔
      position.SpotAccepts p candle context := by
  obtain ⟨l, processed, final, reason, hl, hprocessed, hbreakeven, hforced, ⟨target, hof⟩, hlife⟩ :=
    hp.lifecycle_final htime context (position.spotMfe candle)
  have hrealized : position.realizedPnlUsdt = 0 := by rw [hp.realized_eq, hfunding, neg_zero]
  rw [processSpotPosition_parts_iff hp hside hl hprocessed hbreakeven hforced]
  cases href : position.spotExitReference candle context with
  | none =>
    rw [href] at hlife
    rw [spotParts_hold_iff hp hof hm hrealized hlife]
    constructor
    · rintro ⟨hhold, hdistinct⟩
      exact ⟨hdistinct, fun _ => hhold, by simp [href]⟩
    · rintro ⟨hdistinct, hhold, -⟩
      exact ⟨hhold href, hdistinct⟩
  | some reference =>
    rw [href] at hlife
    rw [spotParts_exit_iff hp hof hm hrealized hlife]
    constructor
    · rintro ⟨hcovered, hdistinct⟩
      refine ⟨hdistinct, by simp [href], fun r hr => ?_⟩
      rw [href] at hr
      obtain rfl := Option.mem_some_iff.mp hr
      exact hcovered
    · rintro ⟨hdistinct, -, hexit⟩
      exact ⟨hexit reference href, hdistinct⟩

end VirtualManagedPosition

end Ai4Binance

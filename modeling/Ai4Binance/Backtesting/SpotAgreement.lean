/-
The exits of the Spot backtest against those of the virtual runtime
(`research/backtesting/engine.py`, `application/virtual_runtime_engine.py`).

The backtest keeps an open trade and closes it in its loop; the runtime keeps a managed
position and closes it in `process_position`.  Given one target and the same terms, both
watch the same five numbers: the stop, the trailing stop, the bars held, the best price
seen and whether break-even was reached.

* `exitBar`, `runtimeBar`: one candle of either engine, up to the exit;
* `SameTerms`, `Opened`: an open trade and a new position that stand for one another;
* `Tracks`: the runtime position at a state of the trade, which every candle keeps;
* `spot_exits_agree`: **both engines leave at the same candle, for the same reason and at
  the same reference price**, when the target takes the whole position and an unset
  trailing multiple means the same to both;
* `exits_can_disagree`: neither condition can be dropped.
-/
import Ai4Binance.Backtesting.SingleTarget
import Ai4Binance.Backtesting.SpotConservation
import Ai4Binance.Virtual.Progress
import Ai4Binance.Virtual.SpotLaw

open Text Check

namespace Ai4Binance

/-! ### One candle of either engine -/

namespace BacktestConfig

variable (config : BacktestConfig) (a : Arithmetic)

/-- The exit handling of `BacktestEngine.run` on a candle: the trade it leaves open, or
the exit that closes the trade. -/
def exitBar (trade : OpenTrade) (candle : OHLCVCandle) : Except PyError (OpenTrade ⊕ ExitDecision) :=
  let held := holdCandle a trade candle
  match evaluateLongExit held.intent held.position candle held.barsHeld with
  | some exit =>
      if exit.reason = .target ∧ 1 < held.position.takeProfitLevels.length then do
        let reduced ← config.partialExit a held candle exit.referencePrice
        let next ← config.endCandle a reduced candle
        return .inl next
      else return .inr exit
  | none => do
      let next ← config.endCandle a held candle
      return .inl next

end BacktestConfig

/-- The candle of the run moves its open trade as `exitBar` says. -/
lemma SpotBacktestConfig.manageOpenTrade_eq_exitBar [UnicodeData] (config : SpotBacktestConfig)
    (a : Arithmetic) {trade : OpenTrade} (candle : OHLCVCandle) {s : SpotRun}
    (h : s.openTrade = some trade) :
    match config.exitBar a trade candle with
    | .error e => config.manageOpenTrade a candle s = .error e
    | .ok (.inl next) => ∃ s', config.manageOpenTrade a candle s = .ok s' ∧
        s'.openTrade = some next
    | .ok (.inr exit) => config.manageOpenTrade a candle s = do
        let held := BacktestConfig.holdCandle a trade candle
        let record ← config.closeTrade a held candle exit.reason exit.referencePrice
        return recordClose a s held record candle := by
  unfold SpotBacktestConfig.manageOpenTrade BacktestConfig.exitBar
  rw [h]
  dsimp only
  cases BacktestConfig.evaluateLongExit (BacktestConfig.holdCandle a trade candle).intent
      (BacktestConfig.holdCandle a trade candle).position candle
      (BacktestConfig.holdCandle a trade candle).barsHeld with
  | none =>
    dsimp only
    cases config.endCandle a (BacktestConfig.holdCandle a trade candle) candle with
    | error e => rfl
    | ok next => exact ⟨_, rfl, rfl⟩
  | some exit =>
    dsimp only
    by_cases hstaged : exit.reason = .target ∧
        1 < (BacktestConfig.holdCandle a trade candle).position.takeProfitLevels.length
    · rw [if_pos hstaged, if_pos hstaged]
      cases config.partialExit a (BacktestConfig.holdCandle a trade candle) candle
          exit.referencePrice with
      | error e => rfl
      | ok reduced =>
        rw [ok_bind, ok_bind]
        cases config.endCandle a reduced candle with
        | error e => rfl
        | ok next => exact ⟨_, rfl, rfl⟩
    · rw [if_neg hstaged, if_neg hstaged]
      rfl

/-- A candle for the runtime, with an exit context that forces no exit. -/
structure SpotBar where
  candle : OHLCVCandle
  context : VirtualExitContext := {}
  unforced : context.forcedExitReason = none

/-- `process_position` on a candle: the position and the portfolio it leaves, or the
update that closes the position. -/
def runtimeBar (held : VirtualManagedPosition × VirtualPortfolioState) (bar : SpotBar) :
    Except PyError
      ((VirtualManagedPosition × VirtualPortfolioState) ⊕ VirtualPositionUpdateDecision) := do
  let update ← held.1.processPosition held.2 bar.candle bar.context none none
  return if update.positionAfter.status = .closed then .inr update
    else .inl (update.positionAfter, update.portfolioAfter)

/-! ### One candle of the paper lifecycle -/

/-- The lifecycle is closed by an exit at a price, for a reason. -/
structure LifeExit (q : LifecyclePosition) (reason : ExitReason) (price : ℚ) : Prop where
  status_eq : q.status = .closed
  exit_eq : q.exits.getLast?.map (·.price) = some price
  review_eq : q.closureReview.map (·.exitReason) = some reason

namespace PaperLifecycleEngine

variable {engine : PaperLifecycleEngine} {l q : LifecyclePosition} {candle : OHLCVCandle}
  {context : ClosureContext}

/-- An exit of all that remains closes the lifecycle. -/
lemma applyExit_exit {timestamp : ℤ} {reason : ExitReason} {price quantity : ℚ} {index : ℕ}
    (hall : quantity = l.remainingQuantity)
    (h : engine.applyExit l timestamp reason price quantity context index = .ok q) :
    LifeExit q reason price := by
  simp only [applyExit, bind_eq_ok] at h
  obtain ⟨e, he, hq⟩ := h
  have hzero : l.remainingQuantity - quantity = 0 := by rw [hall, sub_self]
  rw [LifecyclePosition.create_eq_ok, if_pos hzero, if_pos hzero] at hq
  rw [LifecycleExit.create] at he
  split_ifs at he
  obtain rfl := Except.ok.inj he
  refine ⟨by rw [hq], ?_, ?_⟩
  · rw [hq]
    simp
  · rw [hq]
    rfl

/-- The trailing stop after a candle without an exit. -/
lemma trail_eq (h : engine.trail l candle = .ok q) :
    q.toLifecycleFields = { l.toLifecycleFields with
      trailingStop := max l.trailingStop (Rounding.down.toInt
        ((candle.close - engine.trailingMultiplier * l.atr) / engine.tickSize) *
          engine.tickSize) } := by
  simp only [trail, updateLongTrailingStop, bind_eq_ok, raiseIf_eq_ok, pure_eq_ok] at h
  obtain ⟨trailing, ⟨_, -, _, -, rfl⟩, hq⟩ := h
  exact LifecyclePosition.create_eq_ok.mp hq

/-- A candle of a lifecycle with one target left for all of it: the stop, the target, or
a moved trailing stop. -/
lemma processCandle_cases {target : ℚ} (hone : openTargets l = [(target, 1)])
    (h : engine.processCandle l candle context = .ok q) :
    if candle.low ≤ max l.stopLoss l.trailingStop then
      LifeExit q (if l.stopLoss < l.trailingStop then .trailingStopExit else .stopLossExit)
        (min candle.open (max l.stopLoss l.trailingStop) * (1 - engine.slippageRatio))
    else if target ≤ candle.high then
      LifeExit q .takeProfitExit (target * (1 - engine.slippageRatio))
    else l.status ≠ .closed ∧ q.toLifecycleFields = { l.toLifecycleFields with
      trailingStop := max l.trailingStop (Rounding.down.toInt
        ((candle.close - engine.trailingMultiplier * l.atr) / engine.tickSize) *
          engine.tickSize) } := by
  simp only [processCandle, bind_eq_ok, raiseIf_eq_ok] at h
  obtain ⟨_, hopen, _, -, h⟩ := h
  by_cases hstop : candle.low ≤ max l.stopLoss l.trailingStop
  · rw [if_pos hstop] at h ⊢
    exact applyExit_exit rfl h
  · rw [if_neg hstop, hone, bind_eq_ok] at h
    obtain ⟨updated, hupdated, h⟩ := h
    rw [takeTargets] at hupdated
    rw [if_neg hstop]
    by_cases hhigh : target ≤ candle.high
    · rw [if_neg (not_lt.mpr hhigh), bind_eq_ok] at hupdated
      obtain ⟨taken, htaken, hupdated⟩ := hupdated
      -- the ratio is one, so the target takes what remains
      have hall : min (l.initialQuantity * 1) l.remainingQuantity = l.remainingQuantity := by
        have hpasses := l.passes
        simp only [LifecycleFields.checks, passes_cons, decide_eq_false_iff_not, not_or,
          not_lt] at hpasses
        rw [mul_one, min_eq_right hpasses.2.2.2.1.2]
      have hexit := applyExit_exit hall htaken
      rw [if_pos hexit.status_eq] at hupdated
      obtain rfl := Except.ok.inj hupdated
      rw [if_pos hexit.status_eq] at h
      obtain rfl := pure_eq_ok.mp h
      rw [if_pos hhigh]
      exact hexit
    · rw [if_pos (not_le.mp hhigh)] at hupdated
      obtain rfl := Except.ok.inj hupdated
      rw [if_neg hopen] at h
      rw [if_neg hhigh]
      exact ⟨hopen, trail_eq h⟩

end PaperLifecycleEngine

/-! ### One candle of a managed position -/

namespace VirtualManagedPosition

variable {position after : VirtualManagedPosition} {l q : LifecyclePosition} {candle : OHLCVCandle}
  {context : VirtualExitContext} {update : VirtualPositionUpdateDecision}

/-- An exit at the close of a candle closes the lifecycle. -/
lemma closeLifecycleRemaining_exit {timestamp : ℤ} {reason : BacktestExitReason} {reference : ℚ}
    (h : position.closeLifecycleRemaining l timestamp reason reference context = .ok q) :
    LifeExit q reason.paper (reference * (1 - position.slippageRatio)) := by
  simp only [closeLifecycleRemaining, bind_eq_ok] at h
  obtain ⟨e, he, hq⟩ := h
  rw [LifecyclePosition.create_eq_ok] at hq
  rw [LifecycleExit.create] at he
  split_ifs at he
  obtain rfl := Except.ok.inj he
  refine ⟨by rw [hq], ?_, ?_⟩
  · rw [hq]
    simp
  · rw [hq]
    rfl

lemma getLast?_withLastReason (reason : BacktestExitReason) (exits : List VirtualPositionExit) :
    (withLastReason reason exits).getLast? = exits.getLast?.map fun e => { e with reason } := by
  rcases List.eq_nil_or_concat' exits with rfl | ⟨l, e, rfl⟩
  · rfl
  · simp [withLastReason]

/-- The position that a closed lifecycle is translated to: its last exit has the reason
of the override, or else the one of the lifecycle. -/
lemma fromLifecycle_exit {barsHeld : ℕ} {mfe price : ℚ} {reason : ExitReason}
    {reasonOverride : Option BacktestExitReason} (hexit : LifeExit q reason price)
    (h : position.managedPositionFromLifecycle q barsHeld mfe reasonOverride = .ok after) :
    after.status = .closed ∧ after.exits.getLast?.map (fun e => (e.reason, e.price)) =
      some (reasonOverride.getD reason.canonical, price) := by
  obtain ⟨review, hreview, rfl⟩ := Option.map_eq_some_iff.mp hexit.review_eq
  obtain ⟨e, hlast, rfl⟩ := Option.map_eq_some_iff.mp hexit.exit_eq
  have hfields := create_eq_ok.mp h
  obtain ⟨ratios, hnormalized⟩ := PositionFields.normalized_eq _
  rw [hnormalized] at hfields
  refine ⟨by rw [hfields]; exact hexit.status_eq, ?_⟩
  rw [hfields]
  cases reasonOverride with
  | some override =>
    simp only [hreview, Option.map_some, getLast?_withLastReason, List.getLast?_map, hlast]
    rfl
  | none =>
    simp only [hreview, Option.map_some, hexit.status_eq, if_true, getLast?_withLastReason,
      List.getLast?_map, hlast]
    rfl

/-- Break-even leaves a closed lifecycle alone. -/
lemma breakeven_closed {mfe : ℚ} (hclosed : l.status = .closed)
    (h : position.breakeven l mfe = .ok q) : q = l := by
  rw [breakeven, if_neg fun hopen => hopen.1 hclosed] at h
  exact (Except.ok.inj h).symm

/-- Break-even raises the trailing stop of an open lifecycle to its entry. -/
lemma breakeven_open {mfe : ℚ} (hopen : l.status ≠ .closed) (h : position.breakeven l mfe = .ok q) :
    q.toLifecycleFields = { l.toLifecycleFields with
      trailingStop := if position.breakevenTriggerReached mfe then max l.trailingStop l.entryPrice
        else l.trailingStop } := by
  rw [breakeven] at h
  by_cases hreached : position.breakevenTriggerReached mfe = true
  · rw [if_pos ⟨hopen, hreached⟩, LifecyclePosition.create_eq_ok] at h
    rw [h, if_pos hreached]
  · rw [if_neg fun hboth => hreached hboth.2] at h
    obtain rfl := Except.ok.inj h
    rw [if_neg hreached]

/-- A closed lifecycle is not closed again. -/
lemma closeForced_closed {reasonOverride : Option BacktestExitReason} (hclosed : l.status = .closed)
    (h : position.closeForced l candle context = .ok (q, reasonOverride)) :
    q = l ∧ reasonOverride = none := by
  rw [closeForced] at h
  cases hreason : position.closingReason context with
  | none =>
    rw [hreason] at h
    obtain ⟨rfl, rfl⟩ := Prod.mk.inj (pure_eq_ok.mp h)
    exact ⟨rfl, rfl⟩
  | some reason =>
    rw [hreason] at h
    dsimp only at h
    rw [if_neg fun hopen => hopen hclosed] at h
    obtain ⟨rfl, rfl⟩ := Prod.mk.inj (pure_eq_ok.mp h)
    exact ⟨rfl, rfl⟩

/-- Unless an exit is forced, an open lifecycle is closed when its time is over. -/
lemma closeForced_open {reasonOverride : Option BacktestExitReason} (hopen : l.status ≠ .closed)
    (hunforced : context.forcedExitReason = none)
    (h : position.closeForced l candle context = .ok (q, reasonOverride)) :
    if position.maximumHoldingBars.any (· < position.barsHeld + 1) then
      LifeExit q BacktestExitReason.timeExit.paper (candle.close * (1 - position.slippageRatio)) ∧
        reasonOverride = some .timeExit
    else q = l ∧ reasonOverride = none := by
  rw [closeForced, closingReason, hunforced] at h
  dsimp only at h
  by_cases htime : position.maximumHoldingBars.any (· < position.barsHeld + 1) = true
  · rw [if_pos htime] at h ⊢
    simp only [if_pos hopen, bind_eq_ok, pure_eq_ok, Prod.mk.injEq] at h
    obtain ⟨closed, hclosed, rfl, rfl⟩ := h
    exact ⟨closeLifecycleRemaining_exit hclosed, rfl⟩
  · rw [if_neg htime] at h ⊢
    obtain ⟨rfl, rfl⟩ := Prod.mk.inj (pure_eq_ok.mp h)
    exact ⟨rfl, rfl⟩

end VirtualManagedPosition

/-! ### The two engines side by side -/

/-- An open trade and a managed position with one target and the same terms. -/
structure SameTerms (config : BacktestConfig) (trade : OpenTrade)
    (position : VirtualManagedPosition) : Prop where
  market_eq : position.market = .spot
  entry_eq : position.entryPrice = trade.entryPrice
  stop_eq : position.stopLoss = trade.intent.stopLoss
  targets_eq : position.takeProfitLevels = trade.position.takeProfitLevels
  one_target : trade.position.takeProfitLevels.length = 1
  atr_eq : position.atr = trade.intent.atr
  multiple_eq : position.trailingAtrMultiple = trade.intent.trailingAtrMultiple
  breakeven_eq : position.breakevenTriggerR = trade.intent.breakevenTriggerR
  holding_eq : position.maximumHoldingBars = trade.intent.maximumHoldingBars
  tick_eq : position.tickSize.toRat = config.tickSize.toRat

/-- A position that no candle has moved yet. -/
structure VirtualManagedPosition.Opened (position : VirtualManagedPosition) : Prop where
  trailing_eq : position.trailingStop = position.stopLoss
  index_eq : position.nextTargetIndex = 0
  bars_eq : position.barsHeld = 0
  favorable_eq : position.maximumFavorableExcursionUsdt = 0

/-- The update closes the position as an exit of the backtest does: for its reason, at its
reference price less the slippage of the position. -/
def SameExit (update : VirtualPositionUpdateDecision) (exit : ExitDecision) : Prop :=
  update.positionAfter.exits.getLast?.map (fun e => (e.reason, e.price)) =
    some (exit.reason, exit.referencePrice * (1 - update.positionBefore.slippageRatio))

namespace BacktestConfig

variable {config : BacktestConfig} {trade : OpenTrade} {position : VirtualManagedPosition}
  {s : SingleTargetState} {candle : OHLCVCandle}

/-- The position of the runtime at a state of the trade.  The best price is kept times the
quantity of the trade on one side and of the position on the other. -/
structure Tracks (config : BacktestConfig) (trade : OpenTrade) (position : VirtualManagedPosition)
    (s : SingleTargetState) : Prop extends SameTerms config trade position where
  quantity_pos : 0 < trade.originalQuantity
  tradeStop_eq : trade.position.stopLoss = trade.intent.stopLoss
  ratios_eq : position.takeProfitQuantityRatios = [1]
  multiplier_eq : position.engine.trailingMultiplier =
    trade.intent.trailingAtrMultiple.getD config.trailingMultiplier
  index_eq : position.nextTargetIndex = 0
  trailing_eq : position.trailingStop = s.trailingStop
  bars_eq : position.barsHeld = s.barsHeld
  favorable_eq : position.maximumFavorableExcursionUsdt * trade.originalQuantity =
    s.maximumFavorable * position.initialQuantity
  armed : s.breakevenArmed = true →
    (triggerThreshold .exact trade).any (· ≤ s.maximumFavorable) = true

namespace Tracks

/-- The best price after a candle, on both sides. -/
lemma favorable_held (h : Tracks config trade position s) (candle : OHLCVCandle) :
    position.spotMfe candle * trade.originalQuantity =
      (heldState .exact trade candle s).maximumFavorable * position.initialQuantity := by
  have hquantity : 0 ≤ position.initialQuantity := position.values_pos.2.1.le
  have hscaled : max (candle.high - position.entryPrice) 0 * position.initialQuantity *
      trade.originalQuantity = max (candle.high - trade.entryPrice) 0 * trade.originalQuantity *
        position.initialQuantity := by
    rw [h.entry_eq]
    ring
  calc position.spotMfe candle * trade.originalQuantity
      = max (position.maximumFavorableExcursionUsdt * trade.originalQuantity)
          (max (candle.high - position.entryPrice) 0 * position.initialQuantity *
            trade.originalQuantity) := max_mul_of_nonneg _ _ h.quantity_pos.le
    _ = max (s.maximumFavorable * position.initialQuantity)
          (max (candle.high - trade.entryPrice) 0 * trade.originalQuantity *
            position.initialQuantity) := by rw [h.favorable_eq, hscaled]
    _ = (heldState .exact trade candle s).maximumFavorable * position.initialQuantity :=
        (max_mul_of_nonneg _ _ hquantity).symm

/-- The stop of a managed Spot position is below its entry. -/
lemma stop_lt (h : Tracks config trade position s) : trade.intent.stopLoss < trade.entryPrice := by
  have hpasses := position.passes
  simp only [PositionFields.checks, passes_append] at hpasses
  have hside := PositionFields.sideChecks_iff.mp hpasses.1.1.2
  rw [VirtualManagedPosition.side_of_spot h.market_eq, h.stop_eq, h.entry_eq] at hside
  exact hside.2

/-- Break-even is reached on both sides at once. -/
lemma breakeven_reached (h : Tracks config trade position s) (candle : OHLCVCandle) :
    position.breakevenTriggerReached (position.spotMfe candle) =
      (triggerThreshold .exact trade).any
        (· ≤ (heldState .exact trade candle s).maximumFavorable) := by
  have hrisk : 0 < trade.entryPrice - trade.intent.stopLoss := sub_pos.mpr h.stop_lt
  have hquantity : 0 < position.initialQuantity := position.values_pos.2.1
  have hfavorable := h.favorable_held candle
  have hthreshold : triggerThreshold .exact trade = trade.intent.breakevenTriggerR.map fun t =>
      (trade.entryPrice - trade.intent.stopLoss) * trade.originalQuantity * t :=
    if_pos (mul_pos hrisk h.quantity_pos)
  rw [VirtualManagedPosition.breakevenTriggerReached, hthreshold, h.toSameTerms.breakeven_eq,
    h.entry_eq, h.stop_eq, abs_of_pos hrisk]
  cases trade.intent.breakevenTriggerR with
  | none => rfl
  | some trigger =>
    have hscale : (trade.entryPrice - trade.intent.stopLoss) * position.initialQuantity * trigger ≤
        position.spotMfe candle ↔ (trade.entryPrice - trade.intent.stopLoss) *
          trade.originalQuantity * trigger ≤
            (heldState .exact trade candle s).maximumFavorable := by
      rw [← mul_le_mul_iff_left₀ h.quantity_pos, hfavorable, ← mul_le_mul_iff_left₀ hquantity
        (b := (trade.entryPrice - trade.intent.stopLoss) * trade.originalQuantity * trigger),
        mul_right_comm _ trade.originalQuantity, mul_right_comm _ position.initialQuantity trigger,
        mul_right_comm _ position.initialQuantity trade.originalQuantity]
    simp [mul_pos hrisk hquantity, hscale]

/-- Armed once, break-even stays reached, so the flag says no more than the best price. -/
lemma armed_eq (h : Tracks config trade position s) (candle : OHLCVCandle) :
    ((heldState .exact trade candle s).breakevenArmed ||
      (triggerThreshold .exact trade).any
        (· ≤ (heldState .exact trade candle s).maximumFavorable)) =
      position.breakevenTriggerReached (position.spotMfe candle) := by
  rw [h.breakeven_reached, Bool.or_eq_right_iff_imp]
  intro harmed
  have hbefore := h.armed harmed
  cases ht : triggerThreshold .exact trade with
  | none =>
    rw [ht] at hbefore
    exact absurd hbefore Bool.false_ne_true
  | some threshold =>
    rw [ht, Option.any_some, decide_eq_true_eq] at hbefore
    rw [Option.any_some, decide_eq_true_eq]
    exact hbefore.trans (le_max_left _ _)

/-- What the lifecycle is given of the position. -/
lemma lifecycle_eq (h : Tracks config trade position s) {l : LifecyclePosition}
    (hl : position.lifecyclePosition = .ok l) :
    PaperLifecycleEngine.openTargets l =
        [(trade.position.takeProfitLevels.head trade.position.targets_gt.1, 1)] ∧
      l.stopLoss = trade.position.stopLoss ∧ l.trailingStop = s.trailingStop ∧
      l.atr = trade.intent.atr ∧ l.entryPrice = trade.entryPrice ∧ l.nextTargetIndex = 0 := by
  obtain ⟨target, htarget⟩ := List.length_eq_one_iff.mp h.one_target
  have hlevels : position.takeProfitLevels = [target] := h.targets_eq.trans htarget
  simp only [VirtualManagedPosition.lifecyclePosition, bind_eq_ok] at hl
  obtain ⟨plan, hplan, hl⟩ := hl
  rw [LifecyclePosition.create_eq_ok] at hl
  rw [StagedExitPlan.create] at hplan
  split_ifs at hplan
  obtain rfl := Except.ok.inj hplan
  refine ⟨?_, ?_, ?_, ?_, ?_, ?_⟩
  · rw [PaperLifecycleEngine.openTargets, hl]
    simp [hlevels, h.ratios_eq, h.index_eq, htarget]
  · rw [hl, h.tradeStop_eq]
    exact h.stop_eq
  · rw [hl]
    exact h.trailing_eq
  · rw [hl]
    exact h.atr_eq
  · rw [hl]
    exact h.entry_eq
  · rw [hl]
    exact h.index_eq

/-- The trailing stop of the lifecycle is the one of the trade. -/
lemma trailed_eq (h : Tracks config trade position s) (hlow : s.trailingStop < candle.close)
    (armed : Bool) :
    config.trailedStop .exact trade (config.trailingDistance .exact trade) candle.close armed
        s.trailingStop =
      let trailed := max s.trailingStop (Rounding.down.toInt ((candle.close -
        position.engine.trailingMultiplier * trade.intent.atr) / position.engine.tickSize) *
          position.engine.tickSize)
      if armed then max trailed trade.entryPrice else trailed := by
  have htick : position.engine.tickSize = config.tickSize.toRat := h.tick_eq
  rw [trailedStop, trailingDistance, h.multiplier_eq, htick]
  simp only [if_pos hlow, Arithmetic.exact_mul, Arithmetic.exact_sub, Arithmetic.exact_div]

/-- A candle that leaves the position open takes it to the next state of the trade, once
the trailing stop is the right one. -/
lemma of_moved (h : Tracks config trade position s) {after : VirtualManagedPosition} {m : Moved}
    (hafter : after.toPositionFields = (position.toPositionFields.move m).normalized)
    (hopen : m.status ≠ .closed) (hindex : m.nextTargetIndex = 0)
    (hbars : m.barsHeld = position.barsHeld + 1)
    (hbest : m.maximumFavorableExcursionUsdt = position.spotMfe candle)
    (htrailing : m.trailingStop = config.trailedStop .exact trade
      (config.trailingDistance .exact trade) candle.close
      (position.breakevenTriggerReached (position.spotMfe candle)) s.trailingStop) :
    after.status ≠ .closed ∧ Tracks config trade after
      (config.nextState .exact trade candle (heldState .exact trade candle s)) := by
  have hratios : ¬ ((position.toPositionFields.move m).takeProfitQuantityRatios = [] ∧
      (position.toPositionFields.move m).takeProfitLevels.length = 1) := by
    rintro ⟨hempty, -⟩
    rw [show (position.toPositionFields.move m).takeProfitQuantityRatios = [1] from h.ratios_eq]
      at hempty
    cases hempty
  rw [PositionFields.normalized, if_neg hratios] at hafter
  have hengine : after.engine.trailingMultiplier = position.engine.trailingMultiplier := by
    rw [VirtualManagedPosition.engine, VirtualManagedPosition.engine, hafter]
    rfl
  have harmed := h.armed_eq candle
  refine ⟨by rw [hafter]; exact hopen, ⟨?_, ?_, ?_, ?_, h.one_target, ?_, ?_, ?_, ?_, ?_⟩,
    h.quantity_pos, h.tradeStop_eq, ?_, hengine.trans h.multiplier_eq, ?_, ?_, ?_, ?_, ?_⟩
  · rw [hafter]; exact h.market_eq
  · rw [hafter]; exact h.entry_eq
  · rw [hafter]; exact h.stop_eq
  · rw [hafter]; exact h.targets_eq
  · rw [hafter]; exact h.atr_eq
  · rw [hafter]; exact h.multiple_eq
  · rw [hafter]; exact h.toSameTerms.breakeven_eq
  · rw [hafter]; exact h.holding_eq
  · rw [hafter]; exact h.tick_eq
  · rw [hafter]; exact h.ratios_eq
  · rw [hafter]; exact hindex
  · rw [hafter, nextState]
    dsimp only
    rw [harmed]
    exact htrailing
  · rw [hafter]
    exact hbars.trans (congrArg (· + 1) h.bars_eq)
  · rw [hafter]
    exact (congrArg (· * trade.originalQuantity) hbest).trans (h.favorable_held candle)
  · intro hnext
    rw [nextState] at hnext ⊢
    dsimp only at hnext ⊢
    rw [harmed, h.breakeven_reached] at hnext
    exact hnext

/-- **One candle of the runtime** does what the candle of the trade does. -/
theorem update_spec (h : Tracks config trade position s) {bar : SpotBar}
    {portfolio : VirtualPortfolioState} {update : VirtualPositionUpdateDecision}
    (hupdate : position.processSpotPosition portfolio bar.candle bar.context = .ok update) :
    match fastExit trade bar.candle (heldState .exact trade bar.candle s) with
    | some exit => update.positionAfter.status = .closed ∧ SameExit update exit
    | none => update.positionAfter.status ≠ .closed ∧ Tracks config trade update.positionAfter
        (config.nextState .exact trade bar.candle (heldState .exact trade bar.candle s)) := by
  simp only [VirtualManagedPosition.processSpotPosition, bind_eq_ok, raiseIf_eq_ok,
    pure_eq_ok] at hupdate
  obtain ⟨_, -, _, -, l, hl, processed, hprocessed, protected', hprotected, ⟨final, reason⟩, hfinal,
    after, hafter, _, -, _, -, rfl⟩ := hupdate
  obtain ⟨htargets, hstop, htrailing, hatr, hentry, hnone⟩ := h.lifecycle_eq hl
  have hcases := PaperLifecycleEngine.processCandle_cases htargets hprocessed
  rw [hstop, htrailing] at hcases
  -- an exit of the lifecycle is the exit of the position
  have hexit {reason' : ExitReason} {price : ℚ} (he : LifeExit processed reason' price) :
      after.status = .closed ∧ after.exits.getLast?.map (fun e => (e.reason, e.price)) =
        some (reason'.canonical, price) := by
    obtain rfl := VirtualManagedPosition.breakeven_closed he.status_eq hprotected
    obtain ⟨rfl, rfl⟩ := VirtualManagedPosition.closeForced_closed he.status_eq hfinal
    exact VirtualManagedPosition.fromLifecycle_exit he hafter
  by_cases hlow : bar.candle.low ≤ max trade.position.stopLoss s.trailingStop
  · have hfast : fastExit trade bar.candle (heldState .exact trade bar.candle s) = _ := if_pos hlow
    rw [if_pos hlow] at hcases
    rw [hfast]
    obtain ⟨hclosed, hlast⟩ := hexit hcases
    refine ⟨hclosed, hlast.trans ?_⟩
    congr 2
    exact (apply_ite ExitReason.canonical _ _ _).trans rfl
  · rw [if_neg hlow] at hcases
    by_cases hhigh : trade.position.takeProfitLevels.head trade.position.targets_gt.1 ≤
        bar.candle.high
    · have hfast : fastExit trade bar.candle (heldState .exact trade bar.candle s) = _ :=
        (if_neg hlow).trans (if_pos hhigh)
      rw [if_pos hhigh] at hcases
      rw [hfast]
      exact hexit hcases
    · rw [if_neg hhigh] at hcases
      obtain ⟨hopen, hmoved⟩ := hcases
      have hstill : processed.status ≠ .closed := by
        rw [hmoved]
        exact hopen
      have hbroken := VirtualManagedPosition.breakeven_open hstill hprotected
      have hstill' : protected'.status ≠ .closed := by
        rw [hbroken]
        exact hstill
      have hforced := VirtualManagedPosition.closeForced_open hstill' bar.unforced hfinal
      rw [h.toSameTerms.holding_eq, h.bars_eq] at hforced
      by_cases htime : trade.intent.maximumHoldingBars.any (· < s.barsHeld + 1) = true
      · have hfast : fastExit trade bar.candle (heldState .exact trade bar.candle s) = _ :=
          (if_neg hlow).trans ((if_neg hhigh).trans (if_pos htime))
        rw [if_pos htime] at hforced
        obtain ⟨hlife, rfl⟩ := hforced
        rw [hfast]
        exact VirtualManagedPosition.fromLifecycle_exit hlife hafter
      · have hfast : fastExit trade bar.candle (heldState .exact trade bar.candle s) = none :=
          (if_neg hlow).trans ((if_neg hhigh).trans (if_neg htime))
        rw [if_neg htime] at hforced
        obtain ⟨rfl, rfl⟩ := hforced
        rw [hfast]
        obtain ⟨exits, review, heq⟩ := position.managedPositionFromLifecycle_eq final
          (position.barsHeld + 1) (position.spotMfe bar.candle) none
        -- the stop is trailed first, then raised to the entry
        have hindex : final.nextTargetIndex = 0 := by
          rw [hbroken, hmoved]
          exact hnone
        have hclose : s.trailingStop < bar.candle.close :=
          (le_max_right _ _).trans_lt
            ((not_le.mp hlow).trans_le (le_min_iff.mp bar.candle.low_le_min).2)
        have hbreakeven : final.trailingStop =
            if position.breakevenTriggerReached (position.spotMfe bar.candle) then
              max processed.trailingStop processed.entryPrice else processed.trailingStop :=
          congrArg (·.trailingStop) hbroken
        have hmovedEntry : processed.entryPrice = trade.entryPrice :=
          (congrArg (·.entryPrice) hmoved).trans hentry
        have hmovedStop : processed.trailingStop = max s.trailingStop (Rounding.down.toInt
            ((bar.candle.close - position.engine.trailingMultiplier * trade.intent.atr) /
              position.engine.tickSize) * position.engine.tickSize) := by
          rw [← hatr]
          exact congrArg (·.trailingStop) hmoved
        refine h.of_moved (VirtualManagedPosition.create_eq_ok.mp (heq ▸ hafter)) hstill' hindex rfl
          rfl (hbreakeven.trans ?_)
        rw [h.trailed_eq hclose, hmovedStop, hmovedEntry]

end Tracks

/-- The backtest's candle in terms of the five numbers. -/
lemma exitBar_eq (hone : trade.position.takeProfitLevels.length = 1) (h : 0 < s.trailingStop) :
    config.exitBar .exact (trade.atState s h) candle =
      match fastExit trade candle (heldState .exact trade candle s) with
      | some exit => .ok (.inr exit)
      | none => .ok (.inl (trade.atState
          (config.nextState .exact trade candle (heldState .exact trade candle s))
          (nextState_pos h))) := by
  have hheld : 0 < (heldState .exact trade candle s).trailingStop := h
  have hexit : evaluateLongExit (holdCandle .exact (trade.atState s h) candle).intent
      (holdCandle .exact (trade.atState s h) candle).position candle
      (holdCandle .exact (trade.atState s h) candle).barsHeld =
        fastExit trade candle (heldState .exact trade candle s) := evaluateLongExit_eq hheld
  unfold exitBar
  dsimp only
  rw [hexit]
  cases fastExit trade candle (heldState .exact trade candle s) with
  | some exit =>
    have hlast : ¬ (exit.reason = .target ∧
        1 < (holdCandle .exact (trade.atState s h) candle).position.takeProfitLevels.length) := by
      rintro ⟨-, hlt⟩
      have hlength : trade.position.takeProfitLevels.length ≤ 1 := hone.le
      exact absurd hlt (not_lt.mpr hlength)
    dsimp only
    rw [if_neg hlast]
    rfl
  | none => exact congrArg (· >>= _) (endCandle_eq hheld)

lemma openTrade_intent {intent : BacktestIntent} {a : Arithmetic}
    (h : config.openTrade a intent candle = .ok trade) : trade.intent = intent := by
  simp only [openTrade, bind_eq_ok, pure_eq_ok] at h
  obtain ⟨fill, -, entry, -, paper, -, rfl⟩ := h
  rfl

/-- A newly opened trade has its five numbers at their start. -/
lemma tracks_of_openTrade {intent : BacktestIntent}
    (hopen : config.openTrade .exact intent candle = .ok trade)
    (hsame : SameTerms config trade position) (hopened : position.Opened)
    (hratios : position.takeProfitQuantityRatios = [1])
    (hmultiple : intent.trailingAtrMultiple = none → config.trailingMultiplier = 3 / 2) :
    ∃ hpos, trade = trade.atState { trailingStop := trade.position.trailingStop } hpos ∧
      Tracks config trade position { trailingStop := trade.position.trailingStop } := by
  have hstate := (openTrade_spec hopen).2
  simp only [openTrade, bind_eq_ok, pure_eq_ok] at hopen
  obtain ⟨fill, -, entry, -, paper, hpaper, rfl⟩ := hopen
  rw [PaperPosition.create] at hpaper
  split_ifs at hpaper with hvalues
  obtain rfl := Except.ok.inj hpaper
  have hmultiplier : position.engine.trailingMultiplier =
      intent.trailingAtrMultiple.getD config.trailingMultiplier := by
    rw [VirtualManagedPosition.engine, hsame.multiple_eq]
    cases hm : intent.trailingAtrMultiple with
    | none =>
      rw [hmultiple hm]
      norm_num
    | some multiple => rfl
  refine ⟨_, hstate, hsame, hvalues.2.1, rfl, hratios, hmultiplier, hopened.index_eq, ?_,
    hopened.bars_eq, ?_, fun harmed => absurd harmed Bool.false_ne_true⟩
  · exact hopened.trailing_eq.trans hsame.stop_eq
  · rw [hopened.favorable_eq, zero_mul, zero_mul]

/-- **The Spot backtest and the virtual runtime agree on exits.**  Take a trade that the
backtest has opened and a new Spot position with one target and the same terms.  If the
target takes the whole position, and an unset trailing multiple stands for the same
default, then on every list of candles that the runtime processes both leave at the same
candle, for the same reason and at the same reference price, or both stay. -/
theorem spot_exits_agree {intent : BacktestIntent} {portfolio : VirtualPortfolioState}
    (hopen : config.openTrade .exact intent candle = .ok trade)
    (hsame : SameTerms config trade position) (hopened : position.Opened)
    (hratios : position.takeProfitQuantityRatios = [1])
    (hmultiple : intent.trailingAtrMultiple = none → config.trailingMultiplier = 3 / 2)
    (bars : List SpotBar) {outcome : Option (ℕ × VirtualPositionUpdateDecision)}
    (hrun : Loop.returns runtimeBar bars (position, portfolio) = .ok outcome) :
    ∃ exit, Loop.returns (config.exitBar .exact) (bars.map (·.candle)) trade = .ok exit ∧
      Option.Rel (fun x y => x.1 = y.1 ∧ SameExit x.2 y.2) outcome exit := by
  obtain ⟨hpos, hstate, htracks⟩ := tracks_of_openTrade hopen hsame hopened hratios hmultiple
  let Side := fun (held : VirtualManagedPosition × VirtualPortfolioState) (moved : OpenTrade) =>
    ∃ s h, moved = trade.atState s h ∧ Tracks config trade held.1 s
  refine Loop.returns_simulates (R := Side) ?_ ⟨_, hpos, hstate, htracks⟩ hrun
  rintro ⟨held, wallet⟩ moved bar done ⟨s, hs, rfl, htracks⟩ hdone
  simp only [runtimeBar, bind_eq_ok, pure_eq_ok] at hdone
  obtain ⟨update, hupdate, rfl⟩ := hdone
  have hspec := htracks.update_spec
    (processPosition_spot ⟨bar.candle, bar.context, none, none⟩ htracks.market_eq hupdate)
  rw [exitBar_eq htracks.one_target hs]
  cases hfast : fastExit trade bar.candle (heldState .exact trade bar.candle s) with
  | some exit =>
    rw [hfast] at hspec
    refine ⟨_, rfl, ?_⟩
    rw [if_pos hspec.1]
    exact .inr hspec.2
  | none =>
    rw [hfast] at hspec
    refine ⟨_, rfl, ?_⟩
    rw [if_neg hspec.1]
    exact .inl ⟨_, _, rfl, hspec.2⟩

/-! ### Sample positions

The sample signal leaves its trailing multiple unset.  Its trade is opened at 100.05 with
a target of 130, and so are the positions. -/

/-- Assumptions with a wider default for the trailing stop. -/
def wideConfig : BacktestConfig :=
  { sampleConfig with trailingMultiplier := 3, trailing_pos := by norm_num }

/-- A position on the terms of the sample signal. -/
def sampleFields (ratios : List ℚ) : PositionFields where
  positionId := "p1"
  candidateId := "c1"
  symbol := "BTCUSDT"
  market := .spot
  openedAt := 0
  entryPrice := 10005 / 100
  entryFeeUsdt := 0
  initialQuantity := 1
  remainingQuantity := 1
  stopLoss := 90
  trailingStop := 90
  atr := 4
  takeProfitLevels := [130]
  takeProfitQuantityRatios := ratios
  breakevenTriggerR := some 1

/-- The position whose target takes all of it. -/
def wholePosition : VirtualManagedPosition := ⟨sampleFields [1], by decide +kernel⟩

/-- The position whose target takes half of it. -/
def runnerPosition : VirtualManagedPosition := ⟨sampleFields [1 / 2], by decide +kernel⟩

/-- A candle that rises to 116 and closes at 115. -/
def risingCandle : OHLCVCandle where
  timestamp := 60000000
  «open» := 100
  high := 116
  low := 99
  close := 115
  volume := 10
  nonneg := rise_nonneg
  low_le_high := rise_low_le_high
  max_le_high := rise_max_le_high
  low_le_min := rise_low_le_min

/-- A candle that falls to 105. -/
def fallingCandle : OHLCVCandle :=
  { risingCandle with
    timestamp := 120000000, «open» := 114, high := 115, low := 105, close := 106
    nonneg := by norm_num [risingCandle], low_le_high := by norm_num, max_le_high := by norm_num
    low_le_min := by norm_num }

/-- A candle that reaches the target. -/
def winningCandle : OHLCVCandle :=
  { risingCandle with
    high := 131, nonneg := by norm_num [risingCandle], low_le_high := by norm_num [risingCandle]
    max_le_high := by norm_num [risingCandle] }

/-- A candle without context. -/
def plainBar (candle : OHLCVCandle) : SpotBar := ⟨candle, {}, VirtualExitContext.default_unforced⟩

/-- Both configurations open the trade of the sample signal, on the terms of the positions. -/
lemma opens_sample (position : VirtualManagedPosition)
    (hconfig : config = sampleConfig ∨ config = wideConfig) {ratios : List ℚ}
    (hfields : position.toPositionFields = sampleFields ratios) :
    ∃ trade, config.openTrade .exact sampleIntent risingCandle = .ok trade ∧
      SameTerms config trade position ∧ position.Opened := by
  have hopens : (config.openTrade .exact sampleIntent risingCandle).toOption.map (·.entryPrice) =
      some (10005 / 100) := by
    rcases hconfig with rfl | rfl
    · decide +kernel
    · decide +kernel
  have htick : config.tickSize = (sampleFields ratios).tickSize := by
    rcases hconfig with rfl | rfl <;> rfl
  obtain ⟨trade, htrade, hentry⟩ := Option.map_eq_some_iff.mp hopens
  have hopen := toOption_eq_some.mp htrade
  have hintent := openTrade_intent hopen
  have htargets : trade.position.takeProfitLevels = [130] := (openTrade_spec hopen).1
  refine ⟨trade, hopen, ⟨?_, ?_, ?_, ?_, ?_, ?_, ?_, ?_, ?_, ?_⟩, ?_, ?_, ?_, ?_⟩ <;>
    simp only [hfields, hintent, htargets, hentry, htick] <;> rfl

/-- **Neither condition can be dropped.**  With a default of 3 on the side of the backtest
and an unset multiple, the runtime leaves on its trailing stop at the second candle and the
backtest stays; and a position whose target takes half of it stays where the backtest
closes the trade. -/
theorem exits_can_disagree :
    (∃ trade, wideConfig.openTrade .exact sampleIntent risingCandle = .ok trade ∧
      SameTerms wideConfig trade wholePosition ∧ wholePosition.Opened ∧
      (∃ update, Loop.returns runtimeBar [plainBar risingCandle, plainBar fallingCandle]
          (wholePosition, heldWallet) = .ok (some (1, update)) ∧
        update.exitReason = some .trailingStop) ∧
      Loop.returns (wideConfig.exitBar .exact) [risingCandle, fallingCandle] trade = .ok none) ∧
    (∃ trade, sampleConfig.openTrade .exact sampleIntent risingCandle = .ok trade ∧
      SameTerms sampleConfig trade runnerPosition ∧ runnerPosition.Opened ∧
      Loop.returns runtimeBar [plainBar winningCandle] (runnerPosition, heldWallet) = .ok none ∧
      ∃ exit, Loop.returns (sampleConfig.exitBar .exact) [winningCandle] trade =
        .ok (some (0, exit)) ∧ exit.reason = .target) := by
  constructor
  · obtain ⟨trade, hopen, hsame, hopened⟩ := opens_sample wholePosition (.inr rfl) rfl
    refine ⟨trade, hopen, hsame, hopened, ?_, ?_⟩
    · have hrun : ((Loop.returns runtimeBar [plainBar risingCandle, plainBar fallingCandle]
          (wholePosition, heldWallet)).toOption.bind fun out => out.bind fun x =>
            x.2.exitReason.map (x.1, ·)) = some (1, .trailingStop) := by decide +kernel
      obtain ⟨out, hout, hrun⟩ := Option.bind_eq_some_iff.mp hrun
      obtain ⟨⟨turn, update⟩, rfl, hrun⟩ := Option.bind_eq_some_iff.mp hrun
      obtain ⟨reason, hreason, hturn⟩ := Option.map_eq_some_iff.mp hrun
      obtain ⟨rfl, rfl⟩ := Prod.mk.inj hturn
      exact ⟨update, toOption_eq_some.mp hout, hreason⟩
    · have hrun : ((wideConfig.openTrade .exact sampleIntent risingCandle).toOption.bind fun t =>
          (Loop.returns (wideConfig.exitBar .exact) [risingCandle, fallingCandle] t).toOption.map
            (·.isSome)) = some false := by decide +kernel
      obtain ⟨t, ht, hrun⟩ := Option.bind_eq_some_iff.mp hrun
      obtain rfl := Except.ok.inj (hopen.symm.trans (toOption_eq_some.mp ht))
      obtain ⟨out, hout, hnone⟩ := Option.map_eq_some_iff.mp hrun
      rw [Option.isSome_eq_false_iff, Option.isNone_iff_eq_none] at hnone
      exact hnone ▸ toOption_eq_some.mp hout
  · obtain ⟨trade, hopen, hsame, hopened⟩ := opens_sample runnerPosition (.inl rfl) rfl
    refine ⟨trade, hopen, hsame, hopened, ?_, ?_⟩
    · have hrun : ((Loop.returns runtimeBar [plainBar winningCandle]
          (runnerPosition, heldWallet)).toOption.map (·.isSome)) = some false := by decide +kernel
      obtain ⟨out, hout, hnone⟩ := Option.map_eq_some_iff.mp hrun
      rw [Option.isSome_eq_false_iff, Option.isNone_iff_eq_none] at hnone
      exact hnone ▸ toOption_eq_some.mp hout
    · have hrun : ((sampleConfig.openTrade .exact sampleIntent risingCandle).toOption.bind fun t =>
          (Loop.returns (sampleConfig.exitBar .exact) [winningCandle] t).toOption.bind fun out =>
            out.map fun x => (x.1, x.2.reason)) = some (0, .target) := by decide +kernel
      obtain ⟨t, ht, hrun⟩ := Option.bind_eq_some_iff.mp hrun
      obtain rfl := Except.ok.inj (hopen.symm.trans (toOption_eq_some.mp ht))
      obtain ⟨out, hout, hrun⟩ := Option.bind_eq_some_iff.mp hrun
      obtain ⟨⟨turn, exit⟩, rfl, hturn⟩ := Option.map_eq_some_iff.mp hrun
      obtain ⟨rfl, hreason⟩ := Prod.mk.inj hturn
      exact ⟨exit, toOption_eq_some.mp hout, hreason⟩

/-- The position whose target takes all of it leaves with the backtest. -/
theorem whole_position_agrees : ∃ trade outcome exit,
    sampleConfig.openTrade .exact sampleIntent risingCandle = .ok trade ∧
      Loop.returns runtimeBar [plainBar risingCandle, plainBar fallingCandle]
        (wholePosition, heldWallet) = .ok outcome ∧ outcome.isSome = true ∧
      Loop.returns (sampleConfig.exitBar .exact) [risingCandle, fallingCandle] trade = .ok exit ∧
      Option.Rel (fun x y => x.1 = y.1 ∧ SameExit x.2 y.2) outcome exit := by
  obtain ⟨trade, hopen, hsame, hopened⟩ := opens_sample wholePosition (.inl rfl) rfl
  have hrun : ((Loop.returns runtimeBar [plainBar risingCandle, plainBar fallingCandle]
      (wholePosition, heldWallet)).toOption.map (·.isSome)) = some true := by decide +kernel
  obtain ⟨outcome, hout, hsome⟩ := Option.map_eq_some_iff.mp hrun
  obtain ⟨exit, hexit, hrel⟩ := spot_exits_agree hopen hsame hopened rfl
    (fun _ => by decide +kernel) [plainBar risingCandle, plainBar fallingCandle]
    (toOption_eq_some.mp hout)
  exact ⟨trade, outcome, exit, hopen, toOption_eq_some.mp hout, hsome, hexit, hrel⟩

end BacktestConfig

end Ai4Binance

/-
Futures exits in the backtest and in the virtual runtime.

`_exit_decision` of the backtest and `_process_futures_position` of the runtime
hold a candle against the same levels in the same order: liquidation, stop,
target, holding time.  They differ in two places.  At a candle that opens beyond
the stop the backtest leaves at the open and the runtime at the stop; and the
backtest leaves on the last bar of the holding time, the runtime one bar later.
The main result is that they agree on exactly the other sequences
(`exits_agree_iff`).

* `FuturesBar`, `runtimeExit`: the candles given to both, and the exit of the
  runtime;
* `SameTrade`, `SameLiquidation`: one position in both engines;
* `LeavesOn`, `ExitsAlike`: a candle that reaches a level, and the condition;
* `exits_of_bar`: both engines on one candle.
-/
import Ai4Binance.Backtesting.FuturesEngine
import Ai4Binance.Virtual.FuturesProgress
import Ai4Binance.Virtual.FuturesStops
import Ai4Binance.Virtual.ProcessPosition

open Check

namespace Ai4Binance

/-- A candle with what the runtime observes beside it, without a reason to leave
that the backtest has no counterpart of. -/
structure FuturesBar where
  candle : OHLCVCandle
  context : VirtualExitContext := {}
  futuresContext : VirtualFuturesPositionContext
  availableAt : Option ℤ := none
  unforced : context.forcedExitReason = none

/-- The candle as the backtest replays it. -/
def FuturesBar.replay (bar : FuturesBar) : ReplayCandle where
  candle := bar.candle
  markCandle := bar.futuresContext.markPath.map (·.markCandle)

namespace VirtualManagedPosition

/-! ### The exit of the runtime -/

/-- The reason and the reference price of the last exit that a candle calls for. -/
def lastExit (position : VirtualManagedPosition) (bar : FuturesBar) :
    Except PyError (Option ExitDecision) := do
  let margin ← orRaise position.margin .attribute
  let orders ← position.futuresExitOrders margin bar.candle bar.context bar.futuresContext
  return orders.getLast?.map fun order => ⟨order.reason, order.referencePrice⟩

/-- `process_position` candle by candle: the number of the candle that closes the
position, and the exit that does. -/
def runtimeExit (position : VirtualManagedPosition) (p : VirtualPortfolioState) :
    List FuturesBar → Except PyError (Option (ℕ × ExitDecision))
  | [] => .ok none
  | bar :: rest => do
      let update ← position.processPosition p bar.candle bar.context (some bar.futuresContext)
        bar.availableAt
      if update.positionAfter.status = .closed then
        let exit ← position.lastExit bar
        return exit.map fun decision => (0, decision)
      else
        let later ← update.positionAfter.runtimeExit update.portfolioAfter rest
        return later.map fun (k, decision) => (k + 1, decision)

/-! ### One position in both engines -/

/-- An open single-target Futures position without trailing stop and break-even
trigger, and a trade of the backtest with its terms.  Its holding time is not
up: it starts with no bars held. -/
structure SameTrade (trade : OpenFuturesTrade) (position : VirtualManagedPosition) : Prop where
  market_eq : position.market = .usdMFutures
  side_eq : position.positionSide = trade.intent.direction.side
  entryPrice_eq : position.entryPrice = trade.entryPrice
  stopLoss_eq : position.stopLoss = trade.intent.stopLoss
  target_eq : position.takeProfitLevels = [trade.intent.takeProfit]
  holding_eq : position.maximumHoldingBars = trade.intent.maximumHoldingBars
  bars_eq : position.barsHeld = trade.barsHeld
  index_eq : position.nextTargetIndex = 0
  still_open : position.status ≠ .closed
  breakeven_none : position.breakevenTriggerR = none
  trailing_none : position.trailingAtrMultiple = none
  stop_eq : position.protectiveStop = position.stopLoss
  in_time : ∀ bars ∈ position.maximumHoldingBars, position.barsHeld < bars

/-- Both engines hold every candle against the same liquidation price: that of the
entry, or the one each of them solves from the mark path. -/
def SameLiquidation (config : FuturesBacktestConfig) (points : List MetricPoint) (interval : ℤ)
    (trade : OpenFuturesTrade) (position : VirtualManagedPosition) (bars : List FuturesBar) :
    Prop :=
  ∀ k bar, bars[k]? = some bar → ∃ held margin,
    trade.heldThrough config points interval ((bars.take (k + 1)).map (·.replay)) = .ok held ∧
      position.margin = some margin ∧
      position.futuresLiquidationPrice margin bar.futuresContext = .ok held.liquidationPrice

/-! ### The condition -/

/-- The candle liquidates the position. -/
def LiquidatedBy (position : VirtualManagedPosition) (bar : FuturesBar) : Prop :=
  ∃ margin price, position.margin = some margin ∧
    position.futuresLiquidationPrice margin bar.futuresContext = .ok price ∧
    position.Liquidates bar.candle bar.futuresContext price

/-- The candle reaches a target. -/
def ReachesTarget (position : VirtualManagedPosition) (candle : OHLCVCandle) : Prop :=
  ∃ target ∈ position.takeProfitLevels,
    match position.positionSide with
    | .long => target ≤ candle.high
    | .short => candle.low ≤ target

/-- The candle reaches the liquidation price, the stop or a target. -/
def LeavesOn (position : VirtualManagedPosition) (bar : FuturesBar) : Prop :=
  position.LiquidatedBy bar ∨ position.ReachesStop bar.candle ∨ position.ReachesTarget bar.candle

/-- A position that no earlier candle took to a level meets no candle that opens
beyond the stop without liquidating it, and the last candle of its holding time
takes it to a level. -/
def ExitsAlike (position : VirtualManagedPosition) (bars : List FuturesBar) : Prop :=
  ∀ k bar, bars[k]? = some bar → (∀ earlier ∈ bars.take k, ¬ position.LeavesOn earlier) →
    (position.OpensBeyondStop bar.candle → position.LiquidatedBy bar) ∧
      (position.maximumHoldingBars = some (position.barsHeld + k + 1) → position.LeavesOn bar)

variable {config : FuturesBacktestConfig} {points : List MetricPoint} {interval : ℤ}
  {trade held : OpenFuturesTrade} {position after : VirtualManagedPosition}
  {margin : FuturesMargin} {p : VirtualPortfolioState} {bar : FuturesBar} {rest : List FuturesBar}
  {orders : List ExitOrder} {liquidationPrice : ℚ}

lemma liquidatedBy_iff (hmargin : position.margin = some margin)
    (hprice : position.futuresLiquidationPrice margin bar.futuresContext = .ok liquidationPrice) :
    position.LiquidatedBy bar ↔
      position.Liquidates bar.candle bar.futuresContext liquidationPrice := by
  constructor
  · rintro ⟨m, price, hm, hp, h⟩
    obtain rfl := Option.some.inj (hmargin.symm.trans hm)
    obtain rfl := Except.ok.inj (hprice.symm.trans hp)
    exact h
  · intro h
    exact ⟨margin, liquidationPrice, hmargin, hprice, h⟩

/-- A candle that takes the position to no level leaves the condition to the later
ones, which find it one bar older. -/
lemma exitsAlike_cons_of_not_leavesOn (h : ¬ position.LeavesOn bar) :
    position.ExitsAlike (bar :: rest) ↔
      (¬ position.OpensBeyondStop bar.candle ∧
        position.maximumHoldingBars ≠ some (position.barsHeld + 1)) ∧
      ∀ k b, rest[k]? = some b → (∀ earlier ∈ rest.take k, ¬ position.LeavesOn earlier) →
        (position.OpensBeyondStop b.candle → position.LiquidatedBy b) ∧
          (position.maximumHoldingBars = some (position.barsHeld + 1 + k + 1) →
            position.LeavesOn b) := by
  constructor
  · intro halike
    obtain ⟨hgap, htime⟩ := halike 0 bar rfl (by simp)
    refine ⟨⟨fun hopens => h (.inl (hgap hopens)), fun hm => h (htime hm)⟩, ?_⟩
    intro k b hb hearlier
    obtain ⟨hgap, htime⟩ := halike (k + 1) b (by simpa using hb) (by
      intro e he
      rcases List.mem_cons.mp he with rfl | he
      · exact h
      · exact hearlier e he)
    refine ⟨hgap, fun hm => htime ?_⟩
    rw [hm, Nat.add_right_comm position.barsHeld 1 k, Nat.add_assoc position.barsHeld k 1]
  · rintro ⟨⟨hopens, htime⟩, hrest⟩ k b hb hearlier
    cases k with
    | zero =>
      obtain rfl : bar = b := by simpa using hb
      exact ⟨fun h' => absurd h' hopens, fun h' => absurd h' htime⟩
    | succ k =>
      obtain ⟨hgap, hlast⟩ := hrest k b (by simpa using hb)
        (fun e he => hearlier e (List.mem_cons_of_mem _ he))
      refine ⟨hgap, fun hm => hlast ?_⟩
      rw [hm, Nat.add_right_comm position.barsHeld 1 k, Nat.add_assoc position.barsHeld k 1]

/-- A candle that takes the position to a level leaves nothing to the later ones. -/
lemma exitsAlike_cons_of_leavesOn (h : position.LeavesOn bar) :
    position.ExitsAlike (bar :: rest) ↔
      (position.OpensBeyondStop bar.candle → position.LiquidatedBy bar) := by
  constructor
  · intro halike
    exact (halike 0 bar rfl (by simp)).1
  · intro hgap k b hb hearlier
    cases k with
    | zero =>
      obtain rfl : bar = b := by simpa using hb
      exact ⟨hgap, fun _ => h⟩
    | succ k => exact absurd h (hearlier bar (by simp))

/-! ### Both engines on one candle -/

/-- The runtime's time exit, for what remains after the targets. -/
def overdueOrders (position : VirtualManagedPosition) (candle : OHLCVCandle) : List ExitOrder :=
  if position.maximumHoldingBars.any (· < position.barsHeld + 1) then
    [⟨.timeExit, candle.close, position.remainingQuantity⟩]
  else []

namespace SameTrade

lemma remaining_pos (h : SameTrade trade position) : 0 < position.remainingQuantity := by
  have hne : position.remainingQuantity ≠ 0 := fun h0 => h.still_open (position.closed_iff.mpr h0)
  exact lt_of_le_of_ne position.remaining_bounds.1 hne.symm

/-- The one target is open, for all that remains. -/
lemma targetOrders_eq (h : SameTrade trade position) (candle : OHLCVCandle) :
    (position.ReachesTarget candle ∧
      position.targetOrders candle position.openTargets position.remainingQuantity =
        [⟨.target, trade.intent.takeProfit, position.remainingQuantity⟩]) ∨
    (¬ position.ReachesTarget candle ∧
      position.targetOrders candle position.openTargets position.remainingQuantity = []) := by
  obtain ⟨ratio, hopen⟩ : ∃ ratio, position.openTargets = [(trade.intent.takeProfit, ratio)] := by
    have hlength := position.ratios_length
    rw [h.target_eq] at hlength
    obtain ⟨ratio, hratio⟩ := List.length_eq_one_iff.mp hlength
    exact ⟨ratio, by simp [openTargets, h.target_eq, hratio, h.index_eq]⟩
  have hreach : position.ReachesTarget candle ↔
      (match position.positionSide with
        | .long => decide (trade.intent.takeProfit ≤ candle.high)
        | .short => decide (candle.low ≤ trade.intent.takeProfit)) = true := by
    simp only [ReachesTarget, h.target_eq, List.mem_singleton, exists_eq_left]
    cases position.positionSide <;> simp
  rw [hopen, targetOrders, hreach]
  simp only [if_true, sub_self]
  split_ifs with hr
  · exact .inl ⟨hr, rfl⟩
  · exact .inr ⟨hr, rfl⟩

/-- The orders of the runtime on a candle. -/
lemma futuresExitOrders_eq (h : SameTrade trade position)
    (hprice : position.futuresLiquidationPrice margin bar.futuresContext = .ok liquidationPrice) :
    position.futuresExitOrders margin bar.candle bar.context bar.futuresContext = .ok
      (match position.futuresProtectiveExit bar.candle
          (bar.futuresContext.markPath.map (·.markCandle)) liquidationPrice with
        | some (reason, price) => [⟨reason, price, position.remainingQuantity⟩]
        | none =>
            if position.targetOrders bar.candle position.openTargets position.remainingQuantity = []
            then position.overdueOrders bar.candle
            else [⟨.target, trade.intent.takeProfit, position.remainingQuantity⟩]) := by
  simp only [futuresExitOrders, hprice, ok_bind]
  cases position.futuresProtectiveExit bar.candle
      (bar.futuresContext.markPath.map (·.markCandle)) liquidationPrice with
  | some exit => rfl
  | none =>
    rw [bar.unforced]
    dsimp only
    have hpos := h.remaining_pos
    obtain ⟨-, ht⟩ | ⟨-, ht⟩ := h.targetOrders_eq bar.candle
    · simp [ht, remainingAfter]
    · simp only [ht, remainingAfter, List.map_nil, List.sum_nil, sub_zero, hpos, true_and,
        overdueOrders, List.nil_append, if_true]
      split_ifs <;> rfl

/-- The holding time of the runtime is not up while that of the backtest is not. -/
lemma overdueOrders_eq (h : SameTrade trade position) (candle : OHLCVCandle) :
    position.overdueOrders candle = [] := by
  have hin := h.in_time
  rw [overdueOrders]
  cases hm : position.maximumHoldingBars with
  | none => rfl
  | some bars =>
    have hlt := hin bars hm
    simp only [Option.any_some, decide_eq_true_eq]
    rw [if_neg (by omega)]

/-- The backtest's time exit falls on the last bar of the holding time. -/
lemma timeExit_eq (h : SameTrade trade position) (hintent : held.intent = trade.intent)
    (hbars : held.barsHeld = trade.barsHeld + 1) (candle : OHLCVCandle) :
    held.timeExit candle =
      if position.maximumHoldingBars = some (position.barsHeld + 1) then
        some ⟨.timeExit, candle.close⟩
      else none := by
  have hin := h.in_time
  rw [OpenFuturesTrade.timeExit, hintent, hbars, ← h.holding_eq, ← h.bars_eq]
  cases hm : position.maximumHoldingBars with
  | none => simp
  | some bars =>
    have hlt := hin bars hm
    simp only [Option.any_some, decide_eq_true_eq, Option.some.injEq]
    by_cases heq : bars = position.barsHeld + 1
    · rw [if_pos heq, if_pos heq.le]
    · rw [if_neg heq, if_neg (by omega)]

/-- **Both engines on one candle**: the same liquidation; the stop, at two prices
that are the same unless the candle opens beyond it; the same target; or no level
reached, and then only the backtest may leave. -/
lemma exits_of_bar (h : SameTrade trade position) (hintent : held.intent = trade.intent)
    (hprice : position.futuresLiquidationPrice margin bar.futuresContext =
      .ok held.liquidationPrice) :
    (position.Liquidates bar.candle bar.futuresContext held.liquidationPrice ∧ ∃ price,
      position.futuresExitOrders margin bar.candle bar.context bar.futuresContext =
        .ok [⟨.liquidation, price, position.remainingQuantity⟩] ∧
      held.exitDecision bar.replay = some ⟨.liquidation, price⟩) ∨
    (¬ position.Liquidates bar.candle bar.futuresContext held.liquidationPrice ∧
      position.ReachesStop bar.candle ∧
      position.futuresExitOrders margin bar.candle bar.context bar.futuresContext =
        .ok [⟨.hardStop, position.stopLoss, position.remainingQuantity⟩] ∧
      ∃ price, held.exitDecision bar.replay = some ⟨.hardStop, price⟩ ∧
        (price = position.stopLoss ↔ ¬ position.OpensBeyondStop bar.candle)) ∨
    (¬ position.Liquidates bar.candle bar.futuresContext held.liquidationPrice ∧
      ¬ position.ReachesStop bar.candle ∧ position.ReachesTarget bar.candle ∧
      position.futuresExitOrders margin bar.candle bar.context bar.futuresContext =
        .ok [⟨.target, trade.intent.takeProfit, position.remainingQuantity⟩] ∧
      held.exitDecision bar.replay = some ⟨.target, trade.intent.takeProfit⟩) ∨
    (¬ position.Liquidates bar.candle bar.futuresContext held.liquidationPrice ∧
      ¬ position.ReachesStop bar.candle ∧ ¬ position.ReachesTarget bar.candle ∧
      position.futuresExitOrders margin bar.candle bar.context bar.futuresContext = .ok [] ∧
      held.exitDecision bar.replay = held.timeExit bar.candle) := by
  rw [h.futuresExitOrders_eq hprice]
  have htargets := h.targetOrders_eq bar.candle
  rw [h.overdueOrders_eq]
  simp only [ReachesTarget, h.target_eq, List.mem_singleton, exists_eq_left] at htargets ⊢
  unfold Liquidates liquidated ReachesStop OpensBeyondStop futuresProtectiveExit liquidated
    OpenFuturesTrade.exitDecision FuturesBar.replay
  rw [h.stop_eq, hintent, ← h.stopLoss_eq]
  cases hd : trade.intent.direction with
  | long =>
    have hside : position.positionSide = .long := by rw [h.side_eq, hd]; rfl
    simp only [hside, decide_eq_true_eq] at htargets ⊢
    by_cases hl : ((bar.futuresContext.markPath.map (·.markCandle)).getD bar.candle).low ≤
        held.liquidationPrice
    · exact .inl ⟨hl, _, by rw [if_pos hl], by rw [if_pos hl]⟩
    · rw [if_neg hl, if_neg hl]
      by_cases hs : bar.candle.low ≤ position.stopLoss
      · refine .inr (.inl ⟨hl, hs, ?_, _, if_pos hs, ?_⟩)
        · rw [if_pos hs, if_neg (lt_irrefl _)]
        · rw [min_eq_right_iff, not_lt]
      · simp only [hs, if_false]
        obtain ⟨ht, horders⟩ | ⟨ht, horders⟩ := htargets
        · refine .inr (.inr (.inl ⟨hl, not_false, ht, ?_, if_pos ht⟩))
          simp [horders]
        · refine .inr (.inr (.inr ⟨hl, not_false, ht, ?_, if_neg ht⟩))
          simp [horders]
  | short =>
    have hside : position.positionSide = .short := by rw [h.side_eq, hd]; rfl
    simp only [hside, decide_eq_true_eq] at htargets ⊢
    by_cases hl : held.liquidationPrice ≤
        ((bar.futuresContext.markPath.map (·.markCandle)).getD bar.candle).high
    · exact .inl ⟨hl, _, by rw [if_pos hl], by rw [if_pos hl]⟩
    · rw [if_neg hl, if_neg hl]
      by_cases hs : position.stopLoss ≤ bar.candle.high
      · refine .inr (.inl ⟨hl, hs, ?_, _, if_pos hs, ?_⟩)
        · rw [if_pos hs, if_neg (lt_irrefl _)]
        · rw [max_eq_right_iff, not_lt]
      · simp only [hs, if_false]
        obtain ⟨ht, horders⟩ | ⟨ht, horders⟩ := htargets
        · refine .inr (.inr (.inl ⟨hl, not_false, ht, ?_, if_pos ht⟩))
          simp [horders]
        · refine .inr (.inr (.inr ⟨hl, not_false, ht, ?_, if_neg ht⟩))
          simp [horders]

end SameTrade

/-! ### The levels of a held position -/

/-- The levels of a position do not move while it is held. -/
structure SameLevels (position after : VirtualManagedPosition) : Prop where
  side_eq : after.positionSide = position.positionSide
  entryPrice_eq : after.entryPrice = position.entryPrice
  stop_eq : after.protectiveStop = position.protectiveStop
  targets_eq : after.takeProfitLevels = position.takeProfitLevels
  margin_eq : after.margin = position.margin
  remaining_eq : after.remainingQuantity = position.remainingQuantity

namespace SameLevels

lemma futuresLiquidationPrice_eq (h : SameLevels position after)
    (futuresContext : VirtualFuturesPositionContext) :
    after.futuresLiquidationPrice margin futuresContext =
      position.futuresLiquidationPrice margin futuresContext := by
  simp only [futuresLiquidationPrice, fundingDelta, h.side_eq, h.entryPrice_eq, h.remaining_eq]

lemma opensBeyondStop_iff (h : SameLevels position after) (candle : OHLCVCandle) :
    after.OpensBeyondStop candle ↔ position.OpensBeyondStop candle := by
  simp only [OpensBeyondStop, h.side_eq, h.stop_eq]

lemma liquidatedBy_iff (h : SameLevels position after) (bar : FuturesBar) :
    after.LiquidatedBy bar ↔ position.LiquidatedBy bar := by
  simp only [LiquidatedBy, h.margin_eq, h.futuresLiquidationPrice_eq, Liquidates, liquidated,
    h.side_eq]

lemma leavesOn_iff (h : SameLevels position after) (bar : FuturesBar) :
    after.LeavesOn bar ↔ position.LeavesOn bar := by
  simp only [LeavesOn, h.liquidatedBy_iff, ReachesStop, ReachesTarget, h.side_eq, h.stop_eq,
    h.targets_eq]

end SameLevels

/-! ### One step of the runtime -/

/-- What `process_position` does with a candle of a Futures position. -/
lemma processPosition_futures_parts {update : VirtualPositionUpdateDecision}
    (hm : position.market = .usdMFutures)
    (h : position.processPosition p bar.candle bar.context (some bar.futuresContext)
      bar.availableAt = .ok update) :
    ∃ margin orders exits, position.margin = some margin ∧
      position.futuresExitOrders margin bar.candle bar.context bar.futuresContext = .ok orders ∧
      orders.mapM (position.futuresExit bar.candle.timestamp) = .ok exits ∧
      position.futuresPositionAfter bar.candle bar.context
        (position.fundingDelta bar.futuresContext) orders exits = .ok update.positionAfter := by
  simp only [processPosition, hm, bind_eq_ok, orRaise_eq_ok] at h
  obtain ⟨_, -, _, -, margin, hmargin, h⟩ := h
  simp only [processFuturesPosition, bind_eq_ok, raiseIf_eq_ok, pure_eq_ok] at h
  obtain ⟨orders, ho, exits, he, after, ha, _, -, _, -, rfl⟩ := h
  exact ⟨margin, orders, exits, hmargin, ho, he, ha⟩

/-- A candle without an exit leaves the position as it was, one bar older. -/
lemma SameTrade.hold (h : SameTrade trade position) {fundingDelta : ℚ}
    (hintent : held.intent = trade.intent) (hentry : held.entryPrice = trade.entryPrice)
    (hbars : held.barsHeld = trade.barsHeld + 1)
    (hnot : position.maximumHoldingBars ≠ some (position.barsHeld + 1))
    (ha : position.futuresPositionAfter bar.candle bar.context fundingDelta [] [] = .ok after) :
    SameTrade held after ∧ SameLevels position after := by
  have hpos := h.remaining_pos
  have hremaining : position.remainingAfter [] = position.remainingQuantity := by
    simp [remainingAfter]
  obtain ⟨hsame, -, hafter, -⟩ := futuresPositionAfter_spec ha
  rw [hremaining] at hafter
  simp only [futuresPositionAfter, hremaining, if_pos hpos,
    futuresTrailingStop_eq h.breakeven_none h.trailing_none, bind_eq_ok] at ha
  obtain ⟨review, -, hc⟩ := ha
  obtain ⟨ratios, hr⟩ := PositionFields.normalized_eq _
  rw [create_eq_ok, hr] at hc
  refine ⟨⟨?_, ?_, ?_, ?_, ?_, ?_, ?_, ?_, ?_, ?_, ?_, ?_, ?_⟩, hsame.side_eq,
    hsame.entryPrice_eq, ?_, ?_, hsame.margin_eq, hafter⟩
  · rw [hsame.market_eq, h.market_eq]
  · rw [hsame.side_eq, h.side_eq, hintent]
  · rw [hsame.entryPrice_eq, h.entryPrice_eq, hentry]
  · rw [hc, hintent]
    exact h.stopLoss_eq
  · rw [hc, hintent]
    exact h.target_eq
  · rw [hc, hintent]
    exact h.holding_eq
  · rw [hc, hbars, ← h.bars_eq]
  · rw [hc]
    exact h.index_eq
  · intro hclosed
    rw [closed_iff, hafter] at hclosed
    exact hpos.ne' hclosed
  · rw [hc]
    exact h.breakeven_none
  · rw [hc]
    exact h.trailing_none
  · rw [protectiveStop, hc]
    exact h.stop_eq
  · rw [hc]
    intro bars hmem
    have hin := h.in_time bars hmem
    have hne : bars ≠ position.barsHeld + 1 := by
      rintro rfl
      exact hnot hmem
    dsimp only
    omega
  · rw [protectiveStop, hc]
    rfl
  · rw [hc]

variable {outcome : Option (ℕ × ExitDecision)}

/-- A candle with one exit, for all that remains, ends the run of the runtime. -/
lemma runtimeExit_of_exit {order : ExitOrder} (hsame : SameTrade trade position)
    (hmargin : position.margin = some margin)
    (horders : position.futuresExitOrders margin bar.candle bar.context bar.futuresContext =
      .ok [order])
    (hall : order.quantity = position.remainingQuantity)
    (hrun : position.runtimeExit p (bar :: rest) = .ok outcome) :
    outcome = some (0, ⟨order.reason, order.referencePrice⟩) := by
  rw [runtimeExit, bind_eq_ok] at hrun
  obtain ⟨update, hupdate, hrun⟩ := hrun
  obtain ⟨m, orders, exits, hm, ho, he, ha⟩ :=
    processPosition_futures_parts hsame.market_eq hupdate
  obtain rfl := Option.some.inj (hmargin.symm.trans hm)
  obtain rfl := Except.ok.inj (horders.symm.trans ho)
  have hclosed : update.positionAfter.status = .closed := by
    rw [futuresPositionAfter_status ha]
    simp [statusAfter, remainingAfter, hall]
  rw [if_pos hclosed, lastExit, hmargin, orRaise, ok_bind, horders] at hrun
  exact (Except.ok.inj hrun).symm

/-- A candle without an exit leaves the run to the later candles. -/
lemma runtimeExit_of_hold (hsame : SameTrade trade position)
    (hmargin : position.margin = some margin)
    (horders : position.futuresExitOrders margin bar.candle bar.context bar.futuresContext = .ok [])
    (hrun : position.runtimeExit p (bar :: rest) = .ok outcome) :
    ∃ after q later, position.futuresPositionAfter bar.candle bar.context
        (position.fundingDelta bar.futuresContext) [] [] = .ok after ∧
      after.runtimeExit q rest = .ok later ∧
      outcome = later.map fun (k, decision) => (k + 1, decision) := by
  rw [runtimeExit, bind_eq_ok] at hrun
  obtain ⟨update, hupdate, hrun⟩ := hrun
  obtain ⟨m, orders, exits, hm, ho, he, ha⟩ :=
    processPosition_futures_parts hsame.market_eq hupdate
  obtain rfl := Option.some.inj (hmargin.symm.trans hm)
  obtain rfl := Except.ok.inj (horders.symm.trans ho)
  obtain rfl : exits = [] := by simpa [mapM_eq_ok] using he
  have hopen : update.positionAfter.status ≠ .closed := by
    have hpos := hsame.remaining_pos
    rw [futuresPositionAfter_status ha, statusAfter, remainingAfter, List.map_nil, List.sum_nil,
      sub_zero, if_neg hpos.ne']
    split_ifs <;> simp
  rw [if_neg hopen, bind_eq_ok] at hrun
  obtain ⟨later, hlater, hrun⟩ := hrun
  exact ⟨_, _, later, ha, hlater, (Except.ok.inj hrun).symm⟩

/-! ### Whole runs -/

/-- The number of a candle, counted from the candle before. -/
lemma nextCandle_injective :
    Function.Injective fun ((k, decision) : ℕ × ExitDecision) => (k + 1, decision) := by
  rintro ⟨k, d⟩ ⟨k', d'⟩ h
  obtain ⟨hk, rfl⟩ := Prod.mk.inj h
  rw [Nat.succ.inj hk]

/-- The liquidation prices of the later candles, for the trade and the position
that the first one leaves. -/
lemma SameLiquidation.tail (h : SameLiquidation config points interval trade position (bar :: rest))
    (hlevels : SameLevels position after)
    (hheld : trade.holdCandle config points interval bar.replay = .ok held) :
    SameLiquidation config points interval held after rest := by
  intro k b hb
  obtain ⟨last, margin, hlast, hmargin, hprice⟩ := h (k + 1) b (by simpa using hb)
  refine ⟨last, margin, ?_, by rw [hlevels.margin_eq, hmargin],
    by rw [hlevels.futuresLiquidationPrice_eq, hprice]⟩
  rw [OpenFuturesTrade.heldThrough, List.take_succ_cons, List.map_cons, List.foldlM_cons, hheld,
    ok_bind] at hlast
  exact hlast

/-- **Futures exits of the backtest and of the runtime.**  On candles that
`process_position` takes up to its exit, the exit loop of the backtest leaves on
the same candle, for the same reason and at the same reference price exactly if,
up to the first candle that reaches a level, none opens beyond the stop without
liquidating the position, and that candle comes within the holding time. -/
theorem exits_agree_iff (config : FuturesBacktestConfig) (points : List MetricPoint) (interval : ℤ)
    (trade : OpenFuturesTrade) (position : VirtualManagedPosition) (p : VirtualPortfolioState)
    (bars : List FuturesBar) (outcome : Option (ℕ × ExitDecision))
    (hsame : SameTrade trade position)
    (hliq : SameLiquidation config points interval trade position bars)
    (hrun : position.runtimeExit p bars = .ok outcome) :
    trade.exitLoop config points interval (bars.map (·.replay)) = .ok outcome ↔
      position.ExitsAlike bars := by
  induction bars generalizing trade position p outcome with
  | nil =>
    obtain rfl := Except.ok.inj hrun
    exact ⟨fun _ k bar hbar => by simp at hbar, fun _ => rfl⟩
  | cons bar rest ih =>
    obtain ⟨held, margin, hheld, hmargin, hprice⟩ := hliq 0 bar rfl
    have hhold : trade.holdCandle config points interval bar.replay = .ok held := by
      simpa [OpenFuturesTrade.heldThrough] using hheld
    obtain ⟨hintent, hentry, hbars⟩ := OpenFuturesTrade.holdCandle_spec hhold
    rw [List.map_cons, OpenFuturesTrade.exitLoop, hhold, ok_bind]
    have hliquidated := liquidatedBy_iff hmargin hprice
    obtain ⟨hl, price, horders, hdecision⟩ | ⟨hl, hs, horders, price, hdecision, hgap⟩ |
      ⟨hl, hs, ht, horders, hdecision⟩ | ⟨hl, hs, ht, horders, hdecision⟩ :=
      hsame.exits_of_bar hintent hprice
    · obtain rfl := runtimeExit_of_exit hsame hmargin horders rfl hrun
      rw [hdecision, exitsAlike_cons_of_leavesOn (.inl (hliquidated.mpr hl))]
      exact ⟨fun _ _ => hliquidated.mpr hl, fun _ => rfl⟩
    · obtain rfl := runtimeExit_of_exit hsame hmargin horders rfl hrun
      rw [hdecision, exitsAlike_cons_of_leavesOn (.inr (.inl hs)), hliquidated]
      simp only [pure_eq_ok, Option.some.injEq, Prod.mk.injEq, true_and, ExitDecision.mk.injEq,
        hgap, hl, imp_false]
    · obtain rfl := runtimeExit_of_exit hsame hmargin horders rfl hrun
      rw [hdecision, exitsAlike_cons_of_leavesOn (.inr (.inr ht))]
      exact ⟨fun _ hopens => absurd hopens.reachesStop hs, fun _ => rfl⟩
    · have hstay : ¬ position.LeavesOn bar := by
        rintro (h | h | h)
        · exact hl (hliquidated.mp h)
        · exact hs h
        · exact ht h
      have hopens : ¬ position.OpensBeyondStop bar.candle := fun h => hs h.reachesStop
      obtain ⟨after, q, later, ha, hlater, rfl⟩ := runtimeExit_of_hold hsame hmargin horders hrun
      rw [hdecision, hsame.timeExit_eq hintent hbars, exitsAlike_cons_of_not_leavesOn hstay]
      by_cases hlast : position.maximumHoldingBars = some (position.barsHeld + 1)
      · -- the last bar of the holding time: only the backtest leaves
        rw [if_pos hlast]
        constructor
        · intro h
          have hsome := Except.ok.inj h
          cases later with
          | none => cases hsome
          | some exit => simp at hsome
        · rintro ⟨⟨-, hnot⟩, -⟩
          exact absurd hlast hnot
      · rw [if_neg hlast]
        obtain ⟨hsame', hlevels⟩ := hsame.hold hintent hentry hbars hlast ha
        have hholding : after.maximumHoldingBars = position.maximumHoldingBars := by
          rw [hsame'.holding_eq, hsame.holding_eq, hintent]
        have holder : after.barsHeld = position.barsHeld + 1 := by
          rw [hsame'.bars_eq, hsame.bars_eq, hbars]
        have hnext := ih held after q later hsame' (hliq.tail hlevels hhold) hlater
        simp only [ExitsAlike, hlevels.opensBeyondStop_iff, hlevels.liquidatedBy_iff,
          hlevels.leavesOn_iff, hholding, holder] at hnext
        simp only [hopens, hlast, not_false_eq_true, ne_eq, and_self, true_and, ← hnext, bind_eq_ok,
          pure_eq_ok]
        constructor
        · rintro ⟨later', hlater', heq⟩
          rw [hlater', Option.map_injective nextCandle_injective heq]
        · intro h
          exact ⟨later, h, rfl⟩

/-! ### Sample positions -/

/-- Without a mark path both engines use the liquidation price of the entry. -/
lemma sameLiquidation_of_no_mark {bars : List FuturesBar} (hmargin : position.margin = some margin)
    (hprice : trade.liquidationPrice = margin.liquidationPrice)
    (h : ∀ bar ∈ bars, bar.futuresContext.markPath = none) :
    SameLiquidation config points interval trade position bars := by
  intro k bar hbar
  have hnone := h bar (List.mem_of_getElem? hbar)
  have hreplay : ∀ b ∈ (bars.take (k + 1)).map (·.replay), b.markCandle = none := by
    intro b hb
    obtain ⟨b', hb', rfl⟩ := List.mem_map.mp hb
    simp [FuturesBar.replay, h b' (List.mem_of_mem_take hb')]
  obtain ⟨held, hheld, hkept⟩ := trade.heldThrough_of_no_mark config points interval hreplay
  refine ⟨held, margin, hheld, hmargin, ?_⟩
  rw [futuresLiquidationPrice, hnone, hkept, hprice]

/-- The trade of the backtest with the terms of the gap position. -/
def gapTrade (maximumHoldingBars : Option ℕ) (h : ∀ bars ∈ maximumHoldingBars, 1 ≤ bars) :
    OpenFuturesTrade where
  intent :=
    { direction := .long
      stopLoss := 95
      takeProfit := 110
      maximumHoldingBars
      prices_pos := by norm_num
      holding_pos := h }
  entryTimestamp := 0
  entryPrice := 100
  quantity := 1
  initialMargin := 20
  liquidationPrice := 81

/-- The gap position with a holding time of one bar. -/
def oneBarPosition : VirtualManagedPosition :=
  { gapPosition with
    maximumHoldingBars := some 1
    passes := by decide +kernel }

/-- A candle of a sample run, with its mark at the close. -/
def sampleBar (candle : OHLCVCandle) (hpos : 0 < candle.close) : FuturesBar where
  candle
  futuresContext :=
    { observedAt := candle.timestamp
      markPrice := candle.close
      fundingRate := 0
      markPrice_pos := hpos
      aligned := by simp }
  unforced := rfl

/-- A candle that reaches no level. -/
def calmCandle : OHLCVCandle where
  timestamp := 60000000
  «open» := 100
  high := 104
  low := 98
  close := 102
  volume := 10
  nonneg := by norm_num
  low_le_high := by norm_num
  max_le_high := by norm_num
  low_le_min := by norm_num

/-- A candle that trades through the stop. -/
def stopCandle : OHLCVCandle where
  timestamp := 120000000
  «open» := 97
  high := 98
  low := 94
  close := 96
  volume := 10
  nonneg := by norm_num
  low_le_high := by norm_num
  max_le_high := by norm_num
  low_le_min := by norm_num

lemma gapTrade_same : SameTrade (gapTrade none (by simp)) gapPosition := by
  constructor <;> decide +kernel

lemma oneBarTrade_same : SameTrade (gapTrade (some 1) (by simp)) oneBarPosition := by
  constructor <;> decide +kernel

/-- The calm candle. -/
def calmBar : FuturesBar := sampleBar calmCandle (by norm_num [calmCandle])

/-- The candle that trades through the stop. -/
def stopBar : FuturesBar := sampleBar stopCandle (by norm_num [stopCandle])

/-- The candle that opens beyond the stop. -/
def gapBar : FuturesBar := sampleBar gapCandle (by norm_num [gapCandle])

lemma calmStop_exitsAlike : gapPosition.ExitsAlike [calmBar, stopBar] := by
  intro k bar hbar _
  refine ⟨fun hopens => absurd hopens ?_, fun hm => by cases hm⟩
  rcases List.mem_pair.mp (List.mem_of_getElem? hbar) with rfl | rfl
  · change ¬ (100 : ℚ) < max 95 95
    norm_num
  · change ¬ (97 : ℚ) < max 95 95
    norm_num

/-- On a calm candle and one that trades through the stop both engines leave on
the second, at the stop. -/
theorem stopped_position_agrees :
    gapPosition.runtimeExit gapPortfolio [calmBar, stopBar] = .ok (some (1, ⟨.hardStop, 95⟩)) ∧
      (gapTrade none (by simp)).exitLoop {} [] 60000000 ([calmBar, stopBar].map (·.replay)) =
        .ok (some (1, ⟨.hardStop, 95⟩)) := by
  have hrun : gapPosition.runtimeExit gapPortfolio [calmBar, stopBar] =
      .ok (some (1, ⟨.hardStop, 95⟩)) := by decide +kernel
  have hliq : SameLiquidation {} [] 60000000 (gapTrade none (by simp)) gapPosition
      [calmBar, stopBar] :=
    sameLiquidation_of_no_mark rfl rfl (by simp [calmBar, stopBar, sampleBar])
  exact ⟨hrun, (exits_agree_iff _ _ _ _ _ _ _ _ gapTrade_same hliq hrun).mpr calmStop_exitsAlike⟩

/-- On a candle that opens at 90, below the stop of 95, the runtime leaves at 95
and the backtest at 90; and with a holding time of one bar the backtest leaves on
the first candle, while the runtime keeps the position. -/
theorem gap_and_holding_time_differ :
    (SameTrade (gapTrade none (by simp)) gapPosition ∧
      SameLiquidation {} [] 60000000 (gapTrade none (by simp)) gapPosition [gapBar] ∧
      gapPosition.runtimeExit gapPortfolio [gapBar] = .ok (some (0, ⟨.hardStop, 95⟩)) ∧
      (gapTrade none (by simp)).exitLoop {} [] 60000000 [gapBar.replay] =
        .ok (some (0, ⟨.hardStop, 90⟩))) ∧
    SameTrade (gapTrade (some 1) (by simp)) oneBarPosition ∧
      SameLiquidation {} [] 60000000 (gapTrade (some 1) (by simp)) oneBarPosition [calmBar] ∧
      oneBarPosition.runtimeExit gapPortfolio [calmBar] = .ok none ∧
      (gapTrade (some 1) (by simp)).exitLoop {} [] 60000000 [calmBar.replay] =
        .ok (some (0, ⟨.timeExit, 102⟩)) :=
  ⟨⟨gapTrade_same, sameLiquidation_of_no_mark rfl rfl (by simp [gapBar, sampleBar]),
      by decide +kernel, by decide +kernel⟩,
    oneBarTrade_same, sameLiquidation_of_no_mark rfl rfl (by simp [calmBar, sampleBar]),
      by decide +kernel, by decide +kernel⟩

end VirtualManagedPosition

end Ai4Binance

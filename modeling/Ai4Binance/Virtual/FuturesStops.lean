/-
At which price a stopped Futures position leaves.

A candle that opens beyond the stop trades at its open before it trades at the
stop, so a stop order fills at the open there.  `_futures_protective_exit` takes
the worse of open and price on liquidation and takes the stop itself on a stop.
The main result is the exact condition under which no stop fills better than
the market (`stopsFillAtMarket_iff`): the position is liquidated first, or the
candle does not open beyond the stop.

* `NoBetterThanMarket`, `StopsFillAtMarket`: what a fill at a stop may be;
* `OpensBeyondStop`: the gap;
* `futuresProtectiveExit_cases`: what the protective exit can be;
* `mem_futuresExitOrders_isStop`: which orders of a candle are stops.
-/
import Ai4Binance.Virtual.FuturesPosition

open Check

namespace Ai4Binance.VirtualManagedPosition

variable {position : VirtualManagedPosition} {margin : FuturesMargin} {candle : OHLCVCandle}
  {context : VirtualExitContext} {futuresContext : VirtualFuturesPositionContext}

/-- A price to leave at that is no better than both the open of the candle and
the stop in force. -/
def NoBetterThanMarket (position : VirtualManagedPosition) (candle : OHLCVCandle) (price : ℚ) :
    Prop :=
  match position.positionSide with
  | .long => price ≤ min candle.open position.protectiveStop
  | .short => max candle.open position.protectiveStop ≤ price

/-- The candle opens on the losing side of the stop in force. -/
def OpensBeyondStop (position : VirtualManagedPosition) (candle : OHLCVCandle) : Prop :=
  match position.positionSide with
  | .long => candle.open < position.protectiveStop
  | .short => position.protectiveStop < candle.open

/-- The candle reaches the stop in force. -/
def ReachesStop (position : VirtualManagedPosition) (candle : OHLCVCandle) : Prop :=
  match position.positionSide with
  | .long => candle.low ≤ position.protectiveStop
  | .short => position.protectiveStop ≤ candle.high

/-- The candle of the mark, or that of the trade, reaches the liquidation price. -/
def Liquidates (position : VirtualManagedPosition) (candle : OHLCVCandle)
    (futuresContext : VirtualFuturesPositionContext) (liquidationPrice : ℚ) : Prop :=
  position.liquidated ((futuresContext.markPath.map (·.markCandle)).getD candle) liquidationPrice

/-- Every exit at a stop that a candle calls for has a reference price no better
than the market. -/
def StopsFillAtMarket (position : VirtualManagedPosition) (margin : FuturesMargin)
    (candle : OHLCVCandle) (context : VirtualExitContext)
    (futuresContext : VirtualFuturesPositionContext) : Prop :=
  ∀ orders, position.futuresExitOrders margin candle context futuresContext = .ok orders →
    ∀ order ∈ orders, order.reason.isStop → position.NoBetterThanMarket candle order.referencePrice

/-- A candle that opens beyond the stop reaches it. -/
lemma OpensBeyondStop.reachesStop (h : position.OpensBeyondStop candle) :
    position.ReachesStop candle := by
  unfold OpensBeyondStop at h
  unfold ReachesStop
  cases hs : position.positionSide with
  | long =>
      simp only [hs] at h ⊢
      exact candle.low_le_open.trans h.le
  | short =>
      simp only [hs] at h ⊢
      exact h.le.trans candle.open_le_high

/-- The stop itself is no better than the market unless the candle opens beyond it. -/
lemma noBetterThanMarket_protectiveStop :
    position.NoBetterThanMarket candle position.protectiveStop ↔
      ¬ position.OpensBeyondStop candle := by
  unfold NoBetterThanMarket OpensBeyondStop
  cases position.positionSide with
  | long => simp
  | short => simp

/-! ### The protective exit -/

/-- What the protective exit can be: a liquidation, the stop in force, or none. -/
lemma futuresProtectiveExit_cases (position : VirtualManagedPosition) (candle : OHLCVCandle)
    (futuresContext : VirtualFuturesPositionContext) (liquidationPrice : ℚ) :
    (position.Liquidates candle futuresContext liquidationPrice ∧
      ∃ price, position.futuresProtectiveExit candle (futuresContext.markPath.map (·.markCandle))
        liquidationPrice = some (.liquidation, price)) ∨
    (¬ position.Liquidates candle futuresContext liquidationPrice ∧
      position.ReachesStop candle ∧ ∃ reason : BacktestExitReason, reason.isStop ∧
      position.futuresProtectiveExit candle (futuresContext.markPath.map (·.markCandle))
        liquidationPrice = some (reason, position.protectiveStop)) ∨
    (¬ position.Liquidates candle futuresContext liquidationPrice ∧
      ¬ position.ReachesStop candle ∧
      position.futuresProtectiveExit candle (futuresContext.markPath.map (·.markCandle))
        liquidationPrice = none) := by
  unfold Liquidates ReachesStop futuresProtectiveExit
  by_cases hl : position.liquidated ((futuresContext.markPath.map (·.markCandle)).getD candle)
      liquidationPrice = true
  · left
    refine ⟨hl, ?_⟩
    simp only [hl, if_true]
    cases position.positionSide with
    | long => exact ⟨_, rfl⟩
    | short => exact ⟨_, rfl⟩
  · right
    rw [if_neg hl]
    cases position.positionSide with
    | long =>
        by_cases hr : candle.low ≤ position.protectiveStop
        · refine .inl ⟨hl, hr, _, ?_, if_pos hr⟩
          split_ifs <;> rfl
        · exact .inr ⟨hl, hr, if_neg hr⟩
    | short =>
        by_cases hr : position.protectiveStop ≤ candle.high
        · refine .inl ⟨hl, hr, _, ?_, if_pos hr⟩
          split_ifs <;> rfl
        · exact .inr ⟨hl, hr, if_neg hr⟩

/-! ### The orders of a candle -/

/-- A forced exit is not a stop. -/
lemma not_isStop_of_forcedExitReason {reason : BacktestExitReason}
    (h : context.forcedExitReason = some reason) : ¬ reason.isStop := by
  unfold VirtualExitContext.forcedExitReason at h
  split_ifs at h <;> obtain rfl := Option.some.inj h <;> simp [BacktestExitReason.isStop]

/-- The orders of the target loop are targets. -/
lemma reason_of_mem_targetOrders {targets : List (ℚ × ℚ)} {remaining : ℚ} {order : ExitOrder}
    (h : order ∈ position.targetOrders candle targets remaining) : order.reason = .target := by
  induction targets generalizing remaining with
  | nil => simp [targetOrders] at h
  | cons t rest ih =>
      obtain ⟨target, ratio⟩ := t
      rw [targetOrders] at h
      dsimp only at h
      split_ifs at h with hreached hlast hzero hzero
      · rw [List.mem_singleton.mp h]
      · rcases List.mem_cons.mp h with rfl | h
        · rfl
        · exact ih h
      · rw [List.mem_singleton.mp h]
      · rcases List.mem_cons.mp h with rfl | h
        · rfl
        · exact ih h
      · simp at h

/-- The stops among the orders of a candle: one, at the stop in force, if the
candle reaches it without liquidating the position, and none otherwise. -/
lemma mem_futuresExitOrders_isStop (candle : OHLCVCandle) (context : VirtualExitContext)
    {liquidationPrice price : ℚ}
    (hliq : position.futuresLiquidationPrice margin futuresContext = .ok liquidationPrice) :
    (∃ orders, position.futuresExitOrders margin candle context futuresContext = .ok orders ∧
      ∃ order ∈ orders, order.reason.isStop ∧ order.referencePrice = price) ↔
    ¬ position.Liquidates candle futuresContext liquidationPrice ∧
      position.ReachesStop candle ∧ price = position.protectiveStop := by
  simp only [futuresExitOrders, hliq, ok_bind]
  obtain ⟨hl, p, hp⟩ | ⟨hl, hr, reason, hreason, hp⟩ | ⟨hl, hr, hp⟩ :=
    position.futuresProtectiveExit_cases candle futuresContext liquidationPrice
  · simp [hp, hl, BacktestExitReason.isStop]
  · simp only [hp, pure_eq_ok]
    constructor
    · rintro ⟨orders, rfl, order, hmem, -, rfl⟩
      rw [List.mem_singleton.mp hmem]
      exact ⟨hl, hr, rfl⟩
    · rintro ⟨-, -, rfl⟩
      exact ⟨_, rfl, _, List.mem_singleton_self _, hreason, rfl⟩
  · -- no protective exit: the remaining orders are forced, targets or the time exit
    refine ⟨?_, fun h => absurd h.2.1 hr⟩
    rintro ⟨orders, horders, order, hmem, hstop, -⟩
    exfalso
    rw [hp] at horders
    dsimp only at horders
    split at horders
    · rename_i reason hforced
      obtain rfl := pure_eq_ok.mp horders
      rw [List.mem_singleton.mp hmem] at hstop
      exact not_isStop_of_forcedExitReason hforced hstop
    · split_ifs at horders
      · obtain rfl := pure_eq_ok.mp horders
        rcases List.mem_append.mp hmem with hmem | hmem
        · rw [reason_of_mem_targetOrders hmem] at hstop
          exact Bool.noConfusion hstop
        · rw [List.mem_singleton.mp hmem] at hstop
          exact Bool.noConfusion hstop
      · obtain rfl := pure_eq_ok.mp horders
        rw [reason_of_mem_targetOrders hmem] at hstop
        exact Bool.noConfusion hstop

/-- **When a stop fills at the market**: exactly when, for the liquidation price
the candle is held against, the position is liquidated or the candle does not
open beyond the stop. -/
theorem stopsFillAtMarket_iff (position : VirtualManagedPosition) (margin : FuturesMargin)
    (candle : OHLCVCandle) (context : VirtualExitContext)
    (futuresContext : VirtualFuturesPositionContext) :
    position.StopsFillAtMarket margin candle context futuresContext ↔
      ∀ liquidationPrice,
        position.futuresLiquidationPrice margin futuresContext = .ok liquidationPrice →
          position.Liquidates candle futuresContext liquidationPrice ∨
            ¬ position.OpensBeyondStop candle := by
  cases hliq : position.futuresLiquidationPrice margin futuresContext with
  | error e => simp [StopsFillAtMarket, futuresExitOrders, hliq]
  | ok liquidationPrice =>
      constructor
      · rintro h _ ⟨⟩
        by_contra hneg
        rw [not_or, not_not] at hneg
        obtain ⟨orders, horders, order, hmem, hstop, hprice⟩ :=
          (mem_futuresExitOrders_isStop candle context hliq).mpr
            ⟨hneg.1, hneg.2.reachesStop, rfl⟩
        have hbetter := h orders horders order hmem hstop
        rw [hprice, noBetterThanMarket_protectiveStop] at hbetter
        exact hbetter hneg.2
      · intro h orders horders order hmem hstop
        obtain ⟨hl, -, hprice⟩ :=
          (mem_futuresExitOrders_isStop candle context hliq).mp
            ⟨orders, horders, order, hmem, hstop, rfl⟩
        rw [hprice, noBetterThanMarket_protectiveStop]
        exact (h liquidationPrice rfl).resolve_left hl

/-! ### A gap through the stop -/

/-- A long position of one unit at 100 with a stop at 95. -/
def gapPosition : VirtualManagedPosition where
  positionId := "virtual-position:c1"
  candidateId := "c1"
  symbol := "BTCUSDT"
  market := .usdMFutures
  openedAt := 0
  entryPrice := 100
  entryFeeUsdt := 0
  initialQuantity := 1
  remainingQuantity := 1
  stopLoss := 95
  trailingStop := 95
  atr := 5
  takeProfitLevels := [110]
  takeProfitQuantityRatios := [1]
  feeRatio := 0
  slippageRatio := 0
  tickSize := ⟨false, 1, -2⟩
  isolatedMarginUsdt := some 20
  initialMarginUsdt := some 20
  maintenanceMarginRatio := some (1 / 100)
  liquidationPrice := some 81
  leverage := some 5
  passes := by decide +kernel

/-- The portfolio that holds it. -/
def gapPortfolio : VirtualPortfolioState where
  portfolioId := "virtual-futures"
  market := .usdMFutures
  cashUsdt := 980
  equityUsdt := 1000
  positionSide := some .long
  positionEntryPrice := some 100
  positionMarkPrice := some 100
  positionNotionalUsdt := some 100
  isolatedMarginUsdt := some 20
  initialMarginUsdt := some 20
  maintenanceMarginUsdt := some 1
  liquidationPrice := some 81
  leverage := some 5
  marginUtilizationRatio := some (1 / 50)
  openPositionCount := 1
  passes := by decide +kernel

/-- A candle that opens at 90, below the stop, and never trades at it. -/
def gapCandle : OHLCVCandle where
  timestamp := 60000000
  «open» := 90
  high := 92
  low := 89
  close := 91
  volume := 10
  nonneg := by norm_num
  low_le_high := by norm_num
  max_le_high := by norm_num
  low_le_min := by norm_num

/-- The mark observed with it. -/
def gapContext : VirtualFuturesPositionContext where
  observedAt := 60000000
  markPrice := 91
  fundingRate := 0
  markPrice_pos := by norm_num
  aligned := by simp

/-- The position is closed on its hard stop at 95, although the candle opens at
90 and its high is 92. -/
theorem gapPosition_fills_at_stop :
    (gapPosition.processFuturesPosition ⟨20, 20, 1 / 100, 81, 5⟩ gapPortfolio gapCandle {}
      gapContext).toOption.map (fun d => (d.exitReason, d.positionAfter.exits.map (·.price))) =
        some (some .hardStop, [95]) ∧
    ¬ gapPosition.StopsFillAtMarket ⟨20, 20, 1 / 100, 81, 5⟩ gapCandle {} gapContext := by
  refine ⟨by decide +kernel, fun h => ?_⟩
  have horders : gapPosition.futuresExitOrders ⟨20, 20, 1 / 100, 81, 5⟩ gapCandle {} gapContext =
      .ok [⟨.hardStop, 95, 1⟩] := by decide +kernel
  have hmarket : (95 : ℚ) ≤ min gapCandle.open gapPosition.protectiveStop :=
    h _ horders _ (List.mem_singleton_self _) rfl
  exact absurd hmarket (by decide +kernel)

end Ai4Binance.VirtualManagedPosition

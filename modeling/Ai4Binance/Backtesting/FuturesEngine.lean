/-
The exit loop of the Futures backtest (`research/backtesting/futures_engine.py`).

`FuturesBacktestEngine.run` opens a trade at the open of a candle and takes every
candle from that one on through funding, excursions, the count of bars held and
the exit decision.  A trade that is open after the last candle is closed there as
`END_OF_DATA`, which is not part of the loop.

* `FuturesBacktestIntent`, `OpenFuturesTrade`: a signal and the trade it opened;
* `applyFunding`, `markPathFunding`, `updateExcursions`: what a candle does to an
  open trade;
* `exitDecision`, `holdCandle`, `exitLoop`: the decision on one candle, and the
  first candle with one.
-/
import Ai4Binance.Virtual.FuturesPosition

open Check

namespace Ai4Binance

/-- `TradeDirection`. -/
inductive TradeDirection where
  | long
  | short
  deriving DecidableEq, Repr

/-- The side of the virtual runtime for a direction. -/
def TradeDirection.side : TradeDirection → VirtualPositionSide
  | .long => .long
  | .short => .short

/-- `MetricPoint`: one value of a funding series. -/
structure MetricPoint where
  timestamp : ℤ
  value : ℚ
  deriving DecidableEq, Repr

/-- The fields of `FuturesBacktestConfig` that the exit loop reads. -/
structure FuturesBacktestConfig where
  allowIntrabarFundingBounds : Bool := false
  maintenanceBrackets : List FuturesRiskBracket := []

/-- The fields of `FuturesBacktestIntent` that the exit loop reads. -/
structure FuturesBacktestIntent where
  direction : TradeDirection
  stopLoss : ℚ
  takeProfit : ℚ
  maximumHoldingBars : Option ℕ := none
  prices_pos : 0 < stopLoss ∧ 0 < takeProfit
  holding_pos : ∀ bars ∈ maximumHoldingBars, 1 ≤ bars

/-- `_OpenFuturesTrade`, without the entry fee, the reference price of the entry,
the ignored signals and the blocker history, which only closing reads. -/
structure OpenFuturesTrade where
  intent : FuturesBacktestIntent
  entryTimestamp : ℤ
  entryPrice : ℚ
  quantity : ℚ
  initialMargin : ℚ
  liquidationPrice : ℚ
  fundingCost : ℚ := 0
  lastFundingTimestamp : Option ℤ := none
  maximumFavorableExcursion : ℚ := 0
  maximumAdverseExcursion : ℚ := 0
  barsHeld : ℕ := 0

/-- `_ExitDecision`. -/
structure ExitDecision where
  reason : BacktestExitReason
  referencePrice : ℚ
  deriving DecidableEq, Repr

/-- A candle of the replay, with the mark candle of the native mark path. -/
structure ReplayCandle where
  candle : OHLCVCandle
  markCandle : Option OHLCVCandle := none

namespace OpenFuturesTrade

variable (trade : OpenFuturesTrade)

/-! ### What a candle does to an open trade -/

/-- One funding point: its cost is added, and its time is remembered. -/
def settle (point : MetricPoint) (amount : ℚ) : OpenFuturesTrade :=
  { trade with
    fundingCost := trade.fundingCost + amount
    lastFundingTimestamp := some point.timestamp }

/-- The time up to which funding is settled. -/
def fundedUntil : ℤ := trade.lastFundingTimestamp.getD trade.entryTimestamp

/-- `_apply_funding`. -/
def applyFunding (points : List MetricPoint) (candleTimestamp : ℤ) : OpenFuturesTrade :=
  (points.filter fun p => trade.fundedUntil < p.timestamp ∧ p.timestamp ≤ candleTimestamp).foldl
    (fun t p => t.settle p (t.entryPrice * t.quantity * p.value * t.intent.direction.side.sign)) trade

/-- One funding point of `_mark_path_funding`: at the open of the mark candle the
mark is known, and inside the candle the adverse bound is debited. -/
def settleOnMark (config : FuturesBacktestConfig) (mark : OHLCVCandle) (t : OpenFuturesTrade)
    (point : MetricPoint) : Except PyError OpenFuturesTrade := do
  let sign := t.intent.direction.side.sign
  if point.timestamp ≠ mark.timestamp then
    raiseIf (¬ config.allowIntrabarFundingBounds)
      (.value "funding settlement requires a finer native mark path")
    return t.settle point (t.quantity * mark.high * max (point.value * sign) 0)
  else return t.settle point (t.quantity * mark.open * point.value * sign)

/-- `_mark_path_funding`. -/
def markPathFunding (config : FuturesBacktestConfig) (points : List MetricPoint)
    (mark : OHLCVCandle) (interval : ℤ) : Except PyError OpenFuturesTrade := do
  let due := points.filter fun p =>
    trade.fundedUntil < p.timestamp ∧ p.timestamp < mark.timestamp + interval
  let settled ← due.foldlM (settleOnMark config mark) trade
  let liquidationPrice ← isolatedLiquidationPrice (settled.intent.direction = .long)
    settled.entryPrice settled.quantity (settled.initialMargin - settled.fundingCost)
    config.maintenanceBrackets
  return { settled with liquidationPrice }

/-- `_update_excursions`. -/
def updateExcursions (candle : OHLCVCandle) : OpenFuturesTrade :=
  let (favorable, adverse) := match trade.intent.direction with
    | .long => (max (candle.high - trade.entryPrice) 0, max (trade.entryPrice - candle.low) 0)
    | .short => (max (trade.entryPrice - candle.low) 0, max (candle.high - trade.entryPrice) 0)
  { trade with
    maximumFavorableExcursion :=
      max trade.maximumFavorableExcursion (favorable * trade.quantity)
    maximumAdverseExcursion := max trade.maximumAdverseExcursion (adverse * trade.quantity) }

/-! ### The exit loop -/

/-- The time exit at the end of `_exit_decision`. -/
def timeExit (candle : OHLCVCandle) : Option ExitDecision :=
  if trade.intent.maximumHoldingBars.any (· ≤ trade.barsHeld) then
    some ⟨.timeExit, candle.close⟩
  else none

/-- `_exit_decision`. -/
def exitDecision (bar : ReplayCandle) : Option ExitDecision :=
  let candle := bar.candle
  let liquidationCandle := bar.markCandle.getD candle
  match trade.intent.direction with
  | .long =>
      if liquidationCandle.low ≤ trade.liquidationPrice then
        some ⟨.liquidation, min liquidationCandle.open trade.liquidationPrice⟩
      else if candle.low ≤ trade.intent.stopLoss then
        some ⟨.hardStop, min candle.open trade.intent.stopLoss⟩
      else if trade.intent.takeProfit ≤ candle.high then
        some ⟨.target, trade.intent.takeProfit⟩
      else trade.timeExit candle
  | .short =>
      if trade.liquidationPrice ≤ liquidationCandle.high then
        some ⟨.liquidation, max liquidationCandle.open trade.liquidationPrice⟩
      else if trade.intent.stopLoss ≤ candle.high then
        some ⟨.hardStop, max candle.open trade.intent.stopLoss⟩
      else if candle.low ≤ trade.intent.takeProfit then
        some ⟨.target, trade.intent.takeProfit⟩
      else trade.timeExit candle

variable (config : FuturesBacktestConfig) (points : List MetricPoint) (interval : ℤ)

/-- The funding of a candle, on the mark path where there is one. -/
def fundCandle (bar : ReplayCandle) : Except PyError OpenFuturesTrade :=
  match bar.markCandle with
  | some mark => trade.markPathFunding config points mark interval
  | none => .ok (trade.applyFunding points bar.candle.timestamp)

/-- What `run` does to an open trade on a candle before it asks for a decision:
funding, excursions and one more bar held. -/
def holdCandle (bar : ReplayCandle) : Except PyError OpenFuturesTrade := do
  let funded ← trade.fundCandle config points interval bar
  let updated := funded.updateExcursions bar.candle
  return { updated with barsHeld := updated.barsHeld + 1 }

/-- The exit loop of `run` from the candle of the entry on: the number of the
first candle with a decision, and the decision. -/
def exitLoop (trade : OpenFuturesTrade) : List ReplayCandle → Except PyError (Option (ℕ × ExitDecision))
  | [] => .ok none
  | bar :: rest => do
      let held ← trade.holdCandle config points interval bar
      match held.exitDecision bar with
      | some decision => return some (0, decision)
      | none =>
          let later ← exitLoop held rest
          return later.map fun (k, decision) => (k + 1, decision)

/-- The trade after a number of candles that it is held through. -/
def heldThrough (trade : OpenFuturesTrade) (bars : List ReplayCandle) :
    Except PyError OpenFuturesTrade :=
  bars.foldlM (fun t bar => t.holdCandle config points interval bar) trade

/-! ### What stays of a trade -/

/-- What a held candle keeps of a trade. -/
structure Keeps (trade after : OpenFuturesTrade) : Prop where
  intent_eq : after.intent = trade.intent
  entryPrice_eq : after.entryPrice = trade.entryPrice
  barsHeld_eq : after.barsHeld = trade.barsHeld

lemma Keeps.refl (trade : OpenFuturesTrade) : Keeps trade trade := ⟨rfl, rfl, rfl⟩

lemma Keeps.trans {t u v : OpenFuturesTrade} (h : Keeps t u) (h' : Keeps u v) : Keeps t v :=
  ⟨h'.intent_eq.trans h.intent_eq, h'.entryPrice_eq.trans h.entryPrice_eq,
    h'.barsHeld_eq.trans h.barsHeld_eq⟩

variable {trade config points interval} {after : OpenFuturesTrade}

lemma applyFunding_keeps (candleTimestamp : ℤ) :
    Keeps trade (trade.applyFunding points candleTimestamp) := by
  rw [applyFunding]
  generalize points.filter _ = due
  induction due generalizing trade with
  | nil => exact .refl _
  | cons p rest ih =>
    rw [List.foldl_cons]
    have hsettle (amount : ℚ) : Keeps trade (trade.settle p amount) := ⟨rfl, rfl, rfl⟩
    exact (hsettle _).trans ih

lemma settleOnMark_keeps {mark : OHLCVCandle} {point : MetricPoint}
    (h : settleOnMark config mark trade point = .ok after) : Keeps trade after := by
  rw [settleOnMark] at h
  split at h
  · simp only [bind_eq_ok, pure_eq_ok] at h
    obtain ⟨_, -, rfl⟩ := h
    exact ⟨rfl, rfl, rfl⟩
  · obtain rfl := pure_eq_ok.mp h
    exact ⟨rfl, rfl, rfl⟩

lemma foldlM_settleOnMark_keeps {mark : OHLCVCandle} {due : List MetricPoint}
    (h : due.foldlM (settleOnMark config mark) trade = .ok after) : Keeps trade after := by
  induction due generalizing trade with
  | nil =>
    obtain rfl := pure_eq_ok.mp h
    exact .refl _
  | cons p rest ih =>
    rw [List.foldlM_cons, bind_eq_ok] at h
    obtain ⟨t, ht, h⟩ := h
    exact (settleOnMark_keeps ht).trans (ih h)

/-- A held candle keeps the signal and the entry, and counts one more bar. -/
lemma holdCandle_spec {bar : ReplayCandle}
    (h : trade.holdCandle config points interval bar = .ok after) :
    after.intent = trade.intent ∧ after.entryPrice = trade.entryPrice ∧
      after.barsHeld = trade.barsHeld + 1 := by
  simp only [holdCandle, bind_eq_ok, pure_eq_ok] at h
  obtain ⟨funded, hfunded, rfl⟩ := h
  suffices hkeeps : Keeps trade funded by
    exact ⟨hkeeps.intent_eq, hkeeps.entryPrice_eq, congrArg (· + 1) hkeeps.barsHeld_eq⟩
  rw [fundCandle] at hfunded
  split at hfunded
  · simp only [markPathFunding, bind_eq_ok, pure_eq_ok] at hfunded
    obtain ⟨settled, hsettled, _, -, rfl⟩ := hfunded
    exact (foldlM_settleOnMark_keeps hsettled).trans ⟨rfl, rfl, rfl⟩
  · obtain rfl := Except.ok.inj hfunded
    exact applyFunding_keeps _

lemma applyFunding_liquidationPrice (candleTimestamp : ℤ) :
    (trade.applyFunding points candleTimestamp).liquidationPrice = trade.liquidationPrice := by
  rw [applyFunding]
  generalize points.filter _ = due
  induction due generalizing trade with
  | nil => rfl
  | cons p rest ih => rw [List.foldl_cons, ih, settle]

/-- Without a mark path a trade keeps the liquidation price of its entry. -/
lemma heldThrough_of_no_mark (trade : OpenFuturesTrade) (config : FuturesBacktestConfig)
    (points : List MetricPoint) (interval : ℤ) {bars : List ReplayCandle}
    (h : ∀ bar ∈ bars, bar.markCandle = none) :
    ∃ held, trade.heldThrough config points interval bars = .ok held ∧
      held.liquidationPrice = trade.liquidationPrice := by
  induction bars generalizing trade with
  | nil => exact ⟨trade, rfl, rfl⟩
  | cons bar rest ih =>
    have hfund : trade.fundCandle config points interval bar =
        .ok (trade.applyFunding points bar.candle.timestamp) := by
      rw [fundCandle, h bar List.mem_cons_self]
    rw [heldThrough, List.foldlM_cons, holdCandle, hfund, ok_bind]
    obtain ⟨held, hheld, hprice⟩ := ih _ fun b hb => h b (List.mem_cons_of_mem _ hb)
    refine ⟨held, hheld, hprice.trans ?_⟩
    exact applyFunding_liquidationPrice _

end OpenFuturesTrade

end Ai4Binance

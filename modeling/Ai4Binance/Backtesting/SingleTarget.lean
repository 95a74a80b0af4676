/-
The two replays of a rejected Spot signal agree on a single target.

The replay of a trade with one target keeps five local variables in place of the
open trade and leaves out the checks of `PaperPosition` and of
`update_long_trailing_stop`.  A trade of the general replay is the opened trade
with these five values (`OpenTrade.atState`), the checks it makes never fail since the
trailing stop only rises, and both replays take every candle to the same values
or to the same closed trade (`generalLoop_eq`).

* `PaperPosition.trailed`, `OpenTrade.atState`: the trade at a state of the fast replay;
* `updatedTrailingStop_eq`, `breakevenTriggerReached_eq`, `endCandle_eq`: the end
  of a candle;
* `generalLoop_eq`: whole replays.
-/
import Ai4Binance.Backtesting.SpotEngine

open Text Check

namespace Ai4Binance

open BacktestConfig

/-- The position with another positive trailing stop. -/
def PaperPosition.trailed (position : PaperPosition) (trailingStop : ℚ) (h : 0 < trailingStop) :
    PaperPosition :=
  { position with
    trailingStop
    values_pos := ⟨position.values_pos.1, position.values_pos.2.1, position.values_pos.2.2.1, h⟩ }

/-- The trade of the general replay at a state of the single-target replay. -/
def OpenTrade.atState (trade : OpenTrade) (s : SingleTargetState) (h : 0 < s.trailingStop) :
    OpenTrade :=
  { trade with
    position := trade.position.trailed s.trailingStop h
    barsHeld := s.barsHeld
    breakevenArmed := s.breakevenArmed
    maximumFavorableExcursion := s.maximumFavorable
    maximumAdverseExcursion := s.maximumAdverse }

namespace BacktestConfig

variable {config : BacktestConfig} {a : Arithmetic} {trade : OpenTrade}
  {s : SingleTargetState} {candle last : OHLCVCandle}

/-- A positive trailing stop is accepted. -/
lemma withTrailingStop_eq (position : PaperPosition) {trailingStop : ℚ} (h : 0 < trailingStop) :
    withTrailingStop position trailingStop = .ok (position.trailed trailingStop h) := by
  obtain ⟨hentry, hquantity, hstop, -⟩ := position.values_pos
  rw [withTrailingStop, PaperPosition.create, dif_pos ⟨hentry, hquantity, hstop, h⟩,
    dif_pos position.stop_lt, dif_pos position.targets_gt]
  rfl

/-- The fast replay closes the trade of the general one. -/
lemma closeSingleTargetCounterfactual_eq [UnicodeData] (h : 0 < s.trailingStop) (reason : BacktestExitReason)
    (price : ℚ) :
    config.closeSingleTargetCounterfactual a trade candle reason price s =
      config.closeTrade a (trade.atState s h) candle reason price := by
  rw [closeSingleTargetCounterfactual, withTrailingStop_eq _ h, ok_bind]
  rfl

/-! ### The end of a candle -/

/-- The trailing stop only rises. -/
lemma le_trailedStop (config : BacktestConfig) (a : Arithmetic) (trade : OpenTrade)
    (distance close : ℚ) (armed : Bool) (trailingStop : ℚ) :
    trailingStop ≤ config.trailedStop a trade distance close armed trailingStop := by
  rw [trailedStop]
  dsimp only
  split_ifs
  · exact (le_max_left _ _).trans (le_max_left _ _)
  · exact le_max_left _ _
  · exact le_max_left _ _
  · exact le_rfl

/-- The multiplier of the trailing stop is positive. -/
lemma multiplier_pos (config : BacktestConfig) (intent : BacktestIntent) :
    0 < intent.trailingAtrMultiple.getD config.trailingMultiplier := by
  cases hm : intent.trailingAtrMultiple with
  | none => exact config.trailing_pos
  | some m => exact intent.trailing_pos m hm

/-- The checked update of the trailing stop is the one of the fast replay. -/
lemma updatedTrailingStop_eq (trade : OpenTrade) (close : ℚ) :
    config.updatedTrailingStop a trade close = .ok (config.trailedStop a trade
      (config.trailingDistance a trade) close trade.breakevenArmed trade.position.trailingStop) := by
  have hpos := trade.position.values_pos.2.2.2
  rw [updatedTrailingStop, trailedStop]
  dsimp only
  by_cases hlt : trade.position.trailingStop < close
  · have hchecks : ¬ ([trade.position.trailingStop, close, trade.intent.atr,
        trade.intent.trailingAtrMultiple.getD config.trailingMultiplier,
        config.tickSize.toRat].any (· ≤ 0)) = true := by
      simp [hpos, hpos.trans hlt, trade.intent.prices_pos.2.2, multiplier_pos config trade.intent,
        config.tick_pos]
    rw [if_pos hlt, if_pos hlt, updateLongTrailingStop]
    dsimp only
    rw [raiseIf_of_not hchecks, ok_bind, raiseIf_of_not (not_le.mpr hlt), ok_bind]
    rfl
  · rw [if_neg hlt, if_neg hlt]
    rfl

/-- The break-even trigger is the threshold of the fast replay. -/
lemma breakevenTriggerReached_eq (trade : OpenTrade) :
    breakevenTriggerReached a trade =
      (triggerThreshold a trade).any (· ≤ trade.maximumFavorableExcursion) := by
  rw [breakevenTriggerReached, triggerThreshold]
  dsimp only
  cases trade.intent.breakevenTriggerR with
  | none => simp
  | some trigger =>
    dsimp only
    split_ifs with h1 h2 h2
    · exact absurd h1 (not_le.mpr h2)
    · rfl
    · rfl
    · exact absurd (not_lt.mp h2) h1

/-- The state of the fast replay after a candle without an exit. -/
def nextState (config : BacktestConfig) (a : Arithmetic) (trade : OpenTrade)
    (candle : OHLCVCandle) (held : SingleTargetState) : SingleTargetState :=
  let armed := held.breakevenArmed ||
    (triggerThreshold a trade).any (· ≤ held.maximumFavorable)
  { held with
    breakevenArmed := armed
    trailingStop := config.trailedStop a trade (config.trailingDistance a trade) candle.close armed
      held.trailingStop }

lemma nextState_pos (h : 0 < s.trailingStop) :
    0 < (config.nextState a trade candle s).trailingStop :=
  h.trans_le (le_trailedStop config a trade _ _ _ _)

/-- Both replays end a candle in the same state. -/
lemma endCandle_eq (h : 0 < s.trailingStop) :
    config.endCandle a (trade.atState s h) candle =
      .ok (trade.atState (config.nextState a trade candle s) (nextState_pos h)) := by
  rw [endCandle]
  dsimp only
  rw [updatedTrailingStop_eq, ok_bind, breakevenTriggerReached_eq]
  exact congrArg (· >>= _) (withTrailingStop_eq _ (nextState_pos h))

/-! ### Whole replays -/

/-- The state of the fast replay on a candle, before it asks for an exit. -/
def heldState (a : Arithmetic) (trade : OpenTrade) (candle : OHLCVCandle)
    (s : SingleTargetState) : SingleTargetState :=
  { s with
    barsHeld := s.barsHeld + 1
    maximumFavorable := max s.maximumFavorable
      (a.mul (max (a.sub candle.high trade.entryPrice) 0) trade.originalQuantity)
    maximumAdverse := max s.maximumAdverse
      (a.mul (max (a.sub trade.entryPrice candle.low) 0) trade.originalQuantity) }

/-- The exit of the fast replay on a candle. -/
def fastExit (trade : OpenTrade) (candle : OHLCVCandle) (held : SingleTargetState) :
    Option ExitDecision :=
  let stopLoss := trade.position.stopLoss
  let target := trade.position.takeProfitLevels.head trade.takeProfitLevels_ne_nil
  if candle.low ≤ max stopLoss held.trailingStop then
    some ⟨if stopLoss < held.trailingStop then .trailingStop else .hardStop,
      min candle.open (max stopLoss held.trailingStop)⟩
  else if target ≤ candle.high then some ⟨.target, target⟩
  else if trade.intent.maximumHoldingBars.any (· < held.barsHeld) then
    some ⟨.timeExit, candle.close⟩
  else none

/-- Both replays ask for the same exit. -/
lemma evaluateLongExit_eq (h : 0 < s.trailingStop) :
    evaluateLongExit trade.intent (trade.atState s h).position candle s.barsHeld =
      fastExit trade candle s := by
  have hstop : (trade.atState s h).position.stopLoss = trade.position.stopLoss := rfl
  have htrailing : (trade.atState s h).position.trailingStop = s.trailingStop := rfl
  have htargets : (trade.atState s h).position.takeProfitLevels = trade.position.takeProfitLevels :=
    rfl
  simp only [evaluateLongExit, protectiveOrTargetExit, fastExit, hstop, htrailing, htargets]
  by_cases hlow : candle.low ≤ max trade.position.stopLoss s.trailingStop
  · rw [if_pos hlow, if_pos hlow]
    split_ifs <;> rfl
  · rw [if_neg hlow, if_neg hlow]
    split_ifs <;> rfl

/-- One candle of the fast replay. -/
lemma singleTargetLoop_cons [UnicodeData] (rest : List OHLCVCandle) :
    config.singleTargetLoop a last trade
        (trade.position.takeProfitLevels.head trade.position.targets_gt.1)
        (triggerThreshold a trade) (config.trailingDistance a trade) s (candle :: rest) =
      match fastExit trade candle (heldState a trade candle s) with
      | some exit => config.closeSingleTargetCounterfactual a trade candle exit.reason
          exit.referencePrice (heldState a trade candle s)
      | none => config.singleTargetLoop a last trade
          (trade.position.takeProfitLevels.head trade.position.targets_gt.1)
          (triggerThreshold a trade) (config.trailingDistance a trade)
          (config.nextState a trade candle (heldState a trade candle s)) rest := by
  rw [singleTargetLoop]
  by_cases hlow : candle.low ≤ max trade.position.stopLoss s.trailingStop
  · have hexit : fastExit trade candle (heldState a trade candle s) = _ := if_pos hlow
    rw [hexit]
    exact if_pos hlow
  · by_cases htarget : trade.position.takeProfitLevels.head trade.position.targets_gt.1 ≤ candle.high
    · have hexit : fastExit trade candle (heldState a trade candle s) = _ :=
        (if_neg hlow).trans (if_pos htarget)
      rw [hexit]
      exact (if_neg hlow).trans (if_pos htarget)
    · by_cases htime : trade.intent.maximumHoldingBars.any (· < s.barsHeld + 1) = true
      · have hexit : fastExit trade candle (heldState a trade candle s) = _ :=
          (if_neg hlow).trans ((if_neg htarget).trans (if_pos htime))
        rw [hexit]
        exact (if_neg hlow).trans ((if_neg htarget).trans (if_pos htime))
      · have hexit : fastExit trade candle (heldState a trade candle s) = _ :=
          (if_neg hlow).trans ((if_neg htarget).trans (if_neg htime))
        rw [hexit]
        exact (if_neg hlow).trans ((if_neg htarget).trans (if_neg htime))

/-- One candle of the general replay of a trade with one target. -/
lemma generalCandle_eq [UnicodeData] (hone : trade.position.takeProfitLevels.length = 1)
    (h : 0 < s.trailingStop) (hheld : 0 < (heldState a trade candle s).trailingStop) :
    config.generalCandle a (trade.atState s h) candle =
      match fastExit trade candle (heldState a trade candle s) with
      | some exit => .inr <$> config.closeTrade a (trade.atState (heldState a trade candle s) hheld)
          candle exit.reason exit.referencePrice
      | none => .ok (.inl (trade.atState
          (config.nextState a trade candle (heldState a trade candle s)) (nextState_pos hheld))) := by
  have hhold : holdCandle a (trade.atState s h) candle =
      trade.atState (heldState a trade candle s) hheld := rfl
  have hexit : evaluateLongExit (trade.atState (heldState a trade candle s) hheld).intent
      (trade.atState (heldState a trade candle s) hheld).position candle
      (trade.atState (heldState a trade candle s) hheld).barsHeld =
        fastExit trade candle (heldState a trade candle s) :=
    evaluateLongExit_eq hheld
  rw [generalCandle, hhold, hexit]
  cases fastExit trade candle (heldState a trade candle s) with
  | some exit =>
    have hlast : ¬ (exit.reason = .target ∧ 1 <
        (trade.atState (heldState a trade candle s) hheld).position.takeProfitLevels.length) := by
      rintro ⟨-, hlt⟩
      have hlength : trade.position.takeProfitLevels.length ≤ 1 := hone.le
      exact absurd hlt (not_lt.mpr hlength)
    rw [applyExit, if_neg hlast]
    rfl
  | none =>
    rw [applyExit, endCandle_eq, ok_bind]
    rfl

/-- From any state the general replay of a trade with one target closes it as the
fast replay does. -/
theorem generalLoop_eq [UnicodeData] (hone : trade.position.takeProfitLevels.length = 1)
    (candles : List OHLCVCandle) (s : SingleTargetState) (h : 0 < s.trailingStop) :
    config.generalLoop a last (trade.atState s h) candles =
      config.singleTargetLoop a last trade
        (trade.position.takeProfitLevels.head trade.position.targets_gt.1)
        (triggerThreshold a trade) (config.trailingDistance a trade) s candles := by
  induction candles generalizing s with
  | nil => rw [generalLoop, singleTargetLoop, closeSingleTargetCounterfactual_eq h]
  | cons candle rest ih =>
    have hheld : 0 < (heldState a trade candle s).trailingStop := h
    rw [singleTargetLoop_cons, generalLoop, generalCandle_eq hone h hheld]
    cases fastExit trade candle (heldState a trade candle s) with
    | some exit =>
      dsimp only
      rw [closeSingleTargetCounterfactual_eq hheld]
      cases config.closeTrade a (trade.atState (heldState a trade candle s) hheld) candle exit.reason
          exit.referencePrice with
      | ok record => rfl
      | error e => rfl
    | none =>
      dsimp only
      rw [ok_bind]
      exact ih _ _

/-- A trade is opened for the targets of its signal, with nothing counted yet. -/
lemma openTrade_spec {intent : BacktestIntent} (h : config.openTrade a intent candle = .ok trade) :
    trade.position.takeProfitLevels = intent.targets ∧
      trade = trade.atState { trailingStop := trade.position.trailingStop }
        trade.position.values_pos.2.2.2 := by
  simp only [openTrade, bind_eq_ok, pure_eq_ok] at h
  obtain ⟨fill, -, entry, -, position, hposition, rfl⟩ := h
  refine ⟨?_, rfl⟩
  rw [PaperPosition.create] at hposition
  split_ifs at hposition
  obtain rfl := Except.ok.inj hposition
  rfl

/-! ### A sample replay -/

/-- The default assumptions. -/
def sampleConfig : BacktestConfig where
  quantity_pos := default_quantity
  fee_bounds := default_fee
  slippage_bounds := default_slippage
  trailing_pos := default_trailing
  tick_pos := default_step
  step_pos := default_step

lemma sampleTrigger_pos : ∀ r ∈ some (1 : ℚ), 0 < r := by simp

/-- A signal with a break-even trigger. -/
def sampleIntent : BacktestIntent where
  signalId := "s1"
  timestamp := 0
  stopLoss := 90
  takeProfit := 130
  atr := 4
  breakevenTriggerR := some 1
  prices_pos := by norm_num
  levels_sorted := by simp
  ratio_bounds := BacktestIntent.default_ratio
  breakeven_pos := sampleTrigger_pos
  trailing_pos := BacktestIntent.default_trigger
  holding_pos := BacktestIntent.default_holding
  funnel_ok := BacktestIntent.default_funnel

lemma rise_nonneg : (0 : ℚ) ≤ 100 ∧ (0 : ℚ) ≤ 116 ∧ (0 : ℚ) ≤ 99 ∧ (0 : ℚ) ≤ 115 ∧ (0 : ℚ) ≤ 10 := by
  norm_num

lemma rise_low_le_high : (99 : ℚ) ≤ 116 := by norm_num

lemma rise_max_le_high : max (100 : ℚ) 115 ≤ 116 := by norm_num

lemma rise_low_le_min : (99 : ℚ) ≤ min 100 115 := by norm_num

/-- A candle that rises by 15 and one that gives all of it back. -/
def sampleCandles : List OHLCVCandle :=
  [{ timestamp := 60000000, «open» := 100, high := 116, low := 99, close := 115, volume := 10
     nonneg := rise_nonneg, low_le_high := rise_low_le_high, max_le_high := rise_max_le_high
     low_le_min := rise_low_le_min },
    { timestamp := 120000000, «open» := 114, high := 115, low := 99, close := 100, volume := 10
      nonneg := by norm_num, low_le_high := by norm_num, max_le_high := by norm_num
      low_le_min := by norm_num }]

end BacktestConfig

end Ai4Binance

/-
The holding limit of a signal in the two backtest engines
(`research/backtesting/exit_engine.py`, `research/backtesting/futures_engine.py`).

Both engines count the candles of a trade from that of its entry on.  The Futures engine closes
it on the candle that makes the count reach the limit, the Spot engine on the one that makes it
pass the limit.

* `Held.barsHeld_eq`: the count of an open trade is the number of its candles;
* `KeepsLimit`: the open trades of a run have fewer candles than their limits;
* `FuturesRunConfig.keepsLimit`: every Futures run keeps the limits;
* `Taken`, `generalCandle_at_limit`: what closes a Spot trade on the candle of its limit;
* `holding_limit_law`: **the holding limit**: when a Spot run keeps it.
-/
import Ai4Binance.Backtesting.SpotConservation
import Ai4Binance.Backtesting.TradeLife

open Text Check

namespace Ai4Binance

/-! ### Futures -/

/-- A trade that a bar does not close is below its limit. -/
lemma FuturesTrade.below_limit {trade : FuturesTrade} {bar : ReplayCandle}
    (h : trade.exitDecision bar = none) :
    ∀ m ∈ trade.intent.maximumHoldingBars, trade.barsHeld < m := by
  have htime : trade.exitLoopTrade.timeExit bar.candle = none := by
    rw [exitDecision, OpenFuturesTrade.exitDecision] at h
    split at h <;> split_ifs at h <;> exact h
  intro m hm
  by_contra hlimit
  have hreached : trade.exitLoopTrade.intent.maximumHoldingBars.any
      (· ≤ trade.exitLoopTrade.barsHeld) = true := by
    have hsome : trade.exitLoopTrade.intent.maximumHoldingBars = some m := hm
    rw [hsome]
    exact decide_eq_true (not_lt.mp hlimit)
  rw [OpenFuturesTrade.timeExit, if_pos hreached] at htime
  cases htime

namespace FuturesRunConfig

variable {config : FuturesRunConfig} {a : Arithmetic} {dataset : RuntimeFuturesReplayDataset}
  {signal : FuturesSignal} {first : ReplayCandle} {bars : List ReplayCandle} {trade : FuturesTrade}

/-- The count of an open trade is the number of its bars, which is below its limit. -/
lemma Held.barsHeld_eq (h : config.Held a dataset signal first bars trade) :
    trade.intent = signal ∧ trade.barsHeld = bars.length ∧
      ∀ m ∈ trade.intent.maximumHoldingBars, bars.length < m := by
  induction h with
  | opened hfree h =>
    simp only [openTrade, bind_eq_ok, pure_eq_ok] at h
    obtain ⟨fill, -, entry, -, liquidation, -, rfl⟩ := h
    exact ⟨rfl, rfl, signal.holding_pos⟩
  | @held bars trade next bar before h hstay ih =>
    obtain ⟨hintent, hcount, -⟩ := ih
    have hnext : next.barsHeld = (bars ++ [bar]).length := by
      rw [holdBar_barsHeld h, hcount, List.length_append, List.length_singleton]
    refine ⟨(holdBar_keeps h).intent_eq.trans hintent, hnext, ?_⟩
    rw [← hnext]
    exact FuturesTrade.below_limit hstay
  | ignored before ih => exact ih

variable [UnicodeData] [CanonicalDigest RuntimeFuturesReplayDataset]
  {provider : FuturesSignalProvider} {whole : List ReplayCandle} {s : FuturesRun} {k : ℕ}

/-- After each of the first `k` bars an open trade has fewer bars behind it, from that of its
entry on, than its limit. -/
def KeepsLimit (config : FuturesRunConfig) (a : Arithmetic) (dataset : RuntimeFuturesReplayDataset)
    (provider : FuturesSignalProvider) (whole : List ReplayCandle) (k : ℕ) : Prop :=
  ∀ j s trade, j ≤ k → config.afterBars a dataset provider whole j = .ok s →
    s.openTrade = some trade → ∃ first bars,
      config.Held a dataset trade.intent first bars trade ∧ bars.head? = some first ∧
      bars <:+ whole.take j ∧ ∀ m ∈ trade.intent.maximumHoldingBars, bars.length < m

/-- Every Futures run keeps the limits. -/
lemma keepsLimit : config.KeepsLimit a dataset provider whole k := by
  intro j s trade _ hs hopen
  obtain ⟨signal, first, bars, hheld, hhead, hsuffix⟩ := run_held hs trade hopen
  obtain ⟨rfl, -, hlimit⟩ := hheld.barsHeld_eq
  exact ⟨first, bars, hheld, hhead, hsuffix, hlimit⟩

end FuturesRunConfig

/-! ### Spot -/

/-- A candle reaches the stop of a position, or the last of its targets. -/
def PaperPosition.Taken (position : PaperPosition) (candle : OHLCVCandle) : Prop :=
  candle.low ≤ max position.stopLoss position.trailingStop ∨
    ∃ target, position.takeProfitLevels = [target] ∧ target ≤ candle.high

namespace BacktestConfig

variable {config : BacktestConfig} {a : Arithmetic} {intent : BacktestIntent}
  {first candle : OHLCVCandle} {bars : List OHLCVCandle} {trade : OpenTrade}

/-- Above the stop and within the limit only the first target is left. -/
lemma evaluateLongExit_within {position : PaperPosition} {barsHeld m : ℕ}
    (hstop : ¬ candle.low ≤ max position.stopLoss position.trailingStop)
    (hlimit : intent.maximumHoldingBars = some m) (hle : barsHeld ≤ m) :
    evaluateLongExit intent position candle barsHeld =
      if position.takeProfitLevels.head position.targets_gt.1 ≤ candle.high then
        some ⟨.target, position.takeProfitLevels.head position.targets_gt.1⟩
      else none := by
  have htime : ¬ intent.maximumHoldingBars.any (· < barsHeld) = true := by
    rw [hlimit]
    simpa using hle
  rw [evaluateLongExit, protectiveOrTargetExit, if_neg hstop, if_neg htime]
  dsimp only
  split_ifs <;> rfl

variable [UnicodeData]

/-- The count of an open trade is the number of its candles. -/
lemma Held.barsHeld_eq (h : config.Held a intent first bars trade) :
    trade.intent = intent ∧ trade.barsHeld = bars.length := by
  induction h with
  | opened h =>
    simp only [openTrade, bind_eq_ok, pure_eq_ok] at h
    obtain ⟨fill, -, entry, -, position, -, rfl⟩ := h
    exact ⟨rfl, rfl⟩
  | held before h ih =>
    obtain ⟨hintent, hcount⟩ := ih
    have hnext := generalCandle_survives h
    refine ⟨hnext.intent_eq.trans hintent, ?_⟩
    rw [hnext.barsHeld_eq, hcount, List.length_append, List.length_singleton]
  | ignored before ih => exact ih

/-- **The candle of the limit**: the Spot replay closes a trade on it exactly if the candle takes
the trade. -/
lemma generalCandle_at_limit (hlimit : trade.intent.maximumHoldingBars = some (trade.barsHeld + 1))
    {outcome : OpenTrade ⊕ TradeRecord} (h : config.generalCandle a trade candle = .ok outcome) :
    outcome.isRight ↔ trade.position.Taken candle := by
  by_cases hstop : candle.low ≤ max trade.position.stopLoss trade.position.trailingStop
  · refine iff_of_true ?_ (.inl hstop)
    cases outcome with
    | inl next => exact absurd (generalCandle_survives h).stop_lt (not_lt.mpr hstop)
    | inr record => rfl
  · have hexit := evaluateLongExit_within hstop hlimit le_rfl
    rw [generalCandle] at h
    dsimp only [holdCandle, updateExcursions] at h
    rw [hexit] at h
    set target := trade.position.takeProfitLevels.head trade.position.targets_gt.1 with htarget
    by_cases hhigh : target ≤ candle.high
    · rw [if_pos hhigh, applyExit] at h
      by_cases hmore : 1 < trade.position.takeProfitLevels.length
      · -- a target that is not the last one is a staged exit
        rw [if_pos ⟨rfl, hmore⟩] at h
        simp only [bind_eq_ok, pure_eq_ok] at h
        obtain ⟨_, -, _, -, rfl⟩ := h
        refine iff_of_false (by simp) ?_
        rintro (hlow | ⟨last, hone, -⟩)
        · exact hstop hlow
        · rw [hone] at hmore
          exact absurd hmore (by simp)
      · rw [if_neg (fun hstaged => hmore hstaged.2)] at h
        simp only [bind_eq_ok, pure_eq_ok] at h
        obtain ⟨_, -, rfl⟩ := h
        obtain ⟨last, hone⟩ := List.length_eq_one_iff.mp (le_antisymm (not_lt.mp hmore)
          (List.length_pos_iff.mpr trade.position.targets_gt.1))
        have hlast : target = last := by simp only [htarget, hone, List.head_cons]
        exact iff_of_true rfl (.inr ⟨last, hone, hlast ▸ hhigh⟩)
    · rw [if_neg hhigh, applyExit] at h
      simp only [bind_eq_ok, pure_eq_ok] at h
      obtain ⟨_, -, rfl⟩ := h
      refine iff_of_false (by simp) ?_
      rintro (hlow | ⟨last, hone, hreached⟩)
      · exact hstop hlow
      · refine hhigh ?_
        rw [htarget]
        simp only [hone, List.head_cons]
        exact hreached

end BacktestConfig

namespace SpotBacktestConfig

variable {config : SpotBacktestConfig} {a : Arithmetic} {candle : OHLCVCandle}
  {s t entered : SpotRun} {symbol timeframe : String} {provider : SignalProvider}
  {candles : List OHLCVCandle} {index k : ℕ} {trade : OpenTrade}

/-- A trade that is open on a candle was open before it, or has no candle yet. -/
lemma enterPending_open (h : config.enterPending a index candle s = .ok entered)
    (hopen : entered.openTrade = some trade) :
    s.openTrade = some trade ∨ trade.barsHeld = 0 := by
  rw [enterPending] at h
  split at h
  · rename_i pending hpending hnone
    simp only [bind_eq_ok] at h
    obtain ⟨blockers, -, h⟩ := h
    split_ifs at h
    · obtain rfl := pure_eq_ok.mp h
      exact .inl hopen
    · simp only [bind_eq_ok, pure_eq_ok] at h
      obtain ⟨opened, hopened, rfl⟩ := h
      obtain rfl := Option.some.inj hopen
      simp only [BacktestConfig.openTrade, bind_eq_ok, pure_eq_ok] at hopened
      obtain ⟨fill, -, entry, -, position, -, rfl⟩ := hopened
      exact .inr rfl
  · obtain rfl := pure_eq_ok.mp h
    exact .inl hopen

variable [UnicodeData] [LowerCase]

/-- After each of the first `k` candles, unless it is the last one, an open trade has fewer candles
behind it, from that of its entry on, than its limit.  On the last candle the run closes every
trade. -/
def KeepsLimit (config : SpotBacktestConfig) (a : Arithmetic) (symbol timeframe : String)
    (provider : SignalProvider) (candles : List OHLCVCandle) (k : ℕ) : Prop :=
  ∀ j s trade, j ≤ k → j < candles.length →
    config.afterBars a symbol timeframe provider candles j = .ok s →
    s.openTrade = some trade → ∃ first bars,
      config.Held a trade.intent first bars trade ∧ bars.head? = some first ∧
      bars <:+ candles.take j ∧ ∀ m ∈ trade.intent.maximumHoldingBars, bars.length < m

/-- Each of the first `k` candles that is the last one that the limit of a trade allows takes
the trade, unless the data ends with it. -/
def TakenAtLimit (config : SpotBacktestConfig) (a : Arithmetic) (symbol timeframe : String)
    (provider : SignalProvider) (candles : List OHLCVCandle) (k : ℕ) : Prop :=
  ∀ j candle s entered trade, j < k → j + 1 < candles.length → candles[j]? = some candle →
    config.afterBars a symbol timeframe provider candles j = .ok s →
    config.enterPending a j candle s = .ok entered → entered.openTrade = some trade →
    trade.intent.maximumHoldingBars = some (trade.barsHeld + 1) → trade.position.Taken candle

/-- The limits are kept by the counts. -/
lemma keepsLimit_iff : config.KeepsLimit a symbol timeframe provider candles k ↔
    ∀ j s trade, j ≤ k → j < candles.length →
      config.afterBars a symbol timeframe provider candles j = .ok s →
      s.openTrade = some trade → ∀ m ∈ trade.intent.maximumHoldingBars, trade.barsHeld < m := by
  constructor
  · intro h j s trade hj hlast hs hopen
    obtain ⟨first, bars, hheld, -, -, hlimit⟩ := h j s trade hj hlast hs hopen
    rw [hheld.barsHeld_eq.2]
    exact hlimit
  · intro h j s trade hj hlast hs hopen
    obtain ⟨intent, first, bars, hheld, hhead, hsuffix⟩ := run_held hs trade hopen
    obtain ⟨rfl, hcount⟩ := hheld.barsHeld_eq
    exact ⟨first, bars, hheld, hhead, hsuffix, hcount ▸ h j s trade hj hlast hs hopen⟩

/-- The provider of a run moves neither the signal nor the count of the open trade. -/
lemma consultProvider_count
    (h : consultProvider symbol timeframe provider candles index candle s = .ok t) :
    t.openTrade.map (fun trade => (trade.intent, trade.barsHeld)) =
      s.openTrade.map fun trade => (trade.intent, trade.barsHeld) := by
  simp only [consultProvider, bind_eq_ok] at h
  obtain ⟨answer, -, h⟩ := h
  cases answer with
  | none =>
    obtain rfl := pure_eq_ok.mp h
    rfl
  | some intent =>
    simp only [takeSignal, bind_eq_ok] at h
    obtain ⟨observationId, -, h⟩ := h
    split_ifs at h
    · obtain rfl := pure_eq_ok.mp h
      rw [Option.map_map]
      rfl
    · obtain rfl := pure_eq_ok.mp h
      rfl

/-- **A candle of a run**: the trade that is open on it stays open, one candle older, exactly if
the replay leaves it open. -/
lemma barStep_count (hentered : config.enterPending a index candle s = .ok entered)
    (hopen : entered.openTrade = some trade)
    (h : config.barStep a symbol timeframe provider candles index candle s = .ok t) :
    ∃ outcome, config.generalCandle a trade candle = .ok outcome ∧
      t.openTrade.map (fun trade => (trade.intent, trade.barsHeld)) =
        if outcome.isRight then none else some (trade.intent, trade.barsHeld + 1) := by
  rw [barStep, hentered, ok_bind, bind_eq_ok] at h
  obtain ⟨managed, hmanaged, h⟩ := h
  rw [consultProvider_count h]
  rcases manageOpenTrade_step hopen hmanaged with
    ⟨next, hnext, hstill, -⟩ | ⟨record, hrecord, hnone, -⟩
  · have hsame := BacktestConfig.generalCandle_survives hnext
    refine ⟨_, hnext, ?_⟩
    simp [markEquity, hstill, hsame.intent_eq, hsame.barsHeld_eq]
  · refine ⟨_, hrecord, ?_⟩
    simp [markEquity, hnone]

/-- A candle on which no trade is open leaves none open. -/
lemma barStep_none (hentered : config.enterPending a index candle s = .ok entered)
    (hnone : entered.openTrade = none)
    (h : config.barStep a symbol timeframe provider candles index candle s = .ok t) :
    t.openTrade = none := by
  rw [barStep, hentered, ok_bind, bind_eq_ok] at h
  obtain ⟨managed, hmanaged, h⟩ := h
  have hcount := consultProvider_count h
  rw [manageOpenTrade, hnone] at hmanaged
  obtain rfl := pure_eq_ok.mp hmanaged
  simpa [markEquity, hnone] using hcount

/-- **The limits of a Spot run**: it keeps them exactly if the candles of the limits take the
trades. -/
lemma keepsLimit_iff_taken (h : config.afterBars a symbol timeframe provider candles k = .ok s) :
    config.KeepsLimit a symbol timeframe provider candles k ↔
      config.TakenAtLimit a symbol timeframe provider candles k := by
  rw [keepsLimit_iff]
  constructor
  · intro hkeeps j candle before entered trade hj hlast hcandle hbefore hentered hopen hlimit
    obtain ⟨after, hafter⟩ := Loop.exists_after_of_le h (Nat.succ_le_of_lt hj)
    have hstep :
        config.barStep a symbol timeframe provider candles j candle before = .ok after := by
      rw [afterBars] at hbefore
      rwa [Loop.after_succ hcandle, hbefore, ok_bind] at hafter
    obtain ⟨outcome, houtcome, hcount⟩ := barStep_count hentered hopen hstep
    rw [← BacktestConfig.generalCandle_at_limit hlimit houtcome]
    by_contra hstays
    rw [if_neg hstays] at hcount
    obtain ⟨older, holder, hsame⟩ := Option.map_eq_some_iff.mp hcount
    obtain ⟨hintent, hbars⟩ := Prod.mk.inj hsame
    have hlt := hkeeps (j + 1) after older hj hlast hafter holder (trade.barsHeld + 1)
      (by rw [hintent, hlimit]; rfl)
    omega
  · intro htaken j
    induction j with
    | zero =>
      intro s trade _ _ hs hopen
      obtain rfl := Except.ok.inj hs
      cases hopen
    | succ j ih =>
      intro after older hj hends hafter holder m hm
      cases hcandle : candles[j]? with
      | none =>
        rw [afterBars, Loop.after_succ_of_none hcandle] at hafter
        exact ih after older (by omega) (by omega) hafter holder m hm
      | some candle =>
        rw [afterBars, Loop.after_succ hcandle, bind_eq_ok] at hafter
        obtain ⟨before, hbefore, hstep⟩ := hafter
        have hentered := hstep
        rw [barStep, bind_eq_ok] at hentered
        obtain ⟨entered, hentered, -⟩ := hentered
        cases hopen : entered.openTrade with
        | none =>
          rw [barStep_none hentered hopen hstep] at holder
          cases holder
        | some trade =>
          obtain ⟨outcome, houtcome, hcount⟩ := barStep_count hentered hopen hstep
          rw [holder, Option.map_some] at hcount
          split_ifs at hcount with hclosed
          obtain ⟨hintent, hbars⟩ := Prod.mk.inj (Option.some.inj hcount)
          rw [hintent] at hm
          -- before the candle the trade is below its limit
          have hbelow : trade.barsHeld < m := by
            rcases enterPending_open hentered hopen with hbefore' | hnew
            · exact ih before trade (by omega) (by omega) hbefore hbefore' m hm
            · have hpos := trade.intent.holding_pos m hm
              omega
          have hlast : m ≠ trade.barsHeld + 1 := by
            intro hlast
            have hlimit : trade.intent.maximumHoldingBars = some (trade.barsHeld + 1) :=
              hlast ▸ hm
            exact hclosed ((BacktestConfig.generalCandle_at_limit hlimit houtcome).mpr
              (htaken j candle before entered trade hj hends hcandle hbefore hentered hopen hlimit))
          omega

end SpotBacktestConfig

/-! ### Both engines -/

/-- **The holding limit**: as long as there is a further candle, a Spot run closes each trade on the
last candle that its limit allows exactly if these candles take the trades, and a Futures run
always does. -/
theorem holding_limit_law [UnicodeData] [LowerCase] [CanonicalDigest RuntimeFuturesReplayDataset]
    {config : SpotBacktestConfig} {a : Arithmetic} {symbol timeframe : String}
    {provider : SignalProvider} {candles : List OHLCVCandle} {k : ℕ} {s : SpotRun}
    (h : config.afterBars a symbol timeframe provider candles k = .ok s) :
    (config.KeepsLimit a symbol timeframe provider candles k ↔
      config.TakenAtLimit a symbol timeframe provider candles k) ∧
    ∀ (futures : FuturesRunConfig) (dataset : RuntimeFuturesReplayDataset)
      (signals : FuturesSignalProvider) (bars : List ReplayCandle) (n : ℕ),
      futures.KeepsLimit a dataset signals bars n :=
  ⟨SpotBacktestConfig.keepsLimit_iff_taken h, fun _ _ _ _ _ => FuturesRunConfig.keepsLimit⟩

/-! ### A trade that outstays its limit -/

namespace SpotBacktestConfig

/-- A signal at a close of 100, whose trade may be held for one candle. -/
def oneCandleProvider : SignalProvider := fun history =>
  match history.getItem (-1) with
  | .ok candle => .ok (if candle.close = 100 then
      some { BacktestConfig.sampleIntent with
        timestamp := candle.timestamp
        maximumHoldingBars := some 1
        holding_pos := by simp }
      else none)
  | .error _ => .ok none

/-- The candle of the signal, that of the entry, which reaches neither stop nor target, and one
more. -/
def quietCandles : List OHLCVCandle :=
  [minuteCandle 0 100 101 99 100 flatRange, minuteCandle 1 100 104 99 103 (by norm_num),
    minuteCandle 2 103 105 102 104 (by norm_num)]

/-- After its first candle the trade is open, with a limit of one. -/
lemma quiet_run : ∃ s trade,
    defaultConfig.afterBars .decimal "BTCUSDT" "1m" oneCandleProvider quietCandles 2 = .ok s ∧
    s.openTrade = some trade ∧ trade.intent.maximumHoldingBars = some 1 ∧ trade.barsHeld = 1 := by
  have hrun : ((defaultConfig.afterBars .decimal "BTCUSDT" "1m" oneCandleProvider quietCandles
      2).toOption.bind fun s => s.openTrade.map fun trade =>
        (trade.intent.maximumHoldingBars, trade.barsHeld)) = some (some 1, 1) := by
    decide +kernel
  obtain ⟨s, hs, hopen⟩ := Option.bind_eq_some_iff.mp hrun
  obtain ⟨trade, htrade, hsame⟩ := Option.map_eq_some_iff.mp hopen
  obtain ⟨hlimit, hcount⟩ := Prod.mk.inj hsame
  exact ⟨s, trade, toOption_eq_some.mp hs, htrade, hlimit, hcount⟩

/-- The trade is held past the only candle that its limit allows. -/
theorem quiet_run_outstays : ∃ s,
    defaultConfig.afterBars .decimal "BTCUSDT" "1m" oneCandleProvider quietCandles 2 = .ok s ∧
    ¬ defaultConfig.KeepsLimit .decimal "BTCUSDT" "1m" oneCandleProvider quietCandles 2 := by
  obtain ⟨s, trade, hs, hopen, hlimit, hcount⟩ := quiet_run
  refine ⟨s, hs, fun hkeeps => ?_⟩
  have hlt := keepsLimit_iff.mp hkeeps 2 s trade le_rfl (by simp [quietCandles]) hs hopen 1 hlimit
  omega

/-- Its candle does not take it. -/
theorem quiet_run_not_taken :
    ¬ defaultConfig.TakenAtLimit .decimal "BTCUSDT" "1m" oneCandleProvider quietCandles 2 := by
  obtain ⟨s, trade, hs, hopen, hlimit, hcount⟩ := quiet_run
  intro htaken
  let _ := CanonicalDigest.const RuntimeFuturesReplayDataset
  have hkeeps := (holding_limit_law hs).1.mpr htaken
  have hlt := keepsLimit_iff.mp hkeeps 2 s trade le_rfl (by simp [quietCandles]) hs hopen 1 hlimit
  omega

end SpotBacktestConfig

end Ai4Binance

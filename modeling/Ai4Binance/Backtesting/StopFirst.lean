/-
Stop and liquidation of a Futures trade without a mark path
(`research/backtesting/futures_engine.py`).

An entry is admitted only if its stop lies between its entry price and its liquidation price.
Without a mark path the liquidation price stays what it was at the entry, so that a bar that
liquidates the trade has gone through the stop before.

* `Beyond`, `ReachesStop`: the two sides of a price, by the direction of the trade;
* `stop_of_admitted`: the stop of an admitted entry lies before its liquidation price;
* `Held.stop_of_admitted`: the candles after the entry leave both where they are;
* `StopFirst`, `stop_before_liquidation`: **stop before liquidation**, on every bar of every
  run and replay.
-/
import Ai4Binance.Backtesting.TradeLife

open Text Check

namespace Ai4Binance

/-! ### Prices by the direction of a trade -/

/-- A price lies beyond another one, on the side on which the trade loses. -/
def TradeDirection.Beyond : TradeDirection → ℚ → ℚ → Prop
  | .long, limit, price => price < limit
  | .short, limit, price => limit < price

/-- A candle trades at a stop or through it. -/
def TradeDirection.ReachesStop : TradeDirection → ℚ → OHLCVCandle → Prop
  | .long, stopLoss, candle => candle.low ≤ stopLoss
  | .short, stopLoss, candle => stopLoss ≤ candle.high

/-- What an exit of a trade owes to its stop: a liquidation has gone through the stop, and on a
candle that opens on the safe side of the liquidation price neither exit is beyond it. -/
structure StopFirst (direction : TradeDirection) (stopLoss liquidation : ℚ)
    (candle : OHLCVCandle) (decision : ExitDecision) : Prop where
  reaches : decision.reason = .liquidation → direction.ReachesStop stopLoss candle
  not_beyond : ¬ direction.Beyond liquidation candle.open →
    decision.reason = .liquidation ∨ decision.reason = .hardStop →
    ¬ direction.Beyond liquidation decision.referencePrice

/-! ### Admission -/

namespace FuturesRunConfig

variable {config : FuturesRunConfig} {a : Arithmetic} {dataset : RuntimeFuturesReplayDataset}
  {signal : FuturesSignal} {first bar : ReplayCandle} {bars : List ReplayCandle}
  {trade held next : FuturesTrade} {decision : ExitDecision} {availableCash : ℚ}

/-- A fill without blockers is a fill of something. -/
lemma entryFill_pos {candle : OHLCVCandle} {fill : BacktestConfig.EntryFill}
    (hfill : config.entryFill candle = .ok fill) (hfree : config.entryFillBlockers candle = .ok []) :
    0 < fill.filledQuantity := by
  simp only [BacktestConfig.entryFill, bind_eq_ok] at hfill
  simp only [SpotBacktestConfig.entryFillBlockers, bind_eq_ok] at hfree
  obtain ⟨requested, hrequested, hfill⟩ := hfill
  obtain ⟨requested', hrequested', hfree⟩ := hfree
  obtain rfl := Except.ok.inj (hrequested.symm.trans hrequested')
  by_cases hzero : requested ≤ 0
  · rw [if_pos hzero] at hfree
    exact absurd (pure_eq_ok.mp hfree) (by simp)
  · rw [if_neg hzero] at hfill hfree
    cases hstress : config.liquidityStress with
    | none =>
      rw [hstress] at hfill
      obtain rfl := pure_eq_ok.mp hfill
      exact not_le.mp hzero
    | some stress =>
      simp only [hstress, bind_eq_ok] at hfill hfree
      obtain ⟨assessed, hassessed, rounded, hrounded, hfill⟩ := hfill
      obtain ⟨assessed', hassessed', rounded', hrounded', hfree⟩ := hfree
      obtain rfl := Except.ok.inj (hassessed.symm.trans hassessed')
      obtain rfl := Except.ok.inj (hrounded.symm.trans hrounded')
      obtain rfl := pure_eq_ok.mp hfill
      dsimp only
      split_ifs at hfree ⊢ with hnone
      · have hnil := pure_eq_ok.mp hfree
        rw [Check.eraseDups_eq_nil] at hnil
        exact absurd hnil (by simp)
      · exact not_le.mp hnone

/-- **The gate of the entry**: the stop of an admitted entry is not beyond the liquidation price
that the trade is opened with. -/
lemma stop_of_admitted (hfree : config.entryBlockers a signal first availableCash = .ok [])
    (hopen : config.openTrade a signal first.candle = .ok trade) :
    trade.intent = signal ∧ ¬ StopBeyond signal trade.liquidationPrice := by
  simp only [openTrade, bind_eq_ok, pure_eq_ok] at hopen
  obtain ⟨fill, hfill, entry, hentry, liquidation, hliquidation, rfl⟩ := hopen
  refine ⟨rfl, ?_⟩
  simp only [entryBlockers, bind_eq_ok] at hfree
  obtain ⟨fill', hfill', fillBlockers, hfillBlockers, entry', hentry', hfree⟩ := hfree
  obtain rfl := Except.ok.inj (hfill.symm.trans hfill')
  obtain rfl := Except.ok.inj (hentry.symm.trans hentry')
  split_ifs at hfree with hnonpos hblocked
  · exact absurd (pure_eq_ok.mp hfree) (by simp)
  · -- a blocked entry is not admitted, and an empty fill is blocked
    have hnil := pure_eq_ok.mp hfree
    rw [Check.eraseDups_eq_nil] at hnil
    rcases hblocked with ⟨-, hblockers⟩ | hempty
    · exact absurd hnil hblockers
    · obtain ⟨rfl, -⟩ := List.append_eq_nil_iff.mp hnil
      exact absurd (entryFill_pos hfill hfillBlockers) (not_lt.mpr hempty)
  · simp only [bind_eq_ok, pure_eq_ok] at hfree
    obtain ⟨liquidation', hliquidation', hnil⟩ := hfree
    obtain rfl := Except.ok.inj (hliquidation.symm.trans hliquidation')
    rw [Check.eraseDups_eq_nil, List.append_eq_nil_iff,
      blockerWhen_eq_nil] at hnil
    exact hnil.2

/-! ### The liquidation price of an open trade -/

/-- A bar without a mark candle leaves the liquidation price of a trade. -/
lemma holdBar_liquidationPrice (hbar : bar.markCandle = none)
    (h : config.holdBar a dataset trade bar = .ok next) :
    next.liquidationPrice = trade.liquidationPrice := by
  simp only [holdBar, bind_eq_ok, pure_eq_ok, fundBar, hbar, Except.ok.injEq] at h
  obtain ⟨funded, rfl, rfl⟩ := h
  have hmoved : trade.Funded (trade.applyFunding a dataset.fundingPoints bar.candle.timestamp) :=
    FuturesTrade.applyFunding_funded _
  obtain ⟨_, _, _, heq⟩ := hmoved
  change (trade.applyFunding a dataset.fundingPoints bar.candle.timestamp).liquidationPrice = _
  rw [heq]

/-- Without mark candles an open trade keeps its stop before its liquidation price. -/
lemma Held.stop_of_admitted (h : config.Held a dataset signal first bars trade)
    (hbars : ∀ bar ∈ bars, bar.markCandle = none) :
    trade.intent = signal ∧ ¬ StopBeyond signal trade.liquidationPrice := by
  induction h with
  | opened hfree h => exact FuturesRunConfig.stop_of_admitted hfree h
  | @held bars trade next bar before h hstay ih =>
    obtain ⟨hintent, hstop⟩ := ih fun bar' hbar' => hbars bar' (List.mem_append_left _ hbar')
    refine ⟨(holdBar_keeps h).intent_eq.trans hintent, ?_⟩
    rwa [holdBar_liquidationPrice (hbars bar (by simp)) h]
  | ignored before ih => exact ih hbars

end FuturesRunConfig

/-! ### The exits of a trade -/

/-- An exit that is neither a liquidation nor a stop owes nothing. -/
lemma StopFirst.of_other {direction : TradeDirection} {stopLoss liquidation : ℚ}
    {candle : OHLCVCandle} {decision : ExitDecision}
    (hne : decision.reason ≠ .liquidation ∧ decision.reason ≠ .hardStop) :
    StopFirst direction stopLoss liquidation candle decision :=
  ⟨fun hreason => absurd hreason hne.1, fun _ hreason => absurd hreason (not_or.mpr hne)⟩

lemma OpenFuturesTrade.timeExit_reason {trade : OpenFuturesTrade} {candle : OHLCVCandle}
    {decision : ExitDecision} (h : trade.timeExit candle = some decision) :
    decision.reason = .timeExit := by
  rw [timeExit] at h
  split_ifs at h
  obtain rfl := Option.some.inj h
  rfl

/-- A trade whose stop is not beyond its liquidation price leaves at the stop first. -/
lemma FuturesTrade.stopFirst {trade : FuturesTrade} {bar : ReplayCandle} {decision : ExitDecision}
    (hstop : ¬ FuturesRunConfig.StopBeyond trade.intent trade.liquidationPrice)
    (hbar : bar.markCandle = none) (h : trade.exitDecision bar = some decision) :
    StopFirst trade.intent.direction trade.intent.stopLoss trade.liquidationPrice bar.candle
      decision := by
  have hintent : trade.exitLoopTrade.intent.direction = trade.intent.direction := rfl
  rw [exitDecision, OpenFuturesTrade.exitDecision, hbar, Option.getD_none, hintent] at h
  cases hdirection : trade.intent.direction with
  | long =>
    rw [hdirection] at h
    rw [FuturesRunConfig.StopBeyond, hdirection] at hstop
    have hlt : trade.liquidationPrice < trade.intent.stopLoss := not_le.mp hstop
    change (if bar.candle.low ≤ trade.liquidationPrice then
        some ⟨.liquidation, min bar.candle.open trade.liquidationPrice⟩
      else if bar.candle.low ≤ trade.intent.stopLoss then
        some ⟨.hardStop, min bar.candle.open trade.intent.stopLoss⟩
      else if trade.intent.takeProfit ≤ bar.candle.high then
        some ⟨.target, trade.intent.takeProfit⟩
      else trade.exitLoopTrade.timeExit bar.candle) = some decision at h
    split_ifs at h with hlow
    · obtain rfl := Option.some.inj h
      refine ⟨fun _ => hlow.trans hlt.le, fun hopen _ => ?_⟩
      rw [TradeDirection.Beyond, not_lt] at hopen ⊢
      exact le_min hopen le_rfl
    · obtain rfl := Option.some.inj h
      refine ⟨by rintro ⟨⟩, fun hopen _ => ?_⟩
      rw [TradeDirection.Beyond, not_lt] at hopen ⊢
      exact le_min hopen hlt.le
    · obtain rfl := Option.some.inj h
      exact .of_other (by simp)
    · have htime := OpenFuturesTrade.timeExit_reason h
      exact .of_other (by simp [htime])
  | short =>
    rw [hdirection] at h
    rw [FuturesRunConfig.StopBeyond, hdirection] at hstop
    have hlt : trade.intent.stopLoss < trade.liquidationPrice := not_le.mp hstop
    change (if trade.liquidationPrice ≤ bar.candle.high then
        some ⟨.liquidation, max bar.candle.open trade.liquidationPrice⟩
      else if trade.intent.stopLoss ≤ bar.candle.high then
        some ⟨.hardStop, max bar.candle.open trade.intent.stopLoss⟩
      else if bar.candle.low ≤ trade.intent.takeProfit then
        some ⟨.target, trade.intent.takeProfit⟩
      else trade.exitLoopTrade.timeExit bar.candle) = some decision at h
    split_ifs at h with hhigh
    · obtain rfl := Option.some.inj h
      refine ⟨fun _ => hlt.le.trans hhigh, fun hopen _ => ?_⟩
      rw [TradeDirection.Beyond, not_lt] at hopen ⊢
      exact max_le hopen le_rfl
    · obtain rfl := Option.some.inj h
      refine ⟨by rintro ⟨⟩, fun hopen _ => ?_⟩
      rw [TradeDirection.Beyond, not_lt] at hopen ⊢
      exact max_le hopen hlt.le
    · obtain rfl := Option.some.inj h
      exact .of_other (by simp)
    · have htime := OpenFuturesTrade.timeExit_reason h
      exact .of_other (by simp [htime])

namespace FuturesRunConfig

/-- Without the mark path the bars of a run have no mark candles. -/
lemma markCandle_of_legacy [UnicodeData] {config : FuturesRunConfig}
    {dataset : RuntimeFuturesReplayDataset} {marks : List OHLCVCandle}
    (hlegacy : config.requireMarkPricePath = false) (hmarks : config.runMarks dataset = .ok marks) :
    ∀ bar ∈ dataset.bars marks, bar.markCandle = none := by
  rw [runMarks, if_neg (by simp [hlegacy])] at hmarks
  obtain rfl := Except.ok.inj hmarks
  intro bar hbar
  rw [RuntimeFuturesReplayDataset.bars, List.mem_map] at hbar
  obtain ⟨⟨candle, index⟩, -, rfl⟩ := hbar
  rfl

/-- **Stop before liquidation**: an admitted trade without a mark path, after whatever candles,
and each open trade of a run, leaves at a liquidation only on a bar that reaches its stop, and on
a bar that opens on the safe side of its liquidation price at neither exit beyond it. -/
theorem stop_before_liquidation [UnicodeData] [CanonicalDigest RuntimeFuturesReplayDataset]
    {config : FuturesRunConfig} (a : Arithmetic) (dataset : RuntimeFuturesReplayDataset)
    (hlegacy : config.requireMarkPricePath = false) :
    (∀ signal first bars trade bar held decision,
      config.Held a dataset signal first bars trade →
      (∀ b ∈ bars ++ [bar], b.markCandle = none) →
      config.holdBar a dataset trade bar = .ok held → held.exitDecision bar = some decision →
      StopFirst signal.direction signal.stopLoss trade.liquidationPrice bar.candle decision) ∧
    ∀ provider marks k s bar entered trade held decision,
      config.runMarks dataset = .ok marks →
      config.afterBars a dataset provider (dataset.bars marks) k = .ok s →
      (dataset.bars marks)[k]? = some bar → config.enterPending a k bar s = .ok entered →
      entered.openTrade = some trade → config.holdBar a dataset trade bar = .ok held →
      held.exitDecision bar = some decision →
      StopFirst trade.intent.direction trade.intent.stopLoss trade.liquidationPrice bar.candle
        decision := by
  have hheld : ∀ signal first bars trade bar held decision,
      config.Held a dataset signal first bars trade →
      (∀ b ∈ bars ++ [bar], b.markCandle = none) →
      config.holdBar a dataset trade bar = .ok held → held.exitDecision bar = some decision →
      StopFirst signal.direction signal.stopLoss trade.liquidationPrice bar.candle decision := by
    intro signal first bars trade bar held decision htrade hmarks hhold hexit
    have hbar : bar.markCandle = none := hmarks bar (by simp)
    obtain ⟨rfl, hstop⟩ := htrade.stop_of_admitted fun b hb =>
      hmarks b (List.mem_append_left _ hb)
    have hintent := (holdBar_keeps hhold).intent_eq
    have hprice := holdBar_liquidationPrice hbar hhold
    rw [← hprice, ← hintent] at hstop ⊢
    exact FuturesTrade.stopFirst hstop hbar hexit
  refine ⟨hheld, ?_⟩
  intro provider marks k s bar entered trade held decision hmarks hrun hget hentered hopen hhold
    hexit
  have hnone := markCandle_of_legacy hlegacy hmarks
  obtain ⟨signal, first, bars, htrade, -, hsuffix⟩ :=
    enterPending_held (run_held hrun) hentered hopen
  have hbars : ∀ b ∈ bars ++ [bar], b.markCandle = none := by
    intro b hb
    rcases List.mem_append.mp hb with hb | hb
    · exact hnone b (List.mem_of_mem_take (hsuffix.subset hb))
    · rw [List.mem_singleton.mp hb]
      exact hnone bar (List.mem_of_getElem? hget)
  obtain ⟨rfl, -⟩ := htrade.stop_of_admitted fun b hb => hbars b (List.mem_append_left _ hb)
  exact hheld _ first bars trade bar held decision htrade hbars hhold hexit

/-- An entry, and a bar that opens between its stop and its liquidation price and goes through
both. -/
def crashDataset : RuntimeFuturesReplayDataset :=
  hourlyDataset [hourCandle 0 100 101 99 100 SpotBacktestConfig.flatRange,
    hourCandle 1 100 105 98 104 dipRange, hourCandle 2 85 86 1 2 (by norm_num)] [] []

/-- The liquidation of the sample trade has gone through its stop, at no price beyond its
liquidation price. -/
theorem crash_stop_first :
    letI := CanonicalDigest.const RuntimeFuturesReplayDataset
    ∃ s entered trade held decision,
      defaultFutures.afterBars ⟨id⟩ crashDataset firstSignal (crashDataset.bars []) 2 = .ok s ∧
      defaultFutures.enterPending ⟨id⟩ 2 ⟨hourCandle 2 85 86 1 2 (by norm_num), none⟩ s =
        .ok entered ∧ entered.openTrade = some trade ∧
      defaultFutures.holdBar ⟨id⟩ crashDataset trade ⟨hourCandle 2 85 86 1 2 (by norm_num), none⟩ =
        .ok held ∧
      held.exitDecision ⟨hourCandle 2 85 86 1 2 (by norm_num), none⟩ = some decision ∧
      decision.reason = .liquidation ∧
      StopFirst trade.intent.direction trade.intent.stopLoss trade.liquidationPrice
        (hourCandle 2 85 86 1 2 (by norm_num)) decision := by
  let _ := CanonicalDigest.const RuntimeFuturesReplayDataset
  have hrun : ((defaultFutures.afterBars ⟨id⟩ crashDataset firstSignal (crashDataset.bars [])
      2).toOption.bind fun s => (defaultFutures.enterPending ⟨id⟩ 2
        ⟨hourCandle 2 85 86 1 2 (by norm_num), none⟩ s).toOption.bind fun entered =>
      entered.openTrade.bind fun trade => (defaultFutures.holdBar ⟨id⟩ crashDataset trade
        ⟨hourCandle 2 85 86 1 2 (by norm_num), none⟩).toOption.bind fun held =>
      (held.exitDecision ⟨hourCandle 2 85 86 1 2 (by norm_num), none⟩).map (·.reason)) =
      some .liquidation := by decide +kernel
  simp only [Option.bind_eq_some_iff, Option.map_eq_some_iff, toOption_eq_some] at hrun
  obtain ⟨s, hs, entered, hentered, trade, htrade, held, hheld, decision, hdecision, hreason⟩ :=
    hrun
  exact ⟨s, entered, trade, held, decision, hs, hentered, htrade, hheld, hdecision, hreason,
    (stop_before_liquidation ⟨id⟩ crashDataset rfl).2 firstSignal [] 2 s _ entered trade held
      decision rfl hs rfl hentered htrade hheld hdecision⟩

end FuturesRunConfig

end Ai4Binance

/-
What a run of the Futures backtest records (`research/backtesting/futures_engine.py`).

A candle adds to the records of a run and takes nothing back, and the end of a run adds the
rejection of a pending signal and the close of an open trade.

* `Grows`: the records that a run adds on a list of bars;
* `barStep_grows`, `runFrom_grows`, `finishRun_finishes`: a candle, the loop, the end;
* `RecordsFirst`: what a result shows of the first bars;
* `interval_eq`: the spacing of a dataset.
-/
import Ai4Binance.Backtesting.FuturesRun
import Ai4Binance.Backtesting.SpotNoLookAhead

open Text Check

namespace Ai4Binance

/-! ### Candles, mark candles and bars -/

namespace RuntimeFuturesReplayDataset

variable [UnicodeData] {d : RuntimeFuturesReplayDataset} {marks : List OHLCVCandle}

omit [UnicodeData] in
lemma bars_candles : (d.bars marks).map (·.candle) = d.candles := by
  rw [bars, List.map_map]
  exact List.zipIdx_map_fst 0 d.candles

omit [UnicodeData] in
lemma length_bars : (d.bars marks).length = d.candles.length := by
  have hcandles : (d.bars marks).map (·.candle) = d.candles := bars_candles
  rw [← hcandles, List.length_map]

/-- The candles of a dataset follow each other at the spacing of its timeframe. -/
lemma Valid.interval_eq (h : d.Valid) (hlength : 2 ≤ d.candles.length) :
    d.interval = replayDuration d.timeframe := by
  have hspaced := List.isChain_iff_getElem.mp h.accepted.spaced 0
    (by rw [List.length_map]; omega)
  rw [List.getElem_map, List.getElem_map] at hspaced
  rw [interval, List.getElem?_eq_getElem (by omega), List.getElem?_eq_getElem (by omega)]
  exact hspaced

end RuntimeFuturesReplayDataset

/-! ### What a run adds -/

/-- The entry of an open trade. -/
def FuturesTrade.entry (trade : FuturesTrade) : TradeEntry where
  signalId := trade.intent.signalId
  entryTimestamp := trade.entryTimestamp
  entryReferencePrice := trade.entryReferencePrice
  entryPrice := trade.entryPrice
  quantity := trade.quantity
  entryFeeUsdt := trade.entryFee

namespace FuturesRun

/-- The entries of a run so far: those of the closed trades and of the open one. -/
def entries (s : FuturesRun) : List TradeEntry :=
  s.trades.map (·.entry) ++ s.openTrade.toList.map (·.entry)

/-- The records that a run adds on bars with the given times, with a number of equity
points. -/
structure Grows (stamps : List ℤ) (points : ℕ) (s t : FuturesRun) : Prop where
  entries : ContinuedBy (fun e : TradeEntry => e.entryTimestamp ∈ stamps) s.entries t.entries
  trades : ContinuedBy (fun r : FuturesTradeRecord => r.exitTimestamp ∈ stamps ∧
    r.exitReason ≠ .endOfData) s.trades t.trades
  rejected : s.rejected <+: t.rejected
  equity : ∃ later, t.equityCurve = s.equityCurve ++ later ∧ later.length = points

namespace Grows

variable {stamps stamps' : List ℤ} {m n : ℕ} {s t u : FuturesRun}

lemma refl (stamps : List ℤ) (s : FuturesRun) : Grows stamps 0 s s where
  entries := .refl _ _
  trades := .refl _ _
  rejected := List.prefix_refl _
  equity := ⟨[], by simp, rfl⟩

lemma mono (hsub : stamps ⊆ stamps') (h : Grows stamps n s t) : Grows stamps' n s t where
  entries := h.entries.mono fun _ he => hsub he
  trades := h.trades.mono fun _ hr => ⟨hsub hr.1, hr.2⟩
  rejected := h.rejected
  equity := h.equity

lemma trans (h : Grows stamps m s t) (h' : Grows stamps n t u) : Grows stamps (m + n) s u where
  entries := h.entries.trans h'.entries
  trades := h.trades.trans h'.trades
  rejected := h.rejected.trans h'.rejected
  equity := by
    obtain ⟨later, heq, hlen⟩ := h.equity
    obtain ⟨later', heq', hlen'⟩ := h'.equity
    refine ⟨later ++ later', ?_, ?_⟩
    · rw [heq', heq, List.append_assoc]
    · rw [List.length_append, hlen, hlen']

end Grows

end FuturesRun

namespace OpenFuturesTrade

variable {trade : OpenFuturesTrade} {bar : ReplayCandle} {decision : ExitDecision}

/-- A candle never closes a trade as the end of the data does. -/
lemma reason_ne_endOfData (h : trade.exitDecision bar = some decision) :
    decision.reason ≠ .endOfData := by
  simp only [exitDecision, timeExit] at h
  split at h <;> split_ifs at h <;>
    · obtain rfl := Option.some.inj h
      simp

end OpenFuturesTrade

namespace FuturesTrade

variable {a : Arithmetic} {trade next : FuturesTrade} {points : List MetricPoint}

/-- What the funding of a trade leaves as it was. -/
structure Keeps (trade next : FuturesTrade) : Prop where
  intent_eq : next.intent = trade.intent
  entry_eq : next.entry = trade.entry
  margin_eq : next.initialMargin = trade.initialMargin

lemma Keeps.refl (trade : FuturesTrade) : Keeps trade trade := ⟨rfl, rfl, rfl⟩

lemma Keeps.trans {t u v : FuturesTrade} (h : Keeps t u) (h' : Keeps u v) : Keeps t v :=
  ⟨h'.intent_eq.trans h.intent_eq, h'.entry_eq.trans h.entry_eq, h'.margin_eq.trans h.margin_eq⟩

/-- Funding moves the cost of a trade, the time up to which it is settled and the blockers. -/
def Funded (trade next : FuturesTrade) : Prop :=
  ∃ cost stamp blockers, next =
    { trade with fundingCost := cost, lastFundingTimestamp := stamp, blockerHistory := blockers }

lemma Funded.refl (trade : FuturesTrade) : Funded trade trade := ⟨_, _, _, rfl⟩

lemma Funded.trans {t u v : FuturesTrade} (h : Funded t u) (h' : Funded u v) : Funded t v := by
  obtain ⟨cost, stamp, blockers, rfl⟩ := h
  obtain ⟨cost', stamp', blockers', rfl⟩ := h'
  exact ⟨cost', stamp', blockers', rfl⟩

lemma Funded.keeps (h : Funded trade next) : Keeps trade next := by
  obtain ⟨cost, stamp, blockers, rfl⟩ := h
  exact ⟨rfl, rfl, rfl⟩

lemma settle_funded (trade : FuturesTrade) (point : MetricPoint) (amount : ℚ) :
    Funded trade (trade.settle a point amount) := ⟨_, _, _, rfl⟩

lemma applyFunding_funded (candleTimestamp : ℤ) :
    Funded trade (trade.applyFunding a points candleTimestamp) := by
  rw [applyFunding]
  generalize trade.dueBy points candleTimestamp = due
  induction due generalizing trade with
  | nil => exact .refl _
  | cons point due ih =>
    rw [List.foldl_cons]
    exact (settle_funded trade point _).trans ih

variable {config : FuturesRunConfig} {mark : OHLCVCandle} {interval : ℤ}

lemma settleOnMark_funded {point : MetricPoint}
    (h : settleOnMark a config mark trade point = .ok next) : Funded trade next := by
  rw [settleOnMark] at h
  split_ifs at h
  · simp only [bind_eq_ok, pure_eq_ok] at h
    obtain ⟨_, -, rfl⟩ := h
    exact ⟨_, _, _, rfl⟩
  · obtain rfl := pure_eq_ok.mp h
    exact settle_funded _ _ _

lemma foldlM_settleOnMark_funded {due : List MetricPoint}
    (h : due.foldlM (settleOnMark a config mark) trade = .ok next) : Funded trade next := by
  induction due generalizing trade with
  | nil =>
    obtain rfl := pure_eq_ok.mp h
    exact .refl _
  | cons point due ih =>
    rw [List.foldlM_cons, bind_eq_ok] at h
    obtain ⟨settled, hsettled, h⟩ := h
    exact (settleOnMark_funded hsettled).trans (ih h)

/-- The mark path moves the liquidation price too. -/
lemma markPathFunding_funded
    (h : trade.markPathFunding a config points mark interval = .ok next) :
    ∃ settled liquidation, Funded trade settled ∧
      next = { settled with liquidationPrice := liquidation } := by
  simp only [markPathFunding, bind_eq_ok, pure_eq_ok] at h
  obtain ⟨settled, hsettled, liquidation, -, rfl⟩ := h
  exact ⟨settled, liquidation, foldlM_settleOnMark_funded hsettled, rfl⟩

lemma updateExcursions_keeps (candle : OHLCVCandle) :
    Keeps trade (trade.updateExcursions a candle) := by
  rw [updateExcursions]
  cases trade.intent.direction <;> exact ⟨rfl, rfl, rfl⟩

lemma noteDecision_keeps (bar : ReplayCandle) (decision : ExitDecision) :
    Keeps trade (trade.noteDecision bar decision) := by
  rw [noteDecision]
  split_ifs <;> exact ⟨rfl, rfl, rfl⟩

end FuturesTrade

namespace FuturesRunConfig

variable {config : FuturesRunConfig} {a : Arithmetic} {dataset : RuntimeFuturesReplayDataset}
  {provider : FuturesSignalProvider} {bar : ReplayCandle} {bars : List ReplayCandle}
  {trade next : FuturesTrade} {s t : FuturesRun} {index : ℕ}

lemma applyCandleCloseFunding_keeps (candle : OHLCVCandle) :
    trade.Keeps (config.applyCandleCloseFunding a dataset trade candle) := by
  rw [applyCandleCloseFunding]
  split_ifs
  · exact .refl _
  · exact (FuturesTrade.applyFunding_funded _).keeps

lemma fundBar_keeps (h : config.fundBar a dataset trade bar = .ok next) : trade.Keeps next := by
  rw [fundBar] at h
  split at h
  · obtain ⟨settled, _, hsettled, rfl⟩ := FuturesTrade.markPathFunding_funded h
    exact hsettled.keeps.trans ⟨rfl, rfl, rfl⟩
  · obtain rfl := Except.ok.inj h
    exact (FuturesTrade.applyFunding_funded _).keeps

lemma holdBar_keeps (h : config.holdBar a dataset trade bar = .ok next) : trade.Keeps next := by
  simp only [holdBar, bind_eq_ok, pure_eq_ok] at h
  obtain ⟨funded, hfunded, rfl⟩ := h
  have hkept := (fundBar_keeps hfunded).trans
    (FuturesTrade.updateExcursions_keeps (a := a) bar.candle)
  exact hkept.trans ⟨rfl, rfl, rfl⟩

/-- A bar is one more that a trade is held. -/
lemma holdBar_barsHeld (h : config.holdBar a dataset trade bar = .ok next) :
    next.barsHeld = trade.barsHeld + 1 := by
  simp only [holdBar, bind_eq_ok, pure_eq_ok] at h
  obtain ⟨funded, hfunded, rfl⟩ := h
  have hkept : funded.barsHeld = trade.barsHeld := by
    rw [fundBar] at hfunded
    split at hfunded
    · obtain ⟨settled, _, ⟨_, _, _, rfl⟩, rfl⟩ := FuturesTrade.markPathFunding_funded hfunded
      rfl
    · obtain rfl := Except.ok.inj hfunded
      have hmoved : trade.Funded
          (trade.applyFunding a dataset.fundingPoints bar.candle.timestamp) :=
        FuturesTrade.applyFunding_funded _
      obtain ⟨_, _, _, heq⟩ := hmoved
      rw [heq]
  rw [← hkept]
  rfl

lemma closeTrade_spec {stamp : ℤ} {decision : ExitDecision} {record : FuturesTradeRecord}
    (h : config.closeTrade a trade stamp decision = .ok record) :
    record.entry = trade.entry ∧ record.exitTimestamp = stamp ∧
      record.exitReason = decision.reason := by
  simp only [closeTrade, bind_eq_ok, pure_eq_ok] at h
  obtain ⟨exitPrice, -, rfl⟩ := h
  exact ⟨rfl, rfl, rfl⟩

lemma exitTrade_spec {decision : ExitDecision} {record : FuturesTradeRecord}
    (h : config.exitTrade a dataset trade bar decision = .ok record) :
    record.entry = trade.entry ∧ record.exitTimestamp = bar.candle.timestamp ∧
      record.exitReason = decision.reason := by
  obtain ⟨hentry, hstamp, hreason⟩ := closeTrade_spec h
  refine ⟨hentry.trans ?_, hstamp, hreason⟩
  have hnoted : trade.Keeps (trade.noteDecision bar decision) :=
    FuturesTrade.noteDecision_keeps bar decision
  split_ifs
  · exact (hnoted.trans (applyCandleCloseFunding_keeps _)).entry_eq
  · exact hnoted.entry_eq

lemma openTrade_spec {signal : FuturesSignal} {candle : OHLCVCandle}
    (h : config.openTrade a signal candle = .ok trade) :
    trade.intent = signal ∧ trade.entryTimestamp = candle.timestamp := by
  simp only [openTrade, bind_eq_ok, pure_eq_ok] at h
  obtain ⟨fill, -, entry, -, liquidation, -, rfl⟩ := h
  exact ⟨rfl, rfl⟩

/-! ### One candle -/

lemma enterPending_grows (h : config.enterPending a index bar s = .ok t) :
    FuturesRun.Grows [bar.candle.timestamp] 0 s t := by
  rw [enterPending] at h
  split at h
  · rename_i pending _ hclosed
    simp only [bind_eq_ok] at h
    obtain ⟨blockers, -, h⟩ := h
    split_ifs at h with hblocked
    · obtain rfl := pure_eq_ok.mp h
      exact {
        entries := .refl _ _
        trades := .refl _ _
        rejected := List.prefix_append _ _
        equity := ⟨[], by simp, rfl⟩ }
    · simp only [bind_eq_ok, pure_eq_ok] at h
      obtain ⟨trade, htrade, rfl⟩ := h
      obtain ⟨-, hstamp⟩ := openTrade_spec htrade
      exact {
        entries := ⟨[trade.entry], by simp [FuturesRun.entries, hclosed],
          by simp [FuturesTrade.entry, hstamp]⟩
        trades := .refl _ _
        rejected := List.prefix_refl _
        equity := ⟨[], by simp, rfl⟩ }
  · obtain rfl := pure_eq_ok.mp h
    exact .refl _ _

lemma manageOpenTrade_grows (h : config.manageOpenTrade a dataset bar s = .ok t) :
    FuturesRun.Grows [bar.candle.timestamp] 0 s t := by
  rw [manageOpenTrade] at h
  split at h
  · obtain rfl := pure_eq_ok.mp h
    exact .refl _ _
  · rename_i trade hopen
    rw [bind_eq_ok] at h
    obtain ⟨held, hheld, h⟩ := h
    have hentry := (holdBar_keeps hheld).entry_eq
    split at h
    · obtain rfl := pure_eq_ok.mp h
      exact {
        entries := ⟨[], by simp [FuturesRun.entries, hopen, hentry], by simp⟩
        trades := .refl _ _
        rejected := List.prefix_refl _
        equity := ⟨[], by simp, rfl⟩ }
    · rename_i decision hdecision
      simp only [bind_eq_ok, pure_eq_ok] at h
      obtain ⟨record, hrecord, rfl⟩ := h
      obtain ⟨hentry', hstamp, hreason⟩ := exitTrade_spec hrecord
      have hne : record.exitReason ≠ .endOfData :=
        hreason ▸ OpenFuturesTrade.reason_ne_endOfData hdecision
      exact {
        entries := ⟨[], by
          simp [FuturesRun.entries, recordClose, hopen, hentry', hentry], by simp⟩
        trades := .single ⟨by simp [hstamp], hne⟩
        rejected := List.prefix_refl _
        equity := ⟨[], by simp [recordClose], rfl⟩ }

lemma markEquity_grows :
    FuturesRun.Grows [bar.candle.timestamp] 1 s (config.markEquity a bar s) where
  entries := .refl _ _
  trades := .refl _ _
  rejected := List.prefix_refl _
  equity := ⟨_, rfl, rfl⟩

/-- A signal that is ignored leaves the entry of the trade. -/
lemma ignored_entry (s : FuturesRun) (blockers : List String) :
    (s.openTrade.map (ignoreSignal · blockers)).toList.map (·.entry) =
      s.openTrade.toList.map (·.entry) := by
  cases s.openTrade <;> rfl

section Provider

variable [UnicodeData] [CanonicalDigest RuntimeFuturesReplayDataset]

lemma consultProvider_grows {candle : OHLCVCandle}
    (h : consultProvider dataset provider index candle s = .ok t) :
    FuturesRun.Grows [candle.timestamp] 0 s t := by
  simp only [consultProvider, bind_eq_ok] at h
  obtain ⟨answer, -, h⟩ := h
  cases answer with
  | none =>
    obtain rfl := pure_eq_ok.mp h
    exact { FuturesRun.Grows.refl [candle.timestamp] s with }
  | some signal =>
    simp only [takeSignal, bind_eq_ok] at h
    obtain ⟨observationId, -, h⟩ := h
    split_ifs at h with hblocked
    · obtain rfl := pure_eq_ok.mp h
      exact {
        entries := ⟨[], by simp only [FuturesRun.entries, ignored_entry, List.append_nil], by simp⟩
        trades := .refl _ _
        rejected := List.prefix_append _ _
        equity := ⟨[], by simp, rfl⟩ }
    · obtain rfl := pure_eq_ok.mp h
      exact {
        entries := .refl _ _
        trades := .refl _ _
        rejected := List.prefix_refl _
        equity := ⟨[], by simp, rfl⟩ }

/-- What a candle adds to the records. -/
lemma barStep_grows {whole : List ReplayCandle}
    (h : config.barStep a dataset provider whole index bar s = .ok t) :
    FuturesRun.Grows [bar.candle.timestamp] 1 s t := by
  simp only [barStep, bind_eq_ok] at h
  obtain ⟨entered, hentered, managed, hmanaged, h⟩ := h
  have hmoved := (enterPending_grows hentered).trans (manageOpenTrade_grows hmanaged)
  exact (hmoved.trans markEquity_grows).trans (consultProvider_grows h)

/-- What a list of candles adds to the records. -/
lemma runFrom_grows {whole : List ReplayCandle}
    (h : Loop.runFrom (config.barStep a dataset provider) whole index bars s = .ok t) :
    FuturesRun.Grows (bars.map (·.candle.timestamp)) bars.length s t := by
  induction bars generalizing index s with
  | nil =>
    obtain rfl := Except.ok.inj h
    exact .refl _ _
  | cons bar bars ih =>
    rw [Loop.runFrom_cons, bind_eq_ok] at h
    obtain ⟨next, hnext, h⟩ := h
    have hfirst : FuturesRun.Grows ((bar :: bars).map (·.candle.timestamp)) 1 s next :=
      (barStep_grows hnext).mono (by simp)
    have hrest : FuturesRun.Grows ((bar :: bars).map (·.candle.timestamp)) bars.length next t :=
      (ih h).mono (by simp)
    have htotal := hfirst.trans hrest
    rwa [List.length_cons, Nat.add_comm bars.length 1]

end Provider

/-! ### The end of a run -/

/-- What the end of a run adds to the records of the loop. -/
structure Finishes (s : FuturesRun) (r : FuturesResult) : Prop where
  entries : r.trades.map (·.entry) = s.entries
  trades : ContinuedBy (fun t : FuturesTradeRecord => t.exitReason = .endOfData) s.trades r.trades
  rejected : s.rejected <+: r.rejectedSignals
  equity : r.equityCurve = s.equityCurve ∨ ∃ point, r.equityCurve = s.equityCurve.dropLast ++ [point]

lemma rejectPending_records (count : ℕ) (s : FuturesRun) :
    (rejectPending count s).trades = s.trades ∧ (rejectPending count s).openTrade = s.openTrade ∧
      (rejectPending count s).equityCurve = s.equityCurve ∧
      (rejectPending count s).availableCash = s.availableCash ∧
      (rejectPending count s).observations = s.observations ∧
      s.rejected <+: (rejectPending count s).rejected := by
  rw [rejectPending]
  split
  · exact ⟨rfl, rfl, rfl, rfl, rfl, List.prefix_refl _⟩
  · exact ⟨rfl, rfl, rfl, rfl, rfl, List.prefix_append _ _⟩

lemma finishRun_finishes {r : FuturesResult} (h : config.finishRun a dataset bars s = .ok r) :
    Finishes s r := by
  simp only [finishRun, bind_eq_ok, pure_eq_ok] at h
  obtain ⟨first, -, last, -, closed, hclosed, benchmark, -, missed, -, _, -, rfl⟩ := h
  obtain ⟨htrades, hopen, hequity, -, -, hrejected⟩ := rejectPending_records bars.length s
  simp only [closeAtEnd, hopen] at hclosed
  cases htrade : s.openTrade with
  | none =>
    rw [htrade] at hclosed
    obtain rfl := pure_eq_ok.mp hclosed
    exact {
      entries := by simp [FuturesRun.entries, htrade, htrades]
      trades := by rw [htrades]; exact .refl _ _
      rejected := hrejected
      equity := Or.inl hequity }
  | some trade =>
    rw [htrade] at hclosed
    simp only [bind_eq_ok, pure_eq_ok] at hclosed
    obtain ⟨record, hrecord, rfl⟩ := hclosed
    obtain ⟨hentry, -, hreason⟩ := closeTrade_spec hrecord
    have hkept : trade.Keeps (config.applyCandleCloseFunding a dataset trade last) :=
      applyCandleCloseFunding_keeps last
    exact {
      entries := by
        simp [FuturesRun.entries, recordClose, htrade, htrades, hentry, hkept.entry_eq]
      trades := by
        simp only [recordClose, htrades]
        exact .single hreason
      rejected := hrejected
      equity := Or.inr ⟨_, by rw [hequity]⟩ }

/-- What a result shows of the first bars of its run: the entries made on them, their closed
trades, those of the end of the data apart, the rejections and the equity points of all of
them but the last. -/
structure RecordsFirst (bars : List ReplayCandle) (s : FuturesRun) (r : FuturesResult) : Prop where
  entries : (r.trades.map (·.entry)).filter
    (fun e => decide (e.entryTimestamp ∈ bars.map (·.candle.timestamp))) = s.entries
  trades : r.trades.filter (fun t => decide (t.exitTimestamp ∈ bars.map (·.candle.timestamp) ∧
    t.exitReason ≠ .endOfData)) = s.trades
  rejections : s.rejected <+: r.rejectedSignals
  equity : r.equityCurve.take (bars.length - 1) = s.equityCurve.take (bars.length - 1)

section Provider

variable [UnicodeData] [CanonicalDigest RuntimeFuturesReplayDataset]

/-- A run goes through the loop on its bars. -/
lemma run_eq_ok {r : FuturesResult} (h : config.run a dataset provider = .ok r) :
    validateDataset dataset = .ok () ∧ ∃ marks, config.runMarks dataset = .ok marks ∧
      (marks ≠ [] → config.allowIntrabarFundingBounds = false → FundingAligned dataset marks) ∧
      ∃ final, Loop.run (config.barStep a dataset provider) (dataset.bars marks)
        config.initialRun = .ok final ∧
          config.finishRun a dataset (dataset.bars marks) final = .ok r := by
  simp only [run, bind_eq_ok, raiseIf_eq_ok] at h
  obtain ⟨_, hvalid, marks, hmarks, _, haligned, final, hfinal, hfinish⟩ := h
  refine ⟨hvalid, marks, hmarks, fun hne hbounds => ?_, final, hfinal, hfinish⟩
  by_contra hnot
  exact haligned ⟨hne, by simp [hbounds], hnot⟩

/-- A result shows of the first bars what the loop recorded on them. -/
lemma recordsFirst_of_run {r : FuturesResult} (hvalid : dataset.Valid) (k : ℕ)
    (h : config.run a dataset provider = .ok r) :
    ∃ marks s, config.runMarks dataset = .ok marks ∧
      config.afterBars a dataset provider (dataset.bars marks) k = .ok s ∧
      RecordsFirst ((dataset.bars marks).take k) s r := by
  obtain ⟨-, marks, hmarks, -, final, hfinal, hfinish⟩ := run_eq_ok h
  rw [Loop.run_eq_after k, bind_eq_ok] at hfinal
  obtain ⟨s, hs, hrest⟩ := hfinal
  refine ⟨marks, s, hmarks, hs, ?_⟩
  generalize hwhole : dataset.bars marks = whole at *
  have hstrict : (whole.map (·.candle.timestamp)).Pairwise (· < ·) := by
    have hcandles := hvalid.accepted.chronological
    have hbars : whole.map (·.candle) = dataset.candles := by
      rw [← hwhole, RuntimeFuturesReplayDataset.bars_candles]
    rw [← hbars, List.map_map] at hcandles
    exact hcandles
  -- the times of the later bars are not among those of the first
  have hlater {x : ℤ} (hx : x ∈ (whole.drop k).map (·.candle.timestamp)) :
      x ∉ (whole.take k).map (·.candle.timestamp) := by
    intro hx'
    rw [← List.take_append_drop k whole, List.map_append, List.pairwise_append] at hstrict
    exact absurd (hstrict.2.2 x hx' x hx) (lt_irrefl x)
  have hfirst := runFrom_grows hs
  have hthen := runFrom_grows hrest
  have hend := finishRun_finishes hfinish
  have hold {α : Type} {xs : List α} {p : α → Prop} (hc : ContinuedBy p [] xs) :
      ∀ x ∈ xs, p x := by
    obtain ⟨later, rfl, hp⟩ := hc
    simpa using hp
  constructor
  · rw [hend.entries]
    refine ContinuedBy.filter_eq (hthen.entries.mono fun e he => ?_) fun e he => ?_
    · simpa using hlater he
    · simpa using hold hfirst.entries e he
  · refine ContinuedBy.filter_eq (.trans (hthen.trades.mono fun t ht => ?_)
      (hend.trades.mono fun t ht => ?_)) fun t ht => ?_
    · exact decide_eq_false fun hx => hlater ht.1 hx.1
    · simp [ht]
    · simpa using hold hfirst.trades t ht
  · exact hthen.rejected.trans hend.rejected
  · obtain ⟨points, hpoints, hcount⟩ := hfirst.equity
    obtain ⟨points', hpoints', hcount'⟩ := hthen.equity
    have hlen : s.equityCurve.length = (whole.take k).length := by
      rw [hpoints, List.length_append, hcount, initialRun, List.length_nil, zero_add]
    rcases hend.equity with hequity | ⟨point, hequity⟩
    · rw [hequity, hpoints', List.take_append_of_le_length (by omega)]
    · have hfull : (whole.take k).length - 1 ≤ final.equityCurve.dropLast.length := by
        rw [List.length_dropLast, hpoints', List.length_append]
        omega
      rw [hequity, List.take_append_of_le_length hfull, List.dropLast_eq_take, List.take_take,
        min_eq_left (by simpa using hfull), hpoints', List.take_append_of_le_length (by omega)]

end Provider

/-! ### A sample dataset -/

/-- A candle of an hour. -/
def hourCandle (hour : ℕ) («open» high low close : ℚ)
    (h : 0 ≤ low ∧ low ≤ min «open» close ∧ max «open» close ≤ high) : OHLCVCandle :=
  { SpotBacktestConfig.minuteCandle hour «open» high low close h with timestamp := hour * 3600000000 }

/-- A point of the public source, observed at its own time. -/
def publicPoint (metric : DerivativesMetric) (timestamp : ℤ) (value : ℚ)
    (attributes : List (String × String)) : DerivativesPoint where
  metric := metric
  timestamp := timestamp
  value := value
  provenance := ⟨"BINANCE_USD_M_PUBLIC_REST", timestamp, "https://fapi.binance.com", by
    decide +kernel⟩
  attributes := attributes

/-- A dataset of hourly candles, with their open interest, funding points and further
series. -/
def hourlyDataset (candles : List OHLCVCandle) (funding : List (ℤ × ℚ))
    (series : List (DerivativesMetric × List DerivativesPoint)) : RuntimeFuturesReplayDataset where
  symbol := "BTCUSDT"
  candles := candles
  derivatives := {
    symbol := "BTCUSDT"
    asOf := 1000 * 3600000000
    series :=
      (.openInterest, candles.map fun c => publicPoint .openInterest c.timestamp 5 []) ::
      (.fundingRate, funding.map fun p => publicPoint .fundingRate p.1 p.2 []) :: series
    source := "BINANCE_USD_M_PUBLIC_REST" }
  timeframe := "1h"

/-- The default assumptions of a Futures run. -/
def defaultFutures : FuturesRunConfig where
  toSpotBacktestConfig := SpotBacktestConfig.defaultConfig
  bounds_need_mark := by simp
  brackets_ok := by simp
  leverage_bounds := by norm_num
  liquidationFee_bounds := by norm_num
  maintenance_pos := by norm_num
  maintenance_lt := by decide +kernel

/-- A long signal with a stop and a target. -/
def longSignal (signalId : String) (timestamp : ℤ) (stopLoss takeProfit : ℚ)
    (hpos : 0 < stopLoss ∧ 0 < takeProfit) (hid : isBlank signalId = false) : FuturesSignal where
  direction := .long
  stopLoss := stopLoss
  takeProfit := takeProfit
  prices_pos := hpos
  holding_pos := BacktestIntent.default_holding
  signalId := signalId
  timestamp := timestamp
  market_eq := FuturesSignal.default_market
  identified := by
    simp only [List.all_cons, hid]
    decide +kernel
  reasons_ok := FuturesSignal.default_reasons
  scores_nonneg := FuturesSignal.default_scores
  blockers_ok := FuturesSignal.default_blockers
  funnel_ok := BacktestIntent.default_funnel

/-- A provider that signals after the first candle. -/
def firstSignal : FuturesSignalProvider :=
  .plain fun replayed => .ok
    (if replayed.candles.length = 1 then
      some (longSignal "f1" 0 90 110 (by norm_num) (by decide +kernel)) else none)

lemma dipRange : (0 : ℚ) ≤ 98 ∧ (98 : ℚ) ≤ min 100 104 ∧ max (100 : ℚ) 104 ≤ 105 := by norm_num

/-- An entry, a bar on which it is held, and one that reaches the target. -/
def targetDataset : RuntimeFuturesReplayDataset :=
  hourlyDataset [hourCandle 0 100 101 99 100 SpotBacktestConfig.flatRange,
    hourCandle 1 100 105 98 104 dipRange,
    hourCandle 2 104 112 103 111 SpotBacktestConfig.targetRange,
    hourCandle 3 111 113 110 112 (by norm_num)]
    [(0, 1 / 10000), (2 * 3600000000, 1 / 10000)] []

end FuturesRunConfig

end Ai4Binance

/-
The Spot backtest does not look ahead (`research/backtesting/engine.py`).

Two runs over candles that agree on their first bars keep the same variables through
these bars, and what either result shows of them is what the variables hold: the
candles behind the prefix view of the provider, the end of the data and the review of
the rejected signals change nothing of it.

* `SameHistory`, `SignalProvider.DependsOnHistory`: what a provider can tell apart;
* `causal_barStep`: a candle of the loop looks back only;
* `Grows`: the records that a run adds on a list of bars;
* `RecordsFirst`: what a result shows of the first bars;
* `spot_no_look_ahead`: **two runs agree on the bars that their candles share.**
-/
import Ai4Binance.Backtesting.SpotRun

open Text Check

namespace Ai4Binance

/-- The two histories have the same length, elements and slices. -/
structure SameHistory (h h' : CandleHistory) : Prop where
  length_eq : h.length = h'.length
  getItem_eq : ∀ i : ℤ, h.getItem i = h'.getItem i
  getSlice_eq : ∀ s : Sequence.Slice, h.getSlice s = h'.getSlice s

/-- The provider depends only on the history that it is given. -/
def SignalProvider.DependsOnHistory (provider : SignalProvider) : Prop :=
  ∀ h h' : CandleHistory, SameHistory h h' → provider h = provider h'

/-- A common prefix shows the same history. -/
lemma sameHistory_of_take {candles candles' : List OHLCVCandle} {n : ℕ}
    (h : candles.take n = candles'.take n) (hn : n ≤ candles.length) (hn' : n ≤ candles'.length) :
    SameHistory ⟨candles, n⟩ ⟨candles', n⟩ where
  length_eq := rfl
  getItem_eq i := by
    rw [Sequence.PrefixView.getItem_eq hn, Sequence.PrefixView.getItem_eq hn']
    exact congrArg (Sequence.getItem · i) h
  getSlice_eq s := by
    rw [Sequence.PrefixView.getSlice_eq hn, Sequence.PrefixView.getSlice_eq hn']
    exact congrArg (Sequence.getSlice · s) h

/-! ### What a run adds -/

/-- One list continues another with elements that have a property. -/
def ContinuedBy {α : Type} (p : α → Prop) (xs ys : List α) : Prop :=
  ∃ later, ys = xs ++ later ∧ ∀ x ∈ later, p x

namespace ContinuedBy

variable {α : Type} {p q : α → Prop} {xs ys zs : List α}

lemma refl (p : α → Prop) (xs : List α) : ContinuedBy p xs xs := ⟨[], by simp, by simp⟩

lemma single {x : α} (h : p x) : ContinuedBy p xs (xs ++ [x]) := ⟨[x], rfl, by simpa using h⟩

lemma mono (himp : ∀ x, p x → q x) (h : ContinuedBy p xs ys) : ContinuedBy q xs ys := by
  obtain ⟨later, rfl, hp⟩ := h
  exact ⟨later, rfl, fun x hx => himp x (hp x hx)⟩

lemma trans (h : ContinuedBy p xs ys) (h' : ContinuedBy p ys zs) : ContinuedBy p xs zs := by
  obtain ⟨later, rfl, hp⟩ := h
  obtain ⟨later', rfl, hp'⟩ := h'
  refine ⟨later ++ later', by rw [List.append_assoc], ?_⟩
  intro x hx
  rcases List.mem_append.mp hx with hx | hx
  · exact hp x hx
  · exact hp' x hx

/-- A test that the new elements fail and the old ones pass finds the old ones. -/
lemma filter_eq {test : α → Bool} (h : ContinuedBy (fun x => test x = false) xs ys)
    (hold : ∀ x ∈ xs, test x = true) : ys.filter test = xs := by
  obtain ⟨later, rfl, hlater⟩ := h
  have hnone : later.filter test = [] :=
    List.filter_eq_nil_iff.mpr fun x hx => by simp [hlater x hx]
  rw [List.filter_append, List.filter_eq_self.mpr hold, hnone, List.append_nil]

end ContinuedBy

/-- The entry of a trade. -/
structure TradeEntry where
  signalId : String
  entryTimestamp : ℤ
  entryReferencePrice : ℚ
  entryPrice : ℚ
  quantity : ℚ
  entryFeeUsdt : ℚ
  deriving DecidableEq, Repr

def OpenTrade.entry (trade : OpenTrade) : TradeEntry where
  signalId := trade.intent.signalId
  entryTimestamp := trade.entryTimestamp
  entryReferencePrice := trade.entryReferencePrice
  entryPrice := trade.entryPrice
  quantity := trade.originalQuantity
  entryFeeUsdt := trade.entryFee

def TradeRecord.entry (record : TradeRecord) : TradeEntry where
  signalId := record.signalId
  entryTimestamp := record.entryTimestamp
  entryReferencePrice := record.entryReferencePrice
  entryPrice := record.entryPrice
  quantity := record.quantity
  entryFeeUsdt := record.entryFeeUsdt

/-- The entries of a run so far: those of the closed trades and of the open one. -/
def SpotRun.entries (s : SpotRun) : List TradeEntry :=
  s.trades.map (·.entry) ++ s.openTrade.toList.map (·.entry)

/-- The staged exits of a run so far. -/
def SpotRun.stagedExits (s : SpotRun) : List StagedExitRecord :=
  s.trades.flatMap (·.stagedExits) ++ s.openTrade.toList.flatMap (·.stagedExits)

/-- The records that a run adds on bars with the given times, with a number of equity
points. -/
structure Grows (stamps : List ℤ) (points : ℕ) (s t : SpotRun) : Prop where
  entries : ContinuedBy (fun e : TradeEntry => e.entryTimestamp ∈ stamps) s.entries t.entries
  staged : ContinuedBy (fun e : StagedExitRecord => e.timestamp ∈ stamps)
    s.stagedExits t.stagedExits
  audit : ContinuedBy (fun e : AuditEvent => e.timestamp ∈ stamps ∧ e.eventType ≠ "END_OF_DATA")
    s.audit t.audit
  trades : ContinuedBy (fun r : TradeRecord => r.exitTimestamp ∈ stamps ∧
    r.exitReason ≠ .endOfData) s.trades t.trades
  rejected : s.rejected <+: t.rejected
  equity : ∃ later, t.equityCurve = s.equityCurve ++ later ∧ later.length = points

namespace Grows

variable {stamps stamps' : List ℤ} {m n : ℕ} {s t u : SpotRun}

lemma refl (stamps : List ℤ) (s : SpotRun) : Grows stamps 0 s s where
  entries := .refl _ _
  staged := .refl _ _
  audit := .refl _ _
  trades := .refl _ _
  rejected := List.prefix_refl _
  equity := ⟨[], by simp, rfl⟩

lemma mono (hsub : stamps ⊆ stamps') (h : Grows stamps n s t) : Grows stamps' n s t where
  entries := h.entries.mono fun _ he => hsub he
  staged := h.staged.mono fun _ he => hsub he
  audit := h.audit.mono fun _ he => ⟨hsub he.1, he.2⟩
  trades := h.trades.mono fun _ hr => ⟨hsub hr.1, hr.2⟩
  rejected := h.rejected
  equity := h.equity

lemma trans (h : Grows stamps m s t) (h' : Grows stamps n t u) : Grows stamps (m + n) s u where
  entries := h.entries.trans h'.entries
  staged := h.staged.trans h'.staged
  audit := h.audit.trans h'.audit
  trades := h.trades.trans h'.trades
  rejected := h.rejected.trans h'.rejected
  equity := by
    obtain ⟨later, heq, hlen⟩ := h.equity
    obtain ⟨later', heq', hlen'⟩ := h'.equity
    refine ⟨later ++ later', ?_, ?_⟩
    · rw [heq', heq, List.append_assoc]
    · rw [List.length_append, hlen, hlen']

/-- Variables that nothing is recorded in may change. -/
lemma of_eq (hentries : t.entries = s.entries) (hstaged : t.stagedExits = s.stagedExits)
    (haudit : t.audit = s.audit) (htrades : t.trades = s.trades)
    (hrejected : t.rejected = s.rejected) (hequity : t.equityCurve = s.equityCurve) :
    Grows stamps 0 s t where
  entries := by rw [hentries]; exact .refl _ _
  staged := by rw [hstaged]; exact .refl _ _
  audit := by rw [haudit]; exact .refl _ _
  trades := by rw [htrades]; exact .refl _ _
  rejected := by rw [hrejected]
  equity := ⟨[], by rw [hequity, List.append_nil], rfl⟩

end Grows

lemma BacktestExitReason.value_ne_endOfData {reason : BacktestExitReason}
    (h : reason ≠ .endOfData) : reason.value ≠ "END_OF_DATA" := by
  cases reason <;> first | exact absurd rfl h | decide

namespace SpotBacktestConfig

variable {config : SpotBacktestConfig} {a : Arithmetic} {candle : OHLCVCandle} {s t : SpotRun}
  {symbol timeframe : String} {provider : SignalProvider} {candles candles' : List OHLCVCandle}
  {index k : ℕ}

/-- A candle never closes a trade as the end of the data does. -/
lemma reason_ne_endOfData {intent : BacktestIntent} {position : PaperPosition} {bars : ℕ}
    {exit : ExitDecision}
    (h : BacktestConfig.evaluateLongExit intent position candle bars = some exit) :
    exit.reason ≠ .endOfData := by
  rw [BacktestConfig.evaluateLongExit, Option.orElse_eq_orElse, Option.orElse_eq_or,
    Option.or_eq_some_iff] at h
  rcases h with h | ⟨-, h⟩
  · simp only [BacktestConfig.protectiveOrTargetExit] at h
    split_ifs at h
    all_goals
      obtain rfl := Option.some.inj h
      simp [ExitReason.canonical]
  · split_ifs at h
    obtain rfl := Option.some.inj h
    simp

lemma closeTrade_spec [UnicodeData] {trade : OpenTrade} {reason : BacktestExitReason} {price : ℚ}
    {record : TradeRecord} (h : config.closeTrade a trade candle reason price = .ok record) :
    record.entry = trade.entry ∧ record.stagedExits = trade.stagedExits ∧
      record.exitTimestamp = candle.timestamp ∧ record.exitReason = reason := by
  simp only [BacktestConfig.closeTrade, bind_eq_ok, pure_eq_ok] at h
  obtain ⟨exitPrice, -, rfl⟩ := h
  exact ⟨rfl, rfl, rfl, rfl⟩

lemma endCandle_spec {trade next : OpenTrade}
    (h : config.endCandle a trade candle = .ok next) :
    next.entry = trade.entry ∧ next.stagedExits = trade.stagedExits := by
  simp only [BacktestConfig.endCandle, bind_eq_ok, pure_eq_ok] at h
  obtain ⟨stop, -, position, -, rfl⟩ := h
  exact ⟨rfl, rfl⟩

lemma partialExit_spec {trade reduced : OpenTrade} {price : ℚ}
    (h : config.partialExit a trade candle price = .ok reduced) :
    reduced.entry = trade.entry ∧
      ∃ staged : StagedExitRecord, staged.timestamp = candle.timestamp ∧
        reduced.stagedExits = trade.stagedExits ++ [staged] := by
  simp only [BacktestConfig.partialExit, bind_eq_ok, pure_eq_ok] at h
  obtain ⟨exitPrice, -, position, -, rfl⟩ := h
  exact ⟨rfl, _, rfl, rfl⟩

lemma openTrade_spec {intent : BacktestIntent} {trade : OpenTrade}
    (h : config.openTrade a intent candle = .ok trade) :
    trade.entryTimestamp = candle.timestamp ∧ trade.stagedExits = [] := by
  simp only [BacktestConfig.openTrade, bind_eq_ok, pure_eq_ok] at h
  obtain ⟨fill, -, entry, -, position, -, rfl⟩ := h
  exact ⟨rfl, rfl⟩

/-! ### One candle -/

lemma enterPending_grows (h : config.enterPending a index candle s = .ok t) :
    Grows [candle.timestamp] 0 s t := by
  rw [enterPending] at h
  split at h
  · rename_i pending _ hclosed
    simp only [bind_eq_ok] at h
    obtain ⟨blockers, -, h⟩ := h
    split_ifs at h with hblocked
    · obtain rfl := pure_eq_ok.mp h
      exact {
        entries := .refl _ _
        staged := .refl _ _
        audit := .single ⟨by simp, by simp⟩
        trades := .refl _ _
        rejected := List.prefix_append _ _
        equity := ⟨[], by simp, rfl⟩ }
    · simp only [bind_eq_ok, pure_eq_ok] at h
      obtain ⟨trade, htrade, rfl⟩ := h
      obtain ⟨hstamp, hstaged⟩ := openTrade_spec htrade
      have htype : (config.entryEvent trade candle).eventType ≠ "END_OF_DATA" := by
        rw [entryEvent]
        split_ifs <;> simp
      exact {
        entries := ⟨[trade.entry], by simp [SpotRun.entries, hclosed],
          by simp [OpenTrade.entry, hstamp]⟩
        staged := ⟨[], by simp [SpotRun.stagedExits, hclosed, hstaged], by simp⟩
        audit := .single ⟨by simp [entryEvent], htype⟩
        trades := .refl _ _
        rejected := List.prefix_refl _
        equity := ⟨[], by simp, rfl⟩ }
  · obtain rfl := pure_eq_ok.mp h
    exact .refl _ _

lemma manageOpenTrade_grows [UnicodeData] (h : config.manageOpenTrade a candle s = .ok t) :
    Grows [candle.timestamp] 0 s t := by
  rw [manageOpenTrade] at h
  split at h
  · obtain rfl := pure_eq_ok.mp h
    exact .refl _ _
  · rename_i trade hopen
    dsimp only at h
    split at h
    · rename_i exit hexit
      split_ifs at h with hstaged
      · -- a staged exit, and the trade stays open
        simp only [bind_eq_ok, pure_eq_ok] at h
        obtain ⟨reduced, hreduced, next, hnext, rfl⟩ := h
        obtain ⟨hentry, staged, hstamp, hexits⟩ := partialExit_spec hreduced
        obtain ⟨hentry', hexits'⟩ := endCandle_spec hnext
        exact {
          entries := ⟨[], by
            simp only [SpotRun.entries, recordStagedExit, hopen, Option.toList_some, List.map_cons,
              hentry', hentry, List.append_nil]
            rfl, by simp⟩
          staged := ⟨[staged], by
            simp only [SpotRun.stagedExits, recordStagedExit, hopen, Option.toList_some,
              List.flatMap_cons, List.flatMap_nil, hexits', hexits, List.append_nil,
              List.append_assoc]
            rfl, by simp [hstamp]⟩
          audit := .single ⟨by simp, by simp⟩
          trades := .refl _ _
          rejected := List.prefix_refl _
          equity := ⟨[], by simp [recordStagedExit], rfl⟩ }
      · -- the trade is closed
        simp only [bind_eq_ok, pure_eq_ok] at h
        obtain ⟨record, hrecord, rfl⟩ := h
        obtain ⟨hentry, hexits, hstamp, hreason⟩ := closeTrade_spec hrecord
        have hne : record.exitReason ≠ .endOfData := hreason ▸ reason_ne_endOfData hexit
        exact {
          entries := ⟨[], by
            simp only [SpotRun.entries, recordClose, hopen, Option.toList_some, Option.toList_none,
              List.map_append, List.map_cons, List.map_nil, hentry, List.append_nil]
            rfl, by simp⟩
          staged := ⟨[], by
            simp only [SpotRun.stagedExits, recordClose, hopen, Option.toList_some,
              Option.toList_none, List.flatMap_append, List.flatMap_cons, List.flatMap_nil, hexits,
              List.append_nil]
            rfl, by simp⟩
          audit := .single ⟨by simp, BacktestExitReason.value_ne_endOfData hne⟩
          trades := .single ⟨by simp [hstamp], hne⟩
          rejected := List.prefix_refl _
          equity := ⟨[], by simp [recordClose], rfl⟩ }
    · simp only [bind_eq_ok, pure_eq_ok] at h
      obtain ⟨next, hnext, rfl⟩ := h
      obtain ⟨hentry, hexits⟩ := endCandle_spec hnext
      refine .of_eq ?_ ?_ rfl rfl rfl rfl
      · simp only [SpotRun.entries, hopen, Option.toList_some, List.map_cons, hentry]
        rfl
      · simp only [SpotRun.stagedExits, hopen, Option.toList_some, List.flatMap_cons, hexits]
        rfl

lemma markEquity_grows : Grows [candle.timestamp] 1 s (config.markEquity a candle s) where
  entries := .refl _ _
  staged := .refl _ _
  audit := .refl _ _
  trades := .refl _ _
  rejected := List.prefix_refl _
  equity := ⟨_, rfl, rfl⟩

/-- A signal that is ignored leaves the entries and the exits of the trade. -/
lemma ignored_entries (s : SpotRun) (blockers : List String) :
    (s.openTrade.map (ignoreSignal · blockers)).toList.map (·.entry) =
        s.openTrade.toList.map (·.entry) ∧
      (s.openTrade.map (ignoreSignal · blockers)).toList.flatMap (·.stagedExits) =
        s.openTrade.toList.flatMap (·.stagedExits) := by
  cases s.openTrade <;> exact ⟨rfl, rfl⟩

lemma consultProvider_grows [UnicodeData] [LowerCase]
    (h : consultProvider symbol timeframe provider candles index candle s = .ok t) :
    Grows [candle.timestamp] 0 s t := by
  simp only [consultProvider, bind_eq_ok] at h
  obtain ⟨answer, -, h⟩ := h
  cases answer with
  | none =>
    obtain rfl := pure_eq_ok.mp h
    exact .of_eq rfl rfl rfl rfl rfl rfl
  | some intent =>
    simp only [takeSignal, bind_eq_ok] at h
    obtain ⟨observationId, -, h⟩ := h
    split_ifs at h with hblocked
    · obtain rfl := pure_eq_ok.mp h
      exact {
        entries := ⟨[], by simp only [SpotRun.entries, ignored_entries, List.append_nil], by simp⟩
        staged := ⟨[], by simp only [SpotRun.stagedExits, ignored_entries, List.append_nil],
          by simp⟩
        audit := .single ⟨by simp, by simp⟩
        trades := .refl _ _
        rejected := List.prefix_append _ _
        equity := ⟨[], by simp, rfl⟩ }
    · obtain rfl := pure_eq_ok.mp h
      exact {
        entries := .refl _ _
        staged := .refl _ _
        audit := .single ⟨by simp, by simp⟩
        trades := .refl _ _
        rejected := List.prefix_refl _
        equity := ⟨[], by simp, rfl⟩ }

/-- What a candle adds to the records. -/
lemma barStep_grows [UnicodeData] [LowerCase]
    (h : config.barStep a symbol timeframe provider candles index candle s = .ok t) :
    Grows [candle.timestamp] 1 s t := by
  simp only [barStep, bind_eq_ok] at h
  obtain ⟨entered, hentered, managed, hmanaged, h⟩ := h
  have hmoved := (enterPending_grows hentered).trans (manageOpenTrade_grows hmanaged)
  exact (hmoved.trans markEquity_grows).trans (consultProvider_grows h)

/-- What a list of candles adds to the records. -/
lemma runFrom_grows [UnicodeData] [LowerCase] {bars : List OHLCVCandle}
    (h : Loop.runFrom (config.barStep a symbol timeframe provider) candles index bars s = .ok t) :
    Grows (bars.map (·.timestamp)) bars.length s t := by
  induction bars generalizing index s with
  | nil =>
    obtain rfl := Except.ok.inj h
    exact .refl _ _
  | cons bar bars ih =>
    rw [Loop.runFrom_cons, bind_eq_ok] at h
    obtain ⟨next, hnext, h⟩ := h
    have hfirst : Grows ((bar :: bars).map (·.timestamp)) 1 s next :=
      (barStep_grows hnext).mono (by simp)
    have hrest : Grows ((bar :: bars).map (·.timestamp)) bars.length next t :=
      (ih h).mono (by simp)
    have htotal := hfirst.trans hrest
    rwa [List.length_cons, Nat.add_comm bars.length 1]

/-! ### Looking back only -/

/-- **A candle of the loop looks back only**, when the provider does. -/
lemma causal_barStep [UnicodeData] [LowerCase] (hp : provider.DependsOnHistory) :
    Loop.Causal (config.barStep a symbol timeframe provider) := by
  intro xs ys i x s htake hx hy
  have hsame := hp _ _ (sameHistory_of_take htake hx hy)
  simp only [barStep, consultProvider, hsame]

/-! ### The end of a run -/

/-- What the end of a run adds to the records of the loop. -/
structure Finishes (s : SpotRun) (r : SpotResult) : Prop where
  entries : r.trades.map (·.entry) = s.entries
  staged : r.trades.flatMap (·.stagedExits) = s.stagedExits
  audit : ContinuedBy (fun e : AuditEvent => e.eventType = "END_OF_DATA") s.audit r.auditEvents
  trades : ContinuedBy (fun t : TradeRecord => t.exitReason = .endOfData) s.trades r.trades
  rejected : s.rejected <+: r.rejectedSignals
  equity : r.equityCurve = s.equityCurve ∨ ∃ point, r.equityCurve = s.equityCurve.dropLast ++ [point]

lemma rejectPending_records (count : ℕ) (s : SpotRun) :
    (rejectPending count s).trades = s.trades ∧ (rejectPending count s).openTrade = s.openTrade ∧
      (rejectPending count s).audit = s.audit ∧
      (rejectPending count s).equityCurve = s.equityCurve ∧
      (rejectPending count s).availableCash = s.availableCash ∧
      s.rejected <+: (rejectPending count s).rejected := by
  rw [rejectPending]
  split
  · exact ⟨rfl, rfl, rfl, rfl, rfl, List.prefix_refl _⟩
  · exact ⟨rfl, rfl, rfl, rfl, rfl, List.prefix_append _ _⟩

lemma finishRun_finishes [UnicodeData] {r : SpotResult}
    (h : config.finishRun a candles s = .ok r) : Finishes s r := by
  simp only [finishRun, bind_eq_ok, pure_eq_ok] at h
  obtain ⟨first, -, last, -, closed, hclosed, benchmark, -, missed, -, _, -, rfl⟩ := h
  obtain ⟨htrades, hopen, haudit, hequity, -, hrejected⟩ := rejectPending_records candles.length s
  simp only [closeAtEnd, hopen] at hclosed
  cases htrade : s.openTrade with
  | none =>
    rw [htrade] at hclosed
    obtain rfl := pure_eq_ok.mp hclosed
    exact {
      entries := by simp [SpotRun.entries, htrade, htrades]
      staged := by simp [SpotRun.stagedExits, htrade, htrades]
      audit := by rw [haudit]; exact .refl _ _
      trades := by rw [htrades]; exact .refl _ _
      rejected := hrejected
      equity := Or.inl hequity }
  | some trade =>
    rw [htrade] at hclosed
    simp only [bind_eq_ok, pure_eq_ok] at hclosed
    obtain ⟨record, hrecord, rfl⟩ := hclosed
    obtain ⟨hentry, hexits, -, hreason⟩ := closeTrade_spec hrecord
    exact {
      entries := by simp [SpotRun.entries, htrade, htrades, hentry]
      staged := by simp [SpotRun.stagedExits, htrade, htrades, hexits]
      audit := by
        rw [haudit]
        exact .single (by simp only [hreason]; rfl)
      trades := by
        rw [htrades]
        exact .single hreason
      rejected := hrejected
      equity := Or.inr ⟨_, by rw [hequity]⟩ }

/-- What a result shows of the first bars of its run: the entries and the staged exits
made on them, their events and closed trades, those of the end of the data apart, the
rejections and the equity points of all of them but the last. -/
structure RecordsFirst (bars : List OHLCVCandle) (s : SpotRun) (r : SpotResult) : Prop where
  entries : (r.trades.map (·.entry)).filter
    (fun e => decide (e.entryTimestamp ∈ bars.map (·.timestamp))) = s.entries
  staged : (r.trades.flatMap (·.stagedExits)).filter
    (fun e => decide (e.timestamp ∈ bars.map (·.timestamp))) = s.stagedExits
  events : r.auditEvents.filter
    (fun e => decide (e.timestamp ∈ bars.map (·.timestamp) ∧ e.eventType ≠ "END_OF_DATA")) = s.audit
  trades : r.trades.filter
    (fun t => decide (t.exitTimestamp ∈ bars.map (·.timestamp) ∧ t.exitReason ≠ .endOfData)) =
      s.trades
  rejections : s.rejected <+: r.rejectedSignals
  equity : r.equityCurve.take (bars.length - 1) = s.equityCurve.take (bars.length - 1)

/-- A result shows of the first bars what the loop recorded on them. -/
lemma recordsFirst_of_run [UnicodeData] [LowerCase] {r : SpotResult} (k : ℕ)
    (h : config.run a symbol timeframe provider candles = .ok r) :
    ∃ s, config.afterBars a symbol timeframe provider candles k = .ok s ∧
      RecordsFirst (candles.take k) s r := by
  simp only [run, bind_eq_ok] at h
  obtain ⟨_, hvalid, final, hfinal, hfinish⟩ := h
  rw [Loop.run_eq_after k, bind_eq_ok] at hfinal
  obtain ⟨s, hs, hrest⟩ := hfinal
  refine ⟨s, hs, ?_⟩
  have hstrict : (candles.map (·.timestamp)).Pairwise (· < ·) := by
    simp only [validateInputs, bind_eq_ok, raiseIf_eq_ok, not_not] at hvalid
    obtain ⟨_, -, _, -, h⟩ := hvalid
    exact h
  -- the times of the later bars are not among those of the first
  have hlater {x : ℤ} (hx : x ∈ (candles.drop k).map (·.timestamp)) :
      x ∉ (candles.take k).map (·.timestamp) := by
    intro hx'
    rw [← List.take_append_drop k candles, List.map_append, List.pairwise_append] at hstrict
    exact absurd (hstrict.2.2 x hx' x hx) (lt_irrefl x)
  have hfirst := runFrom_grows hs
  have hthen := runFrom_grows hrest
  have hend := finishRun_finishes hfinish
  have hold {α : Type} {xs : List α} {p : α → Prop} (hc : ContinuedBy p [] xs) :
      ∀ x ∈ xs, p x := by
    obtain ⟨later, rfl, hp⟩ := hc
    simpa using hp
  constructor
  · rw [hend.entries]
    refine ContinuedBy.filter_eq (hthen.entries.mono fun e he => ?_) fun e he => ?_
    · simpa using hlater he
    · simpa using hold hfirst.entries e he
  · rw [hend.staged]
    refine ContinuedBy.filter_eq (hthen.staged.mono fun e he => ?_) fun e he => ?_
    · simpa using hlater he
    · simpa using hold hfirst.staged e he
  · refine ContinuedBy.filter_eq (.trans (hthen.audit.mono fun e he => ?_)
      (hend.audit.mono fun e he => ?_)) fun e he => ?_
    · exact decide_eq_false fun hx => hlater he.1 hx.1
    · simp [he]
    · simpa using hold hfirst.audit e he
  · refine ContinuedBy.filter_eq (.trans (hthen.trades.mono fun t ht => ?_)
      (hend.trades.mono fun t ht => ?_)) fun t ht => ?_
    · exact decide_eq_false fun hx => hlater ht.1 hx.1
    · simp [ht]
    · simpa using hold hfirst.trades t ht
  · exact hthen.rejected.trans hend.rejected
  · obtain ⟨points, hpoints, hcount⟩ := hfirst.equity
    obtain ⟨points', hpoints', hcount'⟩ := hthen.equity
    have hlen : s.equityCurve.length = (candles.take k).length := by
      rw [hpoints, List.length_append, hcount, initialRun, List.length_nil, zero_add]
    rcases hend.equity with hequity | ⟨point, hequity⟩
    · rw [hequity, hpoints', List.take_append_of_le_length (by omega)]
    · have hfull : (candles.take k).length - 1 ≤ final.equityCurve.dropLast.length := by
        rw [List.length_dropLast, hpoints', List.length_append]
        omega
      rw [hequity, List.take_append_of_le_length hfull, List.dropLast_eq_take, List.take_take,
        min_eq_left (by simpa using hfull), hpoints', List.take_append_of_le_length (by omega)]

/-- **No look-ahead.**  Two lists of candles that agree on their first `k` show the
provider the same history on these bars, element by element and slice by slice, namely
that of the copied prefix.  For every provider that depends only on its history, the loop
keeps the same variables through these bars, and two runs that return show the same of
them. -/
theorem spot_no_look_ahead [UnicodeData] [LowerCase] (config : SpotBacktestConfig) (a : Arithmetic)
    (symbol timeframe : String) {provider : SignalProvider} (hprovider : provider.DependsOnHistory)
    {candles candles' : List OHLCVCandle} {k : ℕ} (hagree : candles.take k = candles'.take k)
    (hlength : k ≤ candles.length) (hlength' : k ≤ candles'.length) :
    (∀ n ≤ k, SameHistory ⟨candles, n⟩ ⟨candles', n⟩ ∧
      (∀ i : ℤ, Sequence.PrefixView.getItem ⟨candles, n⟩ i =
        Sequence.getItem (candles.take n) i) ∧
      ∀ s : Sequence.Slice, Sequence.PrefixView.getSlice ⟨candles, n⟩ s =
        Sequence.getSlice (candles.take n) s) ∧
    (∀ n ≤ k, config.afterBars a symbol timeframe provider candles n =
      config.afterBars a symbol timeframe provider candles' n) ∧
    ∀ r r' : SpotResult, config.run a symbol timeframe provider candles = .ok r →
      config.run a symbol timeframe provider candles' = .ok r' →
      ∃ s, config.afterBars a symbol timeframe provider candles k = .ok s ∧
        RecordsFirst (candles.take k) s r ∧ RecordsFirst (candles'.take k) s r' := by
  have htake {n : ℕ} (hn : n ≤ k) : candles.take n = candles'.take n := by
    have hcut := congrArg (List.take n) hagree
    rwa [List.take_take, List.take_take, min_eq_left hn] at hcut
  have hstates {n : ℕ} (hn : n ≤ k) : config.afterBars a symbol timeframe provider candles n =
      config.afterBars a symbol timeframe provider candles' n :=
    Loop.Causal.after_eq (causal_barStep hprovider) (htake hn)
  refine ⟨?_, fun n hn => hstates hn, ?_⟩
  · intro n hn
    exact ⟨sameHistory_of_take (htake hn) (by omega) (by omega),
      Sequence.PrefixView.getItem_eq (show n ≤ candles.length by omega),
      Sequence.PrefixView.getSlice_eq (show n ≤ candles.length by omega)⟩
  · intro r r' hr hr'
    obtain ⟨s, hs, hrecords⟩ := recordsFirst_of_run k hr
    obtain ⟨s', hs', hrecords'⟩ := recordsFirst_of_run k hr'
    rw [← hstates le_rfl, hs] at hs'
    obtain rfl := Except.ok.inj hs'
    exact ⟨s, hs, hrecords, hrecords'⟩

/-! ### A sample pair of runs -/

/-- The default assumptions. -/
def defaultConfig : SpotBacktestConfig where
  quantity_pos := BacktestConfig.default_quantity
  fee_bounds := BacktestConfig.default_fee
  slippage_bounds := BacktestConfig.default_slippage
  trailing_pos := BacktestConfig.default_trailing
  tick_pos := BacktestConfig.default_step
  step_pos := BacktestConfig.default_step
  cash_pos := by norm_num
  notional_pos := default_notional

/-- A candle of a minute. -/
def minuteCandle (minute : ℕ) («open» high low close : ℚ)
    (h : 0 ≤ low ∧ low ≤ min «open» close ∧ max «open» close ≤ high) : OHLCVCandle where
  timestamp := minute * 60000000
  «open» := «open»
  high := high
  low := low
  close := close
  volume := 10
  nonneg := by
    obtain ⟨h0, h1, h2⟩ := h
    rw [le_min_iff] at h1
    rw [max_le_iff] at h2
    refine ⟨by linarith, by linarith, h0, by linarith, by norm_num⟩
  low_le_high := (h.2.1.trans (min_le_left _ _)).trans ((le_max_left _ _).trans h.2.2)
  max_le_high := h.2.2
  low_le_min := h.2.1

/-- A signal with two targets. -/
def stagedIntent (timestamp : ℤ) : BacktestIntent where
  signalId := "s1"
  timestamp := timestamp
  stopLoss := 90
  takeProfit := 110
  atr := 4
  takeProfitLevels := [110, 120]
  prices_pos := by norm_num
  levels_sorted := by decide +kernel
  ratio_bounds := BacktestIntent.default_ratio
  breakeven_pos := BacktestIntent.default_trigger
  trailing_pos := BacktestIntent.default_trigger
  holding_pos := BacktestIntent.default_holding
  funnel_ok := BacktestIntent.default_funnel

/-- A provider that signals once, on the last close of its history. -/
def closeProvider : SignalProvider := fun history =>
  match history.getItem (-1) with
  | .ok candle => .ok (if candle.close = 100 then some (stagedIntent candle.timestamp) else none)
  | .error _ => .ok none

lemma closeProvider_dependsOnHistory : closeProvider.DependsOnHistory := by
  intro h h' hsame
  simp only [closeProvider, hsame.getItem_eq]

lemma flatRange : (0 : ℚ) ≤ 99 ∧ (99 : ℚ) ≤ min 100 100 ∧ max (100 : ℚ) 100 ≤ 101 := by norm_num

lemma targetRange : (0 : ℚ) ≤ 103 ∧ (103 : ℚ) ≤ min 104 111 ∧ max (104 : ℚ) 111 ≤ 112 := by norm_num

lemma risingRange : (0 : ℚ) ≤ 110 ∧ (110 : ℚ) ≤ min 111 122 ∧ max (111 : ℚ) 122 ≤ 125 := by norm_num

/-- Three candles that reach the first target, and one that rises or falls after them. -/
def sharedCandles : List OHLCVCandle :=
  [minuteCandle 0 100 101 99 100 flatRange, minuteCandle 1 100 105 99 104 (by norm_num),
    minuteCandle 2 104 112 103 111 targetRange]

def risingCandles : List OHLCVCandle :=
  sharedCandles ++ [minuteCandle 3 111 125 110 122 risingRange]

def fallingCandles : List OHLCVCandle :=
  sharedCandles ++ [minuteCandle 3 111 112 80 82 (by norm_num)]

/-- The two samples stage an exit on the third candle and agree on it, though one closes
at the second target and the other at the stop. -/
theorem rising_and_falling_agree : ∃ r r' : SpotResult, ∃ s : SpotRun,
    defaultConfig.run ⟨id⟩ "BTCUSDT" "1m" closeProvider risingCandles = .ok r ∧
    defaultConfig.run ⟨id⟩ "BTCUSDT" "1m" closeProvider fallingCandles = .ok r' ∧
    r.trades.map (·.exitReason) = [.target] ∧ r'.trades.map (·.exitReason) = [.trailingStop] ∧
    RecordsFirst sharedCandles s r ∧ RecordsFirst sharedCandles s r' := by
  have hrun (candles : List OHLCVCandle)
      (h : (defaultConfig.run ⟨id⟩ "BTCUSDT" "1m" closeProvider candles).toOption.isSome) :
      ∃ r, defaultConfig.run ⟨id⟩ "BTCUSDT" "1m" closeProvider candles = .ok r := by
    obtain ⟨r, hr⟩ := Option.isSome_iff_exists.mp h
    exact ⟨r, toOption_eq_some.mp hr⟩
  have hreason (candles : List OHLCVCandle) {r : SpotResult}
      (h : defaultConfig.run ⟨id⟩ "BTCUSDT" "1m" closeProvider candles = .ok r) :
      r.trades.map (·.exitReason) =
        ((defaultConfig.run ⟨id⟩ "BTCUSDT" "1m" closeProvider candles).toOption.map
          fun r => r.trades.map (·.exitReason)).getD [] := by
    rw [h]
    rfl
  obtain ⟨r, hr⟩ := hrun risingCandles (by decide +kernel)
  obtain ⟨r', hr'⟩ := hrun fallingCandles (by decide +kernel)
  obtain ⟨s, -, hrecords, hrecords'⟩ := (spot_no_look_ahead defaultConfig ⟨id⟩ "BTCUSDT" "1m"
    closeProvider_dependsOnHistory (show risingCandles.take 3 = fallingCandles.take 3 from rfl)
    (by decide) (by decide)).2.2 r r' hr hr'
  refine ⟨r, r', s, hr, hr', ?_, ?_, hrecords, hrecords'⟩
  · rw [hreason risingCandles hr]
    decide +kernel
  · rw [hreason fallingCandles hr']
    decide +kernel

end SpotBacktestConfig

end Ai4Binance

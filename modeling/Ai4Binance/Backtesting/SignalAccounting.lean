/-
What becomes of the signals of a backtest (`research/backtesting/engine.py`,
`research/backtesting/futures_engine.py`).

A signal is rejected when it arrives, waits for the next candle, is rejected there or opens
a trade, and the trade is closed; at the end of the data a waiting signal is rejected and an
open trade is closed.  Both engines keep one slot for a waiting signal and one for an open
trade, and count what passes through them.

* `SignalTally`, `SignalTally.Turn`: the counts of a run, and what an engine does to them;
* `SignalTally.Balanced`: what every turn keeps;
* `answers`: the intents that a provider returned;
* `SpotRun.tally`, `FuturesRun.tally`: the counts of either engine, and that a candle takes
  turns;
* `signals_are_accounted`: **no signal is lost or counted twice**, in every run of either
  engine that returns.
-/
import Ai4Binance.Backtesting.FuturesRecords
import Ai4Binance.Backtesting.SpotConservation

open Text Check

namespace Ai4Binance

/-! ### The counts of a run -/

/-- The counts of a run, with its two slots: `pending` and `opened` are one while a signal
waits for the next candle and while a trade is open. -/
@[ext] structure SignalTally where
  noTrades : ℕ := 0
  intents : ℕ := 0
  rejections : ℕ := 0
  entryRejections : ℕ := 0
  trades : ℕ := 0
  virtualOrders : ℕ := 0
  filled : ℕ := 0
  closed : ℕ := 0
  pending : ℕ := 0
  opened : ℕ := 0

namespace SignalTally

/-- What an engine does to its counts, with the number of provider calls it takes. -/
inductive Turn : ℕ → SignalTally → SignalTally → Prop
  | stay (t : SignalTally) : Turn 0 t t
  | rejectEntry {t : SignalTally} : t.pending = 1 → Turn 0 t { t with
      pending := 0, rejections := t.rejections + 1, entryRejections := t.entryRejections + 1 }
  | fill {t : SignalTally} : t.pending = 1 → t.opened = 0 → Turn 0 t { t with
      pending := 0, opened := 1, filled := t.filled + 1 }
  | close {t : SignalTally} : t.opened = 1 → Turn 0 t { t with
      opened := 0, trades := t.trades + 1, closed := t.closed + 1 }
  | noSignal (t : SignalTally) : Turn 1 t { t with noTrades := t.noTrades + 1 }
  | block (t : SignalTally) : Turn 1 t { t with intents := t.intents + 1, rejections := t.rejections + 1 }
  | order {t : SignalTally} : t.pending = 0 → t.opened = 0 → Turn 1 t { t with
      intents := t.intents + 1, pending := 1, virtualOrders := t.virtualOrders + 1 }

/-- The counts fit together: every intent is in one of the slots, traded or rejected. -/
structure Balanced (t : SignalTally) (bars : ℕ) : Prop where
  bars_eq : t.noTrades + t.intents = bars
  intents_eq : t.intents = t.trades + t.opened + t.pending + t.rejections
  filled_eq : t.filled = t.trades + t.opened
  closed_eq : t.closed = t.trades
  orders_eq : t.virtualOrders = t.filled + t.pending + t.entryRejections
  one_slot : t.pending + t.opened ≤ 1

/-- Every turn keeps the balance. -/
theorem Balanced.turn {t u : SignalTally} {bars n : ℕ} (ht : t.Balanced bars) (h : Turn n t u) : u.Balanced (bars + n) := by
  obtain ⟨h1, h2, h3, h4, h5, h6⟩ := ht
  cases h with
  | stay => exact ⟨h1, h2, h3, h4, h5, h6⟩
  | rejectEntry hp => constructor <;> dsimp only <;> omega
  | fill hp ho => constructor <;> dsimp only <;> omega
  | close ho => constructor <;> dsimp only <;> omega
  | noSignal => constructor <;> dsimp only <;> omega
  | block => constructor <;> dsimp only <;> omega
  | order hp ho => constructor <;> dsimp only <;> omega

lemma Turn.of_eq {t u v : SignalTally} {n : ℕ} (h : Turn n t u) (hv : v = u) : Turn n t v := hv ▸ h

end SignalTally

/-! ### The intents of a provider -/

section Answers

variable {ι : Type} {ask : ℕ → Except PyError (Option ι)} {n : ℕ}

/-- The intents that a provider returned in its first calls, with the numbers of the calls. -/
def answers (ask : ℕ → Except PyError (Option ι)) (n : ℕ) : List (ℕ × ι) :=
  (List.range n).filterMap fun i => (ask i).toOption.join.map (i, ·)

@[simp] lemma answers_zero : answers ask 0 = [] := rfl

lemma answers_succ : answers ask (n + 1) =
    answers ask n ++ ((ask n).toOption.join.map (n, ·)).toList := by
  rw [answers, List.range_succ, List.filterMap_append, answers]
  cases h : (ask n).toOption.join <;> simp [h]

lemma answers_succ_none (h : ask n = .ok none) : answers ask (n + 1) = answers ask n := by
  rw [answers_succ, h]
  exact List.append_nil _

lemma answers_succ_some {intent : ι} (h : ask n = .ok (some intent)) :
    answers ask (n + 1) = answers ask n ++ [(n, intent)] := by
  rw [answers_succ, h]
  rfl

end Answers

/-! ### The stage counts -/

namespace StageCounts

variable (counts : StageCounts) {stage : VirtualMarketFunnelStage}

@[simp] lemma record_self : counts.record stage stage = counts stage + 1 := by simp [record]

lemma record_of_ne {other : VirtualMarketFunnelStage} (h : stage ≠ other) :
    counts.record other stage = counts stage := by simp [record, h]

/-- A signal reports upstream stages only. -/
lemma foldl_record {stages : List VirtualMarketFunnelStage} (h : stage ∉ stages) :
    stages.foldl record counts stage = counts stage := by
  induction stages generalizing counts with
  | nil => rfl
  | cons other stages ih =>
    obtain ⟨hne, hrest⟩ := not_or.mp (mt List.mem_cons.mpr h)
    rw [List.foldl_cons, ih _ hrest, record_of_ne _ hne]

end StageCounts

/-- The count of a stage in a telemetry. -/
def stageCount (telemetry : List (VirtualMarketFunnelStage × ℕ))
    (stage : VirtualMarketFunnelStage) : ℕ :=
  (telemetry.lookup stage).getD 0

lemma stageCount_telemetry (counts : StageCounts) (stage : VirtualMarketFunnelStage) :
    stageCount counts.telemetry stage = counts stage := by
  cases stage <;> rfl

/-- The events of a type in an audit trail. -/
def eventCount (eventType : String) (audit : List AuditEvent) : ℕ :=
  audit.countP (·.eventType = eventType)

/-- An event of another type leaves the count. -/
lemma eventCount_snoc_of_ne {eventType : String} {audit : List AuditEvent} {event : AuditEvent}
    (h : event.eventType ≠ eventType) :
    eventCount eventType (audit ++ [event]) = eventCount eventType audit := by
  simp [eventCount, h]

/-- The signals that were still waiting when the data ended. -/
def noNextBarCount (rejected : List RejectedSignal) : ℕ :=
  rejected.countP (·.blockers = ["NO_NEXT_BAR"])

@[simp] lemma noNextBarCount_snoc (rejected : List RejectedSignal) (signalId : String)
    (timestamp : ℤ) : noNextBarCount (rejected ++ [⟨signalId, timestamp, ["NO_NEXT_BAR"]⟩]) =
      noNextBarCount rejected + 1 := by
  simp [noNextBarCount]

lemma noNextBarCount_eq_zero {rejected : List RejectedSignal}
    (h : ∀ r ∈ rejected, "NO_NEXT_BAR" ∉ r.blockers) : noNextBarCount rejected = 0 := by
  rw [noNextBarCount, List.countP_eq_zero]
  intro r hr hall
  refine h r hr ?_
  rw [of_decide_eq_true hall]
  exact List.mem_singleton_self _

/-- The signals of a run with these records are accounted for. -/
structure SignalsCounted (intents candles trades noTrades entryRejections : ℕ)
    (rejected : List RejectedSignal) (telemetry : List (VirtualMarketFunnelStage × ℕ)) : Prop where
  intents_eq : intents = trades + rejected.length
  candles_eq : noTrades + intents = candles
  filled_eq : stageCount telemetry .filled = trades
  closed_eq : stageCount telemetry .closed = trades
  orders_eq : stageCount telemetry .virtualOrder =
    stageCount telemetry .filled + (entryRejections + noNextBarCount rejected)

/-- What the end of the data does to the counts of a run: a waiting signal is rejected, an
open trade is closed. -/
structure SignalTally.Ends (t : SignalTally) (trades noTrades entryRejections : ℕ)
    (rejected : List RejectedSignal) (counts : StageCounts) : Prop where
  trades_eq : trades = t.trades + t.opened
  noTrades_eq : noTrades = t.noTrades
  rejections_eq : rejected.length = t.rejections + t.pending
  noNextBar_eq : noNextBarCount rejected = t.pending
  entryRejections_eq : entryRejections = t.entryRejections
  orders_eq : counts .virtualOrder = t.virtualOrders
  filled_eq : counts .filled = t.filled
  closed_eq : counts .closed = t.closed + t.opened

lemma SignalTally.Ends.counted {t : SignalTally} {trades noTrades entryRejections bars : ℕ}
    {rejected : List RejectedSignal} {counts : StageCounts}
    (h : t.Ends trades noTrades entryRejections rejected counts) (ht : t.Balanced bars) :
    SignalsCounted t.intents bars trades noTrades entryRejections rejected counts.telemetry := by
  obtain ⟨h1, h2, h3, h4, h5, h6, h7, h8⟩ := h
  obtain ⟨b1, b2, b3, b4, b5, -⟩ := ht
  refine ⟨by omega, by omega, ?_, ?_, ?_⟩ <;> simp only [stageCount_telemetry] <;> omega

/-- The counts of a run with its records: the pre-veto records, the rejected signals, and
the rejected signals of the candidates that are reviewed at the end. -/
structure SignalBooks where
  tally : SignalTally
  observations : List String
  rejected : List RejectedSignal
  reviewed : List RejectedSignal

namespace SignalBooks

variable {b b' : SignalBooks} {observed : List String} {bars n : ℕ}

/-- What every candle keeps: the counts are balanced, each intent so far has its record, and
each rejected signal its candidate. -/
structure Accounted (observed : List String) (bars : ℕ) (b : SignalBooks) : Prop where
  balanced : b.tally.Balanced bars
  observed_eq : b.observations = observed
  reviewed_eq : b.rejected = b.reviewed
  not_last : ∀ r ∈ b.rejected, "NO_NEXT_BAR" ∉ r.blockers

lemma Accounted.turn (more : List String) (new : List RejectedSignal)
    (hb : b.Accounted observed bars) (hturn : SignalTally.Turn n b.tally b'.tally)
    (hobserved : b'.observations = b.observations ++ more) (hrejected : b'.rejected = b.rejected ++ new)
    (hreviewed : b'.reviewed = b.reviewed ++ new)
    (hnew : ∀ r ∈ new, "NO_NEXT_BAR" ∉ r.blockers) :
    b'.Accounted (observed ++ more) (bars + n) where
  balanced := hb.balanced.turn hturn
  observed_eq := by rw [hobserved, hb.observed_eq]
  reviewed_eq := by rw [hrejected, hreviewed, hb.reviewed_eq]
  not_last := by
    rw [hrejected]
    intro r hr
    rcases List.mem_append.mp hr with hr | hr
    · exact hb.not_last r hr
    · exact hnew r hr

/-- A turn that asks no provider and rejects nothing. -/
lemma Accounted.keep (hb : b.Accounted observed bars) (hturn : SignalTally.Turn 0 b.tally b'.tally)
    (hobserved : b'.observations = b.observations) (hrejected : b'.rejected = b.rejected)
    (hreviewed : b'.reviewed = b.reviewed) : b'.Accounted observed bars :=
  ⟨hb.balanced.turn hturn, hobserved.trans hb.observed_eq,
    hrejected.trans (hb.reviewed_eq.trans hreviewed.symm), hrejected ▸ hb.not_last⟩

end SignalBooks

/-! ### The blockers of an entry -/

lemma mem_blockerWhen {p : Prop} [Decidable p] {blocker text : String}
    (h : text ∈ blockerWhen p blocker) : p ∧ text = blocker := by
  rw [blockerWhen] at h
  split_ifs at h with hp
  · exact ⟨hp, List.mem_singleton.mp h⟩
  · cases h

lemma not_mem_blockerWhen {p : Prop} [Decidable p] {blocker text : String} (h : text ≠ blocker) :
    text ∉ blockerWhen p blocker := fun hmem => h (mem_blockerWhen hmem).2

/-- The liquidity of a candle is never a missing candle. -/
lemma assessLiquidityFill_blockers {quantity volume : ℚ} {stress : LiquidityStressConfig}
    {assessed : LiquidityFillDecision} (h : assessLiquidityFill quantity volume stress = .ok assessed) :
    "NO_NEXT_BAR" ∉ assessed.blockers := by
  simp only [assessLiquidityFill, bind_eq_ok, pure_eq_ok] at h
  obtain ⟨_, -, _, -, rfl⟩ := h
  dsimp only
  split_ifs <;> decide

namespace SpotBacktestConfig

variable {config : SpotBacktestConfig} {a : Arithmetic} {symbol timeframe : String}
  {provider : SignalProvider} {candle last : OHLCVCandle} {candles : List OHLCVCandle}
  {s t : SpotRun} {bars index : ℕ}

lemma entryFillBlockers_spec {blockers : List String}
    (h : config.entryFillBlockers candle = .ok blockers) : "NO_NEXT_BAR" ∉ blockers := by
  simp only [entryFillBlockers, bind_eq_ok] at h
  obtain ⟨requested, -, h⟩ := h
  split_ifs at h
  · obtain rfl := pure_eq_ok.mp h
    decide
  · cases hstress : config.liquidityStress with
    | none =>
      rw [hstress] at h
      obtain rfl := pure_eq_ok.mp h
      exact List.not_mem_nil
    | some stress =>
      rw [hstress] at h
      simp only [bind_eq_ok] at h
      obtain ⟨assessed, hassessed, rounded, -, h⟩ := h
      have hassess := assessLiquidityFill_blockers hassessed
      split_ifs at h
      · obtain rfl := pure_eq_ok.mp h
        simp [hassess]
      · obtain rfl := pure_eq_ok.mp h
        exact hassess

lemma entryBlockers_spec {intent : BacktestIntent} {cash : ℚ} {blockers : List String}
    (h : config.entryBlockers a intent candle cash = .ok blockers) : "NO_NEXT_BAR" ∉ blockers := by
  simp only [entryBlockers, bind_eq_ok, pure_eq_ok] at h
  obtain ⟨fill, -, fillBlockers, hfill, entry, -, rfl⟩ := h
  simp only [List.mem_append, not_or]
  exact ⟨⟨⟨entryFillBlockers_spec hfill, not_mem_blockerWhen (by decide)⟩,
    not_mem_blockerWhen (by decide)⟩, not_mem_blockerWhen (by decide)⟩

end SpotBacktestConfig

/-! ### The Spot engine -/

/-- The counts of a Spot run. -/
def SpotRun.tally (s : SpotRun) : SignalTally where
  noTrades := s.noTradeCount
  intents := s.observations.length
  rejections := s.rejected.length
  entryRejections := eventCount "ENTRY_REJECTED" s.audit
  trades := s.trades.length
  virtualOrders := s.stageCounts .virtualOrder
  filled := s.stageCounts .filled
  closed := s.stageCounts .closed
  pending := s.pending.toList.length
  opened := s.openTrade.toList.length

/-- The rejected signal of a candidate. -/
def RejectedCandidate.rejection (candidate : RejectedCandidate) : RejectedSignal :=
  ⟨candidate.intent.signalId, candidate.intent.timestamp, candidate.blockers⟩

/-- The books of a Spot run. -/
def SpotRun.books (s : SpotRun) : SignalBooks where
  tally := s.tally
  observations := s.observations
  rejected := s.rejected
  reviewed := s.rejectedCandidates.map (·.rejection)

namespace SpotBacktestConfig

variable {config : SpotBacktestConfig} {a : Arithmetic} {symbol timeframe : String}
  {provider : SignalProvider} {candle last : OHLCVCandle} {candles : List OHLCVCandle}
  {s t : SpotRun} {bars index : ℕ} {observed : List String}

lemma enterPending_accounted (hs : s.books.Accounted observed bars)
    (h : config.enterPending a index candle s = .ok t) : t.books.Accounted observed bars := by
  rw [enterPending] at h
  split at h
  · rename_i pending hpending hopen
    have hwaiting : s.tally.pending = 1 := by simp [SpotRun.tally, hpending]
    have hfree : s.tally.opened = 0 := by simp [SpotRun.tally, hopen]
    simp only [bind_eq_ok] at h
    obtain ⟨blockers, hblockers, h⟩ := h
    split_ifs at h
    · obtain rfl := pure_eq_ok.mp h
      have hturn := SignalTally.Turn.rejectEntry hwaiting
      rw [← List.append_nil observed]
      refine hs.turn [] [⟨pending.intent.signalId, pending.intent.timestamp, blockers⟩]
        (hturn.of_eq ?_) (List.append_nil _).symm rfl ?_ ?_
      · ext <;> simp [SpotRun.books, SpotRun.tally, eventCount]
      · simp [SpotRun.books, RejectedCandidate.rejection]
      · simpa using entryBlockers_spec hblockers
    · simp only [bind_eq_ok, pure_eq_ok] at h
      obtain ⟨trade, -, rfl⟩ := h
      have hevent : (config.entryEvent trade candle).eventType ≠ "ENTRY_REJECTED" := by
        rw [entryEvent]
        split_ifs <;> simp
      refine hs.keep ((SignalTally.Turn.fill hwaiting hfree).of_eq ?_) rfl rfl rfl
      ext <;> simp [SpotRun.books, SpotRun.tally, eventCount_snoc_of_ne hevent,
        StageCounts.record_of_ne]
  · obtain rfl := pure_eq_ok.mp h
    exact hs

/-- A closed trade leaves its slot. -/
lemma recordClose_turn {trade : OpenTrade} {record : TradeRecord} (hopen : s.openTrade.isSome) :
    SignalTally.Turn 0 s.tally (recordClose a s trade record candle).tally := by
  have hheld : s.tally.opened = 1 := by
    obtain ⟨held, hheld⟩ := Option.isSome_iff_exists.mp hopen
    simp [SpotRun.tally, hheld]
  have hevent : record.exitReason.value ≠ "ENTRY_REJECTED" := by
    cases record.exitReason <;> decide
  refine (SignalTally.Turn.close hheld).of_eq ?_
  ext <;> simp [SpotRun.tally, recordClose, eventCount_snoc_of_ne, hevent, StageCounts.record_of_ne]

lemma manageOpenTrade_accounted [UnicodeData] (hs : s.books.Accounted observed bars)
    (h : config.manageOpenTrade a candle s = .ok t) : t.books.Accounted observed bars := by
  rw [manageOpenTrade] at h
  cases hopen : s.openTrade with
  | none =>
    rw [hopen] at h
    obtain rfl := pure_eq_ok.mp h
    exact hs
  | some trade =>
    rw [hopen] at h
    dsimp only at h
    cases hexit : BacktestConfig.evaluateLongExit (BacktestConfig.holdCandle a trade candle).intent
        (BacktestConfig.holdCandle a trade candle).position candle
        (BacktestConfig.holdCandle a trade candle).barsHeld with
    | none =>
      simp only [hexit, bind_eq_ok, pure_eq_ok] at h
      obtain ⟨next, -, rfl⟩ := h
      refine hs.keep ((SignalTally.Turn.stay _).of_eq ?_) rfl rfl rfl
      ext <;> simp [SpotRun.books, SpotRun.tally, hopen]
    | some exit =>
      simp only [hexit] at h
      split_ifs at h
      · simp only [bind_eq_ok, pure_eq_ok] at h
        obtain ⟨reduced, -, next, -, rfl⟩ := h
        refine hs.keep ((SignalTally.Turn.stay _).of_eq ?_) rfl rfl rfl
        ext <;> simp [SpotRun.books, SpotRun.tally, recordStagedExit, hopen, eventCount_snoc_of_ne]
      · simp only [bind_eq_ok, pure_eq_ok] at h
        obtain ⟨record, -, rfl⟩ := h
        exact hs.keep (recordClose_turn (by rw [hopen]; rfl)) rfl rfl rfl

lemma intentBlockers_spec [UnicodeData] {intent : BacktestIntent} {openTrade : Option OpenTrade}
    {pending : Option PendingEntry} :
    "NO_NEXT_BAR" ∉ intent.intentBlockers candle openTrade pending := by
  simp only [BacktestIntent.intentBlockers, List.mem_append, not_or]
  exact ⟨⟨⟨not_mem_blockerWhen (by decide), not_mem_blockerWhen (by decide)⟩,
    not_mem_blockerWhen (by decide)⟩, not_mem_blockerWhen (by decide)⟩

/-- A signal without blockers finds both slots free. -/
lemma slots_free [UnicodeData] {intent : BacktestIntent}
    (h : intent.intentBlockers candle s.openTrade s.pending = []) :
    s.openTrade = none ∧ s.pending = none := by
  simp only [BacktestIntent.intentBlockers, blockerWhen, List.append_eq_nil_iff] at h
  obtain ⟨⟨-, hopen⟩, hpending⟩ := h
  constructor
  · cases hs : s.openTrade with
    | none => rfl
    | some trade => simp [hs] at hopen
  · cases hs : s.pending with
    | none => rfl
    | some pending => simp [hs] at hpending

/-- A signal gets its record and is blocked, or waits. -/
lemma takeSignal_accounted [UnicodeData] [LowerCase] {intent : BacktestIntent}
    (hs : s.books.Accounted observed bars) (h : takeSignal intent index candle s = .ok t) :
    t.books.Accounted (observed ++ [intent.preVetoObservationId index]) (bars + 1) := by
  have hupstream {stage : VirtualMarketFunnelStage}
      (hstage : stage ∉ VirtualMarketFunnelStage.upstream) :
      intent.funnelStages.foldl StageCounts.record s.stageCounts stage = s.stageCounts stage :=
    StageCounts.foldl_record _ fun hmem => hstage (intent.funnel_ok.2.2 stage hmem)
  simp only [takeSignal, BacktestIntent.preVetoObservation, bind_eq_ok, pure_eq_ok] at h
  obtain ⟨_, ⟨_, -, rfl⟩, h⟩ := h
  split_ifs at h with hblocked
  · obtain rfl := pure_eq_ok.mp h
    have hslot (f : OpenTrade → OpenTrade) :
        (s.openTrade.map f).toList.length = s.openTrade.toList.length := by
      cases s.openTrade <;> rfl
    refine hs.turn [_]
      [⟨intent.signalId, intent.timestamp, intent.intentBlockers candle s.openTrade s.pending⟩]
      ((SignalTally.Turn.block _).of_eq ?_) rfl rfl ?_ ?_
    · ext <;> simp [SpotRun.books, SpotRun.tally, hupstream, VirtualMarketFunnelStage.upstream,
        eventCount_snoc_of_ne, hslot]
    · simp [SpotRun.books, RejectedCandidate.rejection]
    · simpa using intentBlockers_spec
  · obtain rfl := pure_eq_ok.mp h
    obtain ⟨hopen, hpending⟩ := slots_free (not_not.mp hblocked)
    have hwaiting : s.tally.pending = 0 := by simp [SpotRun.tally, hpending]
    have hfree : s.tally.opened = 0 := by simp [SpotRun.tally, hopen]
    refine hs.turn [_] []
      ((SignalTally.Turn.order hwaiting hfree).of_eq ?_) rfl (List.append_nil _).symm
      (List.append_nil _).symm (fun r hr => ?_)
    · ext <;> simp [SpotRun.books, SpotRun.tally, hupstream, VirtualMarketFunnelStage.upstream,
        eventCount_snoc_of_ne, StageCounts.record_of_ne]
    · cases hr

end SpotBacktestConfig

/-- The intents of a Spot provider in its first calls. -/
def SignalProvider.intents (provider : SignalProvider) (candles : List OHLCVCandle) (calls : ℕ) :
    List (ℕ × BacktestIntent) :=
  answers (fun i => provider ⟨candles, i + 1⟩) calls

namespace SpotBacktestConfig

variable {config : SpotBacktestConfig} {a : Arithmetic} {symbol timeframe : String}
  {provider : SignalProvider} {candle last : OHLCVCandle} {candles : List OHLCVCandle}
  {s t : SpotRun} {k : ℕ} {r : SpotResult}

/-- The identities of the intents of a provider, as a run records them. -/
def observedIds [UnicodeData] [LowerCase] (symbol timeframe : String) (provider : SignalProvider)
    (candles : List OHLCVCandle) (calls : ℕ) : List String :=
  (provider.intents candles calls).map fun x =>
    (x.2.normalize symbol timeframe).preVetoObservationId x.1

/-- **One candle** accounts for one answer of the provider. -/
lemma barStep_accounted [UnicodeData] [LowerCase]
    (hs : s.books.Accounted (observedIds symbol timeframe provider candles k) k)
    (h : config.barStep a symbol timeframe provider candles k candle s = .ok t) :
    t.books.Accounted (observedIds symbol timeframe provider candles (k + 1)) (k + 1) := by
  simp only [barStep, consultProvider, bind_eq_ok] at h
  obtain ⟨entered, hentered, managed, hmanaged, answer, hanswer, h⟩ := h
  have hheld := manageOpenTrade_accounted (enterPending_accounted hs hentered) hmanaged
  have hmarked : (config.markEquity a candle managed).books.Accounted
      (observedIds symbol timeframe provider candles k) k := hheld
  cases answer with
  | none =>
    obtain rfl := pure_eq_ok.mp h
    rw [observedIds, SignalProvider.intents, answers_succ_none hanswer]
    exact ⟨hmarked.balanced.turn (.noSignal _), hmarked.observed_eq, hmarked.reviewed_eq,
      hmarked.not_last⟩
  | some intent =>
    have hnext := takeSignal_accounted hmarked h
    rw [observedIds, SignalProvider.intents, answers_succ_some hanswer, List.map_append]
    exact hnext

/-- A run accounts for every answer of the provider. -/
lemma run_accounted [UnicodeData] [LowerCase]
    (h : Loop.run (config.barStep a symbol timeframe provider) candles config.initialRun = .ok s) :
    s.books.Accounted (observedIds symbol timeframe provider candles candles.length)
      candles.length := by
  have hstart : config.initialRun.books.Accounted (observedIds symbol timeframe provider candles 0)
      0 := by
    refine ⟨⟨rfl, rfl, rfl, rfl, rfl, Nat.zero_le _⟩, rfl, rfl, fun r hr => ?_⟩
    cases hr
  have hend := Loop.runFrom_invariant
    (P := fun k s => s.books.Accounted (observedIds symbol timeframe provider candles k) k)
    (fun {_ _ _ _} _ hs hstep => barStep_accounted hs hstep) (List.prefix_refl _) h hstart
  rwa [zero_add] at hend

/-- The end of the data empties the slots. -/
lemma ends_of_closeAtEnd [UnicodeData] {observed : List String}
    (hs : s.books.Accounted observed k) (h : config.closeAtEnd a last (rejectPending k s) = .ok t) :
    s.tally.Ends t.trades.length t.noTradeCount (eventCount "ENTRY_REJECTED" t.audit) t.rejected
        t.stageCounts ∧ t.observations = s.observations ∧ t.rejected = t.books.reviewed := by
  have hlast : noNextBarCount s.rejected = 0 := noNextBarCount_eq_zero hs.not_last
  have hreviewed : s.rejected = s.books.reviewed := hs.reviewed_eq
  have hslots := hs.balanced.one_slot
  cases hpending : s.pending with
  | some pending =>
    have hopen : s.openTrade = none := by
      cases hopen : s.openTrade with
      | none => rfl
      | some trade => simp [SpotRun.books, SpotRun.tally, hpending, hopen] at hslots
    rw [closeAtEnd, rejectPending, hpending] at h
    dsimp only at h
    rw [hopen] at h
    obtain rfl := pure_eq_ok.mp h
    refine ⟨?_, rfl, (congrArg (· ++ [_]) hreviewed).trans ?_⟩
    · constructor <;> simp [SpotRun.tally, hpending, hopen, hlast]
    · simp [SpotRun.books, RejectedCandidate.rejection]
  | none =>
    rw [closeAtEnd, rejectPending, hpending] at h
    dsimp only at h
    cases hopen : s.openTrade with
    | none =>
      rw [hopen] at h
      obtain rfl := pure_eq_ok.mp h
      refine ⟨?_, rfl, hreviewed⟩
      constructor <;> simp [SpotRun.tally, hpending, hopen, hlast]
    | some trade =>
      simp only [hopen, bind_eq_ok, pure_eq_ok] at h
      obtain ⟨record, -, rfl⟩ := h
      have hevent : record.exitReason.value ≠ "ENTRY_REJECTED" := by
        cases record.exitReason <;> decide
      refine ⟨?_, rfl, hreviewed⟩
      constructor <;> simp [SpotRun.tally, hpending, hopen, hlast, StageCounts.record_of_ne,
        eventCount_snoc_of_ne, hevent]

/-- The signals of a Spot run are accounted for. -/
structure SignalsAccounted [UnicodeData] [LowerCase] (config : SpotBacktestConfig) (a : Arithmetic)
    (symbol timeframe : String) (provider : SignalProvider) (candles : List OHLCVCandle)
    (r : SpotResult) : Prop where
  counted : SignalsCounted (provider.intents candles candles.length).length candles.length
    r.trades.length r.noTradeCount (eventCount "ENTRY_REJECTED" r.auditEvents) r.rejectedSignals
    r.stageCounts
  preVeto_eq : r.preVetoOpportunities = observedIds symbol timeframe provider candles candles.length
  preVeto_nodup : r.preVetoOpportunities.Nodup
  reviewed : ∃ candidates : List RejectedCandidate,
    r.rejectedSignals = candidates.map (·.rejection) ∧
      List.Forall₂ (fun candidate missed => config.missedOpportunity a candles candidate = .ok missed)
        candidates r.missedOpportunities

lemma signalsAccounted_of_run [UnicodeData] [LowerCase]
    (h : config.run a symbol timeframe provider candles = .ok r) :
    config.SignalsAccounted a symbol timeframe provider candles r := by
  simp only [run, finishRun, bind_eq_ok, raiseIf_eq_ok, pure_eq_ok, not_not] at h
  obtain ⟨_, -, s, hs, first, -, last, -, closed, hclosed, benchmark, -, missed, hmissed, _, hnodup,
    rfl⟩ := h
  have haccounted := run_accounted hs
  have hobserved : s.observations = observedIds symbol timeframe provider candles candles.length :=
    haccounted.observed_eq
  obtain ⟨hends, hobservations, hreviewed⟩ := ends_of_closeAtEnd haccounted hclosed
  refine ⟨?_, hobservations.trans hobserved, hnodup, closed.rejectedCandidates, hreviewed, ?_⟩
  · have hcounted := hends.counted haccounted.balanced
    have hintents : s.tally.intents = (provider.intents candles candles.length).length := by
      rw [SpotRun.tally, hobserved, observedIds, List.length_map]
    exact hintents ▸ hcounted
  · rw [missedOpportunityLedger, mapM_eq_ok] at hmissed
    exact hmissed

end SpotBacktestConfig

/-! ### The Futures engine -/

/-- The counts of a Futures run. -/
def FuturesRun.tally (s : FuturesRun) : SignalTally where
  noTrades := s.noTradeCount
  intents := s.observations.length
  rejections := s.rejected.length
  entryRejections := eventCount "FUTURES_ENTRY_REJECTED" s.audit
  trades := s.trades.length
  virtualOrders := s.stageCounts .virtualOrder
  filled := s.stageCounts .filled
  closed := s.stageCounts .closed
  pending := s.pending.toList.length
  opened := s.openTrade.toList.length

/-- The rejected signal of a candidate. -/
def RejectedFuturesCandidate.rejection (candidate : RejectedFuturesCandidate) : RejectedSignal :=
  ⟨candidate.intent.signalId, candidate.intent.timestamp, candidate.blockers⟩

/-- The books of a Futures run. -/
def FuturesRun.books (s : FuturesRun) : SignalBooks where
  tally := s.tally
  observations := s.observations
  rejected := s.rejected
  reviewed := s.rejectedCandidates.map (·.rejection)

namespace FuturesRunConfig

variable {config : FuturesRunConfig} {a : Arithmetic} {dataset : RuntimeFuturesReplayDataset}
  {provider : FuturesSignalProvider} {bar : ReplayCandle} {bars : List ReplayCandle}
  {last : OHLCVCandle} {s t : FuturesRun} {k index : ℕ} {observed : List String}

lemma pricedBlockers_spec {signal : FuturesSignal} {cash entry quantity : ℚ} :
    "NO_NEXT_BAR" ∉ config.pricedBlockers a signal bar cash entry quantity := by
  have hgeometry : "NO_NEXT_BAR" ∉ geometryBlockers signal entry := by
    rw [geometryBlockers]
    split <;> exact not_mem_blockerWhen (by decide)
  have hbrackets : "NO_NEXT_BAR" ∉
      config.markEntryBracketBlockers a entry (markOr bar entry) quantity := by
    rw [markEntryBracketBlockers]
    dsimp only
    split
    · exact not_mem_blockerWhen (by decide)
    · decide
  simp only [pricedBlockers, List.mem_append, not_or]
  refine ⟨⟨⟨hgeometry, not_mem_blockerWhen (by decide)⟩, not_mem_blockerWhen (by decide)⟩, ?_⟩
  split_ifs
  · exact hbrackets
  · exact List.not_mem_nil

lemma entryBlockers_spec {signal : FuturesSignal} {cash : ℚ} {blockers : List String}
    (h : config.entryBlockers a signal bar cash = .ok blockers) : "NO_NEXT_BAR" ∉ blockers := by
  simp only [entryBlockers, bind_eq_ok] at h
  obtain ⟨fill, -, fillBlockers, hfill, entry, -, h⟩ := h
  have hfill' := SpotBacktestConfig.entryFillBlockers_spec hfill
  split_ifs at h
  · obtain rfl := pure_eq_ok.mp h
    simp [hfill']
  · obtain rfl := pure_eq_ok.mp h
    simp [hfill', pricedBlockers_spec]
  · simp only [bind_eq_ok, pure_eq_ok] at h
    obtain ⟨liquidation, -, rfl⟩ := h
    simp only [List.mem_eraseDups, List.mem_append, not_or]
    exact ⟨⟨hfill', pricedBlockers_spec⟩, not_mem_blockerWhen (by decide)⟩

lemma enterPending_accounted (hs : s.books.Accounted observed k)
    (h : config.enterPending a index bar s = .ok t) : t.books.Accounted observed k := by
  rw [enterPending] at h
  split at h
  · rename_i pending hpending hopen
    have hwaiting : s.tally.pending = 1 := by simp [FuturesRun.tally, hpending]
    have hfree : s.tally.opened = 0 := by simp [FuturesRun.tally, hopen]
    simp only [bind_eq_ok] at h
    obtain ⟨blockers, hblockers, h⟩ := h
    split_ifs at h
    · obtain rfl := pure_eq_ok.mp h
      have hturn := SignalTally.Turn.rejectEntry hwaiting
      rw [← List.append_nil observed]
      refine hs.turn [] [⟨pending.intent.signalId, pending.intent.timestamp, blockers⟩]
        (hturn.of_eq ?_) (List.append_nil _).symm rfl ?_ ?_
      · ext <;> simp [FuturesRun.books, FuturesRun.tally, eventCount]
      · simp [FuturesRun.books, RejectedFuturesCandidate.rejection]
      · simpa using entryBlockers_spec hblockers
    · simp only [bind_eq_ok, pure_eq_ok] at h
      obtain ⟨trade, -, rfl⟩ := h
      have hevent : (config.entryEvent trade bar.candle).eventType ≠ "FUTURES_ENTRY_REJECTED" := by
        rw [entryEvent]
        split_ifs <;> simp
      refine hs.keep ((SignalTally.Turn.fill hwaiting hfree).of_eq ?_) rfl rfl rfl
      ext <;> simp [FuturesRun.books, FuturesRun.tally, eventCount_snoc_of_ne hevent,
        StageCounts.record_of_ne]
  · obtain rfl := pure_eq_ok.mp h
    exact hs

/-- The slot of the waiting signal is free after the open of a candle. -/
lemma enterPending_clears (hs : s.tally.pending + s.tally.opened ≤ 1)
    (h : config.enterPending a index bar s = .ok t) : t.pending = none := by
  cases hpending : s.pending with
  | none =>
    rw [enterPending, hpending] at h
    obtain rfl := pure_eq_ok.mp h
    exact hpending
  | some pending =>
    have hopen : s.openTrade = none := by
      cases hopen : s.openTrade with
      | none => rfl
      | some trade => simp [FuturesRun.tally, hpending, hopen] at hs
    rw [enterPending, hpending, hopen] at h
    simp only [bind_eq_ok] at h
    obtain ⟨blockers, -, h⟩ := h
    split_ifs at h
    · obtain rfl := pure_eq_ok.mp h
      rfl
    · simp only [bind_eq_ok, pure_eq_ok] at h
      obtain ⟨trade, -, rfl⟩ := h
      rfl

/-- A closed trade leaves its slot. -/
lemma recordClose_turn {record : FuturesTradeRecord} {candle : OHLCVCandle}
    (hopen : s.openTrade.isSome) :
    SignalTally.Turn 0 s.tally (recordClose a s record candle).tally := by
  have hheld : s.tally.opened = 1 := by
    obtain ⟨held, hheld⟩ := Option.isSome_iff_exists.mp hopen
    simp [FuturesRun.tally, hheld]
  have hevent : record.exitReason.value ≠ "FUTURES_ENTRY_REJECTED" := by
    cases record.exitReason <;> decide
  refine (SignalTally.Turn.close hheld).of_eq ?_
  ext <;> simp [FuturesRun.tally, recordClose, eventCount_snoc_of_ne, hevent,
    StageCounts.record_of_ne]

lemma manageOpenTrade_accounted (hs : s.books.Accounted observed k)
    (h : config.manageOpenTrade a dataset bar s = .ok t) :
    t.books.Accounted observed k ∧ t.pending = s.pending := by
  rw [manageOpenTrade] at h
  cases hopen : s.openTrade with
  | none =>
    rw [hopen] at h
    obtain rfl := pure_eq_ok.mp h
    exact ⟨hs, rfl⟩
  | some trade =>
    rw [hopen] at h
    simp only [bind_eq_ok] at h
    obtain ⟨held, -, h⟩ := h
    cases hexit : held.exitDecision bar with
    | none =>
      simp only [hexit] at h
      obtain rfl := pure_eq_ok.mp h
      refine ⟨hs.keep ((SignalTally.Turn.stay _).of_eq ?_) rfl rfl rfl, rfl⟩
      ext <;> simp [FuturesRun.books, FuturesRun.tally, hopen]
    | some decision =>
      simp only [hexit, bind_eq_ok, pure_eq_ok] at h
      obtain ⟨record, -, rfl⟩ := h
      exact ⟨hs.keep (recordClose_turn (by rw [hopen]; rfl)) rfl rfl rfl, rfl⟩

lemma intentBlockers_spec {signal : FuturesSignal} {candle : OHLCVCandle}
    {openTrade : Option FuturesTrade} {seen : List String} :
    "NO_NEXT_BAR" ∉ signal.intentBlockers candle openTrade seen dataset := by
  simp only [FuturesSignal.intentBlockers, List.mem_append, not_or]
  exact ⟨⟨⟨⟨not_mem_blockerWhen (by decide), not_mem_blockerWhen (by decide)⟩,
    not_mem_blockerWhen (by decide)⟩, not_mem_blockerWhen (by decide)⟩,
    not_mem_blockerWhen (by decide)⟩

/-- A signal without blockers finds no open trade. -/
lemma openTrade_free {signal : FuturesSignal} {candle : OHLCVCandle}
    (h : signal.intentBlockers candle s.openTrade s.seenSignalIds dataset = []) :
    s.openTrade = none := by
  simp only [FuturesSignal.intentBlockers, blockerWhen, List.append_eq_nil_iff] at h
  cases hs : s.openTrade with
  | none => rfl
  | some trade => simp [hs] at h

/-- A signal gets its record and is blocked, or waits.  Nothing checks whether another signal
is waiting: the open of the candle has settled that. -/
lemma takeSignal_accounted {signal : FuturesSignal} {candle : OHLCVCandle}
    (hs : s.books.Accounted observed k) (hpending : s.pending = none)
    (h : takeSignal dataset signal index candle s = .ok t) :
    t.books.Accounted (observed ++ [signal.preVetoObservationId index]) (k + 1) := by
  have hupstream {stage : VirtualMarketFunnelStage}
      (hstage : stage ∉ VirtualMarketFunnelStage.upstream) :
      signal.funnelStages.foldl StageCounts.record s.stageCounts stage = s.stageCounts stage :=
    StageCounts.foldl_record _ fun hmem => hstage (signal.funnel_ok.2.2 stage hmem)
  simp only [takeSignal, FuturesSignal.preVetoObservation, bind_eq_ok, pure_eq_ok] at h
  obtain ⟨_, ⟨_, -, _, -, rfl⟩, h⟩ := h
  split_ifs at h with hblocked
  · obtain rfl := pure_eq_ok.mp h
    have hslot (f : FuturesTrade → FuturesTrade) :
        (s.openTrade.map f).toList.length = s.openTrade.toList.length := by
      cases s.openTrade <;> rfl
    refine hs.turn [_] [⟨signal.signalId, signal.timestamp,
        signal.intentBlockers candle s.openTrade s.seenSignalIds dataset⟩]
      ((SignalTally.Turn.block _).of_eq ?_) rfl rfl ?_ ?_
    · ext <;> simp [FuturesRun.books, FuturesRun.tally, hupstream,
        VirtualMarketFunnelStage.upstream, eventCount_snoc_of_ne, hslot]
    · simp [FuturesRun.books, RejectedFuturesCandidate.rejection]
    · simpa using intentBlockers_spec
  · obtain rfl := pure_eq_ok.mp h
    have hopen := openTrade_free (not_not.mp hblocked)
    have hwaiting : s.tally.pending = 0 := by simp [FuturesRun.tally, hpending]
    have hfree : s.tally.opened = 0 := by simp [FuturesRun.tally, hopen]
    refine hs.turn [_] []
      ((SignalTally.Turn.order hwaiting hfree).of_eq ?_) rfl (List.append_nil _).symm
      (List.append_nil _).symm (fun r hr => ?_)
    · ext <;> simp [FuturesRun.books, FuturesRun.tally, hupstream,
        VirtualMarketFunnelStage.upstream, eventCount_snoc_of_ne, StageCounts.record_of_ne]
    · cases hr

end FuturesRunConfig

/-- The intents of a Futures provider in its first calls. -/
def FuturesSignalProvider.intents [UnicodeData] (provider : FuturesSignalProvider)
    (dataset : RuntimeFuturesReplayDataset) (calls : ℕ) : List (ℕ × FuturesSignal) :=
  answers (fun i => provider.ask dataset i) calls

namespace FuturesRunConfig

variable {config : FuturesRunConfig} {a : Arithmetic} {dataset : RuntimeFuturesReplayDataset}
  {provider : FuturesSignalProvider} {bar : ReplayCandle} {bars whole : List ReplayCandle}
  {last : OHLCVCandle} {s t : FuturesRun} {k : ℕ} {r : FuturesResult}

section Provider

variable [UnicodeData] [CanonicalDigest RuntimeFuturesReplayDataset]

/-- The identities of the intents of a provider, as a run records them. -/
def observedIds (dataset : RuntimeFuturesReplayDataset) (provider : FuturesSignalProvider)
    (calls : ℕ) : List String :=
  (provider.intents dataset calls).map fun x => (x.2.normalize dataset).preVetoObservationId x.1

/-- **One candle** accounts for one answer of the provider. -/
lemma barStep_accounted (hs : s.books.Accounted (observedIds dataset provider k) k)
    (h : config.barStep a dataset provider whole k bar s = .ok t) :
    t.books.Accounted (observedIds dataset provider (k + 1)) (k + 1) := by
  simp only [barStep, consultProvider, bind_eq_ok] at h
  obtain ⟨entered, hentered, managed, hmanaged, answer, hanswer, h⟩ := h
  have hcleared := enterPending_clears hs.balanced.one_slot hentered
  obtain ⟨hheld, hpending⟩ := manageOpenTrade_accounted (enterPending_accounted hs hentered) hmanaged
  have hmarked : (config.markEquity a bar managed).books.Accounted (observedIds dataset provider k)
      k := hheld
  cases answer with
  | none =>
    obtain rfl := pure_eq_ok.mp h
    rw [observedIds, FuturesSignalProvider.intents, answers_succ_none hanswer]
    exact ⟨hmarked.balanced.turn (.noSignal _), hmarked.observed_eq, hmarked.reviewed_eq,
      hmarked.not_last⟩
  | some signal =>
    have hnext := takeSignal_accounted hmarked (hpending.trans hcleared) h
    rw [observedIds, FuturesSignalProvider.intents, answers_succ_some hanswer, List.map_append]
    exact hnext

/-- A run accounts for every answer of the provider. -/
lemma run_accounted
    (h : Loop.run (config.barStep a dataset provider) bars config.initialRun = .ok s) :
    s.books.Accounted (observedIds dataset provider bars.length) bars.length := by
  have hstart : config.initialRun.books.Accounted (observedIds dataset provider 0) 0 := by
    refine ⟨⟨rfl, rfl, rfl, rfl, rfl, Nat.zero_le _⟩, rfl, rfl, fun r hr => ?_⟩
    cases hr
  have hend := Loop.runFrom_invariant
    (P := fun k s => s.books.Accounted (observedIds dataset provider k) k)
    (fun {_ _ _ _} _ hs hstep => barStep_accounted hs hstep) (List.prefix_refl _) h hstart
  rwa [zero_add] at hend

end Provider

/-- The end of the data empties the slots. -/
lemma ends_of_closeAtEnd {observed : List String}
    (hs : s.books.Accounted observed k)
    (h : config.closeAtEnd a dataset last (rejectPending k s) = .ok t) :
    s.tally.Ends t.trades.length t.noTradeCount (eventCount "FUTURES_ENTRY_REJECTED" t.audit)
        t.rejected t.stageCounts ∧ t.observations = s.observations ∧
      t.rejected = t.books.reviewed := by
  have hlast : noNextBarCount s.rejected = 0 := noNextBarCount_eq_zero hs.not_last
  have hreviewed : s.rejected = s.books.reviewed := hs.reviewed_eq
  have hslots := hs.balanced.one_slot
  cases hpending : s.pending with
  | some pending =>
    have hopen : s.openTrade = none := by
      cases hopen : s.openTrade with
      | none => rfl
      | some trade => simp [FuturesRun.books, FuturesRun.tally, hpending, hopen] at hslots
    rw [closeAtEnd, rejectPending, hpending] at h
    dsimp only at h
    rw [hopen] at h
    obtain rfl := pure_eq_ok.mp h
    refine ⟨?_, rfl, (congrArg (· ++ [_]) hreviewed).trans ?_⟩
    · constructor <;> simp [FuturesRun.tally, hpending, hopen, hlast]
    · simp [FuturesRun.books, RejectedFuturesCandidate.rejection]
  | none =>
    rw [closeAtEnd, rejectPending, hpending] at h
    dsimp only at h
    cases hopen : s.openTrade with
    | none =>
      rw [hopen] at h
      obtain rfl := pure_eq_ok.mp h
      refine ⟨?_, rfl, hreviewed⟩
      constructor <;> simp [FuturesRun.tally, hpending, hopen, hlast]
    | some trade =>
      simp only [hopen, bind_eq_ok, pure_eq_ok] at h
      obtain ⟨record, -, rfl⟩ := h
      have hevent : record.exitReason.value ≠ "FUTURES_ENTRY_REJECTED" := by
        cases record.exitReason <;> decide
      refine ⟨?_, rfl, hreviewed⟩
      constructor <;> simp [FuturesRun.tally, recordClose, hpending, hopen, hlast,
        StageCounts.record_of_ne, eventCount_snoc_of_ne, hevent]

section Provider

variable [UnicodeData] [CanonicalDigest RuntimeFuturesReplayDataset]

/-- The signals of a Futures run are accounted for. -/
structure SignalsAccounted (config : FuturesRunConfig) (a : Arithmetic)
    (dataset : RuntimeFuturesReplayDataset) (provider : FuturesSignalProvider)
    (r : FuturesResult) : Prop where
  counted : SignalsCounted (provider.intents dataset dataset.candles.length).length
    dataset.candles.length r.trades.length r.noTradeCount
    (eventCount "FUTURES_ENTRY_REJECTED" r.auditEvents) r.rejectedSignals r.stageCounts
  preVeto_eq : r.preVetoOpportunities = observedIds dataset provider dataset.candles.length
  preVeto_nodup : r.preVetoOpportunities.Nodup
  reviewed : ∃ marks last, config.runMarks dataset = .ok marks ∧
    dataset.candles.getLast? = some last ∧ ∃ candidates : List RejectedFuturesCandidate,
      r.rejectedSignals = candidates.map (·.rejection) ∧
        List.Forall₂ (fun candidate missed =>
          config.missedOpportunity a dataset (dataset.bars marks) last candidate = .ok missed)
          candidates r.missedOpportunities

lemma signalsAccounted_of_run (h : config.run a dataset provider = .ok r) :
    config.SignalsAccounted a dataset provider r := by
  obtain ⟨-, marks, hmarks, -, s, hs, hfinish⟩ := run_eq_ok h
  simp only [finishRun, bind_eq_ok, raiseIf_eq_ok, pure_eq_ok, not_not] at hfinish
  obtain ⟨first, -, last, hlast, closed, hclosed, benchmark, -, missed, hmissed, _, hnodup, rfl⟩ :=
    hfinish
  have haccounted := run_accounted hs
  rw [RuntimeFuturesReplayDataset.length_bars] at haccounted hclosed
  have hobserved : s.observations = observedIds dataset provider dataset.candles.length :=
    haccounted.observed_eq
  obtain ⟨hends, hobservations, hreviewed⟩ := ends_of_closeAtEnd haccounted hclosed
  refine ⟨?_, hobservations.trans hobserved, hnodup, marks, last, hmarks, ?_,
    closed.rejectedCandidates, hreviewed, ?_⟩
  · have hcounted := hends.counted haccounted.balanced
    have hintents : s.tally.intents =
        (provider.intents dataset dataset.candles.length).length := by
      rw [FuturesRun.tally, hobserved, observedIds, List.length_map]
    have hreviews : eventCount "FUTURES_ENTRY_REJECTED" (closed.audit ++
        closed.rejectedCandidates.map fun rejected =>
          ⟨"OPPORTUNITY_VETO_REVIEWED", rejected.preVetoObservationId, last.timestamp⟩) =
        eventCount "FUTURES_ENTRY_REJECTED" closed.audit := by
      simp [eventCount]
    rw [← hreviews] at hcounted
    exact hintents ▸ hcounted
  · exact orRaise_eq_ok.mp hlast
  · rw [missedOpportunityLedger, mapM_eq_ok] at hmissed
    exact hmissed

end Provider

end FuturesRunConfig

/-- **No signal is lost or counted twice.**  In every run of either engine that returns, each
intent of the provider has its pre-veto record and is a trade or a rejected signal, each call
without an intent is counted, every filled order is closed, and every rejected signal is
reviewed once. -/
theorem signals_are_accounted [UnicodeData] [LowerCase]
    [CanonicalDigest RuntimeFuturesReplayDataset] (a : Arithmetic) :
    (∀ (config : SpotBacktestConfig) (symbol timeframe : String) (provider : SignalProvider)
      (candles : List OHLCVCandle) (r : SpotBacktestConfig.SpotResult),
      config.run a symbol timeframe provider candles = .ok r →
        config.SignalsAccounted a symbol timeframe provider candles r) ∧
    ∀ (config : FuturesRunConfig) (dataset : RuntimeFuturesReplayDataset)
      (provider : FuturesSignalProvider) (r : FuturesRunConfig.FuturesResult),
      config.run a dataset provider = .ok r → config.SignalsAccounted a dataset provider r :=
  ⟨fun _ _ _ _ _ _ h => SpotBacktestConfig.signalsAccounted_of_run h,
    fun _ _ _ _ h => FuturesRunConfig.signalsAccounted_of_run h⟩

/-- The samples of both engines: one trade each, which their counts show. -/
theorem sample_signals_are_accounted :
    letI := CanonicalDigest.const RuntimeFuturesReplayDataset
    (∃ r : SpotBacktestConfig.SpotResult,
      SpotBacktestConfig.defaultConfig.run .decimal "BTCUSDT" "1m" SpotBacktestConfig.closeProvider
        SpotBacktestConfig.risingCandles = .ok r ∧ r.trades.length = 1 ∧
      SpotBacktestConfig.defaultConfig.SignalsAccounted .decimal "BTCUSDT" "1m"
        SpotBacktestConfig.closeProvider SpotBacktestConfig.risingCandles r) ∧
    ∃ r : FuturesRunConfig.FuturesResult,
      FuturesRunConfig.defaultFutures.run .decimal FuturesRunConfig.targetDataset
        FuturesRunConfig.firstSignal = .ok r ∧ r.trades.length = 1 ∧
      FuturesRunConfig.defaultFutures.SignalsAccounted .decimal FuturesRunConfig.targetDataset
        FuturesRunConfig.firstSignal r := by
  let _ := CanonicalDigest.const RuntimeFuturesReplayDataset
  have hboth := signals_are_accounted .decimal
  constructor
  · obtain ⟨r, hr, hcount⟩ := exists_ok_of_any (show
      (SpotBacktestConfig.defaultConfig.run .decimal "BTCUSDT" "1m"
        SpotBacktestConfig.closeProvider SpotBacktestConfig.risingCandles).toOption.any
        (fun r => decide (r.trades.length = 1)) by decide +kernel)
    exact ⟨r, hr, of_decide_eq_true hcount, hboth.1 _ _ _ _ _ r hr⟩
  · obtain ⟨r, hr, hcount⟩ := exists_ok_of_any (show
      (FuturesRunConfig.defaultFutures.run .decimal FuturesRunConfig.targetDataset
        FuturesRunConfig.firstSignal).toOption.any (fun r => decide (r.trades.length = 1))
        by decide +kernel)
    exact ⟨r, hr, of_decide_eq_true hcount, hboth.2 _ _ _ r hr⟩

end Ai4Binance

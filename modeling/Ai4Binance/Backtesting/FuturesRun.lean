/-
The loop of the Futures backtest (`research/backtesting/futures_engine.py`).

`FuturesBacktestEngine.run` takes the candles one by one, with their mark candles where the
configuration requires them: a pending signal is rejected or opens a trade, the open trade is
held or closed, an equity point is written, and the provider is asked for a signal with the
dataset up to the candle.  After the last candle a pending signal is rejected, an open trade
is closed, and every rejected signal is replayed.

* `FuturesSignalProvider`: a provider, of the prefix or of the dataset and a number;
* `FuturesRun`: the local variables of the loop;
* `enterPending`, `manageOpenTrade`, `consultProvider`, `barStep`: one candle;
* `afterBars`: the variables after the first candles;
* `finishRun`, `missedOpportunityLedger`, `run`: the end of the data and the result.
-/
import Ai4Binance.Backtesting.FuturesTrade

open Text Check

namespace Ai4Binance

/-- `FuturesSignalProvider`: a function of the dataset up to a candle, or an object with a
method `intent_at`.  In one run it is asked once with every number, so a provider with a
memory is one that depends on the number. -/
inductive FuturesSignalProvider where
  | plain (signalAt : RuntimeFuturesReplayDataset → Except PyError (Option FuturesSignal))
  | indexed (intentAt : RuntimeFuturesReplayDataset → ℕ → Except PyError (Option FuturesSignal))

/-- The signal of a provider after the candle with a number. -/
def FuturesSignalProvider.ask [UnicodeData] (dataset : RuntimeFuturesReplayDataset) (index : ℕ) :
    FuturesSignalProvider → Except PyError (Option FuturesSignal)
  | .plain signalAt => do signalAt (← dataset.replayPrefix (index + 1))
  | .indexed intentAt => intentAt dataset index

/-- `_RejectedFuturesCandidate`. -/
structure RejectedFuturesCandidate where
  intent : FuturesSignal
  blockers : List String
  entryIndex : ℕ
  preVetoObservationId : String

/-- The variables `pending` and `pending_observation_id`, which are set and cleared
together. -/
structure PendingFuturesEntry where
  intent : FuturesSignal
  observationId : String

/-- The local variables of the loop of `run`, without the reason codes of the funnel
telemetry; of the pre-veto observations their identities. -/
structure FuturesRun where
  trades : List FuturesTradeRecord := []
  rejected : List RejectedSignal := []
  rejectedCandidates : List RejectedFuturesCandidate := []
  observations : List String := []
  audit : List AuditEvent := []
  equityCurve : List EquityPoint := []
  seenSignalIds : List String := []
  pending : Option PendingFuturesEntry := none
  openTrade : Option FuturesTrade := none
  noTradeCount : ℕ := 0
  stageCounts : StageCounts := fun _ => 0
  availableCash : ℚ

/-- `_intent_blockers`. -/
def FuturesSignal.intentBlockers (signal : FuturesSignal) (candle : OHLCVCandle)
    (openTrade : Option FuturesTrade) (seenSignalIds : List String)
    (dataset : RuntimeFuturesReplayDataset) : List String :=
  blockerWhen (signal.timestamp ≠ candle.timestamp) "SIGNAL_TIMESTAMP_MISMATCH" ++
    blockerWhen (signal.texts.symbol ≠ dataset.symbol) "SIGNAL_SYMBOL_MISMATCH" ++
    blockerWhen (signal.texts.timeframe ≠ dataset.timeframe) "SIGNAL_TIMEFRAME_MISMATCH" ++
    blockerWhen (signal.signalId ∈ seenSignalIds) "DUPLICATE_SIGNAL_ID" ++
    blockerWhen openTrade.isSome "POSITION_ALREADY_OPEN"

namespace FuturesRunConfig

variable (config : FuturesRunConfig) (a : Arithmetic)

/-! ### One candle -/

/-- The audit event of a filled entry. -/
def entryEvent (trade : FuturesTrade) (candle : OHLCVCandle) : AuditEvent :=
  ⟨if trade.quantity < config.quantity then "FUTURES_ENTRY_PARTIALLY_FILLED"
    else "FUTURES_ENTRY_FILLED", trade.intent.signalId, candle.timestamp⟩

/-- A pending signal at the open of a candle: it is rejected, or opens a trade. -/
def enterPending (index : ℕ) (bar : ReplayCandle) (s : FuturesRun) : Except PyError FuturesRun :=
  match s.pending, s.openTrade with
  | some pending, none => do
      let blockers ← config.entryBlockers a pending.intent bar s.availableCash
      if blockers ≠ [] then
        return { s with
          rejected := s.rejected ++
            [⟨pending.intent.signalId, pending.intent.timestamp, blockers⟩]
          rejectedCandidates := s.rejectedCandidates ++
            [⟨pending.intent, blockers, index, pending.observationId⟩]
          audit := s.audit ++
            [⟨"FUTURES_ENTRY_REJECTED", pending.intent.signalId, bar.candle.timestamp⟩]
          pending := none }
      let trade ← config.openTrade a pending.intent bar.candle
      return { s with
        openTrade := some trade
        stageCounts := s.stageCounts.record .filled
        audit := s.audit ++ [config.entryEvent trade bar.candle]
        pending := none }
  | _, _ => return s

/-- The variables after a trade was closed. -/
def recordClose (s : FuturesRun) (record : FuturesTradeRecord) (candle : OHLCVCandle) :
    FuturesRun :=
  { s with
    trades := s.trades ++ [record]
    stageCounts := s.stageCounts.record .closed
    availableCash := a.add s.availableCash record.netPnlUsdt
    audit := s.audit ++ [⟨record.exitReason.value, record.tradeId, candle.timestamp⟩]
    openTrade := none }

variable (dataset : RuntimeFuturesReplayDataset)

/-- The open trade on a candle: it is held, or closed. -/
def manageOpenTrade (bar : ReplayCandle) (s : FuturesRun) : Except PyError FuturesRun :=
  match s.openTrade with
  | none => return s
  | some trade => do
      let held ← config.holdBar a dataset trade bar
      match held.exitDecision bar with
      | none => return { s with openTrade := some held }
      | some decision =>
          let record ← config.exitTrade a dataset held bar decision
          return recordClose a s record bar.candle

/-- `_equity_point`. -/
def equityPoint (candle : OHLCVCandle) (availableCash : ℚ) : Option FuturesTrade → EquityPoint
  | none => ⟨candle.timestamp, availableCash, 0⟩
  | some trade =>
      let direction := trade.intent.direction
      let gross := a.mul
        (a.mul (a.sub candle.close trade.entryReferencePrice) trade.quantity) trade.sign
      let entrySlippage := slippage a direction trade.entryPrice trade.entryReferencePrice
      let estimatedExit := match direction with
        | .long => a.mul candle.close (a.sub 1 config.slippageRatio)
        | .short => a.mul candle.close (a.add 1 config.slippageRatio)
      let exitSlippage := slippage a direction candle.close estimatedExit
      let estimatedFees := a.add trade.entryFee
        (a.mul (a.mul estimatedExit trade.quantity) config.feeRatio)
      let equity := a.sub
        (a.sub (a.sub (a.add availableCash gross)
          (a.mul (a.add entrySlippage exitSlippage) trade.quantity)) estimatedFees)
        trade.fundingCost
      ⟨candle.timestamp, equity, trade.quantity * trade.sign⟩

/-- The equity point of a candle, at the close of its mark candle where there is one. -/
def markEquity (bar : ReplayCandle) (s : FuturesRun) : FuturesRun :=
  { s with
    equityCurve := s.equityCurve ++
      [config.equityPoint a (bar.markCandle.getD bar.candle) s.availableCash s.openTrade] }

/-- An open trade that has ignored a signal. -/
def ignoreSignal (trade : FuturesTrade) (blockers : List String) : FuturesTrade :=
  { trade with
    ignoredSignals := trade.ignoredSignals + 1
    blockerHistory := trade.blockerHistory ++ blockers }

/-- What a run does with the signal of a candle, normalized. -/
def takeSignal (signal : FuturesSignal) (index : ℕ) (candle : OHLCVCandle) (s : FuturesRun) :
    Except PyError FuturesRun := do
  let observationId ← signal.preVetoObservation candle index
  let observations := s.observations ++ [observationId]
  let audit := s.audit ++ [⟨"OPPORTUNITY_OBSERVED_PRE_VETO", observationId, candle.timestamp⟩]
  let blockers := signal.intentBlockers candle s.openTrade s.seenSignalIds dataset
  let seenSignalIds := s.seenSignalIds ++ [signal.signalId]
  let stageCounts := signal.funnelStages.foldl StageCounts.record s.stageCounts
  if blockers ≠ [] then
    return { s with
      observations
      audit
      seenSignalIds
      stageCounts
      rejected := s.rejected ++ [⟨signal.signalId, signal.timestamp, blockers⟩]
      rejectedCandidates := s.rejectedCandidates ++ [⟨signal, blockers, index + 1, observationId⟩]
      openTrade := s.openTrade.map (ignoreSignal · blockers) }
  else return { s with
    observations
    audit
    seenSignalIds
    stageCounts := stageCounts.record .virtualOrder
    pending := some ⟨signal, observationId⟩ }

variable (provider : FuturesSignalProvider)

/-- The provider is asked for a signal after a candle. -/
def consultProvider [UnicodeData] [CanonicalDigest RuntimeFuturesReplayDataset] (index : ℕ)
    (candle : OHLCVCandle) (s : FuturesRun) : Except PyError FuturesRun := do
  match ← provider.ask dataset index with
  | none => return { s with noTradeCount := s.noTradeCount + 1 }
  | some signal => takeSignal dataset (signal.normalize dataset) index candle s

/-- The body of the loop of `run`. -/
def barStep [UnicodeData] [CanonicalDigest RuntimeFuturesReplayDataset] (_ : List ReplayCandle)
    (index : ℕ) (bar : ReplayCandle) (s : FuturesRun) : Except PyError FuturesRun := do
  let entered ← config.enterPending a index bar s
  let managed ← config.manageOpenTrade a dataset bar entered
  consultProvider dataset provider index bar.candle (config.markEquity a bar managed)

/-- The variables before the loop. -/
def initialRun : FuturesRun := { availableCash := config.initialCashUsdt }

/-- The variables after the first `k` bars. -/
def afterBars [UnicodeData] [CanonicalDigest RuntimeFuturesReplayDataset]
    (bars : List ReplayCandle) (k : ℕ) : Except PyError FuturesRun :=
  Loop.after (config.barStep a dataset provider) bars k config.initialRun

/-! ### The end of a run -/

/-- A signal that is pending after the last candle. -/
def rejectPending (count : ℕ) (s : FuturesRun) : FuturesRun :=
  match s.pending with
  | none => s
  | some pending =>
      { s with
        rejected := s.rejected ++
          [⟨pending.intent.signalId, pending.intent.timestamp, ["NO_NEXT_BAR"]⟩]
        rejectedCandidates := s.rejectedCandidates ++
          [⟨pending.intent, ["NO_NEXT_BAR"], count, pending.observationId⟩] }

/-- A trade that is open after the last candle is closed there, and the last equity
point is written again. -/
def closeAtEnd (last : OHLCVCandle) (s : FuturesRun) : Except PyError FuturesRun :=
  match s.openTrade with
  | none => return s
  | some trade => do
      let record ← config.closeAtEndOfData a dataset trade last
      let closed := recordClose a s record last
      return { closed with
        equityCurve := s.equityCurve.dropLast ++
          [config.equityPoint a last closed.availableCash none] }

/-- The counterfactual trade of a rejected candidate; `none` is insufficient
evidence. -/
def missedOpportunity (bars : List ReplayCandle) (last : OHLCVCandle)
    (rejected : RejectedFuturesCandidate) : Except PyError (Option FuturesTradeRecord) :=
  config.simulateCounterfactualTrade a dataset last rejected.intent
    (bars.drop rejected.entryIndex)

/-- `_missed_opportunity_ledger`, by the counterfactual trades of its records. -/
def missedOpportunityLedger (bars : List ReplayCandle) (last : OHLCVCandle)
    (rejected : List RejectedFuturesCandidate) :
    Except PyError (List (Option FuturesTradeRecord)) :=
  rejected.mapM (config.missedOpportunity a dataset bars last)

/-- `BacktestResult`, without the metrics (their benchmark apart), the views of the trades
and the reason codes of the funnel; of the pre-veto opportunities their identities.  The
first event of a run on the mark path, which names the model, is left out. -/
structure FuturesResult where
  symbol : String
  timeframe : String
  startedAt : ℤ
  endedAt : ℤ
  trades : List FuturesTradeRecord
  rejectedSignals : List RejectedSignal
  noTradeCount : ℕ
  auditEvents : List AuditEvent
  equityCurve : List EquityPoint
  benchmark : ℚ
  missedOpportunities : List (Option FuturesTradeRecord)
  stageCounts : List (VirtualMarketFunnelStage × ℕ)
  preVetoOpportunities : List String
  deriving DecidableEq

/-- `_validate_dataset`. -/
def validateDataset : Except PyError Unit := do
  raiseIf (dataset.candles.length < 2)
    (.value "at least two closed Futures candles are required")
  raiseIf (dataset.derivatives.points .fundingRate = [])
    (.value "Futures replay funding-rate history is required")

/-- The mark candles of a run, none where the configuration does not require them. -/
def runMarks [UnicodeData] : Except PyError (List OHLCVCandle) :=
  if config.requireMarkPricePath then dataset.markCandles else .ok []

/-- Every funding point lies at the open of a mark candle. -/
def FundingAligned (marks : List OHLCVCandle) : Prop :=
  ∀ point ∈ dataset.fundingPoints, point.timestamp ∈ marks.map (·.timestamp)

instance (marks : List OHLCVCandle) : Decidable (FundingAligned dataset marks) :=
  inferInstanceAs (Decidable (∀ _ ∈ _, _))

/-- The end of `run`, after the loop. -/
def finishRun (bars : List ReplayCandle) (s : FuturesRun) : Except PyError FuturesResult := do
  let first ← orRaise dataset.candles.head?
    (.value "at least two closed Futures candles are required")
  let last ← orRaise dataset.candles.getLast?
    (.value "at least two closed Futures candles are required")
  let closed ← config.closeAtEnd a dataset last (rejectPending bars.length s)
  let benchmark ← config.buyAndHoldReturn a first last
  let missedOpportunities ←
    config.missedOpportunityLedger a dataset bars last closed.rejectedCandidates
  raiseIf (¬ closed.observations.Nodup) (.value "pre-veto opportunity identities must be unique")
  return {
    symbol := dataset.symbol
    timeframe := dataset.timeframe
    startedAt := first.timestamp
    endedAt := last.timestamp
    trades := closed.trades
    rejectedSignals := closed.rejected
    noTradeCount := closed.noTradeCount
    auditEvents := closed.audit ++ closed.rejectedCandidates.map fun rejected =>
      ⟨"OPPORTUNITY_VETO_REVIEWED", rejected.preVetoObservationId, last.timestamp⟩
    equityCurve := closed.equityCurve
    benchmark
    missedOpportunities
    stageCounts := closed.stageCounts.telemetry
    preVetoOpportunities := closed.observations }

/-- `FuturesBacktestEngine.run`. -/
def run [UnicodeData] [CanonicalDigest RuntimeFuturesReplayDataset] :
    Except PyError FuturesResult := do
  validateDataset dataset
  let marks ← config.runMarks dataset
  raiseIf (marks ≠ [] ∧ ¬ config.allowIntrabarFundingBounds ∧ ¬ FundingAligned dataset marks)
    (.value "funding settlement requires a finer native mark path")
  let bars := dataset.bars marks
  let s ← Loop.run (config.barStep a dataset provider) bars config.initialRun
  config.finishRun a dataset bars s

end FuturesRunConfig

end Ai4Binance

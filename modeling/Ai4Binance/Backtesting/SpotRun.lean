/-
The loop of the Spot backtest (`research/backtesting/engine.py`).

`BacktestEngine.run` takes the candles one by one: a pending signal is filled or
rejected at the open, the open trade is moved, an equity point is written, and the
provider is asked for a signal with the candles seen so far.  After the last candle
a pending signal is rejected and an open trade is closed.

* `SpotBacktestConfig`, `SignalProvider`: what a run is given;
* `SpotRun`: the local variables of the loop;
* `enterPending`, `manageOpenTrade`, `consultProvider`, `barStep`: one candle;
* `afterBars`: the variables after the first candles;
* `finishRun`, `missedOpportunityLedger`, `run`: the end of the data and the result.
-/
import Ai4Binance.Backtesting.SpotEngine
import Ai4Binance.Lib.Loop
import Ai4Binance.Lib.Sequence

open Text Check

namespace Ai4Binance

/-- The fields of `BacktestConfig`. -/
structure SpotBacktestConfig extends BacktestConfig where
  initialCashUsdt : ℚ := 1000
  minimumNotional : ℚ := 5
  cash_pos : 0 < initialCashUsdt
  notional_pos : 0 < minimumNotional

/-- The default notional passes its check. -/
lemma SpotBacktestConfig.default_notional : (0 : ℚ) < 5 := by norm_num

/-- `_CandleHistory`: the candles of a run, read up to a bar. -/
abbrev CandleHistory : Type := Sequence.PrefixView OHLCVCandle

/-- `SignalProvider`. -/
abbrev SignalProvider : Type := CandleHistory → Except PyError (Option BacktestIntent)

/-- `RejectedSignal`. -/
structure RejectedSignal where
  signalId : String
  timestamp : ℤ
  blockers : List String
  deriving DecidableEq, Repr

/-- `_RejectedCandidate`. -/
structure RejectedCandidate where
  intent : BacktestIntent
  blockers : List String
  entryIndex : ℕ
  preVetoObservationId : String

/-- An event of the audit trail. -/
structure AuditEvent where
  eventType : String
  identifier : String
  timestamp : ℤ
  deriving DecidableEq, Repr

/-- `EquityPoint`. -/
structure EquityPoint where
  timestamp : ℤ
  equityUsdt : ℚ
  positionQuantity : ℚ
  deriving DecidableEq, Repr

/-- `FalseBreakoutRecord`. -/
structure FalseBreakoutRecord where
  signalId : String
  entryTimestamp : ℤ
  exitTimestamp : ℤ
  netPnlUsdt : ℚ
  deriving DecidableEq, Repr

/-- The variables `pending` and `pending_observation_id`, which are set and cleared
together. -/
structure PendingEntry where
  intent : BacktestIntent
  observationId : String

/-- The local variables of the loop of `run`, without the reason codes of the funnel
telemetry; of the pre-veto observations their identities. -/
structure SpotRun where
  trades : List TradeRecord := []
  rejected : List RejectedSignal := []
  audit : List AuditEvent := []
  equityCurve : List EquityPoint := []
  falseBreakouts : List FalseBreakoutRecord := []
  rejectedCandidates : List RejectedCandidate := []
  observations : List String := []
  pending : Option PendingEntry := none
  openTrade : Option OpenTrade := none
  noTradeCount : ℕ := 0
  stageCounts : StageCounts := fun _ => 0
  availableCash : ℚ

/-! ### Signals -/

/-- `str.lower`, of which nothing is assumed. -/
class LowerCase where
  lower : String → String

/-- Lower case on ASCII. -/
instance asciiLower : LowerCase := ⟨fun s => String.ofList (s.toList.map Char.toLower)⟩

/-- `_pre_veto_observation_id`. -/
def BacktestIntent.preVetoObservationId [LowerCase] (intent : BacktestIntent) (index : ℕ) :
    String :=
  "pre-veto:" ++ LowerCase.lower intent.texts.market ++ ":" ++
    orText intent.texts.snapshotId intent.signalId ++ ":" ++ toString index ++ ":" ++
    intent.signalId

/-- `_pre_veto_observation`: the identity of the record, or the exception that its
constructor raises on a price that is not positive. -/
def BacktestIntent.preVetoObservation [LowerCase] (intent : BacktestIntent)
    (candle : OHLCVCandle) (index : ℕ) : Except PyError String := do
  raiseIf ((candle.close :: intent.stopLoss :: intent.targets).any (· ≤ 0))
    (.value "pre-veto opportunity geometry must be positive")
  return intent.preVetoObservationId index

/-- `_normalize_intent`. -/
def BacktestIntent.normalize [UnicodeData] (intent : BacktestIntent) (symbol timeframe : String) :
    BacktestIntent :=
  let normalizedSymbol := orText (upper (strip intent.texts.symbol)) (upper (strip symbol))
  let normalizedTimeframe := orText (strip intent.texts.timeframe) (strip timeframe)
  { intent with
    texts := { intent.texts with
      symbol := normalizedSymbol
      timeframe := normalizedTimeframe
      snapshotId := orText (strip intent.texts.snapshotId)
        ("snapshot:" ++ normalizedSymbol ++ ":" ++ normalizedTimeframe ++ ":" ++ intent.signalId)
      decisionId := orText (strip intent.texts.decisionId) ("decision:" ++ intent.signalId) } }

/-- The text of a blocker when its condition holds. -/
def blockerWhen (p : Prop) [Decidable p] (blocker : String) : List String :=
  if p then [blocker] else []

lemma blockerWhen_eq_nil {p : Prop} [Decidable p] {code : String} :
    blockerWhen p code = [] ↔ ¬ p := by
  rw [blockerWhen]
  split_ifs with h <;> simp [h]

/-- `_intent_blockers`. -/
def BacktestIntent.intentBlockers [UnicodeData] (intent : BacktestIntent) (candle : OHLCVCandle)
    (openTrade : Option OpenTrade) (pending : Option PendingEntry) : List String :=
  blockerWhen ("FUTURES".toList <:+: (upper intent.texts.market).toList) "DATA_UNAVAILABLE" ++
    blockerWhen (intent.timestamp ≠ candle.timestamp) "SIGNAL_TIMESTAMP_MISMATCH" ++
    blockerWhen openTrade.isSome "POSITION_ALREADY_OPEN" ++
    blockerWhen pending.isSome "ENTRY_ALREADY_PENDING"

/-- `_false_breakout`. -/
def falseBreakout (trade : OpenTrade) (record : TradeRecord) : Option FalseBreakoutRecord :=
  if trade.intent.reasonCodes.any (fun reason => decide ("BREAKOUT".toList <:+: reason.toList)) ∧
      record.exitReason.isStop then
    some ⟨record.signalId, record.entryTimestamp, record.exitTimestamp, record.netPnlUsdt⟩
  else none

namespace SpotBacktestConfig

variable (config : SpotBacktestConfig) (a : Arithmetic)

/-! ### One candle -/

/-- The blockers of `_entry_fill`. -/
def entryFillBlockers (candle : OHLCVCandle) : Except PyError (List String) := do
  let requestedQuantity ← config.roundQuantity config.quantity
  if requestedQuantity ≤ 0 then return ["STEP_SIZE_ROUNDED_QUANTITY_IS_ZERO"]
  match config.liquidityStress with
  | none => return []
  | some stress =>
      let assessed ← assessLiquidityFill requestedQuantity candle.volume stress
      let roundedFilled ← config.roundQuantity assessed.filledQuantity
      if roundedFilled ≤ 0 then
        return (assessed.blockers ++ ["STEP_SIZE_ROUNDED_QUANTITY_IS_ZERO"]).eraseDups
      return assessed.blockers

/-- `_entry_blockers`. -/
def entryBlockers (intent : BacktestIntent) (candle : OHLCVCandle) (availableCash : ℚ) :
    Except PyError (List String) := do
  let fill ← config.entryFill candle
  let fillBlockers ← config.entryFillBlockers candle
  let entry ← config.roundPrice
    (a.mul candle.open (a.add (a.add 1 config.slippageRatio) fill.priceImpactRatio)) .up
  let notional := a.mul entry fill.filledQuantity
  let requiredCash := a.mul notional (a.add 1 config.feeRatio)
  return fillBlockers ++
    blockerWhen (entry ≤ intent.stopLoss ∨ ∃ target ∈ intent.targets, target ≤ entry)
      "INVALID_NEXT_BAR_GEOMETRY" ++
    blockerWhen (availableCash < requiredCash) "INSUFFICIENT_BACKTEST_CASH" ++
    blockerWhen (notional < config.minimumNotional) "MIN_NOTIONAL_NOT_REACHED"

/-- The audit event of a filled entry. -/
def entryEvent (trade : OpenTrade) (candle : OHLCVCandle) : AuditEvent :=
  ⟨if trade.originalQuantity < config.quantity then "ENTRY_PARTIALLY_FILLED" else "ENTRY_FILLED",
    trade.intent.signalId, candle.timestamp⟩

/-- A pending signal at the open of a candle: it is rejected, or opens a trade. -/
def enterPending (index : ℕ) (candle : OHLCVCandle) (s : SpotRun) : Except PyError SpotRun :=
  match s.pending, s.openTrade with
  | some pending, none => do
      let blockers ← config.entryBlockers a pending.intent candle s.availableCash
      if blockers ≠ [] then
        return { s with
          rejected := s.rejected ++
            [⟨pending.intent.signalId, pending.intent.timestamp, blockers⟩]
          rejectedCandidates := s.rejectedCandidates ++
            [⟨pending.intent, blockers, index, pending.observationId⟩]
          audit := s.audit ++
            [⟨"ENTRY_REJECTED", pending.intent.signalId, candle.timestamp⟩]
          pending := none }
      let trade ← config.openTrade a pending.intent candle
      return { s with
        openTrade := some trade
        stageCounts := s.stageCounts.record .filled
        audit := s.audit ++ [config.entryEvent trade candle]
        pending := none }
  | _, _ => return s

/-- The cash that the last staged exit of a trade realizes: the record that
`_partial_exit` returns is the one it appends. -/
def lastStagedPnl (trade : OpenTrade) : ℚ :=
  (trade.stagedExits.getLast?.map (·.realizedPnlUsdt)).getD 0

/-- The variables after a staged exit. -/
def recordStagedExit (s : SpotRun) (reduced next : OpenTrade) (candle : OHLCVCandle) : SpotRun :=
  { s with
    availableCash := a.add s.availableCash (lastStagedPnl reduced)
    audit := s.audit ++ [⟨"PARTIAL_TAKE_PROFIT", reduced.intent.signalId, candle.timestamp⟩]
    openTrade := some next }

/-- The variables after the open trade was closed. -/
def recordClose (s : SpotRun) (trade : OpenTrade) (record : TradeRecord) (candle : OHLCVCandle) :
    SpotRun :=
  { s with
    trades := s.trades ++ [record]
    stageCounts := s.stageCounts.record .closed
    availableCash := a.add s.availableCash (a.sub record.netPnlUsdt trade.realizedPartialPnl)
    falseBreakouts := s.falseBreakouts ++ (falseBreakout trade record).toList
    audit := s.audit ++ [⟨record.exitReason.value, record.tradeId, candle.timestamp⟩]
    openTrade := none }

/-- The open trade on a candle: excursions, the exit of the candle, break-even and
trailing stop. -/
def manageOpenTrade [UnicodeData] (candle : OHLCVCandle) (s : SpotRun) : Except PyError SpotRun :=
  match s.openTrade with
  | none => return s
  | some trade =>
      let held := BacktestConfig.holdCandle a trade candle
      match BacktestConfig.evaluateLongExit held.intent held.position candle held.barsHeld with
      | some exit =>
          if exit.reason = .target ∧ 1 < held.position.takeProfitLevels.length then do
            let reduced ← config.partialExit a held candle exit.referencePrice
            let next ← config.endCandle a reduced candle
            return recordStagedExit a s reduced next candle
          else do
            let record ← config.closeTrade a held candle exit.reason exit.referencePrice
            return recordClose a s held record candle
      | none => do
          let next ← config.endCandle a held candle
          return { s with openTrade := some next }

/-- `_equity_point`. -/
def equityPoint (candle : OHLCVCandle) (availableCash : ℚ) : Option OpenTrade → EquityPoint
  | none => ⟨candle.timestamp, availableCash, 0⟩
  | some trade =>
      let quantity := trade.position.quantity
      let estimatedExit := a.mul (a.mul candle.close quantity) (a.sub 1 config.feeRatio)
      let remainingCost := a.add (a.mul trade.entryPrice quantity)
        (a.mul trade.entryFee (a.div quantity trade.originalQuantity))
      ⟨candle.timestamp, a.add availableCash (a.sub estimatedExit remainingCost), quantity⟩

/-- The equity point of a candle. -/
def markEquity (candle : OHLCVCandle) (s : SpotRun) : SpotRun :=
  { s with
    equityCurve := s.equityCurve ++ [config.equityPoint a candle s.availableCash s.openTrade] }

/-- An open trade that has ignored a signal. -/
def ignoreSignal (trade : OpenTrade) (blockers : List String) : OpenTrade :=
  { trade with
    ignoredSignals := trade.ignoredSignals + 1
    blockerHistory := trade.blockerHistory ++ blockers }

/-- What a run does with the signal of a candle. -/
def takeSignal [UnicodeData] [LowerCase] (intent : BacktestIntent) (index : ℕ)
    (candle : OHLCVCandle) (s : SpotRun) : Except PyError SpotRun := do
  let observationId ← intent.preVetoObservation candle index
  let observations := s.observations ++ [observationId]
  let audit := s.audit ++ [⟨"OPPORTUNITY_OBSERVED_PRE_VETO", observationId, candle.timestamp⟩]
  let stageCounts := intent.funnelStages.foldl StageCounts.record s.stageCounts
  let blockers := intent.intentBlockers candle s.openTrade s.pending
  if blockers ≠ [] then
    return { s with
      observations
      audit
      stageCounts
      rejected := s.rejected ++ [⟨intent.signalId, intent.timestamp, blockers⟩]
      rejectedCandidates := s.rejectedCandidates ++ [⟨intent, blockers, index + 1, observationId⟩]
      openTrade := s.openTrade.map (ignoreSignal · blockers) }
  else return { s with
    observations
    audit
    stageCounts := stageCounts.record .virtualOrder
    pending := some ⟨intent, observationId⟩ }

variable (symbol timeframe : String) (provider : SignalProvider)

/-- The provider is asked for a signal with the candles up to this one. -/
def consultProvider [UnicodeData] [LowerCase] (candles : List OHLCVCandle) (index : ℕ)
    (candle : OHLCVCandle) (s : SpotRun) : Except PyError SpotRun := do
  match ← provider ⟨candles, index + 1⟩ with
  | none => return { s with noTradeCount := s.noTradeCount + 1 }
  | some intent => takeSignal (intent.normalize symbol timeframe) index candle s

/-- The body of the loop of `run`. -/
def barStep [UnicodeData] [LowerCase] (candles : List OHLCVCandle) (index : ℕ)
    (candle : OHLCVCandle) (s : SpotRun) : Except PyError SpotRun := do
  let entered ← config.enterPending a index candle s
  let managed ← config.manageOpenTrade a candle entered
  consultProvider symbol timeframe provider candles index candle (config.markEquity a candle managed)

/-- The variables before the loop. -/
def initialRun : SpotRun := { availableCash := config.initialCashUsdt }

/-- The variables after the first `k` candles. -/
def afterBars [UnicodeData] [LowerCase] (candles : List OHLCVCandle) (k : ℕ) :
    Except PyError SpotRun :=
  Loop.after (config.barStep a symbol timeframe provider) candles k config.initialRun

/-! ### The end of a run -/

/-- A signal that is pending after the last candle. -/
def rejectPending (count : ℕ) (s : SpotRun) : SpotRun :=
  match s.pending with
  | none => s
  | some pending =>
      { s with
        rejected := s.rejected ++
          [⟨pending.intent.signalId, pending.intent.timestamp, ["NO_NEXT_BAR"]⟩]
        rejectedCandidates := s.rejectedCandidates ++
          [⟨pending.intent, ["NO_NEXT_BAR"], count, pending.observationId⟩] }

/-- A trade that is open after the last candle is closed there, and the last equity
point is written again. -/
def closeAtEnd [UnicodeData] (last : OHLCVCandle) (s : SpotRun) : Except PyError SpotRun :=
  match s.openTrade with
  | none => return s
  | some trade => do
      let record ← config.closeTrade a trade last .endOfData last.close
      let availableCash :=
        a.add s.availableCash (a.sub record.netPnlUsdt trade.realizedPartialPnl)
      return { s with
        trades := s.trades ++ [record]
        stageCounts := s.stageCounts.record .closed
        availableCash
        equityCurve := s.equityCurve.dropLast ++ [config.equityPoint a last availableCash none]
        audit := s.audit ++ [⟨record.exitReason.value, record.tradeId, last.timestamp⟩] }

/-- The counterfactual trade of a rejected candidate; `none` is insufficient
evidence. -/
def missedOpportunity [UnicodeData] (candles : List OHLCVCandle) (rejected : RejectedCandidate) :
    Except PyError (Option TradeRecord) :=
  if candles.length ≤ rejected.entryIndex ∨ "DATA_UNAVAILABLE" ∈ rejected.blockers then return none
  else config.simulateCounterfactualTrade a rejected.intent (candles.drop rejected.entryIndex)

/-- `_missed_opportunity_ledger`, by the counterfactual trades of its records. -/
def missedOpportunityLedger [UnicodeData] (candles : List OHLCVCandle)
    (rejected : List RejectedCandidate) : Except PyError (List (Option TradeRecord)) :=
  rejected.mapM (config.missedOpportunity a candles)

/-- `_buy_and_hold_return`, before it becomes a float. -/
def buyAndHoldReturn (first last : OHLCVCandle) : Except PyError ℚ := do
  let entry := a.mul first.open (a.add 1 config.slippageRatio)
  let exitPrice := a.mul last.close (a.sub 1 config.slippageRatio)
  let entryCost := a.mul entry (a.add 1 config.feeRatio)
  let exitValue := a.mul exitPrice (a.sub 1 config.feeRatio)
  raiseIf (entryCost = 0) .decimal
  return a.div (a.sub exitValue entryCost) entryCost

/-- `BacktestResult`, without the metrics (their benchmark apart), the views of the trades
and the reason codes of the funnel; of the pre-veto opportunities their identities. -/
structure SpotResult where
  trades : List TradeRecord
  rejectedSignals : List RejectedSignal
  noTradeCount : ℕ
  auditEvents : List AuditEvent
  equityCurve : List EquityPoint
  falseBreakouts : List FalseBreakoutRecord
  benchmark : ℚ
  missedOpportunities : List (Option TradeRecord)
  stageCounts : List (VirtualMarketFunnelStage × ℕ)
  preVetoOpportunities : List String
  deriving DecidableEq

/-- `_validate_inputs`. -/
def validateInputs (candles : List OHLCVCandle) : Except PyError Unit := do
  raiseIf (isBlank symbol ∨ isBlank timeframe) (.value "symbol and timeframe are required")
  raiseIf (candles.length < 2) (.value "at least two closed candles are required")
  raiseIf (¬ (candles.map (·.timestamp)).Pairwise (· < ·))
    (.value "candles must be unique and strictly chronological")

/-- The end of `run`, after the loop. -/
def finishRun [UnicodeData] (candles : List OHLCVCandle) (s : SpotRun) :
    Except PyError SpotResult := do
  let first ← orRaise candles.head? (.value "at least two closed candles are required")
  let last ← orRaise candles.getLast? (.value "at least two closed candles are required")
  let closed ← config.closeAtEnd a last (rejectPending candles.length s)
  let benchmark ← config.buyAndHoldReturn a first last
  let missedOpportunities ← config.missedOpportunityLedger a candles closed.rejectedCandidates
  raiseIf (¬ closed.observations.Nodup) (.value "pre-veto opportunity identities must be unique")
  return {
    trades := closed.trades
    rejectedSignals := closed.rejected
    noTradeCount := closed.noTradeCount
    auditEvents := closed.audit
    equityCurve := closed.equityCurve
    falseBreakouts := closed.falseBreakouts
    benchmark
    missedOpportunities
    stageCounts := closed.stageCounts.telemetry
    preVetoOpportunities := closed.observations }

/-- `BacktestEngine.run`. -/
def run [UnicodeData] [LowerCase] (candles : List OHLCVCandle) : Except PyError SpotResult := do
  validateInputs symbol timeframe candles
  let s ← Loop.run (config.barStep a symbol timeframe provider) candles config.initialRun
  config.finishRun a candles s

end SpotBacktestConfig

end Ai4Binance

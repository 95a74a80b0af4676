/-
The journal of the virtual wallets (`virtual_wallet_journal.py`).

The journal is an append-only list of movements: the genesis of each market, the changes
that a cycle decided, and the candles that moved a managed position.  Every call first
reads the list back, checking each movement against the one before it, and derives the
portfolios and the open positions from it.

A time is an instant with the offset it is written with (`Timestamp`).  A movement keeps
the portfolios and the position it is about; what stands in the file of them beyond that
(the names of the wallets, the denied authority, the closed trade, the reports) is
constant or is read by nothing here.

* `WalletMovement`, `LedgerEvent`, `Ledger`: the journal;
* `validatedMovement`, `readMovements`, `latestPortfolios`, `latestPositions`: reading;
* `appendMovement`: one line for each event identity;
* `initializeWallets`, `recordCycle`, `managePositions`: the calls, each with the journal it
  leaves, whether it returns or raises;
* `WalletCall`, `WalletCall.run`: a sequence of calls.
-/
import Ai4Binance.Data.Archive
import Ai4Binance.Lib.Datetime
import Ai4Binance.Virtual.ProcessPosition

open Text Check

namespace Ai4Binance

/-! ### What the journal is about -/

instance : DecidableEq VirtualPortfolioState := fun p q =>
  decidable_of_iff (p.toPortfolioFields = q.toPortfolioFields)
    ⟨VirtualPortfolioState.eq_of_fields_eq, fun h => h ▸ rfl⟩

instance : DecidableEq VirtualManagedPosition := fun p q =>
  decidable_of_iff (p.toPositionFields = q.toPositionFields)
    ⟨fun h => by cases p; cases q; subst h; rfl, fun h => h ▸ rfl⟩

/-- The text of a market. -/
def Market.value : Market → String
  | .spot => "SPOT"
  | .usdMFutures => "USD_M_FUTURES"

/-- The text of an action. -/
def Action.value : Action → String
  | .buy => "BUY"
  | .sell => "SELL"
  | .hold => "HOLD"
  | .wait => "WAIT"
  | .noTrade => "NO_TRADE"

/-- `VirtualPortfolioState.from_payload`, on the fields that `to_payload` writes.  The
identity is trimmed, and the constructor checks the rest again. -/
def VirtualPortfolioState.fromPayload (p : PortfolioFields) :
    Except PyError VirtualPortfolioState := do
  raiseIf (isBlank p.portfolioId) (.value "virtual portfolio portfolio_id must be non-empty text")
  create { p with portfolioId := strip p.portfolioId }

/-- A trimmed portfolio is read back as it was written. -/
lemma VirtualPortfolioState.fromPayload_eq_ok {p : VirtualPortfolioState}
    (h : strip p.portfolioId = p.portfolioId) : fromPayload p.toPortfolioFields = .ok p := by
  have hblank : ¬ isBlank p.portfolioId := by simp [p.commonValid.identity]
  rw [fromPayload, raiseIf_of_not hblank, ok_bind, create_eq_ok, h]

/-- A managed position as the journal keeps it: the position, and the offsets that the
times of its exits are written with.  The opening is written in UTC. -/
structure StoredPosition where
  position : VirtualManagedPosition
  exitOffsets : List ℤ := []
  deriving DecidableEq

/-- `_position_from_payload`, on what `_position_payload` writes: the constructor accepts
the fields again, and a time that is not written in UTC is refused. -/
def StoredPosition.fromPayload (stored : StoredPosition) : Except PyError VirtualManagedPosition :=
  do
    raiseIf (stored.exitOffsets.any (· ≠ 0))
      (.value "historical replay persisted timestamp must use timezone-aware UTC")
    return stored.position

/-- `movement_type`. -/
inductive MovementType where
  | initialBalance
  | virtualSimulationMovement
  deriving DecidableEq, Repr

/-- The movement that `_movement_payload` writes. -/
structure WalletMovement where
  movementId : String
  timestamp : Timestamp
  cycleId : String
  snapshotId : String
  market : Market
  movementType : MovementType
  decisionStatus : String
  tradeAction : Option String
  equityDeltaUsdt : ℚ
  cashDeltaUsdt : ℚ
  before : Option PortfolioFields
  after : PortfolioFields
  managedPosition : Option StoredPosition := none
  positionCursor : Option Timestamp := none
  reasonCodes : List String := []
  deriving DecidableEq

/-- The event types of the journal. -/
inductive WalletEventType where
  | initialized
  | movementRecorded
  deriving DecidableEq, Repr

/-- The type of the movements that an event carries. -/
def WalletEventType.movementType : WalletEventType → MovementType
  | .initialized => .initialBalance
  | .movementRecorded => .virtualSimulationMovement

/-- A line of the journal.  Its identity is its type and the id of its movement. -/
structure LedgerEvent where
  eventType : WalletEventType
  movement : WalletMovement
  deriving DecidableEq

/-- The journal. -/
abbrev Ledger := List LedgerEvent

namespace VirtualWalletJournal

/-! ### Reading the journal -/

/-- `_required_text`. -/
def requiredText (key value : String) : Except PyError String := do
  raiseIf (isBlank value) (.value ("virtual wallet " ++ key ++ " must be non-empty text"))
  return strip value

/-- The portfolio before a movement, of the movement's market. -/
def parsedBefore (market : Market) :
    Option PortfolioFields → Except PyError (Option VirtualPortfolioState)
  | none => .ok none
  | some payload => do
      let parsed ← VirtualPortfolioState.fromPayload payload
      raiseIf (parsed.market ≠ market) (.value "VIRTUAL_WALLET_BEFORE_MARKET_DRIFT")
      return some parsed

/-- `_validated_movement`. -/
def validatedMovement (payload : WalletMovement) : Except PyError WalletMovement := do
  let movementId ← requiredText "movement_id" payload.movementId
  let _ ← requiredText "cycle_id" payload.cycleId
  let _ ← requiredText "snapshot_id" payload.snapshotId
  let _ ← requiredText "decision_status" payload.decisionStatus
  let after ← VirtualPortfolioState.fromPayload payload.after
  raiseIf (after.market ≠ payload.market) (.value "VIRTUAL_WALLET_AFTER_MARKET_DRIFT")
  let before ← parsedBefore payload.market payload.before
  raiseIf (payload.equityDeltaUsdt ≠ after.equityUsdt - (before.map (·.equityUsdt)).getD 0)
    (.value "VIRTUAL_WALLET_EQUITY_DELTA_DRIFT")
  raiseIf (payload.cashDeltaUsdt ≠ after.cashUsdt - (before.map (·.cashUsdt)).getD 0)
    (.value "VIRTUAL_WALLET_CASH_DELTA_DRIFT")
  return { payload with movementId }

/-- What `_read_movements` knows of the lines it has read. -/
structure ReadState where
  movements : List WalletMovement := []
  latest : Market → Option VirtualPortfolioState := fun _ => none
  movementIds : List String := []

/-- One line of `_read_movements`. -/
def readEvent (state : ReadState) (event : LedgerEvent) : Except PyError ReadState := do
  let validated ← validatedMovement event.movement
  raiseIf (validated.movementType ≠ event.eventType.movementType)
    (.value "VIRTUAL_WALLET_MOVEMENT_TYPE_DRIFT")
  raiseIf (validated.movementId ∈ state.movementIds) (.value "VIRTUAL_WALLET_MOVEMENT_DUPLICATE")
  let before ← parsedBefore validated.market validated.before
  raiseIf (before = none ∧ state.latest validated.market ≠ none)
    (.value "VIRTUAL_WALLET_GENESIS_DUPLICATE")
  raiseIf (before ≠ none ∧ state.latest validated.market ≠ before)
    (.value "VIRTUAL_WALLET_MOVEMENT_CHAIN_DRIFT")
  let after ← VirtualPortfolioState.fromPayload validated.after
  return {
    movements := state.movements ++ [validated]
    latest := Function.update state.latest validated.market (some after)
    movementIds := state.movementIds ++ [validated.movementId] }

/-- `_read_movements`. -/
def readMovements (ledger : Ledger) : Except PyError (List WalletMovement) :=
  (·.movements) <$> ledger.foldlM readEvent {}

/-- A dictionary over the markets: what the latest movement of each leaves in it. -/
def latestBy {α : Type} (entry : WalletMovement → Except PyError (Option α))
    (movements : List WalletMovement) : Except PyError (Market → Option α) :=
  movements.foldlM (fun latest movement => do
    let value ← entry movement
    return Function.update latest movement.market value) fun _ => none

/-- The portfolio after a movement. -/
def trackedPortfolio (movement : WalletMovement) : Except PyError (Option VirtualPortfolioState) :=
  do
    let after ← VirtualPortfolioState.fromPayload movement.after
    return some after

/-- `_latest_portfolios`. -/
def latestPortfolios (movements : List WalletMovement) :
    Except PyError (Market → Option VirtualPortfolioState) :=
  latestBy trackedPortfolio movements

/-- The position that a movement leaves open, with its cursor: one movement of
`_latest_positions`. -/
def trackedPosition (movement : WalletMovement) :
    Except PyError (Option (StoredPosition × Timestamp)) :=
  match movement.managedPosition with
  | none => .ok none
  | some stored => do
      let position ← stored.fromPayload
      let cursor ← orRaise movement.positionCursor (.value "Invalid isoformat string: 'None'")
      let after ← VirtualPortfolioState.fromPayload movement.after
      raiseIf (position.market ≠ movement.market ∨ cursor.instant < position.openedAt)
        (.value "VIRTUAL_WALLET_POSITION_IDENTITY_DRIFT")
      raiseIf (movement.market = .spot ∧ position.remainingQuantity ≠ after.inventoryQuantity)
        (.value "VIRTUAL_WALLET_POSITION_QUANTITY_DRIFT")
      return if 0 < position.remainingQuantity then some (stored, cursor.toUtc) else none

/-- `_latest_positions`. -/
def latestPositions (movements : List WalletMovement) :
    Except PyError (Market → Option (StoredPosition × Timestamp)) :=
  latestBy trackedPosition movements

/-! ### Writing the journal -/

/-- `_append_movement`: a new identity is appended, a movement that stands there already
is left, and another movement under its identity is refused. -/
def appendMovement (eventType : WalletEventType) (movement : WalletMovement) (ledger : Ledger) :
    Except PyError Ledger :=
  match ledger.find? fun e => e.eventType = eventType ∧ e.movement.movementId = movement.movementId
  with
  | some existing =>
      if existing.movement = movement then .ok ledger
      else .error (.value "JSONL_AUDIT_IDEMPOTENCY_CONFLICT")
  | none => .ok (ledger ++ [⟨eventType, movement⟩])

/-- `_initial_portfolio`. -/
def initialPortfolio (market : Market) : VirtualPortfolioState where
  portfolioId := if market = .spot then "virtual-wallet:spot" else "virtual-wallet:futures"
  market := market
  cashUsdt := 1000
  equityUsdt := 1000
  passes := by cases market <;> decide +kernel

/-- The id of a movement that a cycle decided. -/
def cycleMovementId (market : Market) (snapshotId : String) : String :=
  "virtual-wallet:" ++ market.value ++ ":" ++ snapshotId

/-- The genesis of a market. -/
def genesisMovement (market : Market) (timestamp : Timestamp) : WalletMovement where
  movementId := cycleMovementId market "genesis"
  timestamp := timestamp
  cycleId := "GENESIS"
  snapshotId := "GENESIS"
  market := market
  movementType := .initialBalance
  decisionStatus := "INITIALIZED"
  tradeAction := none
  equityDeltaUsdt := (initialPortfolio market).equityUsdt
  cashDeltaUsdt := (initialPortfolio market).cashUsdt
  before := none
  after := (initialPortfolio market).toPortfolioFields

/-- The loop of `_initialize_portfolios` over the markets. -/
def ensureGenesis (timestamp : Timestamp) :
    List Market → (Market → Option VirtualPortfolioState) → Ledger →
      Except PyError (Market → Option VirtualPortfolioState) × Ledger
  | [], portfolios, ledger => (.ok portfolios, ledger)
  | market :: markets, portfolios, ledger =>
      match portfolios market, appendMovement .initialized (genesisMovement market timestamp) ledger
      with
      | some _, _ => ensureGenesis timestamp markets portfolios ledger
      | none, .error e => (.error e, ledger)
      | none, .ok ledger' =>
          ensureGenesis timestamp markets
            (Function.update portfolios market (some (initialPortfolio market))) ledger'

/-- `_initialize_portfolios`. -/
def initializePortfolios (timestamp : Timestamp) (ledger : Ledger) :
    Except PyError (Market → Option VirtualPortfolioState) × Ledger :=
  match readMovements ledger >>= latestPortfolios with
  | .error e => (.error e, ledger)
  | .ok portfolios => ensureGenesis timestamp [.spot, .usdMFutures] portfolios ledger

/-- What `_write_outputs` reads before it writes the state and the report. -/
def writeOutputs (ledger : Ledger) : Except PyError Unit := do
  let movements ← readMovements ledger
  let _ ← latestPositions movements
  return ()

/-- `_utc_timestamp`. -/
def utcTimestamp : Datetime → Except PyError Timestamp
  | .aware instant => .ok ⟨instant, 0⟩
  | .naive _ => .error (.value "VIRTUAL_WALLET_TIMESTAMP_INVALID")

/-- A `ValueError` of a call is raised as a `VirtualWalletJournalError`. -/
def journalError {α : Type} : Except PyError α → Except PyError α
  | .error (.value message) => .error (.runtime message)
  | result => result

/-- `initialize`: the outcome, and the journal it leaves. -/
def initializeWallets (observedAt : Datetime) (ledger : Ledger) : Except PyError Unit × Ledger :=
  match utcTimestamp observedAt with
  | .error e => (journalError (.error e), ledger)
  | .ok timestamp =>
      match initializePortfolios timestamp ledger with
      | (.error e, ledger') => (journalError (.error e), ledger')
      | (.ok _, ledger') => (journalError (writeOutputs ledger'), ledger')

/-! ### A decided cycle -/

end VirtualWalletJournal

/-- The decision of a cycle: the virtual runtime's own, or another object with some of its
attributes. -/
inductive CycleDecision where
  | runtime (decision : VirtualRuntimeDecision)
  | other (portfolioBefore portfolioAfter : Option VirtualPortfolioState) (status : String)
      (action : Option String)

namespace CycleDecision

/-- `getattr(decision, "portfolio_before", None)`, if it is a portfolio. -/
def portfolioBefore : CycleDecision → Option VirtualPortfolioState
  | runtime decision => some decision.portfolioBefore
  | other before _ _ _ => before

/-- `getattr(decision, "portfolio_after", None)`, if it is a portfolio. -/
def portfolioAfter : CycleDecision → Option VirtualPortfolioState
  | runtime decision => some decision.portfolioAfter
  | other _ after _ _ => after

/-- The trimmed text of the status. -/
def status : CycleDecision → String
  | runtime decision => if decision.tradeIntent.isSome then "ORDER_READY" else "NO_ACTION"
  | other _ _ status _ => strip status

/-- The text of the intended action. -/
def action : CycleDecision → Option String
  | runtime decision => decision.tradeIntent.map (·.action.value)
  | other _ _ _ action => action.map strip

/-- The decision, if it is a `VirtualRuntimeDecision`. -/
def typed : CycleDecision → Option VirtualRuntimeDecision
  | runtime decision => some decision
  | other _ _ _ _ => none

end CycleDecision

namespace VirtualWalletJournal

/-- The intent is the one of the request. -/
def bindsIntent (request : VirtualRuntimeRequest) (intent : VirtualTradeIntent) : Bool :=
  intent.lineage.snapshotId = request.lineage.snapshotId ∧
    intent.lineage.decisionId = request.lineage.decisionId ∧
    intent.candidateId = request.candidateId ∧ intent.symbol = request.symbol ∧
    intent.market = request.market ∧ intent.action = request.action ∧
    intent.stopLoss = request.stopLoss ∧ intent.takeProfitLevels = request.takeProfitLevels

/-- The position that a cycle with a request opens. -/
def openPosition (ledger : Ledger) (snapshotId : String) (timestamp : Timestamp)
    (before : VirtualPortfolioState) (decision : CycleDecision) :
    Option VirtualRuntimeRequest → Except PyError (Option StoredPosition)
  | none => .ok none
  | some request => do
      let typed ← orRaise decision.typed (.value "VIRTUAL_WALLET_TYPED_DECISION_REQUIRED")
      raiseIf (request.portfolio ≠ before ∨ request.lineage.snapshotId ≠ snapshotId)
        (.value "VIRTUAL_WALLET_REQUEST_BINDING_DRIFT")
      raiseIf (¬ typed.tradeIntent.any (bindsIntent request))
        (.value "VIRTUAL_WALLET_INTENT_BINDING_DRIFT")
      let positions ← readMovements ledger >>= latestPositions
      raiseIf ((positions before.market).isSome) (.value "VIRTUAL_WALLET_POSITION_ALREADY_OPEN")
      let position ← materializeManagedPosition request typed timestamp.instant none
      raiseIf (position.market ≠ before.market) (.value "VIRTUAL_WALLET_POSITION_MARKET_DRIFT")
      return some { position }

/-- The movement of a decided cycle. -/
def cycleMovement (snapshotId : String) (timestamp : Timestamp)
    (before after : VirtualPortfolioState) (decision : CycleDecision)
    (managedPosition : Option StoredPosition) : WalletMovement where
  movementId := cycleMovementId before.market snapshotId
  timestamp := timestamp
  cycleId := snapshotId
  snapshotId := snapshotId
  market := before.market
  movementType := .virtualSimulationMovement
  decisionStatus := if decision.status = "" then "UNKNOWN" else decision.status
  tradeAction := decision.action
  equityDeltaUsdt := after.equityUsdt - before.equityUsdt
  cashDeltaUsdt := after.cashUsdt - before.cashUsdt
  before := some before.toPortfolioFields
  after := after.toPortfolioFields
  managedPosition := managedPosition
  positionCursor := managedPosition.map fun _ => timestamp

/-- The movement that `record_cycle` appends, if the cycle changes a portfolio. -/
def decidedMovement (ledger : Ledger) (current : Market → Option VirtualPortfolioState)
    (snapshotId : String) (timestamp : Timestamp) (request : Option VirtualRuntimeRequest) :
    Option CycleDecision → Except PyError (Option WalletMovement)
  | none => .ok none
  | some decision => do
      let before ← orRaise decision.portfolioBefore (.value "VIRTUAL_WALLET_DECISION_STATE_INVALID")
      let after ← orRaise decision.portfolioAfter (.value "VIRTUAL_WALLET_DECISION_STATE_INVALID")
      raiseIf (before.market ≠ after.market ∨ before.portfolioId ≠ after.portfolioId)
        (.value "VIRTUAL_WALLET_DECISION_IDENTITY_DRIFT")
      if current before.market = some after then return none
      raiseIf (current before.market ≠ some before) (.value "VIRTUAL_WALLET_STATE_DRIFT")
      if after = before then return none
      let managedPosition ← openPosition ledger snapshotId timestamp before decision request
      return some (cycleMovement snapshotId timestamp before after decision managedPosition)

/-- The movement is appended, and the outputs are written. -/
def recordMovement (movement : Option WalletMovement) (ledger : Ledger) :
    Except PyError Unit × Ledger :=
  match movement with
  | none => (journalError (writeOutputs ledger), ledger)
  | some movement =>
      match appendMovement .movementRecorded movement ledger with
      | .error e => (journalError (.error e), ledger)
      | .ok ledger' => (journalError (writeOutputs ledger'), ledger')

/-- `record_cycle`: the outcome, and the journal it leaves. -/
def recordCycle (snapshotId : String) (observedAt : Datetime) (decision : Option CycleDecision)
    (request : Option VirtualRuntimeRequest) (ledger : Ledger) : Except PyError Unit × Ledger :=
  match utcTimestamp observedAt with
  | .error e => (journalError (.error e), ledger)
  | .ok timestamp =>
      match initializePortfolios timestamp ledger with
      | (.error e, ledger') => (journalError (.error e), ledger')
      | (.ok current, ledger') =>
          match decidedMovement ledger' current snapshotId timestamp request decision with
          | .error e => (journalError (.error e), ledger')
          | .ok movement => recordMovement movement ledger'

end VirtualWalletJournal

/-! ### Candles of a managed position -/

/-- A candle with the offset its time is written with. -/
structure ZonedCandle extends OHLCVCandle where
  utcoffset : ℤ := 0
  deriving DecidableEq

/-- The time of a candle. -/
def ZonedCandle.time (candle : ZonedCandle) : Timestamp := ⟨candle.timestamp, candle.utcoffset⟩

/-- `DataQuality`. -/
inductive DataQuality where
  | dataValid
  | dataDegraded
  | dataInvalid
  deriving DecidableEq, Repr

/-- The part of a `MarketSnapshot` that managing a position reads. -/
structure MarketSnapshot where
  snapshotId : String
  createdAt : Timestamp
  marketType : Market
  symbol : String
  ohlcvByTimeframe : String → List ZonedCandle
  dataQuality : DataQuality
  snapshotId_nonblank : isBlank snapshotId = false

namespace VirtualWalletJournal

/-- `timeframe_duration`, in microseconds. -/
def timeframeDuration (timeframe : String) : Except PyError ℤ :=
  match timeframeSeconds.lookup timeframe with
  | some seconds => .ok (seconds * 1000000)
  | none => .error (.value ("unsupported timeframe: " ++ timeframe))

/-- The position that a candle leaves, with the offset of the candle for its new exits. -/
def advancedPosition (stored : StoredPosition) (after : VirtualManagedPosition)
    (candle : ZonedCandle) : StoredPosition where
  position := after
  exitOffsets := stored.exitOffsets ++
    List.replicate (after.exits.length - stored.position.exits.length) candle.utcoffset

/-- The movement of a processed candle. -/
def candleMovement (snapshot : MarketSnapshot) (duration : ℤ) (stored : StoredPosition)
    (portfolio : VirtualPortfolioState) (candle : ZonedCandle)
    (update : VirtualPositionUpdateDecision) : WalletMovement where
  movementId := "virtual-position:" ++ stored.position.positionId ++ ":" ++
    (candle.time.add duration).isoformat
  timestamp := snapshot.createdAt
  cycleId := snapshot.snapshotId
  snapshotId := snapshot.snapshotId
  market := stored.position.market
  movementType := .virtualSimulationMovement
  decisionStatus := update.positionAfter.status.value
  tradeAction := update.exitReason.map fun _ => "SELL"
  equityDeltaUsdt := update.portfolioAfter.equityUsdt - portfolio.equityUsdt
  cashDeltaUsdt := update.portfolioAfter.cashUsdt - portfolio.cashUsdt
  before := some portfolio.toPortfolioFields
  after := update.portfolioAfter.toPortfolioFields
  managedPosition := some (advancedPosition stored update.positionAfter candle)
  positionCursor := some (candle.time.add duration)
  reasonCodes := update.reasonCodes

/-- The loop of `manage_positions`: the candles before the cursor and the unfinished ones
are skipped, a candle that does not follow the cursor is refused, and every other one is
processed and recorded. -/
def manageCandles (snapshot : MarketSnapshot) (duration : ℤ) :
    List ZonedCandle → StoredPosition → VirtualPortfolioState → Timestamp → Ledger →
      Except PyError Unit × Ledger
  | [], _, _, _, ledger => (.ok (), ledger)
  | candle :: candles, stored, portfolio, cursor, ledger =>
      if candle.timestamp < cursor.instant ∨
          snapshot.createdAt.instant < candle.timestamp + duration then
        manageCandles snapshot duration candles stored portfolio cursor ledger
      else if duration ≤ candle.timestamp - cursor.instant then
        (.error (.runtime "VIRTUAL_POSITION_CANDLE_GAP"), ledger)
      else
        match stored.position.processPosition portfolio candle.toOHLCVCandle {} none
          (some (candle.timestamp + duration)) with
        | .error e => (.error e, ledger)
        | .ok update =>
            match appendMovement .movementRecorded
              (candleMovement snapshot duration stored portfolio candle update) ledger with
            | .error e => (.error e, ledger)
            | .ok ledger' =>
                if update.positionAfter.remainingQuantity = 0 then (.ok (), ledger')
                else
                  manageCandles snapshot duration candles
                    (advancedPosition stored update.positionAfter candle)
                    update.portfolioAfter (candle.time.add duration) ledger'

/-- The position of a snapshot's market with its cursor, if it is one of the snapshot's
symbol, and the portfolio. -/
def managedOf (snapshot : MarketSnapshot) (ledger : Ledger) :
    Except PyError (Option (StoredPosition × Timestamp × Option VirtualPortfolioState)) := do
  let movements ← readMovements ledger
  let positions ← latestPositions movements
  match positions snapshot.marketType with
  | none => return none
  | some (stored, cursor) =>
      if stored.position.symbol ≠ snapshot.symbol then return none
      let portfolios ← latestPortfolios movements
      return some (stored, cursor, portfolios stored.position.market)

/-- The candles that `manage_positions` goes through, with their duration. -/
def managedCandles (snapshot : MarketSnapshot) (position : VirtualManagedPosition) :
    Except PyError (ℤ × List ZonedCandle) := do
  raiseIf (snapshot.dataQuality ≠ .dataValid) (.runtime "VIRTUAL_POSITION_DATA_INVALID")
  raiseIf (position.market ≠ .spot) (.runtime "VIRTUAL_FUTURES_LIFECYCLE_CONTEXT_UNAVAILABLE")
  let duration ← timeframeDuration position.lineage.timeframe
  let candles := snapshot.ohlcvByTimeframe position.lineage.timeframe
  raiseIf (candles = []) (.runtime "VIRTUAL_POSITION_CANDLES_MISSING")
  raiseIf (¬ candles.IsChain fun left right => right.timestamp - left.timestamp = duration)
    (.runtime "VIRTUAL_POSITION_CANDLE_GAP")
  return (duration, candles)

/-- `manage_positions`: the outcome, and the journal it leaves. -/
def managePositions (snapshot : MarketSnapshot) (ledger : Ledger) : Except PyError Unit × Ledger :=
  match managedOf snapshot ledger with
  | .error e => (.error e, ledger)
  | .ok none => (.ok (), ledger)
  | .ok (some (stored, cursor, portfolio)) =>
      match managedCandles snapshot stored.position, portfolio with
      | .error e, _ => (.error e, ledger)
      | .ok _, none => (.error .attribute, ledger)
      | .ok (duration, candles), some portfolio =>
          manageCandles snapshot duration candles stored portfolio cursor ledger

end VirtualWalletJournal

/-! ### Calls -/

/-- The calls on a journal. -/
inductive WalletCall where
  | initializeWallets (observedAt : Datetime)
  | recordCycle (snapshotId : String) (observedAt : Datetime) (decision : Option CycleDecision)
      (request : Option VirtualRuntimeRequest)
  | managePositions (snapshot : MarketSnapshot)

/-- The outcome of a call, and the journal it leaves. -/
def WalletCall.perform : WalletCall → Ledger → Except PyError Unit × Ledger
  | .initializeWallets observedAt => VirtualWalletJournal.initializeWallets observedAt
  | .recordCycle snapshotId observedAt decision request =>
      VirtualWalletJournal.recordCycle snapshotId observedAt decision request
  | .managePositions snapshot => VirtualWalletJournal.managePositions snapshot

/-- The journal after a sequence of calls. -/
def WalletCall.run (ledger : Ledger) (calls : List WalletCall) : Ledger :=
  calls.foldl (fun ledger call => (call.perform ledger).2) ledger

end Ai4Binance

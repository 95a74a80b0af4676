/-
The event chain of one placement (`build_place_events`) and its journal
(`LiveOrderLifecycleJournal.append_place_result`).

The builder and the lifecycle machine are two separate case analyses over the
exchange's order status.  The journal is written before the chain is replayed,
so a chain that the machine rejects stays on disk.

* `placePayloads`, `buildPlaceEvents`: the builder;
* `appendPlaceResult`: build, append event by event, replay.
-/
import Ai4Binance.Execution.LiveOrderLifecycle
import Ai4Binance.Execution.OrderCommand

open Text Check

namespace Ai4Binance

/-! ### Reading the exchange's answer -/

/-- `_snapshot_status`. -/
def snapshotStatus [UnicodeData] (exchangeOrderStatus : Option String)
    (snapshot : Option Payload) : Option String :=
  match exchangeOrderStatus <|> snapshot.bind (·.get? "status") with
  | none => none
  | some status => if upper (strip status) = "" then none else some (upper (strip status))

/-- The first key of the list that the snapshot has, and its value. -/
def firstPresent (snapshot : Payload) : List String → Option (String × String)
  | [] => none
  | key :: keys =>
      match snapshot.get? key with
      | some value => some (key, value)
      | none => firstPresent snapshot keys

/-- `_snapshot_decimal`. -/
def snapshotDecimal [UnicodeData] (snapshot : Option Payload) (keys : List String)
    (name : String) : Except PyError Decimal := do
  let snapshot ← orRaise snapshot (.value (name ++ " evidence is required"))
  let found ← orRaise (firstPresent snapshot keys) (.value (name ++ " evidence is required"))
  positiveDecimal (some found.2) name

/-- `_snapshot_fill_price`: a price of the answer, or its quote amount divided
by the quantity. -/
def snapshotFillPrice [UnicodeData] (snapshot : Option Payload) (fillQuantity : Decimal) :
    Except PyError Decimal := do
  let snapshot ← orRaise snapshot (.value "fill price evidence is required")
  match firstPresent snapshot ["avgPrice", "avg_price", "averagePrice", "price"] with
  | some (_, value) => positiveDecimal (some value) "fill_price"
  | none =>
      let quote ← orRaise
        (firstPresent snapshot ["cummulativeQuoteQty", "cumQuote", "cumulativeQuoteQty"])
        (.value "fill price evidence is required")
      let quoteValue ← positiveDecimal (some quote.2) quote.1
      orRaise (Context.default.divide quoteValue fillQuantity) .decimal

/-! ### The builder -/

section Builder

variable [UnicodeData] [CanonicalDigest Payload] [CanonicalDigest EventContent]

/-- The identifiers of the authorization a placement has used up. -/
structure AuthorizationIds where
  approvalId : String
  authorizationId : String
  envelopeSha256 : String

/-- The entries every payload of the chain has. -/
def commandEntries (command : SpotOrderCommand) : List (String × String) :=
  [("symbol", command.symbol), ("preview_hash", command.previewHash)]

/-- The entries that name the authorization. -/
def authorizationEntries (ids : AuthorizationIds) : List (String × String) :=
  [("approval_id", ids.approvalId), ("authorization_id", ids.authorizationId),
    ("authorization_envelope_sha256", ids.envelopeSha256)]

/-- The entries that name the exchange's order. -/
def exchangeEntries (result : LiveCommandResult) (status : String) : List (String × String) :=
  [("exchange_order_id", result.exchangeOrderId.getD ""), ("exchange_order_status", status)]

/-- The four events up to the approval. -/
def approvedPayloads (command : SpotOrderCommand) (ids : AuthorizationIds) :
    List (LiveOrderLifecycleEvent × Payload) :=
  [(.previewed, .ofList (commandEntries command ++
      [("requested_quantity", command.quantity.str), ("client_order_id", command.clientOrderId),
        ("side", command.side.value), ("order_type", command.orderType.value)])),
    (.promotionRequested, .ofList (commandEntries command ++
      [("requested_quantity", command.quantity.str)])),
    (.humanApprovalRequested, .ofList (commandEntries command ++
      [("requested_quantity", command.quantity.str)])),
    (.humanApproved, .ofList (commandEntries command ++ authorizationEntries ids))]

/-- The events of an order that the exchange reports as executed. -/
def fillPayloads (command : SpotOrderCommand) (result : LiveCommandResult) (status : String)
    (fill : LiveOrderLifecycleEvent) : Except PyError (List (LiveOrderLifecycleEvent × Payload)) :=
  do
    let fillQuantity ←
      snapshotDecimal result.exchangeOrderSnapshot ["executedQty", "executed_qty"] "executedQty"
    let fillPrice ← snapshotFillPrice result.exchangeOrderSnapshot fillQuantity
    pure
      [(.accepted, .ofList (commandEntries command ++ exchangeEntries result status)),
        (fill, .ofList (commandEntries command ++ exchangeEntries result status ++
          [("fill_quantity", fillQuantity.str), ("fill_price", fillPrice.str)]))]

/-- The events that follow the submission, by the exchange's status. -/
def outcomePayloads (command : SpotOrderCommand) (result : LiveCommandResult) :
    Except PyError (List (LiveOrderLifecycleEvent × Payload)) :=
  let one (status : String) (k : LiveOrderLifecycleEvent) :
      List (LiveOrderLifecycleEvent × Payload) :=
    [(k, .ofList (commandEntries command ++ exchangeEntries result status))]
  match snapshotStatus result.exchangeOrderStatus result.exchangeOrderSnapshot with
  | some "NEW" => .ok (one "NEW" .accepted)
  | some "PARTIALLY_FILLED" => fillPayloads command result "PARTIALLY_FILLED" .partiallyFilled
  | some "FILLED" => fillPayloads command result "FILLED" .filled
  | some "CANCELED" => .ok (one "CANCELED" .cancelled)
  | some "EXPIRED" => .ok (one "EXPIRED" .expired)
  | some "REJECTED" => .ok (one "REJECTED" .rejected)
  | _ => .ok []

/-- The events after the approval, by the status of the placement. -/
def attemptPayloads (command : SpotOrderCommand) (result : LiveCommandResult)
    (ids : AuthorizationIds) : Except PyError (List (LiveOrderLifecycleEvent × Payload)) :=
  match result.status with
  | .attemptFailed => do
      let blockers ← requiredText (some (String.intercalate "|" result.blockers)) "blockers"
      pure [(.submissionAttemptFailed, .ofList (commandEntries command ++
        authorizationEntries ids ++
        [("client_order_id", command.clientOrderId), ("blockers", blockers)]))]
  | .submitted | .unverifiedReviewRequired => do
      let outcome ← outcomePayloads command result
      pure ((.submitted, .ofList (commandEntries command ++ authorizationEntries ids ++
        [("exchange_order_id", result.exchangeOrderId.getD ""),
          ("client_order_id", command.clientOrderId)])) :: outcome)
  | _ => throw (.value "unsupported live order place result")

/-- `build_place_events`. -/
def buildPlaceEvents (command : SpotOrderCommand) (result : LiveCommandResult)
    (observedAt : Datetime) : Except PyError (List DomainEvent) := do
  let approvalId ← requiredText result.approvalId "approval_id"
  let authorizationId ← requiredText result.authorizationId "authorization_id"
  let envelopeSha256 ←
    requiredText result.authorizationEnvelopeSha256 "authorization_envelope_sha256"
  let ids : AuthorizationIds := ⟨approvalId, authorizationId, envelopeSha256⟩
  let attempt ← attemptPayloads command result ids
  buildEvents command.clientOrderId (approvedPayloads command ids ++ attempt) observedAt

open LiveOrderLifecycleStateMachine

/-- `append_place_result`: the journal as the call leaves it, and its result. -/
def appendPlaceResult (encodedSize : DomainEvent → ℕ) (journal : DiskEventJournal)
    (command : SpotOrderCommand) (result : LiveCommandResult) (observedAt : Datetime) :
    DiskEventJournal × Except PyError (Option LiveOrderLifecycleRecord) :=
  if result.status = .blocked then (journal, .ok none)
  else
    match buildPlaceEvents command result observedAt with
    | .error e => (journal, .error e)
    | .ok events =>
        match journal.appendAll encodedSize events with
        | (journal', .error e) => (journal', .error e)
        | (journal', .ok ()) => (journal', (replay events).map some)

end Builder

end Ai4Binance

/-
Gated placement (`GatedSpotOrderExecutor.place` of `execution/live_spot.py`), as
a program that shares a ledger and an approval queue with other calls.

A call is cut where it touches what is shared or the exchange: the resolution,
the claim, the second resolution, `order_test`, `order_place` and the read-back.
Between two steps of a call the other calls take theirs and the queue grows.
What the environment answers (an unreadable file, the evidence registries, the
ledger, the exchange) is part of the label of a step.

* `LiveGateRequirement`, `evaluateLiveGate`, `evidenceBoundGateInput`: the gate;
* `PlaceCall.prepare`: the part of `place` before the claim;
* `PlacePhase`, `PlaceInput`, `advance`: the steps of one call;
* `World`, `step`: all calls together.
-/
import Ai4Binance.Execution.ManualApproval
import Ai4Binance.Lib.Run

open Text Check

namespace Ai4Binance

/-! ### The live gate -/

/-- The fields of `LiveGateInput`. -/
inductive LiveGateRequirement where
  | liveMode | autoMode | allowAutoLiveOrders | confirmLive | explicitUserRequest | apiValid
  | accountStatusValid | serverTimeValid | exchangeInfoValid | priceFilterValid | lotSizeValid
  | notionalFilterValid | tickSizeValid | stepSizeValid | latestSpotPriceConfirmed
  | spreadAcceptable | slippageAcceptable | balancesKnown | inventoryKnown
  | noConflictingOpenOrders | latestSignalExists | signalNotExpired | entryNotMissed
  | backtestApproved | walkForwardApproved | tuningReportApproved | oosApproved | riskApproved
  | strategyPromotionApproved | dailyLossLimitClear | cooldownClear | circuitBreakerClear
  | decisionLogged | orderPreviewCreated | userAuthorizationRecorded
  deriving DecidableEq, Repr

/-- `LiveGateInput`. -/
abbrev LiveGateInput := LiveGateRequirement → Bool

open LiveGateRequirement in
/-- `LIVE_GATE_REQUIREMENTS`, under the names of the fields. -/
def liveGateRequirements : List (LiveGateRequirement × String) :=
  [(liveMode, "live_mode"), (autoMode, "auto_mode"),
    (allowAutoLiveOrders, "allow_auto_live_orders"), (confirmLive, "confirm_live"),
    (explicitUserRequest, "explicit_user_request"), (apiValid, "api_valid"),
    (accountStatusValid, "account_status_valid"), (serverTimeValid, "server_time_valid"),
    (exchangeInfoValid, "exchange_info_valid"), (priceFilterValid, "price_filter_valid"),
    (lotSizeValid, "lot_size_valid"), (notionalFilterValid, "notional_filter_valid"),
    (tickSizeValid, "tick_size_valid"), (stepSizeValid, "step_size_valid"),
    (latestSpotPriceConfirmed, "latest_spot_price_confirmed"),
    (spreadAcceptable, "spread_acceptable"), (slippageAcceptable, "slippage_acceptable"),
    (balancesKnown, "balances_known"), (inventoryKnown, "inventory_known"),
    (noConflictingOpenOrders, "no_conflicting_open_orders"),
    (latestSignalExists, "latest_signal_exists"), (signalNotExpired, "signal_not_expired"),
    (entryNotMissed, "entry_not_missed"), (backtestApproved, "backtest_approved"),
    (walkForwardApproved, "walk_forward_approved"),
    (tuningReportApproved, "tuning_report_approved"), (oosApproved, "oos_approved"),
    (riskApproved, "risk_approved"), (strategyPromotionApproved, "strategy_promotion_approved"),
    (dailyLossLimitClear, "daily_loss_limit_clear"), (cooldownClear, "cooldown_clear"),
    (circuitBreakerClear, "circuit_breaker_clear"), (decisionLogged, "decision_logged"),
    (orderPreviewCreated, "order_preview_created"),
    (userAuthorizationRecorded, "user_authorization_recorded")]

/-- The blockers of `evaluate_live_gate`; execution is allowed when there are
none. -/
def evaluateLiveGate (gateInput : LiveGateInput) : List String :=
  (liveGateRequirements.filter fun r => !gateInput r.1).map (·.2)

/-- The fields of `LiveGateEvidenceResolution` that `place` reads. -/
structure LiveGateEvidenceResolution where
  backtestApproved : Bool := false
  walkForwardApproved : Bool := false
  tuningReportApproved : Bool := false
  oosApproved : Bool := false
  blockers : List String := []

/-- The fields of `PromotionEvidenceQuery` that `place` compares. -/
structure PromotionQuery where
  strategyId : String
  strategyVersion : String
  symbol : String
  marketType : String

/-- What the two evidence registries answer at the time of the call: the
validation bundle and whether the promotion status is `LIVE_ELIGIBLE`; `none` is
a `TypeError` or `ValueError`. -/
structure GateEvidence where
  validation : Option LiveGateEvidenceResolution
  liveEligible : Option Bool

/-- `GatedSpotOrderExecutor`: which collaborators it has. -/
structure Executor where
  authorizationSource : Bool := true
  verifier : Bool := true
  authorizationLedger : Bool := true
  liveGateEvidenceRegistry : Bool := true
  promotionEvidenceRegistry : Bool := true
  promotionQuery : Option PromotionQuery

/-- `replace(gate_input, …)` on the five fields that come from evidence. -/
def withEvidence (gateInput : LiveGateInput) (validation : LiveGateEvidenceResolution)
    (promoted : Bool) : LiveGateInput
  | .backtestApproved => validation.backtestApproved
  | .walkForwardApproved => validation.walkForwardApproved
  | .tuningReportApproved => validation.tuningReportApproved
  | .oosApproved => validation.oosApproved
  | .strategyPromotionApproved => promoted
  | r => gateInput r

variable [UnicodeData]

/-- `_evidence_bound_gate_input`. -/
def Executor.evidenceBoundGateInput (executor : Executor) (gateInput : LiveGateInput)
    (e : ExecutionAuthorizationEnvelope) (evidence : GateEvidence) :
    LiveGateInput × List String :=
  let denied := withEvidence gateInput {} false
  match executor.promotionQuery with
  | none => (denied, ["EXECUTION_EVIDENCE_EXACT_QUERY_REQUIRED"])
  | some query =>
    if query.strategyId ≠ e.strategyId ∨ query.strategyVersion ≠ e.strategyVersion ∨
        query.symbol ≠ e.symbol ∨ query.marketType ≠ e.marketType then
      (denied, ["EXECUTION_EVIDENCE_AUTHORIZATION_SUBJECT_MISMATCH"])
    else
      let validation : LiveGateEvidenceResolution :=
        if executor.liveGateEvidenceRegistry then
          evidence.validation.getD { blockers := ["LIVE_GATE_EVIDENCE_INVALID"] }
        else { blockers := ["LIVE_GATE_EVIDENCE_REGISTRY_REQUIRED"] }
      let promoted := executor.promotionEvidenceRegistry && evidence.liveEligible.getD false
      let promotionBlockers :=
        if !executor.promotionEvidenceRegistry then ["PROMOTION_EVIDENCE_REGISTRY_REQUIRED"]
        else match evidence.liveEligible with
          | none => ["PROMOTION_EVIDENCE_INVALID"]
          | some true => []
          | some false => ["PROMOTION_EVIDENCE_LIVE_ELIGIBLE_REQUIRED"]
      (withEvidence gateInput validation promoted,
        (validation.blockers ++ promotionBlockers).eraseDups)

/-! ### Before the claim -/

/-- The arguments of `place`, with the time it observes. -/
structure PlaceCall where
  executor : Executor
  gateInput : LiveGateInput
  authorization : Option ExecutionAuthorizationEnvelope
  observedAt : Datetime

/-- How a call ends. -/
inductive PlaceEnd where
  | returned (result : LiveCommandResult)
  | raised

section Digests

variable [CanonicalDigest ExecutionAuthorizationEnvelope] [CanonicalDigest Payload]

/-- The blocked result of a call that has not built its command. -/
def blockedBefore (authorization : Option ExecutionAuthorizationEnvelope) (blockers : List String) :
    LiveCommandResult where
  status := .blocked
  blockers := blockers.eraseDups
  clientOrderId := (authorization.map (·.clientOrderId)).getD ""
  previewHash := authorization.map (·.previewHash)
  authorizationId := authorization.map (·.authorizationId)
  authorizationEnvelopeSha256 := authorization.map (·.envelopeSha256)
  approvalId := authorization.map (·.approvalId)

/-- The result of an authorized call, with the identity of its command. -/
def authorizedResult (status : LiveCommandStatus) (blockers : List String)
    (e : ExecutionAuthorizationEnvelope) (command : SpotOrderCommand) : LiveCommandResult where
  status := status
  blockers := blockers
  clientOrderId := command.clientOrderId
  previewHash := some command.previewHash
  authorizationId := some e.authorizationId
  authorizationEnvelopeSha256 := some e.envelopeSha256
  approvalId := some e.approvalId

/-- The blockers of the first resolution, and the envelope it found. -/
def firstBlockers (executor : Executor) (e : ExecutionAuthorizationEnvelope)
    (command : SpotOrderCommand) (observedAt : Datetime)
    (resolution : Except QueueError (Option ExecutionAuthorizationEnvelope)) :
    Option (List String × Option ExecutionAuthorizationEnvelope) :=
  if !executor.authorizationSource then
    some (["EXECUTION_AUTHORIZATION_SOURCE_UNAVAILABLE"], none)
  else match resolution with
    | .error .uncaught => none
    | .error .caught => some (["EXECUTION_AUTHORIZATION_EVIDENCE_INVALID",
        "EXECUTION_AUTHORIZATION_NOT_APPROVED"], none)
    | .ok none => some (["EXECUTION_AUTHORIZATION_NOT_APPROVED"], none)
    | .ok (some resolved) =>
      if resolved.envelopeSha256 ≠ e.envelopeSha256 then
        some (["EXECUTION_AUTHORIZATION_RECORD_MISMATCH"], some resolved)
      else (e.blockersFor command observedAt).toOption.map (·, some resolved)

/-- `place` up to the claim: the end of the call, or the command to claim. -/
def PlaceCall.prepare (call : PlaceCall)
    (resolution : Except QueueError (Option ExecutionAuthorizationEnvelope))
    (evidence : GateEvidence) : PlaceEnd ⊕ SpotOrderCommand :=
  match call.authorization with
  | none =>
    .inl (.returned (blockedBefore none
      ("EXECUTION_AUTHORIZATION_REQUIRED" :: evaluateLiveGate call.gateInput)))
  | some e =>
    match e.toSpotOrderCommand with
    | .error _ => .inl .raised
    | .ok command =>
      match firstBlockers call.executor e command call.observedAt resolution with
      | none => .inl .raised
      | some (blockers, resolved) =>
        let (gateInput, evidenceBlockers) :=
          match blockers, resolved with
          | [], some r => call.executor.evidenceBoundGateInput call.gateInput r evidence
          | _, _ => (call.gateInput, [])
        let all := blockers ++ evidenceBlockers ++ evaluateLiveGate gateInput
        if all ≠ [] then .inl (.returned (blockedBefore (some e) all))
        else if !call.executor.verifier then
          .inl (.returned (authorizedResult .blocked ["ORDER_DESTINATION_VERIFIER_UNAVAILABLE"]
            e command))
        else if !call.executor.authorizationLedger then
          .inl (.returned (authorizedResult .blocked
            ["EXECUTION_AUTHORIZATION_LEDGER_UNAVAILABLE"] e command))
        else .inr command

/-! ### The steps of a call -/

/-- How far a call has got.  The command is the one of its envelope. -/
inductive PlacePhase where
  | start
  | ready (command : SpotOrderCommand)
  | claimed (command : SpotOrderCommand)
  | revalidated (command : SpotOrderCommand)
  | tested (command : SpotOrderCommand)
  | placed (command : SpotOrderCommand) (exchangeOrderId : String)
  | finished (result : PlaceEnd)

/-- What the ledger answers: the row is committed, it repeats a unique value, or
the transaction is rolled back (`OSError`, another SQLite error, a row that does
not read back). -/
inductive ClaimOutcome where
  | inserted
  | consumed
  | unavailable
  deriving DecidableEq, Repr

/-- `OrderDestinationVerification`. -/
structure OrderDestinationVerification where
  verified : Bool
  blockers : List String := []
  observedStatus : Option String := none
  orderSnapshot : Option Payload := none
  consistent : verified = blockers.isEmpty

/-- A step of a call, with what the environment answers: whether the queue file
can be read, the outcome of the claim, whether `order_test` returns, the order
id in the answer of `order_place`, and the read-back; `none` is an exception. -/
inductive PlaceInput where
  | resolve (readable : Bool) (evidence : GateEvidence)
  | claim (outcome : ClaimOutcome)
  | resolveAgain (readable : Bool)
  | orderTest (returns : Bool)
  | orderPlace (exchangeOrderId : Option String)
  | verify (verification : Option OrderDestinationVerification)

/-- The queue as a call sees it. -/
def resolution (queue : List QueueLine) (readable : Bool) (e : ExecutionAuthorizationEnvelope) :
    Except QueueError (Option ExecutionAuthorizationEnvelope) :=
  if readable then resolveExecutionAuthorization queue e.authorizationId else .error .caught

/-- `claim`: the ledger after an outcome that it can have. -/
def claimLedger (ledger : AuthorizationLedger) (row : ConsumptionRow) :
    ClaimOutcome → Option AuthorizationLedger
  | .inserted => ledger.insert? row
  | .consumed => if ledger.insert? row = none then some ledger else none
  | .unavailable => some ledger

/-- The phase after the claim. -/
def afterClaim (e : ExecutionAuthorizationEnvelope) (command : SpotOrderCommand) :
    ClaimOutcome → PlacePhase
  | .inserted => .claimed command
  | .consumed => .finished (.returned (authorizedResult .blocked
      ["EXECUTION_AUTHORIZATION_ALREADY_CONSUMED"] e command))
  | .unavailable => .finished (.returned (authorizedResult .blocked
      ["EXECUTION_AUTHORIZATION_LEDGER_UNAVAILABLE"] e command))

/-- The phase after the second resolution. -/
def afterResolution (e : ExecutionAuthorizationEnvelope) (command : SpotOrderCommand) :
    Except QueueError (Option ExecutionAuthorizationEnvelope) → PlacePhase
  | .error .uncaught => .finished .raised
  | .ok (some resolved) =>
    if resolved.envelopeSha256 = e.envelopeSha256 then .revalidated command
    else .finished (.returned (authorizedResult .blocked
      ["EXECUTION_AUTHORIZATION_REVOKED_BEFORE_ATTEMPT"] e command))
  | _ => .finished (.returned (authorizedResult .blocked
      ["EXECUTION_AUTHORIZATION_REVOKED_BEFORE_ATTEMPT"] e command))

/-- The result of an exception between `order_test` and the read-back. -/
def attemptFailed (e : ExecutionAuthorizationEnvelope) (command : SpotOrderCommand) : PlacePhase :=
  .finished (.returned (authorizedResult .attemptFailed
    ["LIVE_ORDER_ATTEMPT_OUTCOME_UNVERIFIED"] e command))

/-- The result of a read-back. -/
def afterVerify (e : ExecutionAuthorizationEnvelope) (command : SpotOrderCommand)
    (exchangeOrderId : String) : Option OrderDestinationVerification → PlacePhase
  | none => attemptFailed e command
  | some v => .finished (.returned
      { authorizedResult (if v.verified then .submitted else .unverifiedReviewRequired)
          v.blockers e command with
        exchangeOrderId := some exchangeOrderId
        exchangeOrderStatus := v.observedStatus
        exchangeOrderSnapshot := v.orderSnapshot })

/-- The next phase of a call and the ledger after its step; `none` when the call
is not at that step. -/
def PlaceCall.advance (call : PlaceCall) (ledger : AuthorizationLedger) (queue : List QueueLine)
    (phase : PlacePhase) (input : PlaceInput) : Option (PlacePhase × AuthorizationLedger) :=
  match phase, input, call.authorization with
  | .start, .resolve readable evidence, authorization =>
    let found := match authorization with
      | some e => resolution queue readable e
      | none => .ok none
    match call.prepare found evidence with
    | .inl result => some (.finished result, ledger)
    | .inr command => some (.ready command, ledger)
  | .ready command, .claim outcome, some e =>
    (claimLedger ledger (AuthorizationLedger.rowFor e command.clientOrderId
      ((instantOf call.observedAt).getD 0)) outcome).map (afterClaim e command outcome, ·)
  | .claimed command, .resolveAgain readable, some e =>
    some (afterResolution e command (resolution queue readable e), ledger)
  | .revalidated command, .orderTest returns, some e =>
    some (if returns then .tested command else attemptFailed e command, ledger)
  | .tested command, .orderPlace answer, some e =>
    some (match answer with
      | some exchangeOrderId => .placed command exchangeOrderId
      | none => attemptFailed e command, ledger)
  | .placed command exchangeOrderId, .verify verification, some e =>
    some (afterVerify e command exchangeOrderId verification, ledger)
  | _, _, _ => none

/-! ### All calls together -/

namespace Placement

/-- The shared state and the phase of every call. -/
structure World (ι : Type) where
  ledger : AuthorizationLedger := {}
  queue : List QueueLine := []
  phase : ι → PlacePhase := fun _ => .start

/-- A step: a line is appended to the queue, or a call goes on. -/
inductive Label (ι : Type) where
  | append (line : QueueLine)
  | act (i : ι) (input : PlaceInput)

/-- One step of the system. -/
def step {ι : Type} [DecidableEq ι] (calls : ι → PlaceCall) (w : World ι) :
    Label ι → Option (World ι)
  | .append line => some { w with queue := w.queue ++ [line] }
  | .act i input =>
    ((calls i).advance w.ledger w.queue (w.phase i) input).map fun next =>
      { w with ledger := next.2, phase := Function.update w.phase i next.1 }

/-- The step as a relation. -/
def Step {ι : Type} [DecidableEq ι] (calls : ι → PlaceCall) (w : World ι) (l : Label ι)
    (w' : World ι) : Prop :=
  step calls w l = some w'

end Placement

end Digests

end Ai4Binance

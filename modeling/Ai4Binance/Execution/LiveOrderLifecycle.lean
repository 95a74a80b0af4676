/-
The live-order lifecycle machine (`execution/live_order_lifecycle.py`).

A record is rebuilt from its events.  Each event has a guard on the current
stage and leads to one stage; the record's constructor then checks that the new
stage comes with its evidence.  `PROMOTION_REQUESTED` is the one event without a
guard.

* `LiveOrderLifecycleRecord`, `check`: the record and the checks of its
  constructor, run again on every change;
* `apply`, `replay`: the machine;
* `apply_some_ok`: what an accepted event says about the stages before and
  after it;
* `buildEvents`: a hash-linked chain of events of one order.
-/
import Ai4Binance.Events.DomainEvent
import Ai4Binance.Lib.Decimal

open Text Check

namespace Ai4Binance

/-! ### Stages and events -/

/-- `ValidationStatus`. -/
inductive ValidationStatus where
  | unvalidated
  | researchOnly
  | stagedCandidate
  | paperApproved
  | liveEligible
  | rejected
  deriving DecidableEq, Repr

/-- `LiveOrderLifecycleStage`. -/
inductive LiveOrderLifecycleStage where
  | draft
  | previewed
  | promotionRequired
  | humanApprovalRequired
  | readyForSubmission
  | submissionAttemptFailedReviewRequired
  | submitted
  | accepted
  | partiallyFilled
  | filled
  | cancelRequested
  | cancelled
  | rejected
  | expired
  deriving DecidableEq, Repr

/-- `LiveOrderLifecycleEvent`. -/
inductive LiveOrderLifecycleEvent where
  | previewed
  | promotionRequested
  | humanApprovalRequested
  | humanApproved
  | submissionAttemptFailed
  | submitted
  | accepted
  | partiallyFilled
  | filled
  | cancelRequested
  | cancelled
  | rejected
  | expired
  deriving DecidableEq, Repr

namespace LiveOrderLifecycleEvent

/-- The text of an event type. -/
def value : LiveOrderLifecycleEvent → String
  | previewed => "LIVE_ORDER_PREVIEWED"
  | promotionRequested => "LIVE_ORDER_PROMOTION_REQUESTED"
  | humanApprovalRequested => "LIVE_ORDER_HUMAN_APPROVAL_REQUESTED"
  | humanApproved => "LIVE_ORDER_HUMAN_APPROVED"
  | submissionAttemptFailed => "LIVE_ORDER_SUBMISSION_ATTEMPT_FAILED_REVIEW_REQUIRED"
  | submitted => "LIVE_ORDER_SUBMITTED"
  | accepted => "LIVE_ORDER_ACCEPTED"
  | partiallyFilled => "LIVE_ORDER_PARTIALLY_FILLED"
  | filled => "LIVE_ORDER_FILLED"
  | cancelRequested => "LIVE_ORDER_CANCEL_REQUESTED"
  | cancelled => "LIVE_ORDER_CANCELLED"
  | rejected => "LIVE_ORDER_REJECTED"
  | expired => "LIVE_ORDER_EXPIRED"

/-- All event types. -/
def all : List LiveOrderLifecycleEvent :=
  [previewed, promotionRequested, humanApprovalRequested, humanApproved,
    submissionAttemptFailed, submitted, accepted, partiallyFilled, filled, cancelRequested,
    cancelled, rejected, expired]

/-- `LiveOrderLifecycleEvent(value)`. -/
def ofValue (s : String) : Option LiveOrderLifecycleEvent := all.find? (·.value = s)

lemma ofValue_value (k : LiveOrderLifecycleEvent) : ofValue k.value = some k := by
  cases k <;> decide

lemma value_of_ofValue {s : String} {k : LiveOrderLifecycleEvent} (h : ofValue s = some k) :
    k.value = s := by
  simpa using List.find?_some h

end LiveOrderLifecycleEvent

open LiveOrderLifecycleEvent (ofValue)

namespace LiveOrderLifecycleStage

/-- Stages that need an approval, and the authorization it carries. -/
def approved : List LiveOrderLifecycleStage :=
  [readyForSubmission, submissionAttemptFailedReviewRequired, submitted, accepted,
    partiallyFilled, filled, cancelRequested, cancelled]

/-- Stages that need a request for approval. -/
def approvalRequested : List LiveOrderLifecycleStage := humanApprovalRequired :: approved

/-- Stages that need a promotion. -/
def promoted : List LiveOrderLifecycleStage := previewed :: promotionRequired :: approvalRequested

/-- Stages that need a submission time. -/
def afterSubmission : List LiveOrderLifecycleStage :=
  [submitted, accepted, partiallyFilled, filled, cancelRequested, cancelled]

/-- Stages that need an acceptance time. -/
def afterAcceptance : List LiveOrderLifecycleStage :=
  [accepted, partiallyFilled, filled, cancelRequested, cancelled]

/-- Stages that need a requested quantity, and the only ones with fills. -/
def withFills : List LiveOrderLifecycleStage :=
  [partiallyFilled, filled, cancelRequested, cancelled]

end LiveOrderLifecycleStage

/-! ### The record -/

/-- `LiveOrderLifecycleRecord`. -/
structure LiveOrderLifecycleRecord where
  orderId : String
  symbol : String
  stage : LiveOrderLifecycleStage
  previewHash : String
  promotionStatus : ValidationStatus := .researchOnly
  requestedQuantity : Option ℚ := none
  approvalId : Option String := none
  authorizationId : Option String := none
  authorizationEnvelopeSha256 : Option String := none
  promotedAt : Option ℤ := none
  humanApprovalRequestedAt : Option ℤ := none
  humanApprovedAt : Option ℤ := none
  submissionAttemptedAt : Option ℤ := none
  submittedAt : Option ℤ := none
  acceptedAt : Option ℤ := none
  filledQuantity : ℚ := 0
  averageFillPrice : ℚ := 0
  lastSequence : ℕ := 0
  executionAllowed : Bool := false
  liveEligibilityStatus : String := "LIVE_ORDER_BLOCKED"
  deriving DecidableEq

namespace LiveOrderLifecycleRecord

open LiveOrderLifecycleStage

/-- `_validate_stage_evidence`. -/
def validateStageEvidence (r : LiveOrderLifecycleRecord) : Except PyError Unit :=
  if r.stage = draft then .ok ()
  else do
    raiseIf (r.stage ∈ promoted ∧ r.promotedAt = none)
      (.value "promoted live orders require promotion evidence")
    raiseIf (r.stage ∈ approvalRequested ∧ r.humanApprovalRequestedAt = none)
      (.value "human approval requested live orders require request evidence")
    raiseIf (r.stage ∈ approved ∧ r.humanApprovedAt = none)
      (.value "approved live orders require approval evidence")
    raiseIf (r.stage ∈ approved ∧
        (r.authorizationId = none ∨ r.authorizationEnvelopeSha256 = none))
      (.value "approved live orders require exact authorization evidence")
    raiseIf (r.stage = submissionAttemptFailedReviewRequired ∧ r.submissionAttemptedAt = none)
      (.value "failed live order attempts require an attempt timestamp")
    raiseIf (r.stage ∈ afterSubmission ∧ r.submittedAt = none)
      (.value "submitted live orders require a submission timestamp")
    raiseIf (r.stage ∈ afterAcceptance ∧ r.acceptedAt = none)
      (.value "accepted or terminal live orders require acceptance evidence")
    raiseIf (r.stage ∈ withFills ∧ r.requestedQuantity = none)
      (.value "filled live orders require requested quantity evidence")
    raiseIf (r.stage ∈ [partiallyFilled, filled] ∧ r.requestedQuantity.any (· < r.filledQuantity))
      (.value "live order fills cannot exceed requested quantity")
    raiseIf (r.stage = filled ∧ r.requestedQuantity.any (r.filledQuantity ≠ ·))
      (.value "filled live orders must match requested quantity")

/-- `_validate_fill_geometry`. -/
def validateFillGeometry (r : LiveOrderLifecycleRecord) : Except PyError Unit :=
  raiseIf (r.filledQuantity ≠ 0 ∧ r.stage ∉ withFills)
    (.value "fill evidence is only allowed after submission")

/-- `__post_init__`: the record with its symbol normalized, or the exception. -/
def check [UnicodeData] (r : LiveOrderLifecycleRecord) : Except PyError LiveOrderLifecycleRecord :=
  do
    raiseIf (isBlank r.orderId || isBlank r.symbol || isBlank r.previewHash)
      (.value "live order lifecycle identity is required")
    let r := { r with symbol := upper (strip r.symbol) }
    raiseIf (r.requestedQuantity.any (· ≤ 0)) (.value "requested_quantity must be positive")
    raiseIf (r.filledQuantity < 0 ∨ r.averageFillPrice < 0)
      (.value "live order fill evidence cannot be negative")
    raiseIf (r.authorizationId.isNone ≠ r.authorizationEnvelopeSha256.isNone)
      (.value "live order authorization evidence must be complete")
    raiseIf (r.executionAllowed ∨ r.liveEligibilityStatus ≠ "LIVE_ORDER_BLOCKED")
      (.value "live order lifecycle cannot grant execution authority")
    raiseIf (r.promotionStatus ∉ [.researchOnly, .stagedCandidate, .paperApproved, .liveEligible])
      (.value "live order promotion status is invalid")
    r.validateStageEvidence
    r.validateFillGeometry
    pure r

end LiveOrderLifecycleRecord

/-! ### Reading payloads -/

/-- `_required_text`. -/
def requiredText (value : Option String) (name : String) : Except PyError String :=
  match value with
  | none => .error (.value (name ++ " is required"))
  | some text => if isBlank text then .error (.value (name ++ " is required")) else .ok (strip text)

/-- `_positive_decimal`, on the text of the value; a missing value is the text
`None`. -/
def positiveDecimal [UnicodeData] (value : Option String) (name : String) :
    Except PyError Decimal :=
  match Decimal.parse (value.getD "None") with
  | none => .error (.value (name ++ " must be decimal-compatible"))
  | some (.finite d) =>
      if d.toRat ≤ 0 then .error (.value (name ++ " must be positive")) else .ok d
  | some _ => .error (.value (name ++ " must be positive"))

lemma positiveDecimal_eq_ok [UnicodeData] {text name : String} {d : Decimal} :
    positiveDecimal (some text) name = .ok d ↔
      Decimal.parse text = some (.finite d) ∧ 0 < d.toRat := by
  rw [positiveDecimal, Option.getD_some]
  split
  · next h => simp [h]
  · next d' h =>
    rw [h]
    split_ifs with hle
    · refine iff_of_false nofun ?_
      rintro ⟨heq, hpos⟩
      obtain rfl := DecimalNumber.finite.inj (Option.some.inj heq)
      exact absurd hpos (not_lt.mpr hle)
    · constructor
      · intro hok
        obtain rfl := Except.ok.inj hok
        exact ⟨rfl, not_le.mp hle⟩
      · rintro ⟨heq, -⟩
        rw [DecimalNumber.finite.inj (Option.some.inj heq)]
  · next number hne h =>
    refine iff_of_false nofun ?_
    rintro ⟨heq, -⟩
    exact hne d (Option.some.inj (h.symm.trans heq))

/-- `_decimal_or_none`. -/
def decimalOrNone [UnicodeData] (value : Option String) (name : String) :
    Except PyError (Option Decimal) :=
  match value with
  | none => .ok none
  | some text => (positiveDecimal (some text) name).map some

/-! ### The machine -/

namespace LiveOrderLifecycleStateMachine

open LiveOrderLifecycleStage

variable [UnicodeData]

/-- `_validate_identity_and_sequence`. -/
def validateIdentityAndSequence (state : LiveOrderLifecycleRecord) (event : DomainEvent) :
    Except PyError Unit := do
  raiseIf (event.aggregateId ≠ state.orderId)
    (.value "live order event aggregate identity mismatch")
  raiseIf (event.sequence ≠ state.lastSequence + 1)
    (.value "live order event sequence is not contiguous")

/-- `_validate_symbol_and_preview_hash`. -/
def validateSymbolAndPreviewHash (state : LiveOrderLifecycleRecord) (payload : Payload) :
    Except PyError Unit := do
  raiseIf ((payload.get? "symbol").any fun s => upper (strip s) ≠ state.symbol)
    (.value "live order symbol mismatch")
  raiseIf ((payload.get? "preview_hash").any (· ≠ state.previewHash))
    (.value "live order preview hash mismatch")
  raiseIf ((payload.get? "authorization_id").any fun a => state.authorizationId.any (a ≠ ·))
    (.value "live order authorization ID mismatch")
  raiseIf ((payload.get? "authorization_envelope_sha256").any fun a =>
      state.authorizationEnvelopeSha256.any (a ≠ ·))
    (.value "live order authorization envelope mismatch")

/-- `_require_stage`. -/
def requireStage (state : LiveOrderLifecycleRecord) (allowed : List LiveOrderLifecycleStage) :
    Except PyError Unit :=
  raiseIf (state.stage ∉ allowed) (.value "illegal live order state transition")

/-- `_transition`: the changed record, through the checks of its constructor. -/
def transition (event : DomainEvent) (changed : LiveOrderLifecycleRecord) :
    Except PyError LiveOrderLifecycleRecord :=
  LiveOrderLifecycleRecord.check { changed with lastSequence := event.sequence }

/-- `_apply_fill`. -/
def applyFill (state : LiveOrderLifecycleRecord) (event : DomainEvent) (isPartial : Bool) :
    Except PyError LiveOrderLifecycleRecord := do
  let ctx := Context.default
  let fillQuantity ← positiveDecimal (event.payload.get? "fill_quantity") "fill_quantity"
  let fillPrice ← positiveDecimal (event.payload.get? "fill_price") "fill_price"
  let nextQuantity ← orRaise (ctx.add state.filledQuantity fillQuantity.toRat) .decimal
  raiseIf (state.requestedQuantity.any (· < nextQuantity))
    (.value "live order fill exceeds requested quantity")
  raiseIf (isPartial = false ∧ state.requestedQuantity.any (nextQuantity ≠ ·))
    (.value "filled live orders must match requested quantity")
  raiseIf (isPartial = true ∧ state.requestedQuantity.any (· ≤ nextQuantity))
    (.value "partial fill cannot complete the requested quantity")
  let weightedValue ← orRaise (ctx.mul state.averageFillPrice state.filledQuantity) .decimal
  let fillValue ← orRaise (ctx.mul fillPrice.toRat fillQuantity.toRat) .decimal
  let totalValue ← orRaise (ctx.add weightedValue fillValue) .decimal
  let averagePrice ← orRaise (ctx.div totalValue nextQuantity) .decimal
  transition event
    { state with
      stage := if isPartial then partiallyFilled else filled
      filledQuantity := nextQuantity
      averageFillPrice := averagePrice }

/-- `apply` on the first event. -/
def applyFirst (event : DomainEvent) : Except PyError LiveOrderLifecycleRecord := do
  let symbol ← requiredText (event.payload.get? "symbol") "symbol"
  let previewHash ← requiredText (event.payload.get? "preview_hash") "preview_hash"
  let requestedQuantity ←
    decimalOrNone (event.payload.get? "requested_quantity") "requested_quantity"
  LiveOrderLifecycleRecord.check
    { orderId := event.aggregateId
      symbol
      stage := previewed
      previewHash
      requestedQuantity := requestedQuantity.map Decimal.toRat
      promotedAt := some event.occurredAt
      promotionStatus := .researchOnly
      lastSequence := event.sequence }

/-- `apply` on a later event, once identity, sequence and payload agree with
the record. -/
def applyNext (state : LiveOrderLifecycleRecord) (event : DomainEvent) :
    LiveOrderLifecycleEvent → Except PyError LiveOrderLifecycleRecord
  | .previewed => throw (.value "live order preview can only be recorded once")
  | .promotionRequested =>
      transition event
        { state with
          stage := promotionRequired
          promotionStatus := .stagedCandidate
          promotedAt := some event.occurredAt }
  | .humanApprovalRequested => do
      requireStage state [promotionRequired]
      transition event
        { state with
          stage := humanApprovalRequired
          promotionStatus := .stagedCandidate
          humanApprovalRequestedAt := some event.occurredAt }
  | .humanApproved => do
      requireStage state [humanApprovalRequired]
      let approvalId ← requiredText (event.payload.get? "approval_id") "approval_id"
      let authorizationId ←
        requiredText (event.payload.get? "authorization_id") "authorization_id"
      let envelopeSha256 ← requiredText (event.payload.get? "authorization_envelope_sha256")
        "authorization_envelope_sha256"
      transition event
        { state with
          stage := readyForSubmission
          approvalId := some approvalId
          authorizationId := some authorizationId
          authorizationEnvelopeSha256 := some envelopeSha256
          promotionStatus := .paperApproved
          humanApprovedAt := some event.occurredAt }
  | .submitted => do
      requireStage state [readyForSubmission]
      transition event
        { state with
          stage := submitted
          promotionStatus := .liveEligible
          submissionAttemptedAt := some event.occurredAt
          submittedAt := some event.occurredAt }
  | .submissionAttemptFailed => do
      requireStage state [readyForSubmission]
      let _ ← requiredText (event.payload.get? "blockers") "blockers"
      transition event
        { state with
          stage := submissionAttemptFailedReviewRequired
          submissionAttemptedAt := some event.occurredAt }
  | .accepted => do
      requireStage state [submitted]
      transition event { state with stage := accepted, acceptedAt := some event.occurredAt }
  | .partiallyFilled => do
      requireStage state [accepted, partiallyFilled]
      applyFill state event true
  | .filled => do
      requireStage state [accepted, partiallyFilled]
      applyFill state event false
  | .cancelRequested => do
      requireStage state [submitted, accepted, partiallyFilled]
      transition event { state with stage := cancelRequested }
  | .cancelled => do
      requireStage state [submitted, accepted, partiallyFilled, cancelRequested]
      transition event { state with stage := cancelled }
  | .rejected => do
      requireStage state [readyForSubmission, submitted, accepted, partiallyFilled]
      transition event { state with stage := rejected }
  | .expired => do
      requireStage state [readyForSubmission, submitted, accepted, partiallyFilled]
      transition event { state with stage := expired }

/-- `apply`. -/
def apply (state : Option LiveOrderLifecycleRecord) (event : DomainEvent) :
    Except PyError LiveOrderLifecycleRecord := do
  let eventType ← orRaise (ofValue event.eventType) (.value "unsupported live order event type")
  match state with
  | none => do
      raiseIf (eventType ≠ .previewed)
        (.value "first live order event must be LIVE_ORDER_PREVIEWED")
      applyFirst event
  | some state => do
      validateIdentityAndSequence state event
      validateSymbolAndPreviewHash state event.payload
      applyNext state event eventType

/-- The loop of `replay`. -/
def replayFrom (state : Option LiveOrderLifecycleRecord) :
    List DomainEvent → Except PyError (Option LiveOrderLifecycleRecord)
  | [] => .ok state
  | event :: rest => do
      let next ← apply state event
      replayFrom (some next) rest

/-- `replay`. -/
def replay (events : List DomainEvent) : Except PyError LiveOrderLifecycleRecord := do
  raiseIf (events = []) (.value "live order replay requires events")
  let state ← replayFrom none events
  orRaise state (.runtime "live order replay did not produce state")

/-! ### Accepted events -/

/-- The stages from which an event is let through: the argument of
`_require_stage`, or every stage where there is no such call. -/
def guardStages : LiveOrderLifecycleEvent → List LiveOrderLifecycleStage
  | .previewed => []
  | .promotionRequested =>
      [draft, previewed, promotionRequired, humanApprovalRequired, readyForSubmission,
        submissionAttemptFailedReviewRequired, submitted, accepted, partiallyFilled, filled,
        cancelRequested, cancelled, rejected, expired]
  | .humanApprovalRequested => [promotionRequired]
  | .humanApproved => [humanApprovalRequired]
  | .submitted => [readyForSubmission]
  | .submissionAttemptFailed => [readyForSubmission]
  | .accepted => [submitted]
  | .partiallyFilled => [accepted, partiallyFilled]
  | .filled => [accepted, partiallyFilled]
  | .cancelRequested => [submitted, accepted, partiallyFilled]
  | .cancelled => [submitted, accepted, partiallyFilled, cancelRequested]
  | .rejected => [readyForSubmission, submitted, accepted, partiallyFilled]
  | .expired => [readyForSubmission, submitted, accepted, partiallyFilled]

/-- The stage an event leads to. -/
def targetStage : LiveOrderLifecycleEvent → LiveOrderLifecycleStage
  | .previewed => previewed
  | .promotionRequested => promotionRequired
  | .humanApprovalRequested => humanApprovalRequired
  | .humanApproved => readyForSubmission
  | .submitted => submitted
  | .submissionAttemptFailed => submissionAttemptFailedReviewRequired
  | .accepted => accepted
  | .partiallyFilled => partiallyFilled
  | .filled => filled
  | .cancelRequested => cancelRequested
  | .cancelled => cancelled
  | .rejected => rejected
  | .expired => expired

omit [UnicodeData] in
lemma mem_guardStages_promotionRequested (stage : LiveOrderLifecycleStage) :
    stage ∈ guardStages .promotionRequested := by
  cases stage <;> decide

/-- A record that passes its constructor keeps its stage and its fills, and has
fills only in the stages that allow them. -/
lemma check_ok {r r' : LiveOrderLifecycleRecord} (h : r.check = .ok r') :
    r'.stage = r.stage ∧ r'.filledQuantity = r.filledQuantity ∧
      (r'.filledQuantity ≠ 0 → r'.stage ∈ withFills) := by
  simp only [LiveOrderLifecycleRecord.check, LiveOrderLifecycleRecord.validateFillGeometry,
    bind_eq_ok, raiseIf_eq_ok, pure_eq_ok] at h
  obtain ⟨-, -, -, -, -, -, -, -, -, -, -, -, -, -, -, hfill, rfl⟩ := h
  exact ⟨rfl, rfl, fun hne => by_contra fun hnot => hfill ⟨hne, hnot⟩⟩

lemma transition_ok {event : DomainEvent} {r r' : LiveOrderLifecycleRecord}
    (h : transition event r = .ok r') :
    r'.stage = r.stage ∧ r'.filledQuantity = r.filledQuantity ∧
      (r'.filledQuantity ≠ 0 → r'.stage ∈ withFills) := by
  have hcheck := check_ok (r := { r with lastSequence := event.sequence }) h
  exact hcheck

lemma applyFill_ok {state r : LiveOrderLifecycleRecord} {event : DomainEvent} {isPartial : Bool}
    (h : applyFill state event isPartial = .ok r) :
    r.stage = if isPartial then partiallyFilled else filled := by
  simp only [applyFill, bind_eq_ok] at h
  obtain ⟨_, -, _, -, _, -, _, -, _, -, _, -, _, -, _, -, _, -, _, -, h⟩ := h
  exact (transition_ok h).1

/-- **Inversion of an accepted event**: the stage before it is one of its guard
stages and the stage after it is its target; a promotion request moreover keeps
the fills, of which there are none. -/
theorem applyNext_ok {state r : LiveOrderLifecycleRecord} {event : DomainEvent}
    {k : LiveOrderLifecycleEvent} (h : applyNext state event k = .ok r) :
    state.stage ∈ guardStages k ∧ r.stage = targetStage k ∧
      (k = .promotionRequested → state.filledQuantity = 0) := by
  cases k with
  | previewed => simp [applyNext] at h
  | promotionRequested =>
      obtain ⟨hs, hq, hfill⟩ := transition_ok h
      refine ⟨mem_guardStages_promotionRequested _, hs, fun _ => ?_⟩
      by_contra hne
      have hmem : promotionRequired ∈ withFills := by
        rw [hq, hs] at hfill
        exact hfill hne
      exact absurd hmem (by decide)
  | humanApproved =>
      simp only [applyNext, requireStage, bind_eq_ok, raiseIf_eq_ok, not_not] at h
      obtain ⟨-, hg, _, -, _, -, _, -, h⟩ := h
      exact ⟨hg, (transition_ok h).1, by simp⟩
  | submissionAttemptFailed =>
      simp only [applyNext, requireStage, bind_eq_ok, raiseIf_eq_ok, not_not] at h
      obtain ⟨-, hg, _, -, h⟩ := h
      exact ⟨hg, (transition_ok h).1, by simp⟩
  | partiallyFilled =>
      simp only [applyNext, requireStage, bind_eq_ok, raiseIf_eq_ok, not_not] at h
      obtain ⟨-, hg, h⟩ := h
      exact ⟨hg, applyFill_ok h, by simp⟩
  | filled =>
      simp only [applyNext, requireStage, bind_eq_ok, raiseIf_eq_ok, not_not] at h
      obtain ⟨-, hg, h⟩ := h
      exact ⟨hg, applyFill_ok h, by simp⟩
  | _ =>
      simp only [applyNext, requireStage, bind_eq_ok, raiseIf_eq_ok, not_not] at h
      obtain ⟨-, hg, h⟩ := h
      exact ⟨hg, (transition_ok h).1, by simp⟩

lemma apply_some_ok {state r : LiveOrderLifecycleRecord} {event : DomainEvent}
    (h : apply (some state) event = .ok r) :
    ∃ k, ofValue event.eventType = some k ∧ applyNext state event k = .ok r := by
  simp only [apply, bind_eq_ok, orRaise_eq_ok] at h
  obtain ⟨k, hk, -, -, -, -, h⟩ := h
  exact ⟨k, hk, h⟩

lemma apply_none_ok {r : LiveOrderLifecycleRecord} {event : DomainEvent}
    (h : apply none event = .ok r) :
    ofValue event.eventType = some .previewed ∧ r.stage = previewed := by
  simp only [apply, applyFirst, bind_eq_ok, orRaise_eq_ok, raiseIf_eq_ok, not_not] at h
  obtain ⟨k, hk, -, rfl, _, -, _, -, _, -, h⟩ := h
  exact ⟨hk, (check_ok h).1⟩

/-! ### Records that pass the constructor -/

/-- The checks of the constructor that do not depend on the stage. -/
structure Sound (r : LiveOrderLifecycleRecord) : Prop where
  orderId : isBlank r.orderId = false
  symbol : isBlank r.symbol = false
  previewHash : isBlank r.previewHash = false
  symbol_normal : upper (strip r.symbol) = r.symbol
  requestedQuantity : r.requestedQuantity.any (· ≤ 0) = false
  filledQuantity : 0 ≤ r.filledQuantity
  averageFillPrice : 0 ≤ r.averageFillPrice
  authorization : r.authorizationId.isNone = r.authorizationEnvelopeSha256.isNone
  executionAllowed : r.executionAllowed = false
  liveEligibilityStatus : r.liveEligibilityStatus = "LIVE_ORDER_BLOCKED"
  promotionStatus :
    r.promotionStatus ∈ [.researchOnly, .stagedCandidate, .paperApproved, .liveEligible]

/-- A sound record is accepted, unchanged, when its stage has its evidence. -/
lemma check_of_sound {r : LiveOrderLifecycleRecord} (h : Sound r) :
    r.check = (do r.validateStageEvidence; r.validateFillGeometry; pure r) := by
  have hself : { r with symbol := upper (strip r.symbol) } = r := by rw [h.symbol_normal]
  rw [LiveOrderLifecycleRecord.check]
  simp only [hself]
  simp [raiseIf, h.orderId, h.symbol, h.previewHash, h.requestedQuantity,
    not_lt.mpr h.filledQuantity, not_lt.mpr h.averageFillPrice, h.authorization,
    h.executionAllowed, h.liveEligibilityStatus, h.promotionStatus, bind, Except.bind]

/-- The constructor normalizes the symbol first. -/
lemma check_normalizes {r : LiveOrderLifecycleRecord} (hb : isBlank r.symbol = false)
    (hb' : isBlank (upper (strip r.symbol)) = false)
    (hn : upper (strip (upper (strip r.symbol))) = upper (strip r.symbol)) :
    r.check = { r with symbol := upper (strip r.symbol) }.check := by
  simp only [LiveOrderLifecycleRecord.check, hb, hb', hn]

lemma transition_of_sound {r : LiveOrderLifecycleRecord} {event : DomainEvent} (h : Sound r) :
    transition event r = (do
      r.validateStageEvidence
      r.validateFillGeometry
      pure { r with lastSequence := event.sequence }) := by
  have hs : Sound { r with lastSequence := event.sequence } :=
    ⟨h.orderId, h.symbol, h.previewHash, h.symbol_normal, h.requestedQuantity, h.filledQuantity,
      h.averageFillPrice, h.authorization, h.executionAllowed, h.liveEligibilityStatus,
      h.promotionStatus⟩
  rw [transition, check_of_sound hs]
  rfl

/-- The event continues the record and its payload agrees with it. -/
structure Continues (r : LiveOrderLifecycleRecord) (event : DomainEvent)
    (k : LiveOrderLifecycleEvent) : Prop where
  aggregateId : event.aggregateId = r.orderId
  sequence : event.sequence = r.lastSequence + 1
  eventType : event.eventType = k.value
  symbol : ∀ s ∈ event.payload.get? "symbol", upper (strip s) = r.symbol
  previewHash : ∀ s ∈ event.payload.get? "preview_hash", s = r.previewHash
  authorizationId : ∀ s ∈ event.payload.get? "authorization_id",
    ∀ a ∈ r.authorizationId, s = a
  envelopeSha256 : ∀ s ∈ event.payload.get? "authorization_envelope_sha256",
    ∀ a ∈ r.authorizationEnvelopeSha256, s = a

lemma apply_of_continues {r : LiveOrderLifecycleRecord} {event : DomainEvent}
    {k : LiveOrderLifecycleEvent} (h : Continues r event k) :
    apply (some r) event = applyNext r event k := by
  have hany : ∀ {o : Option String} {p : String → Bool}, (∀ s ∈ o, p s = false) →
      o.any p = false := by
    intro o p ho
    cases o with
    | none => rfl
    | some s => exact ho s rfl
  have h1 : (event.payload.get? "symbol").any (fun s => upper (strip s) ≠ r.symbol) = false :=
    hany fun s hs => by simp [h.symbol s hs]
  have h2 : (event.payload.get? "preview_hash").any (· ≠ r.previewHash) = false :=
    hany fun s hs => by simp [h.previewHash s hs]
  have h3 : (event.payload.get? "authorization_id").any
      (fun s => r.authorizationId.any (s ≠ ·)) = false :=
    hany fun s hs => hany fun a ha => by simp [h.authorizationId s hs a ha]
  have h4 : (event.payload.get? "authorization_envelope_sha256").any
      (fun s => r.authorizationEnvelopeSha256.any (s ≠ ·)) = false :=
    hany fun s hs => hany fun a ha => by simp [h.envelopeSha256 s hs a ha]
  simp only [apply, h.eventType, LiveOrderLifecycleEvent.ofValue_value, orRaise,
    validateIdentityAndSequence, validateSymbolAndPreviewHash, raiseIf, h.aggregateId, h.sequence,
    h1, h2, h3, h4]
  simp [bind, Except.bind]

/-! ### Replays -/

@[simp] lemma replayFrom_cons_ok {state s : Option LiveOrderLifecycleRecord} {event : DomainEvent}
    {rest : List DomainEvent} :
    replayFrom state (event :: rest) = .ok s ↔
      ∃ r, apply state event = .ok r ∧ replayFrom (some r) rest = .ok s := by
  rw [replayFrom, bind_eq_ok]

lemma replayFrom_append_ok {state s : Option LiveOrderLifecycleRecord}
    {l l' : List DomainEvent} :
    replayFrom state (l ++ l') = .ok s ↔
      ∃ m, replayFrom state l = .ok m ∧ replayFrom m l' = .ok s := by
  induction l generalizing state with
  | nil => simp [replayFrom]
  | cons event l ih =>
      simp only [List.cons_append, replayFrom_cons_ok, ih]
      constructor
      · rintro ⟨r, hr, m, hm, hs⟩
        exact ⟨m, ⟨r, hr, hm⟩, hs⟩
      · rintro ⟨m, ⟨r, hr, hm⟩, hs⟩
        exact ⟨r, hr, m, hm, hs⟩

lemma replay_ok_iff {events : List DomainEvent} {r : LiveOrderLifecycleRecord} :
    replay events = .ok r ↔ events ≠ [] ∧ replayFrom none events = .ok (some r) := by
  simp only [replay, bind_eq_ok, raiseIf_eq_ok, orRaise_eq_ok]
  constructor
  · rintro ⟨-, hne, s, hs, rfl⟩
    exact ⟨hne, hs⟩
  · rintro ⟨hne, hs⟩
    exact ⟨(), hne, some r, hs, rfl⟩

end LiveOrderLifecycleStateMachine

/-! ### Chains of events -/

/-- The loop of `_build_events`: from a sequence number and the hash of the
event before it. -/
def buildEventsFrom [CanonicalDigest EventContent] (aggregateId : String) (observedAt : Datetime)
    (sequence : ℕ) (previousHash : String) :
    List (LiveOrderLifecycleEvent × Payload) → Except PyError (List DomainEvent)
  | [] => .ok []
  | (eventType, payload) :: rest => do
      let event ← DomainEvent.create
        (aggregateId ++ ":" ++ eventType.value ++ ":" ++ toString sequence) aggregateId
        eventType.value sequence observedAt payload previousHash
      let events ← buildEventsFrom aggregateId observedAt (sequence + 1) event.eventHash rest
      pure (event :: events)

/-- `_build_events`. -/
def buildEvents [CanonicalDigest EventContent] (aggregateId : String)
    (payloads : List (LiveOrderLifecycleEvent × Payload)) (observedAt : Datetime) :
    Except PyError (List DomainEvent) :=
  buildEventsFrom aggregateId observedAt 1 "GENESIS" payloads

end Ai4Binance

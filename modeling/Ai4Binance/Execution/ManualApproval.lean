/-
The approval queue (`execution/manual_approval.py`).

The queue file is a list of lines; a line is the record `_record` builds from
it, or the exception it raises.  An authorization is resolved to the envelope of
the latest record of its approval, when that record is unique and approved.

* `ManualActionProposal`, `ApprovalRequest`, `ApprovalQueueRecord`: the records,
  with the checks of their constructors;
* `records`, `resolveExecutionAuthorization`: reading the queue;
* `resolve_approved`: what a resolved envelope rests on.
-/
import Ai4Binance.Execution.Authorization

open Text Check

namespace Ai4Binance

/-- `ManualActionType`. -/
inductive ManualActionType where
  | placeSpotOrder
  | placeFuturesOrder
  | cancelOrder
  | reduceSpotHolding
  | exitSpotHolding
  | closeFuturesPosition
  | reduceFuturesPosition
  | transferSpotToFutures
  | transferFuturesToSpot
  | convertAsset
  deriving DecidableEq, Repr

/-- `ApprovalStatus`. -/
inductive ApprovalStatus where
  | pending
  | approved
  | rejected
  | expired
  | cancelled
  deriving DecidableEq, Repr

/-- `ManualActionProposal`. -/
structure ManualActionProposal where
  actionId : String
  actionType : ManualActionType
  assetOrSymbol : String
  suggestedNotionalUsdt : Decimal
  reason : String
  expectedEffect : String
  risk : String
  approvalStatus : ApprovalStatus := .pending
  blockers : List String := ["MANUAL_APPROVAL_REQUIRED"]
  identity : ∀ t ∈ [actionId, assetOrSymbol, reason, expectedEffect, risk], isBlank t = false
  notional_nonneg : 0 ≤ suggestedNotionalUsdt.toRat
  blockers_not_blank : ∀ b ∈ blockers, isBlank b = false
  deriving DecidableEq

/-- `ApprovalRequest`. -/
structure ApprovalRequest where
  approvalId : String
  actionId : String
  actionType : ManualActionType
  approvalStatus : ApprovalStatus := .pending
  identity : isBlank approvalId = false ∧ isBlank actionId = false
  deriving DecidableEq

variable [UnicodeData]

/-- `ApprovalQueueRecord`.  The creation time is aware, hence an instant. -/
structure ApprovalQueueRecord where
  action : ManualActionProposal
  approval : ApprovalRequest
  createdAt : ℤ
  executionAuthorization : Option ExecutionAuthorizationEnvelope := none
  sameAction : action.actionId = approval.actionId ∧ action.actionType = approval.actionType
  bound : ∀ e ∈ executionAuthorization, action.actionType = .placeSpotOrder ∧
    e.approvalId = approval.approvalId ∧ e.symbol = upper (strip action.assetOrSymbol)

/-- The exceptions of reading a record: those `place` catches (`OSError`,
`TypeError`, `ValueError`) and the others (a missing key, a malformed number). -/
inductive QueueError where
  | caught
  | uncaught
  deriving DecidableEq, Repr

/-- A line of the queue file, read. -/
abbrev QueueLine := Except QueueError ApprovalQueueRecord

/-- `records`. -/
def records (lines : List QueueLine) : Except QueueError (List ApprovalQueueRecord) :=
  lines.mapM id

/-- The last check of `resolve_execution_authorization`: the record is an
approved Spot placement, bound to the authorization. -/
def ApprovalQueueRecord.Approves (record : ApprovalQueueRecord) (authorizationId : String)
    (e : ExecutionAuthorizationEnvelope) : Prop :=
  record.action.approvalStatus = .approved ∧ record.approval.approvalStatus = .approved ∧
    e.authorizationId = authorizationId ∧ record.action.actionType = .placeSpotOrder ∧
    record.approval.actionType = .placeSpotOrder ∧ e.approvalId = record.approval.approvalId ∧
    e.symbol = upper (strip record.action.assetOrSymbol)

instance (record : ApprovalQueueRecord) (authorizationId : String)
    (e : ExecutionAuthorizationEnvelope) : Decidable (record.Approves authorizationId e) :=
  inferInstanceAs (Decidable (_ ∧ _))

/-- The latest record, when there is only one. -/
def latestRecord (matching : List ApprovalQueueRecord) : Option ApprovalQueueRecord := do
  let latestAt ← (matching.map (·.createdAt)).max?
  match matching.filter (·.createdAt = latestAt) with
  | [record] => some record
  | _ => none

/-- `resolve_execution_authorization`, on the records of the queue. -/
def resolveRecords (records : List ApprovalQueueRecord) (authorizationId : String) :
    Option ExecutionAuthorizationEnvelope := do
  let bound := (records.filterMap (·.executionAuthorization)).filter
    (·.authorizationId = authorizationId)
  match (bound.map (·.approvalId)).dedup with
  | [approvalId] => do
    let record ← latestRecord (records.filter (·.approval.approvalId = approvalId))
    let e ← record.executionAuthorization
    if record.Approves authorizationId e then some e else none
  | _ => none

/-- `resolve_execution_authorization`. -/
def resolveExecutionAuthorization (lines : List QueueLine) (authorizationId : String) :
    Except QueueError (Option ExecutionAuthorizationEnvelope) :=
  if strip authorizationId = "" then .ok none
  else (records lines).map fun rs => resolveRecords rs (strip authorizationId)

/-! ### What a resolution rests on -/

lemma latestRecord_mem {matching : List ApprovalQueueRecord} {record : ApprovalQueueRecord}
    (h : latestRecord matching = some record) : record ∈ matching := by
  simp only [latestRecord, Option.bind_eq_bind, Option.bind_eq_some_iff] at h
  obtain ⟨latestAt, -, h⟩ := h
  split at h
  · rename_i r hr
    obtain rfl := Option.some.inj h
    have hmem : r ∈ matching.filter (·.createdAt = latestAt) := by rw [hr]; simp
    exact (List.mem_filter.mp hmem).1
  · cases h

/-- A resolved envelope is that of an approved record of the queue. -/
lemma resolveRecords_eq_some {rs : List ApprovalQueueRecord} {authorizationId : String}
    {e : ExecutionAuthorizationEnvelope} (h : resolveRecords rs authorizationId = some e) :
    ∃ record ∈ rs, record.executionAuthorization = some e ∧ record.Approves authorizationId e := by
  rw [resolveRecords] at h
  split at h
  · simp only [Option.bind_eq_bind, Option.bind_eq_some_iff] at h
    obtain ⟨record, hlatest, e', he', h⟩ := h
    split_ifs at h with happ
    obtain rfl := Option.some.inj h
    exact ⟨record, (List.mem_filter.mp (latestRecord_mem hlatest)).1, he', happ⟩
  · cases h

lemma mem_of_records {lines : List QueueLine} {rs : List ApprovalQueueRecord}
    (h : records lines = .ok rs) {record : ApprovalQueueRecord} (hr : record ∈ rs) :
    .ok record ∈ lines := by
  induction lines generalizing rs with
  | nil =>
    obtain rfl : [] = rs := by simpa [records] using h
    simp at hr
  | cons line lines ih =>
    simp only [records, List.mapM_cons, id, bind_eq_ok, pure_eq_ok] at h
    obtain ⟨r, hline, rs', hrs, rfl⟩ := h
    rcases List.mem_cons.mp hr with rfl | hmem
    · simp [hline]
    · exact List.mem_cons_of_mem _ (ih hrs hmem)

lemma resolve_approved {lines : List QueueLine} {authorizationId : String}
    {e : ExecutionAuthorizationEnvelope}
    (h : resolveExecutionAuthorization lines authorizationId = .ok (some e)) :
    ∃ record, .ok record ∈ lines ∧ record.executionAuthorization = some e ∧
      record.Approves (strip authorizationId) e := by
  rw [resolveExecutionAuthorization] at h
  split_ifs at h with hblank
  · simp at h
  · obtain ⟨rs, hrs, hres⟩ := map_eq_ok.mp h
    obtain ⟨record, hmem, he, happ⟩ := resolveRecords_eq_some hres
    exact ⟨record, mem_of_records hrs hmem, he, happ⟩

end Ai4Binance

/-
Enqueueing approvals (`LocalApprovalQueue.enqueue` of `execution/manual_approval.py`).

The queue file has one line per record.  `enqueue` looks the action up, appends a
record if there is none, and looks it up again: what it finds must be equal to what it
wrote.  The look-up strips the action id it is given and the file keeps the id as it
was proposed, so an id with white space around it is written, not found, and written
again by every retry.

* `RecordPayload`, `toPrimitive`, `record`: a line, written and read;
* `record_toPrimitive`: what is read is what was written, with the time in its offset;
* `enqueue`: the call, on the lines of the file;
* `EnqueueCall.Clean`: the calls that keep the contract;
* `clean_enqueue_cases`: what a clean call does;
* `enqueue_is_idempotent`: one record per action over every sequence of clean calls.
-/
import Ai4Binance.Execution.ManualApproval
import Ai4Binance.Lib.Datetime
import Ai4Binance.Lib.Decimal

open Text Check

namespace Ai4Binance

/-! ### The records of the file -/

namespace ManualActionType

/-- The text of an action type. -/
def value : ManualActionType → String
  | placeSpotOrder => "PLACE_SPOT_ORDER"
  | placeFuturesOrder => "PLACE_FUTURES_ORDER"
  | cancelOrder => "CANCEL_ORDER"
  | reduceSpotHolding => "REDUCE_SPOT_HOLDING"
  | exitSpotHolding => "EXIT_SPOT_HOLDING"
  | closeFuturesPosition => "CLOSE_FUTURES_POSITION"
  | reduceFuturesPosition => "REDUCE_FUTURES_POSITION"
  | transferSpotToFutures => "TRANSFER_SPOT_TO_FUTURES"
  | transferFuturesToSpot => "TRANSFER_FUTURES_TO_SPOT"
  | convertAsset => "CONVERT_ASSET"

/-- `ManualActionType(value)`. -/
def ofValue (s : String) : Option ManualActionType :=
  [placeSpotOrder, placeFuturesOrder, cancelOrder, reduceSpotHolding, exitSpotHolding,
    closeFuturesPosition, reduceFuturesPosition, transferSpotToFutures, transferFuturesToSpot,
    convertAsset].find? (·.value = s)

lemma ofValue_value (k : ManualActionType) : ofValue k.value = some k := by
  cases k <;> decide

end ManualActionType

namespace ApprovalStatus

/-- The text of a status. -/
def value : ApprovalStatus → String
  | pending => "PENDING"
  | approved => "APPROVED"
  | rejected => "REJECTED"
  | expired => "EXPIRED"
  | cancelled => "CANCELLED"

/-- `ApprovalStatus(value)`. -/
def ofValue (s : String) : Option ApprovalStatus :=
  [pending, approved, rejected, expired, cancelled].find? (·.value = s)

lemma ofValue_value (k : ApprovalStatus) : ofValue k.value = some k := by
  cases k <;> decide

end ApprovalStatus

/-- A record as `enqueue` builds it: without an authorization, and with its time in the
zone it was given in. -/
structure QueueRecord where
  action : ManualActionProposal
  approval : ApprovalRequest
  createdAt : ZonedDatetime
  sameAction : action.actionId = approval.actionId ∧ action.actionType = approval.actionType
  deriving DecidableEq

/-- `==` on proposals; amounts are equal by value. -/
def ManualActionProposal.eq (a b : ManualActionProposal) : Bool :=
  a.actionId = b.actionId && a.actionType = b.actionType && a.assetOrSymbol = b.assetOrSymbol &&
    a.suggestedNotionalUsdt.toRat = b.suggestedNotionalUsdt.toRat && a.reason = b.reason &&
    a.expectedEffect = b.expectedEffect && a.risk = b.risk &&
    a.approvalStatus = b.approvalStatus && a.blockers = b.blockers

/-- `==` on records. -/
def QueueRecord.eq [TzData] (r s : QueueRecord) : Bool :=
  r.action.eq s.action && r.approval = s.approval && r.createdAt.eq s.createdAt

/-- The JSON object of a proposal. -/
structure ActionPayload where
  actionId : String
  actionType : String
  assetOrSymbol : String
  suggestedNotionalUsdt : String
  reason : String
  expectedEffect : String
  risk : String
  approvalStatus : String
  blockers : List String
  deriving DecidableEq

/-- The JSON object of a request. -/
structure ApprovalPayload where
  approvalId : String
  actionId : String
  actionType : String
  approvalStatus : String
  deriving DecidableEq

/-- A line of the file: the JSON object of a record.  The text of the time is the
wall-clock time and the offset. -/
structure RecordPayload where
  action : ActionPayload
  approval : ApprovalPayload
  createdWall : ℤ
  createdOffset : ℤ
  deriving DecidableEq

/-- `to_primitive(record)`. -/
def QueueRecord.toPrimitive [TzData] (r : QueueRecord) : RecordPayload where
  action :=
    { actionId := r.action.actionId
      actionType := r.action.actionType.value
      assetOrSymbol := r.action.assetOrSymbol
      suggestedNotionalUsdt := r.action.suggestedNotionalUsdt.str
      reason := r.action.reason
      expectedEffect := r.action.expectedEffect
      risk := r.action.risk
      approvalStatus := r.action.approvalStatus.value
      blockers := r.action.blockers }
  approval :=
    { approvalId := r.approval.approvalId
      actionId := r.approval.actionId
      actionType := r.approval.actionType.value
      approvalStatus := r.approval.approvalStatus.value }
  createdWall := r.createdAt.wall
  createdOffset := r.createdAt.utcoffset

/-- `ManualActionProposal(…)`, with the checks of `__post_init__`. -/
def createProposal (actionId : String) (actionType : ManualActionType) (assetOrSymbol : String)
    (notional : DecimalNumber) (reason expectedEffect risk : String) (status : ApprovalStatus)
    (blockers : List String) : Except PyError ManualActionProposal :=
  if hidentity : ∀ t ∈ [actionId, assetOrSymbol, reason, expectedEffect, risk],
      isBlank t = false then
    match notional with
    | .finite d =>
        if hnotional : 0 ≤ d.toRat then
          if hblockers : ∀ b ∈ blockers, isBlank b = false then
            .ok ⟨actionId, actionType, assetOrSymbol, d, reason, expectedEffect, risk, status,
              blockers, hidentity, hnotional, hblockers⟩
          else .error (.value "manual action blockers cannot be empty")
        else .error (.value "manual action notional must be non-negative")
    | _ => .error (.value "manual action notional must be non-negative")
  else .error (.value "manual action proposal identity is required")

/-- `ApprovalRequest(…)`. -/
def createRequest (approvalId actionId : String) (actionType : ManualActionType)
    (status : ApprovalStatus) : Except PyError ApprovalRequest :=
  if h : isBlank approvalId = false ∧ isBlank actionId = false then
    .ok ⟨approvalId, actionId, actionType, status, h⟩
  else .error (.value "approval request identity is required")

/-- `ApprovalQueueRecord(…)`. -/
def createRecord (action : ManualActionProposal) (approval : ApprovalRequest)
    (createdAt : ZonedDatetime) : Except PyError QueueRecord :=
  if hid : action.actionId = approval.actionId then
    if htype : action.actionType = approval.actionType then
      .ok ⟨action, approval, createdAt, hid, htype⟩
    else .error (.value "approval record action types must match")
  else .error (.value "approval record action IDs must match")

/-- `ManualActionType(text)`. -/
def readActionType (text : String) : Except PyError ManualActionType :=
  orRaise (ManualActionType.ofValue text)
    (.value ("'" ++ text ++ "' is not a valid ManualActionType"))

/-- `ApprovalStatus(text)`. -/
def readStatus (text : String) : Except PyError ApprovalStatus :=
  orRaise (ApprovalStatus.ofValue text) (.value ("'" ++ text ++ "' is not a valid ApprovalStatus"))

namespace LocalApprovalQueue

/-- `_record`. -/
def record [UnicodeData] (p : RecordPayload) : Except PyError QueueRecord := do
  let actionType ← readActionType p.action.actionType
  let notional ← orRaise (Decimal.parse p.action.suggestedNotionalUsdt) .decimal
  let status ← readStatus p.action.approvalStatus
  let action ← createProposal p.action.actionId actionType p.action.assetOrSymbol notional
    p.action.reason p.action.expectedEffect p.action.risk status p.action.blockers
  let approvalType ← readActionType p.approval.actionType
  let approvalStatus ← readStatus p.approval.approvalStatus
  let approval ← createRequest p.approval.approvalId p.approval.actionId approvalType approvalStatus
  createRecord action approval { wall := p.createdWall, tz := .fixed p.createdOffset }

/-! ### The call -/

end LocalApprovalQueue

/-- The `created_at` argument. -/
inductive CreatedAt where
  | naive (wall : ℤ)
  | aware (time : ZonedDatetime)
  deriving DecidableEq

/-- The arguments of `enqueue`, and the time of the call. -/
structure EnqueueCall where
  action : ManualActionProposal
  approvalId : Option String := none
  createdAt : Option CreatedAt := none
  now : ℤ := 0

/-- `approval_id or f"approval-{action.action_id}"`. -/
def EnqueueCall.approval (c : EnqueueCall) : String :=
  match c.approvalId with
  | some id => if id = "" then "approval-" ++ c.action.actionId else id
  | none => "approval-" ++ c.action.actionId

/-- The record that the call appends. -/
def EnqueueCall.record (c : EnqueueCall) : Except PyError QueueRecord := do
  let approval ← createRequest c.approval c.action.actionId c.action.actionType .pending
  match c.createdAt with
  | some (.naive _) => throw (.value "approval queue timestamp must be timezone-aware")
  | some (.aware time) => createRecord c.action approval time
  | none => createRecord c.action approval { wall := c.now, tz := .fixed 0 }

namespace LocalApprovalQueue

variable [UnicodeData] [TzData]

/-- `records`. -/
def records (lines : List RecordPayload) : Except PyError (List QueueRecord) := lines.mapM record

/-- `by_action_id`. -/
def byActionId (lines : List RecordPayload) (actionId : String) :
    Except PyError (Option QueueRecord) :=
  (records lines).map (·.find? (·.action.actionId = strip actionId))

/-- The check after the write. -/
def verify (observed : Except PyError (Option QueueRecord)) (r : QueueRecord) :
    Except PyError QueueRecord :=
  match observed with
  | .error e => .error e
  | .ok none => .error (.value "APPROVAL_QUEUE_DESTINATION_VERIFY_FAILED")
  | .ok (some s) =>
      if s.eq r then .ok r else .error (.value "APPROVAL_QUEUE_DESTINATION_VERIFY_FAILED")

/-- `enqueue`, once the action is known not to be in the file. -/
def appendNew (lines : List RecordPayload) (actionId : String) :
    Except PyError QueueRecord → Except PyError QueueRecord × List RecordPayload
  | .error e => (.error e, lines)
  | .ok r =>
      (verify (byActionId (lines ++ [r.toPrimitive]) actionId) r, lines ++ [r.toPrimitive])

/-- `enqueue`: the result, and the lines of the file after the call. -/
def enqueue (lines : List RecordPayload) (c : EnqueueCall) :
    Except PyError QueueRecord × List RecordPayload :=
  match byActionId lines c.action.actionId with
  | .error e => (.error e, lines)
  | .ok (some existing) => (.ok existing, lines)
  | .ok none => appendNew lines c.action.actionId c.record

/-- The file after a sequence of calls, from an empty one. -/
def queueAfter (calls : List EnqueueCall) : List RecordPayload :=
  calls.foldl (fun lines c => (enqueue lines c).2) []

/-- The result of a call after others. -/
def resultAfter (calls : List EnqueueCall) (c : EnqueueCall) : Except PyError QueueRecord :=
  (enqueue (queueAfter calls) c).1

/-! ### Lines read again -/

omit [UnicodeData] [TzData] in
lemma createProposal_self (a : ManualActionProposal) :
    createProposal a.actionId a.actionType a.assetOrSymbol (.finite a.suggestedNotionalUsdt)
      a.reason a.expectedEffect a.risk a.approvalStatus a.blockers = .ok a := by
  rw [createProposal, dif_pos a.identity]
  exact (dif_pos a.notional_nonneg).trans (dif_pos a.blockers_not_blank)

/-- **A line is read as the record it was written from**, with its time in a fixed
offset. -/
theorem record_toPrimitive (r : QueueRecord) :
    record r.toPrimitive = .ok { r with createdAt := r.createdAt.reread } := by
  have hdecimal : Decimal.parse r.action.suggestedNotionalUsdt.str =
      some (.finite r.action.suggestedNotionalUsdt) := Decimal.parse_str _
  simp only [record, QueueRecord.toPrimitive, readActionType, readStatus,
    ManualActionType.ofValue_value, ApprovalStatus.ofValue_value, hdecimal, orRaise, ok_bind,
    createProposal_self]
  rw [createRequest, dif_pos r.approval.identity, ok_bind, createRecord, dif_pos r.sameAction.1,
    dif_pos r.sameAction.2]
  rfl

omit [UnicodeData] in
lemma eq_reread (r : QueueRecord) :
    QueueRecord.eq { r with createdAt := r.createdAt.reread } r = !r.createdAt.foldDependent := by
  simp [QueueRecord.eq, ManualActionProposal.eq, ZonedDatetime.eq_reread]

end LocalApprovalQueue

/-! ### Clean calls -/

/-- A call with an action id without white space around it, at a time whose offset does
not depend on `fold`. -/
def EnqueueCall.Clean [TzData] (c : EnqueueCall) : Prop :=
  strip c.action.actionId = c.action.actionId ∧
    ∀ time, c.createdAt = some (.aware time) → time.foldDependent = false

namespace LocalApprovalQueue

variable [UnicodeData] [TzData]

omit [UnicodeData] [TzData] in
/-- The record of a call is that of its action, at its time. -/
lemma record_ok {c : EnqueueCall} {r : QueueRecord} (h : c.record = .ok r) :
    r.action = c.action ∧ (c.createdAt = some (.aware r.createdAt) ∨
      r.createdAt = { wall := c.now, tz := .fixed 0 }) := by
  simp only [EnqueueCall.record, bind_eq_ok] at h
  obtain ⟨approval, -, h⟩ := h
  have hcreate : ∀ {time}, createRecord c.action approval time = .ok r →
      r.action = c.action ∧ r.createdAt = time := by
    intro time htime
    rw [createRecord] at htime
    split_ifs at htime
    obtain rfl := Except.ok.inj htime
    exact ⟨rfl, rfl⟩
  split at h
  · exact absurd h throw_ne_ok.mp
  · rename_i time htime
    obtain ⟨haction, rfl⟩ := hcreate h
    exact ⟨haction, .inl htime⟩
  · obtain ⟨haction, htime⟩ := hcreate h
    exact ⟨haction, .inr htime⟩

omit [UnicodeData] in
lemma not_foldDependent_of_clean {c : EnqueueCall} (hc : c.Clean) {r : QueueRecord}
    (h : c.record = .ok r) : r.createdAt.foldDependent = false := by
  obtain ⟨-, htime | htime⟩ := record_ok h
  · exact hc.2 _ htime
  · simp [htime, ZonedDatetime.foldDependent, ZonedDatetime.utcoffset]

omit [TzData] in
lemma byActionId_eq {lines : List RecordPayload} {rs : List QueueRecord}
    (h : records lines = .ok rs) (actionId : String) :
    byActionId lines actionId = .ok (rs.find? (·.action.actionId = strip actionId)) := by
  rw [byActionId, h]
  rfl

lemma records_append {lines : List RecordPayload} {rs : List QueueRecord}
    (h : records lines = .ok rs) (r : QueueRecord) :
    records (lines ++ [r.toPrimitive]) =
      .ok (rs ++ [{ r with createdAt := r.createdAt.reread }]) := by
  simp only [records, List.mapM_append, bind_eq_ok, pure_eq_ok]
  refine ⟨rs, h, [{ r with createdAt := r.createdAt.reread }], ?_, rfl⟩
  rw [List.mapM_cons, record_toPrimitive]
  rfl

/-- **A clean call** finds the record of its action, or refuses its arguments and leaves
the file alone, or appends a record and finds it. -/
theorem clean_enqueue_cases {lines : List RecordPayload} {rs : List QueueRecord} {c : EnqueueCall}
    (hrs : records lines = .ok rs) (hc : c.Clean) :
    (∃ r, rs.find? (·.action.actionId = c.action.actionId) = some r ∧
      enqueue lines c = (.ok r, lines)) ∨
    rs.find? (·.action.actionId = c.action.actionId) = none ∧
      ((∃ e, enqueue lines c = (.error e, lines)) ∨
        ∃ r s : QueueRecord, r.action.actionId = c.action.actionId ∧
          s = { r with createdAt := r.createdAt.reread } ∧ s.eq r ∧
          enqueue lines c = (.ok r, lines ++ [r.toPrimitive]) ∧
          records (lines ++ [r.toPrimitive]) = .ok (rs ++ [s])) := by
  rw [enqueue, byActionId_eq hrs, hc.1]
  cases hfind : rs.find? (·.action.actionId = c.action.actionId) with
  | some r => exact .inl ⟨r, rfl, rfl⟩
  | none =>
    refine .inr ⟨rfl, ?_⟩
    cases hr : c.record with
    | error e => exact .inl ⟨e, rfl⟩
    | ok r =>
      have hid : r.action.actionId = c.action.actionId := by rw [(record_ok hr).1]
      have heq := eq_reread r
      rw [not_foldDependent_of_clean hc hr, Bool.not_false] at heq
      have hwritten := records_append hrs r
      refine .inr ⟨r, _, hid, rfl, heq, ?_, hwritten⟩
      -- the look-up after the write skips the old records and finds the new one
      have hobserved : byActionId (lines ++ [r.toPrimitive]) c.action.actionId =
          .ok (some { r with createdAt := r.createdAt.reread }) := by
        rw [byActionId_eq hwritten, hc.1, List.find?_append, hfind]
        simp [hid]
      show (verify _ r, _) = _
      rw [hobserved, verify, if_pos heq]

/-! ### Sequences of calls -/

/-- The file reads as these records, one per action. -/
def Holds (lines : List RecordPayload) (rs : List QueueRecord) : Prop :=
  records lines = .ok rs ∧ (rs.map (·.action.actionId)).Nodup

/-- The record of an action. -/
def recordOf (rs : List QueueRecord) (actionId : String) : Option QueueRecord :=
  rs.find? (·.action.actionId = actionId)

omit [UnicodeData] in
lemma eq_self (r : QueueRecord) : r.eq r := by
  simp [QueueRecord.eq, ManualActionProposal.eq, ZonedDatetime.eq]

omit [UnicodeData] [TzData] in
lemma recordOf_eq_none {rs : List QueueRecord} {actionId : String} :
    recordOf rs actionId = none ↔ actionId ∉ rs.map (·.action.actionId) := by
  simp only [recordOf, List.find?_eq_none, decide_eq_true_eq, List.mem_map, not_exists, not_and]

/-- What a call leaves behind: the old records first, and the record of its action if it
returned one. -/
structure Step (lines lines' : List RecordPayload) (rs rs' : List QueueRecord) (actionId : String)
    (result : Except PyError QueueRecord) : Prop where
  holds : Holds lines' rs'
  isPrefix : rs <+: rs'
  returned : ∀ r, result = .ok r → ∃ s, recordOf rs' actionId = some s ∧ s.eq r
  known : ∀ s, recordOf rs actionId = some s → result = .ok s
  unchanged : ∀ e, result = .error e → lines' = lines
  mem_iff : ∀ id, id ∈ rs'.map (·.action.actionId) ↔
    id ∈ rs.map (·.action.actionId) ∨ id = actionId ∧ ∃ r, result = .ok r

/-- The step of a clean call. -/
lemma clean_step {lines : List RecordPayload} {rs : List QueueRecord} {c : EnqueueCall}
    (h : Holds lines rs) (hc : c.Clean) :
    ∃ rs', Step lines (enqueue lines c).2 rs rs' c.action.actionId (enqueue lines c).1 := by
  obtain ⟨r, hfind, henqueue⟩ | ⟨hfind, ⟨e, henqueue⟩ | ⟨r, s, hid, hs, heq, henqueue, hwritten⟩⟩ :=
    clean_enqueue_cases h.1 hc
  · rw [henqueue]
    refine ⟨rs, h, List.prefix_rfl, fun r' hr' => ?_, fun s hs => ?_, fun e he => (nomatch he),
      fun id => ⟨.inl, fun hmem => ?_⟩⟩
    · obtain rfl := Except.ok.inj hr'
      exact ⟨r, hfind, eq_self r⟩
    · rw [Option.some.inj (hfind.symm.trans hs)]
    · obtain hmem | ⟨rfl, -⟩ := hmem
      · exact hmem
      · have hr : r.action.actionId = c.action.actionId := by simpa using List.find?_some hfind
        exact List.mem_map.mpr ⟨r, List.mem_of_find?_eq_some hfind, hr⟩
  · rw [henqueue]
    refine ⟨rs, h, List.prefix_rfl, fun r hr => (nomatch hr), fun s hs => ?_, fun _ _ => rfl,
      fun id => ⟨.inl, fun hmem => hmem.resolve_right fun ⟨_, _, hbad⟩ => (nomatch hbad)⟩⟩
    exact nomatch hfind.symm.trans hs
  · have hsid : s.action.actionId = c.action.actionId := by rw [hs]; exact hid
    have hnew : c.action.actionId ∉ rs.map (·.action.actionId) := recordOf_eq_none.mp hfind
    rw [henqueue]
    refine ⟨rs ++ [s], ⟨hwritten, ?_⟩, List.prefix_append _ _, fun r' hr' => ?_, fun t ht => ?_,
      fun e he => (nomatch he), fun id => ?_⟩
    · rw [List.map_append, List.map_cons, List.map_nil, hsid, List.nodup_append]
      exact ⟨h.2, List.nodup_singleton _, fun a ha b hb hab =>
        hnew (List.mem_singleton.mp hb ▸ hab ▸ ha)⟩
    · obtain rfl := Except.ok.inj hr'
      refine ⟨s, ?_, heq⟩
      rw [recordOf, List.find?_append, hfind]
      simp [hsid]
    · exact nomatch hfind.symm.trans ht
    · simp [hsid]

lemma queueAfter_snoc (calls : List EnqueueCall) (c : EnqueueCall) :
    queueAfter (calls ++ [c]) = (enqueue (queueAfter calls) c).2 := by
  simp [queueAfter, List.foldl_append]

/-- The file of every sequence of clean calls holds one record per action, namely for
the actions of the calls that returned. -/
lemma exists_holds {calls : List EnqueueCall} (hclean : ∀ c ∈ calls, c.Clean) :
    ∃ rs, Holds (queueAfter calls) rs ∧ ∀ id, id ∈ rs.map (·.action.actionId) ↔
      ∃ pre c suf, calls = pre ++ c :: suf ∧ c.action.actionId = id ∧
        ∃ r, resultAfter pre c = .ok r := by
  induction calls using List.reverseRecOn with
  | nil =>
    refine ⟨[], ⟨rfl, List.nodup_nil⟩, fun id => ⟨fun hmem => (nomatch hmem), ?_⟩⟩
    rintro ⟨pre, c, suf, hcalls, -⟩
    simp at hcalls
  | append_singleton calls c ih =>
    obtain ⟨rs, hrs, hids⟩ := ih fun d hd => hclean d (List.mem_append_left _ hd)
    obtain ⟨rs', hstep⟩ := clean_step hrs (hclean c (by simp))
    refine ⟨rs', by rw [queueAfter_snoc]; exact hstep.holds, fun id => ?_⟩
    rw [hstep.mem_iff, hids]
    constructor
    · rintro (⟨pre, d, suf, rfl, hd⟩ | ⟨rfl, r, hr⟩)
      · exact ⟨pre, d, suf ++ [c], by simp, hd⟩
      · exact ⟨calls, c, [], rfl, rfl, r, hr⟩
    · rintro ⟨pre, d, suf, hcalls, hd, hr⟩
      rcases List.eq_nil_or_concat suf with rfl | ⟨suf, last, rfl⟩
      · obtain ⟨rfl, hcd⟩ := List.append_inj' hcalls rfl
        obtain rfl := (List.cons.inj hcd).1
        exact .inr ⟨hd.symm, hr⟩
      · rw [List.concat_eq_append, ← List.cons_append, ← List.append_assoc] at hcalls
        exact .inl ⟨pre, d, suf, (List.append_inj' hcalls rfl).1, hd, hr⟩

/-- The record of an action stays. -/
lemma recordOf_stays {calls later : List EnqueueCall} {rs : List QueueRecord} {id : String}
    {s : QueueRecord} (hclean : ∀ c ∈ later, c.Clean) (h : Holds (queueAfter calls) rs)
    (hs : recordOf rs id = some s) :
    ∃ rs', Holds (queueAfter (calls ++ later)) rs' ∧ recordOf rs' id = some s := by
  induction later using List.reverseRecOn with
  | nil => exact ⟨rs, by rw [List.append_nil]; exact h, hs⟩
  | append_singleton later c ih =>
    obtain ⟨rs', hrs', hs'⟩ := ih fun d hd => hclean d (List.mem_append_left _ hd)
    obtain ⟨rs'', hstep⟩ := clean_step hrs' (hclean c (by simp))
    obtain ⟨more, rfl⟩ := hstep.isPrefix
    refine ⟨rs' ++ more, ?_, ?_⟩
    · rw [← List.append_assoc, queueAfter_snoc]
      exact hstep.holds
    · rw [recordOf] at hs' ⊢
      rw [List.find?_append, hs']
      rfl

/-- **Enqueueing is idempotent and atomic**, for calls whose action ids have no white
space around them and whose times do not depend on `fold`: the file holds one record for
the action of every call that returned and no other, a repeated call returns the first
record, and a call that raises leaves the file as it was. -/
theorem enqueue_is_idempotent {calls : List EnqueueCall} (hclean : ∀ c ∈ calls, c.Clean) :
    (∃ rs, records (queueAfter calls) = .ok rs ∧ (rs.map (·.action.actionId)).Nodup ∧
      ∀ id, id ∈ rs.map (·.action.actionId) ↔
        ∃ pre c suf, calls = pre ++ c :: suf ∧ c.action.actionId = id ∧
          ∃ r, resultAfter pre c = .ok r) ∧
    (∀ pre c mid d suf, calls = pre ++ c :: mid ++ d :: suf →
      d.action.actionId = c.action.actionId → ∀ r, resultAfter pre c = .ok r →
      ∃ s, resultAfter (pre ++ c :: mid) d = .ok s ∧ s.eq r) ∧
    ∀ pre c suf e, calls = pre ++ c :: suf → resultAfter pre c = .error e →
      queueAfter (pre ++ [c]) = queueAfter pre := by
  refine ⟨?_, ?_, ?_⟩
  · obtain ⟨rs, ⟨hrs, hnodup⟩, hids⟩ := exists_holds hclean
    exact ⟨rs, hrs, hnodup, hids⟩
  · rintro pre c mid d suf rfl hid r hr
    have hpre : ∀ x ∈ pre, x.Clean := fun x hx => hclean x (by simp [hx])
    obtain ⟨rs, hrs, -⟩ := exists_holds hpre
    obtain ⟨rs', hstep⟩ := clean_step hrs (hclean c (by simp))
    obtain ⟨s, hs, heq⟩ := hstep.returned r hr
    have hholds : Holds (queueAfter (pre ++ [c])) rs' := by
      rw [queueAfter_snoc]
      exact hstep.holds
    have hmid : ∀ x ∈ mid, x.Clean := fun x hx => hclean x (by simp [hx])
    obtain ⟨rs'', hrs'', hs''⟩ := recordOf_stays hmid hholds hs
    obtain ⟨_, hrepeat⟩ := clean_step hrs'' (hclean d (by simp))
    refine ⟨s, ?_, heq⟩
    have hresult := hrepeat.known s (by rw [hid]; exact hs'')
    rw [List.append_assoc] at hresult
    exact hresult
  · rintro pre c suf e rfl he
    have hpre : ∀ x ∈ pre, x.Clean := fun x hx => hclean x (by simp [hx])
    obtain ⟨rs, hrs, -⟩ := exists_holds hpre
    obtain ⟨rs', hstep⟩ := clean_step hrs (hclean c (by simp))
    rw [queueAfter_snoc]
    exact hstep.unchanged e he

end LocalApprovalQueue

/-! ### An action id with white space around it -/

namespace LocalApprovalQueue

/-- A proposal with the given id. -/
def proposal (actionId : String) (h : isBlank actionId = false) : ManualActionProposal where
  actionId := actionId
  actionType := .placeSpotOrder
  assetOrSymbol := "BTCUSDT"
  suggestedNotionalUsdt := ⟨false, 10, 0⟩
  reason := "reason"
  expectedEffect := "effect"
  risk := "risk"
  identity := by
    have hothers : ∀ t ∈ ["BTCUSDT", "reason", "effect", "risk"], isBlank t = false := by decide
    exact List.forall_mem_cons.mpr ⟨h, hothers⟩
  notional_nonneg := by norm_num [Decimal.toRat]
  blockers_not_blank := by decide

/-- Two calls for one action. -/
def repeatedCalls : List EnqueueCall :=
  [{ action := proposal "action" (by decide) }, { action := proposal "action" (by decide), now := 1 }]

/-- The second call returns the first record. -/
theorem repeated_call_returns_first :
    ∃ r s, resultAfter [] ⟨proposal "action" (by decide), none, none, 0⟩ = .ok r ∧
      resultAfter [⟨proposal "action" (by decide), none, none, 0⟩]
        ⟨proposal "action" (by decide), none, none, 1⟩ = .ok s ∧ s.eq r := by
  have hclean : ∀ c ∈ repeatedCalls, c.Clean := by
    intro c hc
    simp only [repeatedCalls, List.mem_cons, List.not_mem_nil, or_false] at hc
    rcases hc with rfl | rfl
    · exact ⟨by decide +kernel, fun time htime => nomatch htime⟩
    · exact ⟨by decide +kernel, fun time htime => nomatch htime⟩
  have hfirst : (resultAfter [] ⟨proposal "action" (by decide), none, none, 0⟩).toOption.isSome := by
    decide +kernel
  obtain ⟨r, hr⟩ := Option.isSome_iff_exists.mp hfirst
  have hok := toOption_eq_some.mp hr
  obtain ⟨s, hs, heq⟩ := (enqueue_is_idempotent hclean).2.1 [] _ [] _ [] rfl rfl r hok
  exact ⟨r, s, hok, hs, heq⟩

/-- A call for the action `" a "`. -/
def paddedCall : EnqueueCall := { action := proposal " a " (by decide) }

/-- The call raises after it has written its record, and so does its retry. -/
theorem padded_call_is_written_twice :
    resultAfter [] paddedCall = .error (.value "APPROVAL_QUEUE_DESTINATION_VERIFY_FAILED") ∧
      (queueAfter [paddedCall]).length = 1 ∧
      resultAfter [paddedCall] paddedCall =
        .error (.value "APPROVAL_QUEUE_DESTINATION_VERIFY_FAILED") ∧
      (queueAfter [paddedCall, paddedCall]).map (·.action.actionId) = [" a ", " a "] := by
  decide +kernel

end LocalApprovalQueue

end Ai4Binance

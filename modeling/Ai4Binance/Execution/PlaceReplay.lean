/-
Replaying the event chain of one placement.

The chain is followed event by event through the lifecycle machine.  Up to the
submission every event is accepted; what the exchange reports afterwards decides.
A cancelled order has no acceptance event in its chain, and the machine refuses
the cancellation; a fill is refused when its quantity does not fit the status.

* `Matches`: the events of a chain, read off its payloads;
* `approvedRecord`, `submittedRecord`, `acceptedRecord`: the records on the way;
* `PlaceReplayable`: the placements whose chain the machine accepts;
* `buildPlaceEvents_replays_iff`: these are exactly the ones, and for them the
  journal that `append_place_result` leaves behind can always be replayed.
-/
import Ai4Binance.Execution.PlaceEvents

open Text Check

namespace Ai4Binance

open LiveOrderLifecycleStateMachine

/-! ### The events of a chain -/

/-- The events carry the given types and payloads, in sequence from `n`. -/
def Matches (aggregateId : String) (instant : ℤ) :
    ℕ → List (LiveOrderLifecycleEvent × Payload) → List DomainEvent → Prop
  | _, [], events => events = []
  | n, (k, p) :: rest, events =>
      ∃ e events', events = e :: events' ∧ e.aggregateId = aggregateId ∧ e.eventType = k.value ∧
        e.sequence = n ∧ e.occurredAt = instant ∧ e.payload = p ∧
        Matches aggregateId instant (n + 1) rest events'

lemma create_ok [CanonicalDigest EventContent] {eventId aggregateId eventType : String}
    {sequence : ℕ} {occurredAt : Datetime} {payload : Payload} {previousHash : String}
    {e : DomainEvent}
    (h : DomainEvent.create eventId aggregateId eventType sequence occurredAt payload
      previousHash = .ok e) :
    ∃ t, occurredAt = .aware t ∧ e.aggregateId = aggregateId ∧ e.eventType = eventType ∧
      e.sequence = sequence ∧ e.occurredAt = t ∧ e.payload = payload := by
  simp only [DomainEvent.create, bind_eq_ok] at h
  obtain ⟨-, -, h⟩ := h
  cases occurredAt with
  | naive wall => simp at h
  | aware t =>
      simp only [bind_eq_ok, pure_eq_ok] at h
      obtain ⟨-, -, rfl⟩ := h
      exact ⟨t, rfl, rfl, rfl, rfl, rfl, rfl⟩

/-- A chain that was built at an instant matches its payloads. -/
lemma buildEventsFrom_matches [CanonicalDigest EventContent] {aggregateId : String} {t : ℤ}
    {payloads : List (LiveOrderLifecycleEvent × Payload)} {n : ℕ} {previousHash : String}
    {events : List DomainEvent}
    (h : buildEventsFrom aggregateId (.aware t) n previousHash payloads = .ok events) :
    Matches aggregateId t n payloads events := by
  induction payloads generalizing n previousHash events with
  | nil => exact (Except.ok.inj h).symm
  | cons kp rest ih =>
      simp only [buildEventsFrom, bind_eq_ok, pure_eq_ok] at h
      obtain ⟨e, he, events', hrest, rfl⟩ := h
      obtain ⟨t', ht, hagg, htype, hseq, hocc, hpay⟩ := create_ok he
      obtain rfl : t = t' := Datetime.aware.inj ht
      exact ⟨e, events', rfl, hagg, htype, hseq, hocc, hpay, ih hrest⟩

/-- A chain with an event in it is built at an instant only. -/
lemma buildEvents_aware [CanonicalDigest EventContent] {aggregateId : String}
    {observedAt : Datetime} {kp : LiveOrderLifecycleEvent × Payload}
    {payloads : List (LiveOrderLifecycleEvent × Payload)} {events : List DomainEvent}
    (h : buildEvents aggregateId (kp :: payloads) observedAt = .ok events) :
    ∃ t, observedAt = .aware t := by
  simp only [buildEvents, buildEventsFrom, bind_eq_ok] at h
  obtain ⟨e, he, -⟩ := h
  obtain ⟨t, ht, -⟩ := create_ok he
  exact ⟨t, ht⟩

/-! ### Texts that pass -/

lemma requiredText_ok {value : Option String} {name s : String}
    (h : requiredText value name = .ok s) : strip s = s ∧ isBlank s = false := by
  cases value with
  | none => simp [requiredText] at h
  | some text =>
      rw [requiredText] at h
      split_ifs at h with hb
      obtain rfl := Except.ok.inj h
      refine ⟨strip_strip _, ?_⟩
      by_contra hblank
      have hb' := (isBlank_iff _).mp (by simpa using hblank)
      rw [strip_strip, ← isBlank_iff] at hb'
      exact hb hb'

lemma requiredText_self {s : String} (h : strip s = s ∧ isBlank s = false) (name : String) :
    requiredText (some s) name = .ok s := by
  rw [requiredText]
  simp [h.1, h.2]

lemma positiveDecimal_str [UnicodeData] (d : Decimal) (name : String) :
    positiveDecimal (some d.str) name =
      if d.toRat ≤ 0 then .error (.value (name ++ " must be positive")) else .ok d := by
  simp [positiveDecimal, Decimal.parse_str]

lemma strip_hexdigest {α : Type*} [CanonicalDigest α] (a : α) :
    strip (CanonicalDigest.hexdigest a) = CanonicalDigest.hexdigest a ∧
      isBlank (CanonicalDigest.hexdigest a) = false := by
  have hspace : ∀ c ∈ (CanonicalDigest.hexdigest a).toList, isSpace c = false := by
    intro c hc
    have hhex := List.all_eq_true.mp (CanonicalDigest.hexdigest_hex a) c hc
    rcases Bool.or_eq_true_iff.mp hhex with h | h
    · have h1 : 48 ≤ c.toNat ∧ c.toNat ≤ 57 := Char.isDigit_iff_toNat.mp h
      exact isSpace_of_graphic (by omega) (by omega)
    · have hall : "abcdef".toList.all (fun c => !isSpace c) := by decide
      simpa using List.all_eq_true.mp hall c (by simpa using h)
  exact ⟨strip_eq_self hspace, isBlank_eq_false (CanonicalDigest.hexdigest_ne_empty a) hspace⟩

/-! ### The arithmetic of a first fill -/

/-- Quantity and average price after a first fill, as the machine computes them;
`none` when a decimal operation traps. -/
def firstFill (fillQuantity fillPrice : ℚ) : Option (ℚ × ℚ) := do
  let ctx := Context.default
  let nextQuantity ← ctx.add 0 fillQuantity
  let fillValue ← ctx.mul fillPrice fillQuantity
  let totalValue ← ctx.add 0 fillValue
  let averagePrice ← ctx.div totalValue nextQuantity
  pure (nextQuantity, averagePrice)

lemma firstFill_eq_some_iff {fillQuantity fillPrice : ℚ} {f : ℚ × ℚ} :
    firstFill fillQuantity fillPrice = some f ↔
      Context.default.add 0 fillQuantity = some f.1 ∧
        ∃ v, Context.default.mul fillPrice fillQuantity = some v ∧
          ∃ total, Context.default.add 0 v = some total ∧
            Context.default.div total f.1 = some f.2 := by
  simp only [firstFill, Option.bind_eq_bind, Option.bind_eq_some_iff, Option.pure_def,
    Option.some.injEq]
  constructor
  · rintro ⟨next, hn, v, hv, total, ht, average, ha, rfl⟩
    exact ⟨hn, v, hv, total, ht, ha⟩
  · rintro ⟨hn, v, hv, total, ht, ha⟩
    exact ⟨f.1, hn, v, hv, total, ht, f.2, ha, rfl⟩

lemma firstFill_nonneg {fillQuantity fillPrice : ℚ} {f : ℚ × ℚ} (hq : 0 ≤ fillQuantity)
    (hp : 0 ≤ fillPrice) (h : firstFill fillQuantity fillPrice = some f) : 0 ≤ f.1 ∧ 0 ≤ f.2 := by
  obtain ⟨hn, v, hv, total, ht, ha⟩ := firstFill_eq_some_iff.mp h
  have hn' : 0 ≤ f.1 := Context.round_nonneg (by simpa using hq) hn
  have hv' : 0 ≤ v := Context.round_nonneg (mul_nonneg hp hq) hv
  have ht' : 0 ≤ total := Context.round_nonneg (by simpa using hv') ht
  refine ⟨hn', ?_⟩
  rw [Context.div] at ha
  split_ifs at ha
  exact Context.round_nonneg (div_nonneg ht' hn') ha

/-! ### The records on the way -/

section Records

variable [UnicodeData] [CanonicalDigest Payload]

/-- The record after the preview. -/
def previewRecord (command : SpotOrderCommand) (t : ℤ) : LiveOrderLifecycleRecord where
  orderId := command.clientOrderId
  symbol := upper command.symbol
  stage := .previewed
  previewHash := command.previewHash
  requestedQuantity := some command.quantity.toRat
  promotedAt := some t
  lastSequence := 1

/-- The record after the approval. -/
def approvedRecord (command : SpotOrderCommand) (ids : AuthorizationIds) (t : ℤ) :
    LiveOrderLifecycleRecord :=
  { previewRecord command t with
    stage := .readyForSubmission
    promotionStatus := .paperApproved
    approvalId := some ids.approvalId
    authorizationId := some ids.authorizationId
    authorizationEnvelopeSha256 := some ids.envelopeSha256
    humanApprovalRequestedAt := some t
    humanApprovedAt := some t
    lastSequence := 4 }

/-- The record after the submission. -/
def submittedRecord (command : SpotOrderCommand) (ids : AuthorizationIds) (t : ℤ) :
    LiveOrderLifecycleRecord :=
  { approvedRecord command ids t with
    stage := .submitted
    promotionStatus := .liveEligible
    submissionAttemptedAt := some t
    submittedAt := some t
    lastSequence := 5 }

/-- The record after the acceptance. -/
def acceptedRecord (command : SpotOrderCommand) (ids : AuthorizationIds) (t : ℤ) :
    LiveOrderLifecycleRecord :=
  { submittedRecord command ids t with
    stage := .accepted
    acceptedAt := some t
    lastSequence := 6 }

/-- A record with the identity of the command, whatever its stage. -/
lemma sound_of_command (command : SpotOrderCommand) {r : LiveOrderLifecycleRecord}
    (horder : r.orderId = command.clientOrderId) (hsymbol : r.symbol = upper command.symbol)
    (hhash : r.previewHash = command.previewHash)
    (hquantity : r.requestedQuantity = some command.quantity.toRat)
    (hfilled : 0 ≤ r.filledQuantity) (haverage : 0 ≤ r.averageFillPrice)
    (hauth : r.authorizationId.isNone = r.authorizationEnvelopeSha256.isNone)
    (hallowed : r.executionAllowed = false)
    (hlive : r.liveEligibilityStatus = "LIVE_ORDER_BLOCKED")
    (hstatus : r.promotionStatus ∈
      [.researchOnly, .stagedCandidate, .paperApproved, .liveEligible]) : Sound r where
  orderId := by rw [horder, command.clientOrderId_not_blank]
  symbol := by rw [hsymbol, not_isBlank_upper_of_alnum command.symbol_alnum]
  previewHash := by rw [hhash]; exact (strip_hexdigest _).2
  symbol_normal := by rw [hsymbol, upper_strip_upper_of_alnum command.symbol_alnum]
  requestedQuantity := by simp [hquantity, command.quantity_pos]
  filledQuantity := hfilled
  averageFillPrice := haverage
  authorization := hauth
  executionAllowed := hallowed
  liveEligibilityStatus := hlive
  promotionStatus := hstatus

/-- The first event of the chain is accepted. -/
lemma apply_preview {command : SpotOrderCommand} {e : DomainEvent} (hagg : e.aggregateId = command.clientOrderId)
    (htype : e.eventType = LiveOrderLifecycleEvent.previewed.value) (hseq : e.sequence = 1)
    (hsymbol : e.payload.get? "symbol" = some command.symbol)
    (hhash : e.payload.get? "preview_hash" = some command.previewHash)
    (hquantity : e.payload.get? "requested_quantity" = some command.quantity.str) :
    apply none e = .ok (previewRecord command e.occurredAt) := by
  have hsym := command.symbol_alnum
  have hs : requiredText (some command.symbol) "symbol" = .ok command.symbol :=
    requiredText_self ⟨strip_of_alnum hsym, not_isBlank_of_alnum hsym⟩ _
  have hh : requiredText (some command.previewHash) "preview_hash" = .ok command.previewHash :=
    requiredText_self (strip_hexdigest _) _
  have hq : decimalOrNone (some command.quantity.str) "requested_quantity" =
      .ok (some command.quantity) := by
    rw [decimalOrNone, positiveDecimal_str, if_neg (not_le.mpr command.quantity_pos)]
    rfl
  simp only [apply, htype, LiveOrderLifecycleEvent.ofValue_value, orRaise, ok_bind, ne_eq,
    not_true_eq_false, not_false_eq_true, raiseIf_of_not, applyFirst, hsymbol, hhash, hquantity,
    hs, hh, hq, Option.map_some, hagg, hseq]
  rw [check_normalizes (not_isBlank_of_alnum hsym)
    (by rw [strip_of_alnum hsym, not_isBlank_upper_of_alnum hsym])
    (by rw [strip_of_alnum hsym, upper_strip_upper_of_alnum hsym])]
  simp only [strip_of_alnum hsym]
  rw [check_of_sound (sound_of_command command rfl rfl rfl rfl le_rfl le_rfl rfl rfl
    rfl (by simp))]
  rfl

/-- An event of the chain continues a record of the command. -/
lemma continues_of_command {command : SpotOrderCommand} (ids : AuthorizationIds)
    {r : LiveOrderLifecycleRecord} {e : DomainEvent} {k : LiveOrderLifecycleEvent}
    (horder : r.orderId = command.clientOrderId) (hsymbol : r.symbol = upper command.symbol)
    (hhash : r.previewHash = command.previewHash)
    (hauth : r.authorizationId = none ∨ r.authorizationId = some ids.authorizationId)
    (henv : r.authorizationEnvelopeSha256 = none ∨
      r.authorizationEnvelopeSha256 = some ids.envelopeSha256)
    (hagg : e.aggregateId = command.clientOrderId) (hseq : e.sequence = r.lastSequence + 1)
    (htype : e.eventType = k.value) (hs : e.payload.get? "symbol" = some command.symbol)
    (hh : e.payload.get? "preview_hash" = some command.previewHash)
    (ha : ∀ s ∈ e.payload.get? "authorization_id", s = ids.authorizationId)
    (hv : ∀ s ∈ e.payload.get? "authorization_envelope_sha256", s = ids.envelopeSha256) :
    LiveOrderLifecycleStateMachine.Continues r e k where
  aggregateId := by rw [hagg, horder]
  sequence := hseq
  eventType := htype
  symbol := by
    rintro s hmem
    rw [hs] at hmem
    obtain rfl := Option.some.inj hmem
    rw [strip_of_alnum command.symbol_alnum, hsymbol]
  previewHash := by
    rintro s hmem
    rw [hh] at hmem
    rw [← Option.some.inj hmem, hhash]
  authorizationId := by
    rintro s hmem a hmem'
    rcases hauth with h | h
    · simp [h] at hmem'
    · rw [h] at hmem'
      rw [ha s hmem, Option.some.inj hmem']
  envelopeSha256 := by
    rintro s hmem a hmem'
    rcases henv with h | h
    · simp [h] at hmem'
    · rw [h] at hmem'
      rw [hv s hmem, Option.some.inj hmem']

/-- The identifiers have passed `_required_text`. -/
structure AuthorizationIds.Normal (ids : AuthorizationIds) : Prop where
  approvalId : strip ids.approvalId = ids.approvalId ∧ isBlank ids.approvalId = false
  authorizationId :
    strip ids.authorizationId = ids.authorizationId ∧ isBlank ids.authorizationId = false
  envelopeSha256 :
    strip ids.envelopeSha256 = ids.envelopeSha256 ∧ isBlank ids.envelopeSha256 = false

/-- The chain up to the approval is accepted. -/
lemma replayFrom_approved {command : SpotOrderCommand} {ids : AuthorizationIds} {t : ℤ}
    {rest : List (LiveOrderLifecycleEvent × Payload)} {events : List DomainEvent}
    (hids : ids.Normal)
    (h : Matches command.clientOrderId t 1 (approvedPayloads command ids ++ rest) events) :
    ∃ events', Matches command.clientOrderId t 5 rest events' ∧
      replayFrom none events = replayFrom (some (approvedRecord command ids t)) events' := by
  obtain ⟨e1, _, rfl, hagg1, htype1, hseq1, rfl, hpay1, h⟩ := h
  obtain ⟨e2, _, rfl, hagg2, htype2, hseq2, hocc2, hpay2, h⟩ := h
  obtain ⟨e3, _, rfl, hagg3, htype3, hseq3, hocc3, hpay3, h⟩ := h
  obtain ⟨e4, events', rfl, hagg4, htype4, hseq4, hocc4, hpay4, h⟩ := h
  have h1 : apply none e1 = .ok (previewRecord command e1.occurredAt) := by
    refine apply_preview hagg1 htype1 hseq1 ?_ ?_ ?_ <;>
      rw [hpay1] <;> simp [SortedMap.ofList, commandEntries]
  have h2 : apply (some (previewRecord command e1.occurredAt)) e2 = .ok
      { previewRecord command e1.occurredAt with
        stage := .promotionRequired, promotionStatus := .stagedCandidate, lastSequence := 2 } := by
    rw [apply_of_continues (k := .promotionRequested) (continues_of_command ids rfl rfl rfl
      (Or.inl rfl) (Or.inl rfl) hagg2 hseq2 htype2 ?_ ?_ ?_ ?_)]
    · rw [applyNext, hocc2, transition_of_sound (sound_of_command command rfl rfl rfl
        rfl le_rfl le_rfl rfl rfl rfl (by simp)), hseq2]
      rfl
    all_goals rw [hpay2]; simp [SortedMap.ofList, commandEntries]
  have h3 : apply (some { previewRecord command e1.occurredAt with
        stage := .promotionRequired, promotionStatus := .stagedCandidate, lastSequence := 2 }) e3 =
      .ok { previewRecord command e1.occurredAt with
        stage := .humanApprovalRequired, promotionStatus := .stagedCandidate
        humanApprovalRequestedAt := some e1.occurredAt, lastSequence := 3 } := by
    rw [apply_of_continues (k := .humanApprovalRequested) (continues_of_command ids rfl rfl
      rfl (Or.inl rfl) (Or.inl rfl) hagg3 hseq3 htype3 ?_ ?_ ?_ ?_)]
    · rw [applyNext, hocc3, requireStage, raiseIf_of_not (by simp), ok_bind,
        transition_of_sound (sound_of_command command rfl rfl rfl rfl le_rfl le_rfl rfl
          rfl rfl (by simp)), hseq3]
      rfl
    all_goals rw [hpay3]; simp [SortedMap.ofList, commandEntries]
  have h4 : apply (some { previewRecord command e1.occurredAt with
        stage := .humanApprovalRequired, promotionStatus := .stagedCandidate
        humanApprovalRequestedAt := some e1.occurredAt, lastSequence := 3 }) e4 =
      .ok (approvedRecord command ids e1.occurredAt) := by
    rw [apply_of_continues (k := .humanApproved) (continues_of_command ids rfl rfl rfl
      (Or.inl rfl) (Or.inl rfl) hagg4 hseq4 htype4 ?_ ?_ ?_ ?_)]
    · have happroval : e4.payload.get? "approval_id" = some ids.approvalId := by
        rw [hpay4]; simp [SortedMap.ofList, commandEntries, authorizationEntries]
      have hauthorization : e4.payload.get? "authorization_id" = some ids.authorizationId := by
        rw [hpay4]; simp [SortedMap.ofList, commandEntries, authorizationEntries]
      have henvelope : e4.payload.get? "authorization_envelope_sha256" =
          some ids.envelopeSha256 := by
        rw [hpay4]; simp [SortedMap.ofList, commandEntries, authorizationEntries]
      rw [applyNext, requireStage, raiseIf_of_not (by simp), ok_bind, happroval, hauthorization,
        henvelope, requiredText_self hids.approvalId, requiredText_self hids.authorizationId,
        requiredText_self hids.envelopeSha256, ok_bind, ok_bind, ok_bind, hocc4,
        transition_of_sound (sound_of_command command rfl rfl rfl rfl le_rfl le_rfl rfl
          rfl rfl (by simp)), hseq4]
      rfl
    all_goals rw [hpay4]; simp [SortedMap.ofList, commandEntries, authorizationEntries]
  refine ⟨events', h, ?_⟩
  rw [replayFrom, h1, ok_bind, replayFrom, h2, ok_bind, replayFrom, h3, ok_bind, replayFrom, h4,
    ok_bind]

/-- An event after the approval whose payload names the command, and the
authorization if at all, is judged by its type alone. -/
lemma apply_after_approval (command : SpotOrderCommand) (ids : AuthorizationIds)
    {r : LiveOrderLifecycleRecord} {e : DomainEvent} {k : LiveOrderLifecycleEvent}
    (hr : r.orderId = command.clientOrderId ∧ r.symbol = upper command.symbol ∧
      r.previewHash = command.previewHash ∧ r.authorizationId = some ids.authorizationId ∧
      r.authorizationEnvelopeSha256 = some ids.envelopeSha256)
    (hagg : e.aggregateId = command.clientOrderId) (hseq : e.sequence = r.lastSequence + 1)
    (htype : e.eventType = k.value) (hs : e.payload.get? "symbol" = some command.symbol)
    (hh : e.payload.get? "preview_hash" = some command.previewHash)
    (ha : ∀ s ∈ e.payload.get? "authorization_id", s = ids.authorizationId)
    (hv : ∀ s ∈ e.payload.get? "authorization_envelope_sha256", s = ids.envelopeSha256) :
    apply (some r) e = applyNext r e k :=
  apply_of_continues (continues_of_command ids hr.1 hr.2.1 hr.2.2.1 (Or.inr hr.2.2.2.1)
    (Or.inr hr.2.2.2.2) hagg hseq htype hs hh ha hv)

/-- A failed attempt is accepted after the approval. -/
lemma applyNext_attemptFailed (command : SpotOrderCommand) (ids : AuthorizationIds)
    {e : DomainEvent} {blockers : String} (hseq : e.sequence = 5)
    (hb : e.payload.get? "blockers" = some blockers)
    (hblockers : strip blockers = blockers ∧ isBlank blockers = false) :
    ∃ r, applyNext (approvedRecord command ids e.occurredAt) e .submissionAttemptFailed =
      .ok r := by
  refine ⟨{ approvedRecord command ids e.occurredAt with
    stage := .submissionAttemptFailedReviewRequired
    submissionAttemptedAt := some e.occurredAt, lastSequence := 5 }, ?_⟩
  rw [applyNext, requireStage, raiseIf_of_not (by simp [approvedRecord]), ok_bind, hb,
    requiredText_self hblockers, ok_bind,
    transition_of_sound (sound_of_command command rfl rfl rfl rfl le_rfl le_rfl rfl
      rfl rfl (by simp [approvedRecord])), hseq]
  rfl

/-- A submission is accepted after the approval. -/
lemma applyNext_submitted {command : SpotOrderCommand} {ids : AuthorizationIds} {e : DomainEvent}
    (hseq : e.sequence = 5) :
    applyNext (approvedRecord command ids e.occurredAt) e .submitted =
      .ok (submittedRecord command ids e.occurredAt) := by
  rw [applyNext, requireStage, raiseIf_of_not (by simp [approvedRecord]), ok_bind,
    transition_of_sound (sound_of_command command rfl rfl rfl rfl le_rfl le_rfl rfl
      rfl rfl (by simp)), hseq]
  rfl

/-- The exchange's acceptance is accepted after the submission. -/
lemma applyNext_accepted {command : SpotOrderCommand} {ids : AuthorizationIds} {e : DomainEvent}
    (hseq : e.sequence = 6) :
    applyNext (submittedRecord command ids e.occurredAt) e .accepted =
      .ok (acceptedRecord command ids e.occurredAt) := by
  rw [applyNext, requireStage, raiseIf_of_not (by simp [submittedRecord]), ok_bind,
    transition_of_sound (sound_of_command command rfl rfl rfl rfl le_rfl le_rfl rfl
      rfl rfl (by simp [submittedRecord])), hseq]
  rfl

/-- An expiry is accepted after the submission. -/
lemma applyNext_expired (command : SpotOrderCommand) (ids : AuthorizationIds) (e : DomainEvent) :
    ∃ r, applyNext (submittedRecord command ids e.occurredAt) e .expired = .ok r := by
  refine ⟨{ submittedRecord command ids e.occurredAt with
    stage := .expired, lastSequence := e.sequence }, ?_⟩
  rw [applyNext, requireStage, raiseIf_of_not (by simp [submittedRecord]), ok_bind,
    transition_of_sound (sound_of_command command rfl rfl rfl rfl le_rfl le_rfl rfl
      rfl rfl (by simp [submittedRecord]))]
  rfl

/-- A rejection is accepted after the submission. -/
lemma applyNext_rejected (command : SpotOrderCommand) (ids : AuthorizationIds) (e : DomainEvent) :
    ∃ r, applyNext (submittedRecord command ids e.occurredAt) e .rejected = .ok r := by
  refine ⟨{ submittedRecord command ids e.occurredAt with
    stage := .rejected, lastSequence := e.sequence }, ?_⟩
  rw [applyNext, requireStage, raiseIf_of_not (by simp [submittedRecord]), ok_bind,
    transition_of_sound (sound_of_command command rfl rfl rfl rfl le_rfl le_rfl rfl
      rfl rfl (by simp [submittedRecord]))]
  rfl

/-- A cancellation right after the submission is refused: there is no
acceptance. -/
lemma applyNext_cancelled {command : SpotOrderCommand} {ids : AuthorizationIds} {e : DomainEvent} :
    applyNext (submittedRecord command ids e.occurredAt) e .cancelled =
      .error (.value "accepted or terminal live orders require acceptance evidence") := by
  rw [applyNext, requireStage, raiseIf_of_not (by simp [submittedRecord]), ok_bind,
    transition_of_sound (sound_of_command command rfl rfl rfl rfl le_rfl le_rfl rfl
      rfl rfl (by simp [submittedRecord]))]
  rfl

/-! ### Fills -/

/-- A first fill of the given quantity and price suits the command: it leaves
something open if it is a partial one and nothing otherwise. -/
def FillFits (command : SpotOrderCommand) (isPartial : Bool) (fillQuantity fillPrice : Decimal) :
    Prop :=
  0 < fillPrice.toRat ∧
    ∃ f, firstFill fillQuantity.toRat fillPrice.toRat = some f ∧
      if isPartial then f.1 < command.quantity.toRat else f.1 = command.quantity.toRat

lemma applyFill_accepted_iff (command : SpotOrderCommand) (ids : AuthorizationIds) (t : ℤ)
    (isPartial : Bool) {e : DomainEvent} {fillQuantity fillPrice : Decimal}
    (hq : e.payload.get? "fill_quantity" = some fillQuantity.str)
    (hp : e.payload.get? "fill_price" = some fillPrice.str) (hpos : 0 < fillQuantity.toRat) :
    (∃ r, applyFill (acceptedRecord command ids t) e isPartial = .ok r) ↔
      FillFits command isPartial fillQuantity fillPrice := by
  have hmul : Context.default.mul 0 0 = some 0 := by simp [Context.mul, Context.round]
  have hquantity : positiveDecimal (some fillQuantity.str) "fill_quantity" = .ok fillQuantity := by
    rw [positiveDecimal_str, if_neg (not_le.mpr hpos)]
  constructor
  · rintro ⟨r, h⟩
    simp only [applyFill, hq, hp, hquantity, ok_bind, positiveDecimal_str, bind_eq_ok,
      orRaise_eq_ok, raiseIf_eq_ok] at h
    obtain ⟨p', hp', next, hnext, -, hle, -, hmatch, -, hpart, w, hw, v, hv, total, ht, average,
      ha, -⟩ := h
    split_ifs at hp' with hppos
    obtain rfl := Except.ok.inj hp'
    obtain rfl : 0 = w := Option.some.inj (hmul.symm.trans hw)
    refine ⟨not_le.mp hppos, (next, average), firstFill_eq_some_iff.mpr ⟨hnext, v, hv, total, ht,
      ha⟩, ?_⟩
    cases isPartial with
    | true => simpa [acceptedRecord, submittedRecord, approvedRecord, previewRecord] using hpart
    | false => simpa [acceptedRecord, submittedRecord, approvedRecord, previewRecord] using hmatch
  · rintro ⟨hppos, f, hf, hfit⟩
    obtain ⟨hn0, ha0⟩ := firstFill_nonneg hpos.le hppos.le hf
    obtain ⟨hnext, v, hv, total, ht, ha⟩ := firstFill_eq_some_iff.mp hf
    have hprice : positiveDecimal (some fillPrice.str) "fill_price" = .ok fillPrice := by
      rw [positiveDecimal_str, if_neg (not_le.mpr hppos)]
    have hfilled : (acceptedRecord command ids t).filledQuantity = 0 := rfl
    have haverage : (acceptedRecord command ids t).averageFillPrice = 0 := rfl
    have hreq : (acceptedRecord command ids t).requestedQuantity =
      some command.quantity.toRat := rfl
    rw [applyFill]
    simp only [hq, hp, hquantity, hprice, ok_bind, hfilled, haverage, hreq, hnext, hmul, hv, ht,
      ha, orRaise, Option.any_some]
    have hle : f.1 ≤ command.quantity.toRat := by
      cases isPartial with
      | true => exact le_of_lt (by simpa using hfit)
      | false => exact le_of_eq (by simpa using hfit)
    rw [raiseIf_of_not (by simpa using hle), ok_bind,
      raiseIf_of_not (by cases isPartial <;> simp_all), ok_bind,
      raiseIf_of_not (by cases isPartial <;> simp_all), ok_bind,
      transition_of_sound (sound_of_command command rfl rfl rfl rfl hn0 ha0 rfl rfl
        rfl (by simp [acceptedRecord, submittedRecord]))]
    cases isPartial with
    | true =>
        simp [LiveOrderLifecycleRecord.validateStageEvidence,
          LiveOrderLifecycleRecord.validateFillGeometry, raiseIf, LiveOrderLifecycleStage.withFills,
          LiveOrderLifecycleStage.promoted, LiveOrderLifecycleStage.approvalRequested,
          LiveOrderLifecycleStage.approved, LiveOrderLifecycleStage.afterSubmission,
          LiveOrderLifecycleStage.afterAcceptance, acceptedRecord, submittedRecord, approvedRecord,
          previewRecord, not_lt.mpr hle]
    | false =>
        have heq : f.1 = command.quantity.toRat := by simpa using hfit
        simp [LiveOrderLifecycleRecord.validateStageEvidence,
          LiveOrderLifecycleRecord.validateFillGeometry, raiseIf, LiveOrderLifecycleStage.withFills,
          LiveOrderLifecycleStage.promoted, LiveOrderLifecycleStage.approvalRequested,
          LiveOrderLifecycleStage.approved, LiveOrderLifecycleStage.afterSubmission,
          LiveOrderLifecycleStage.afterAcceptance, acceptedRecord, submittedRecord, approvedRecord,
          previewRecord, heq]

/-! ### The outcome of a submission -/

/-- What the exchange reports as executed suits the command. -/
def FillReplayable (command : SpotOrderCommand) (result : LiveCommandResult) (isPartial : Bool) :
    Prop :=
  ∀ fillQuantity fillPrice,
    snapshotDecimal result.exchangeOrderSnapshot ["executedQty", "executed_qty"] "executedQty" =
      .ok fillQuantity →
    snapshotFillPrice result.exchangeOrderSnapshot fillQuantity = .ok fillPrice →
    FillFits command isPartial fillQuantity fillPrice

/-- The placements whose event chain can be replayed: the exchange did not
report a cancellation, and what it reports as executed is less than the order
when it reports a partial fill and the order when it reports a fill. -/
def PlaceReplayable (command : SpotOrderCommand) (result : LiveCommandResult) : Prop :=
  result.status ≠ .attemptFailed →
    let status := snapshotStatus result.exchangeOrderStatus result.exchangeOrderSnapshot
    status ≠ some "CANCELED" ∧
      (status = some "PARTIALLY_FILLED" → FillReplayable command result true) ∧
      (status = some "FILLED" → FillReplayable command result false)

omit [CanonicalDigest Payload] in
lemma snapshotDecimal_pos {snapshot : Option Payload} {keys : List String} {name : String}
    {d : Decimal} (h : snapshotDecimal snapshot keys name = .ok d) : 0 < d.toRat := by
  simp only [snapshotDecimal, bind_eq_ok] at h
  obtain ⟨-, -, found, -, h⟩ := h
  rw [positiveDecimal] at h
  split at h
  · simp at h
  · split_ifs at h with hpos
    obtain rfl := Except.ok.inj h
    exact not_le.mp hpos
  · simp at h

/-- The events of a fill are accepted exactly when the fill suits the command. -/
lemma replayFrom_fill_iff {command : SpotOrderCommand} {ids : AuthorizationIds} {t : ℤ}
    {result : LiveCommandResult} {status : String} (isPartial : Bool)
    {outcome : List (LiveOrderLifecycleEvent × Payload)} {events : List DomainEvent}
    (hout : fillPayloads command result status
      (if isPartial then .partiallyFilled else .filled) = .ok outcome)
    (h : Matches command.clientOrderId t 6 outcome events) :
    (∃ s, replayFrom (some (submittedRecord command ids t)) events = .ok s) ↔
      FillReplayable command result isPartial := by
  simp only [fillPayloads, bind_eq_ok, pure_eq_ok] at hout
  obtain ⟨fillQuantity, hq, fillPrice, hp, rfl⟩ := hout
  obtain ⟨e6, _, rfl, hagg6, htype6, hseq6, rfl, hpay6, h⟩ := h
  obtain ⟨e7, _, rfl, hagg7, htype7, hseq7, hocc7, hpay7, rfl⟩ := h
  have h6 : apply (some (submittedRecord command ids e6.occurredAt)) e6 =
      .ok (acceptedRecord command ids e6.occurredAt) := by
    rw [apply_after_approval command ids ⟨rfl, rfl, rfl, rfl, rfl⟩ hagg6 hseq6
      htype6, applyNext_accepted hseq6]
    all_goals rw [hpay6]; simp [SortedMap.ofList, commandEntries, exchangeEntries]
  have hguard : raiseIf ((acceptedRecord command ids e6.occurredAt).stage ∉
      [.accepted, .partiallyFilled]) (PyError.value "illegal live order state transition") =
      .ok () := raiseIf_of_not (by simp [acceptedRecord])
  have h7 : apply (some (acceptedRecord command ids e6.occurredAt)) e7 =
      applyFill (acceptedRecord command ids e6.occurredAt) e7 isPartial := by
    rw [apply_after_approval command ids ⟨rfl, rfl, rfl, rfl, rfl⟩ hagg7 hseq7
      htype7]
    · cases isPartial with
      | true => simp only [if_true, applyNext, requireStage, hguard, ok_bind]
      | false => simp only [Bool.false_eq_true, if_false, applyNext, requireStage, hguard, ok_bind]
    all_goals rw [hpay7]; simp [SortedMap.ofList, commandEntries, exchangeEntries]
  have hfq : e7.payload.get? "fill_quantity" = some fillQuantity.str := by
    rw [hpay7]; simp [SortedMap.ofList, commandEntries, exchangeEntries]
  have hfp : e7.payload.get? "fill_price" = some fillPrice.str := by
    rw [hpay7]; simp [SortedMap.ofList, commandEntries, exchangeEntries]
  have hfill := applyFill_accepted_iff command ids e6.occurredAt isPartial hfq hfp
    (snapshotDecimal_pos hq)
  have hfits : FillReplayable command result isPartial ↔
      FillFits command isPartial fillQuantity fillPrice := by
    constructor
    · exact fun hall => hall fillQuantity fillPrice hq hp
    · intro hfit q' p' hq' hp'
      obtain rfl : fillQuantity = q' := Except.ok.inj (hq.symm.trans hq')
      obtain rfl : fillPrice = p' := Except.ok.inj (hp.symm.trans hp')
      exact hfit
  rw [hfits, ← hfill]
  simp only [replayFrom_cons_ok, h6]
  constructor
  · rintro ⟨s, r, hr, r', hr', -⟩
    obtain rfl := Except.ok.inj hr
    rw [h7] at hr'
    exact ⟨r', hr'⟩
  · rintro ⟨r', hr'⟩
    refine ⟨some r', _, rfl, r', ?_, rfl⟩
    rw [h7]
    exact hr'

/-- One further event of the chain, with the entries of the command and the
exchange. -/
lemma replayFrom_one_iff {command : SpotOrderCommand} {ids : AuthorizationIds} {t : ℤ}
    {result : LiveCommandResult} {status : String} {k : LiveOrderLifecycleEvent}
    {events : List DomainEvent}
    (h : Matches command.clientOrderId t 6
      [(k, .ofList (commandEntries command ++ exchangeEntries result status))] events) :
    (∃ s, replayFrom (some (submittedRecord command ids t)) events = .ok s) ↔
      ∃ e r, e.occurredAt = t ∧ e.sequence = 6 ∧
        applyNext (submittedRecord command ids t) e k = .ok r ∧ events = [e] := by
  obtain ⟨e, _, rfl, hagg, htype, hseq, rfl, hpay, rfl⟩ := h
  have happ : apply (some (submittedRecord command ids e.occurredAt)) e =
      applyNext (submittedRecord command ids e.occurredAt) e k := by
    refine apply_after_approval command ids ⟨rfl, rfl, rfl, rfl, rfl⟩ hagg
      hseq htype ?_ ?_ ?_ ?_
    all_goals rw [hpay]; simp [SortedMap.ofList, commandEntries, exchangeEntries]
  simp only [replayFrom_cons_ok, happ]
  constructor
  · rintro ⟨s, r, hr, -⟩
    exact ⟨e, r, rfl, hseq, hr, rfl⟩
  · rintro ⟨e', r, -, -, hr, he⟩
    obtain rfl : e = e' := by simpa using he
    exact ⟨some r, r, hr, rfl⟩

/-- The chain after the submission is accepted exactly for the replayable
outcomes. -/
lemma replayFrom_outcome_iff {command : SpotOrderCommand} {ids : AuthorizationIds} {t : ℤ}
    {result : LiveCommandResult} (hstatus : result.status ≠ .attemptFailed)
    {outcome : List (LiveOrderLifecycleEvent × Payload)} {events : List DomainEvent}
    (hout : outcomePayloads command result = .ok outcome)
    (h : Matches command.clientOrderId t 6 outcome events) :
    (∃ s, replayFrom (some (submittedRecord command ids t)) events = .ok s) ↔
      PlaceReplayable command result := by
  rw [outcomePayloads] at hout
  split at hout
  case h_1 hs =>
      obtain rfl := Except.ok.inj hout
      rw [replayFrom_one_iff h]
      obtain ⟨e, _, rfl, -, -, hseq, rfl, -, rfl⟩ := h
      refine iff_of_true ⟨e, _, rfl, hseq, applyNext_accepted hseq, rfl⟩ fun _ => ?_
      simp [hs]
  case h_2 hs =>
      rw [replayFrom_fill_iff true hout h, PlaceReplayable]
      simp [hs, hstatus]
  case h_3 hs =>
      rw [replayFrom_fill_iff false hout h, PlaceReplayable]
      simp [hs, hstatus]
  case h_4 hs =>
      obtain rfl := Except.ok.inj hout
      rw [replayFrom_one_iff h]
      refine iff_of_false ?_ fun hrep => (hrep hstatus).1 hs
      rintro ⟨e, r, rfl, -, hr, -⟩
      simp [applyNext_cancelled] at hr
  case h_5 hs =>
      obtain rfl := Except.ok.inj hout
      rw [replayFrom_one_iff h]
      obtain ⟨e, _, rfl, -, -, hseq, rfl, -, rfl⟩ := h
      obtain ⟨r, hr⟩ := applyNext_expired command ids e
      exact iff_of_true ⟨e, r, rfl, hseq, hr, rfl⟩ fun _ => by simp [hs]
  case h_6 hs =>
      obtain rfl := Except.ok.inj hout
      rw [replayFrom_one_iff h]
      obtain ⟨e, _, rfl, -, -, hseq, rfl, -, rfl⟩ := h
      obtain ⟨r, hr⟩ := applyNext_rejected command ids e
      exact iff_of_true ⟨e, r, rfl, hseq, hr, rfl⟩ fun _ => by simp [hs]
  case h_7 hnew hpart hfilled hcancel _ _ =>
      obtain rfl := Except.ok.inj hout
      obtain rfl : events = [] := h
      refine iff_of_true ⟨_, rfl⟩ fun _ => ⟨hcancel, ?_, ?_⟩
      · exact fun hs => absurd hs hpart
      · exact fun hs => absurd hs hfilled

end Records

/-! ### Whole chains and journals -/

section Journals

variable [UnicodeData]

lemma replayFrom_some_result {r : LiveOrderLifecycleRecord} {events : List DomainEvent}
    {s : Option LiveOrderLifecycleRecord} (h : replayFrom (some r) events = .ok s) :
    ∃ r', s = some r' := by
  induction events generalizing r with
  | nil => exact ⟨r, (Except.ok.inj h).symm⟩
  | cons e rest ih =>
      obtain ⟨r', -, hrest⟩ := replayFrom_cons_ok.mp h
      exact ih hrest

/-- A list with an event in it is replayed when the loop runs through. -/
lemma exists_replay_iff {e : DomainEvent} {rest : List DomainEvent} :
    (∃ r, replay (e :: rest) = .ok r) ↔ ∃ s, replayFrom none (e :: rest) = .ok s := by
  constructor
  · rintro ⟨r, hr⟩
    exact ⟨some r, (replay_ok_iff.mp hr).2⟩
  · rintro ⟨s, hs⟩
    obtain ⟨r, hr, hrest⟩ := replayFrom_cons_ok.mp hs
    obtain ⟨r', rfl⟩ := replayFrom_some_result hrest
    exact ⟨r', replay_ok_iff.mpr ⟨by simp, hs⟩⟩

/-- The journal is empty or its events can be replayed. -/
def DiskEventJournal.Replays (j : DiskEventJournal) : Prop :=
  j.events = [] ∨ ∃ r, replay j.events = .ok r

/-- What stands in front of a replayable list can be replayed. -/
lemma replays_prefix {pre rest : List DomainEvent} (h : ∃ r, replay (pre ++ rest) = .ok r) :
    pre = [] ∨ ∃ r, replay pre = .ok r := by
  cases pre with
  | nil => exact Or.inl rfl
  | cons e pre =>
      rw [List.cons_append] at h
      obtain ⟨s, hs⟩ := exists_replay_iff.mp h
      rw [← List.cons_append, replayFrom_append_ok] at hs
      obtain ⟨m, hm, -⟩ := hs
      exact Or.inr (exists_replay_iff.mpr ⟨m, hm⟩)

omit [UnicodeData] in
lemma append_ok {encodedSize : DomainEvent → ℕ} {j j' : DiskEventJournal} {e : DomainEvent}
    (h : j.append encodedSize e = .ok j') :
    j'.events = j.events ++ [e] ∧ e.sequence = j.events.length + 1 := by
  simp only [DiskEventJournal.append, DiskEventJournal.validateNextEvent, bind_eq_ok,
    raiseIf_eq_ok, pure_eq_ok, not_not] at h
  obtain ⟨-, ⟨-, -, -, -, -, hseq, -⟩, -, -, -, -, rfl⟩ := h
  exact ⟨rfl, hseq⟩

omit [UnicodeData] in
/-- Whatever becomes of the appends, a leading part of the events is written. -/
lemma appendAll_prefix (encodedSize : DomainEvent → ℕ) (j : DiskEventJournal)
    (events : List DomainEvent) :
    ∃ pre rest, events = pre ++ rest ∧
      (j.appendAll encodedSize events).1.events = j.events ++ pre := by
  induction events generalizing j with
  | nil => exact ⟨[], [], rfl, by simp [DiskEventJournal.appendAll]⟩
  | cons e events ih =>
      rw [DiskEventJournal.appendAll]
      cases h : j.append encodedSize e with
      | error err => exact ⟨[], e :: events, rfl, by simp⟩
      | ok j' =>
          obtain ⟨pre, rest, rfl, hpre⟩ := ih j'
          refine ⟨e :: pre, rest, rfl, ?_⟩
          rw [hpre, (append_ok h).1]
          simp

omit [UnicodeData] in
/-- A chain that starts at sequence one is not appended to a used journal. -/
lemma appendAll_used {encodedSize : DomainEvent → ℕ} {j : DiskEventJournal} {e : DomainEvent}
    {events : List DomainEvent} (hseq : e.sequence = 1) (hne : j.events ≠ []) :
    (j.appendAll encodedSize (e :: events)).1 = j := by
  rw [DiskEventJournal.appendAll]
  cases h : j.append encodedSize e with
  | error err => rfl
  | ok j' =>
      have hlen := (append_ok h).2
      rw [hseq] at hlen
      exact absurd (List.eq_nil_of_length_eq_zero (by omega)) hne

variable [CanonicalDigest Payload] [CanonicalDigest EventContent]

/-- The built chain can be replayed exactly for the replayable placements. -/
lemma replay_built_iff {command : SpotOrderCommand} {result : LiveCommandResult}
    {observedAt : Datetime} {events : List DomainEvent}
    (hbuild : buildPlaceEvents command result observedAt = .ok events) :
    (∃ r, replay events = .ok r) ↔ PlaceReplayable command result := by
  simp only [buildPlaceEvents, bind_eq_ok] at hbuild
  obtain ⟨approvalId, h1, authorizationId, h2, envelope, h3, attempt, hattempt, hbuild⟩ := hbuild
  have hids : (AuthorizationIds.mk approvalId authorizationId envelope).Normal :=
    ⟨requiredText_ok h1, requiredText_ok h2, requiredText_ok h3⟩
  set ids : AuthorizationIds := ⟨approvalId, authorizationId, envelope⟩
  obtain ⟨t, rfl⟩ := buildEvents_aware hbuild
  have hmatch := buildEventsFrom_matches hbuild
  obtain ⟨events', hmatch', hreplay⟩ := replayFrom_approved hids hmatch
  obtain ⟨e, rest, rfl, -⟩ := hmatch
  rw [exists_replay_iff, hreplay]
  rw [attemptPayloads] at hattempt
  split at hattempt
  case h_1 hstatus =>
      simp only [bind_eq_ok, pure_eq_ok] at hattempt
      obtain ⟨blockers, hblockers, rfl⟩ := hattempt
      obtain ⟨e5, _, rfl, hagg, htype, hseq, rfl, hpay, rfl⟩ := hmatch'
      refine iff_of_true ?_ fun hne => absurd hstatus hne
      obtain ⟨r, hr⟩ := applyNext_attemptFailed command ids hseq
        (by rw [hpay]; simp [SortedMap.ofList, commandEntries, authorizationEntries])
        (requiredText_ok hblockers)
      refine ⟨some r, replayFrom_cons_ok.mpr ⟨r, ?_, rfl⟩⟩
      rw [apply_after_approval command ids ⟨rfl, rfl, rfl, rfl, rfl⟩ hagg hseq
        htype, hr]
      all_goals rw [hpay]; simp [SortedMap.ofList, commandEntries, authorizationEntries]
  case h_4 => simp at hattempt
  all_goals
    rename_i hstatus
    simp only [bind_eq_ok, pure_eq_ok] at hattempt
    obtain ⟨outcome, hout, rfl⟩ := hattempt
    obtain ⟨e5, events'', rfl, hagg, htype, hseq, rfl, hpay, hmatch''⟩ := hmatch'
    have h5 : apply (some (approvedRecord command ids e5.occurredAt)) e5 =
        .ok (submittedRecord command ids e5.occurredAt) := by
      rw [apply_after_approval command ids ⟨rfl, rfl, rfl, rfl, rfl⟩ hagg hseq
        htype, applyNext_submitted hseq]
      all_goals rw [hpay]; simp [SortedMap.ofList, commandEntries, authorizationEntries]
    rw [replayFrom, h5, ok_bind]
    exact replayFrom_outcome_iff (by rw [hstatus]; decide) hout hmatch''

/-- **The chain of a placement replays exactly when it should.**  For every
placement whose event chain is built: the chain can be replayed, and no journal
that could be replayed is left unreplayable by `append_place_result`, if and
only if the exchange did not report a cancellation and a reported fill suits the
order. -/
theorem buildPlaceEvents_replays_iff (encodedSize : DomainEvent → ℕ) {command : SpotOrderCommand}
    {result : LiveCommandResult} {observedAt : Datetime} {events : List DomainEvent}
    (hbuild : buildPlaceEvents command result observedAt = .ok events) :
    ((∃ r, replay events = .ok r) ∧
      ∀ j : DiskEventJournal, j.Replays →
        (appendPlaceResult encodedSize j command result observedAt).1.Replays) ↔
    PlaceReplayable command result := by
  constructor
  · exact fun h => (replay_built_iff hbuild).mp h.1
  · intro h
    have hreplay := (replay_built_iff hbuild).mpr h
    refine ⟨hreplay, fun j hj => ?_⟩
    have hstart : ∃ e rest, events = e :: rest ∧ e.sequence = 1 := by
      simp only [buildPlaceEvents, bind_eq_ok] at hbuild
      obtain ⟨_, -, _, -, _, -, _, -, hbuild⟩ := hbuild
      obtain ⟨t, rfl⟩ := buildEvents_aware hbuild
      obtain ⟨e, rest, rfl, -, -, hseq, -⟩ := buildEventsFrom_matches hbuild
      exact ⟨e, rest, rfl, hseq⟩
    obtain ⟨e, rest, rfl, hseq⟩ := hstart
    -- the call leaves the journal that the appends leave
    have hleft : (appendPlaceResult encodedSize j command result observedAt).1 = j ∨
        (appendPlaceResult encodedSize j command result observedAt).1 =
          (j.appendAll encodedSize (e :: rest)).1 := by
      rw [appendPlaceResult]
      split_ifs with hblocked
      · exact Or.inl rfl
      · rw [hbuild]
        refine Or.inr ?_
        cases hall : j.appendAll encodedSize (e :: rest) with
        | mk j' res => cases res <;> simp [hall]
    rcases hleft with hleft | hleft
    · rwa [hleft]
    · rw [hleft]
      by_cases hne : j.events = []
      · obtain ⟨pre, post, hsplit, hpre⟩ := appendAll_prefix encodedSize j (e :: rest)
        rw [hsplit] at hreplay
        rw [DiskEventJournal.Replays, hpre, hne, List.nil_append]
        exact replays_prefix hreplay
      · rwa [appendAll_used hseq hne]

end Journals

/-! ### A filled and a cancelled placement -/

lemma hotusdt_alnum : isAsciiAlnum "HOTUSDT" := by decide

lemma fiveUnits_pos : 0 < (⟨false, 5, 0⟩ : Decimal).toRat := by norm_num [Decimal.toRat]

/-- A market order for five units. -/
def marketOrder : SpotOrderCommand where
  symbol := "HOTUSDT"
  side := .buy
  orderType := .market
  quantity := ⟨false, 5, 0⟩
  clientOrderId := "o1"
  symbol_alnum := hotusdt_alnum
  quantity_pos := fiveUnits_pos
  clientOrderId_not_blank := by decide
  clientOrderId_short := by decide
  clientOrderId_ascii := by decide
  priceConstraints := by decide

/-- The order was sent, and the exchange reports the given status. -/
def sentResult (status : String) (snapshot : List (String × String)) : LiveCommandResult where
  status := .submitted
  blockers := []
  clientOrderId := "o1"
  exchangeOrderId := some "99"
  exchangeOrderStatus := some status
  exchangeOrderSnapshot := some (.ofList snapshot)
  authorizationId := some "q"
  authorizationEnvelopeSha256 := some "b2"
  approvalId := some "p"

/-- The event chain of a sent market order. -/
def sentEvents (result : LiveCommandResult) : Except PyError (List DomainEvent) :=
  letI := CanonicalDigest.const Payload
  letI := CanonicalDigest.const EventContent
  buildPlaceEvents marketOrder result (.aware 0)

/-- The journal a sent market order leaves behind in an empty one. -/
def sentJournal (result : LiveCommandResult) : DiskEventJournal :=
  letI := CanonicalDigest.const Payload
  letI := CanonicalDigest.const EventContent
  (appendPlaceResult (fun _ => 512) {} marketOrder result (.aware 0)).1

/-- The exchange reports the whole order as filled, at ten. -/
def filledResult : LiveCommandResult := sentResult "FILLED" [("executedQty", "5"), ("avgPrice", "10")]

lemma filledResult_replayable : PlaceReplayable marketOrder filledResult := by
  have hstatus : snapshotStatus filledResult.exchangeOrderStatus
      filledResult.exchangeOrderSnapshot = some "FILLED" := by decide +kernel
  have hq : snapshotDecimal filledResult.exchangeOrderSnapshot ["executedQty", "executed_qty"]
      "executedQty" = .ok ⟨false, 5, 0⟩ := by decide +kernel
  have hp : snapshotFillPrice filledResult.exchangeOrderSnapshot ⟨false, 5, 0⟩ =
      .ok ⟨false, 10, 0⟩ := by decide +kernel
  refine fun _ => ⟨by simp [hstatus], by simp [hstatus], fun _ q p hq' hp' => ?_⟩
  obtain rfl := Except.ok.inj (hq.symm.trans hq')
  obtain rfl := Except.ok.inj (hp.symm.trans hp')
  exact ⟨by decide +kernel, (5, 10), by decide +kernel, by decide +kernel⟩

/-- The chain of a filled order is built and can be replayed. -/
theorem filled_order_replays :
    ∃ events r, sentEvents filledResult = .ok events ∧ replay events = .ok r := by
  have hsome : (sentEvents filledResult).toOption.isSome := by decide +kernel
  cases h : sentEvents filledResult with
  | error e => simp [h, Except.toOption] at hsome
  | ok events =>
      let _ := CanonicalDigest.const Payload
      let _ := CanonicalDigest.const EventContent
      obtain ⟨⟨r, hr⟩, -⟩ :=
        (buildPlaceEvents_replays_iff (fun _ => 512) h).mpr filledResult_replayable
      exact ⟨events, r, rfl, hr⟩

/-- The chain of a cancelled order is built and written, and cannot be
replayed. -/
theorem cancelled_order_is_journaled_and_not_replayed :
    (sentEvents (sentResult "CANCELED" [])).toOption.map
        (fun events => (events.length, (replay events).toOption.isSome)) = some (6, false) ∧
      (sentJournal (sentResult "CANCELED" [])).events.length = 6 ∧
      (replay (sentJournal (sentResult "CANCELED" [])).events).toOption.isSome = false := by
  decide +kernel

end Ai4Binance

/-
Which transitions of the live-order machine can happen.

The stage guards and the checks of the record's constructor are two tables.  A
transition that the first admits and the second refuses is never journaled: a
partly filled order can be cancelled, but it can neither expire nor be rejected, and
an order that the exchange never accepted cannot be cancelled.

* `Reachable`: the records of accepted runs;
* `advance`, `next`: the record after an event that is no fill;
* `HasEvidence`: the evidence every stage asks for, all of it;
* `transition_live_iff`: the admitted transitions that happen, and those that do
  not.
-/
import Ai4Binance.Execution.FillAccounting
import Ai4Binance.Execution.LifecycleRuns
import Ai4Binance.Execution.PlaceReplay

open Text Check

namespace Ai4Binance

namespace LiveOrderLifecycleStateMachine

open LiveOrderLifecycleStage
open LiveOrderLifecycleEvent (ofValue)

variable [UnicodeData]

/-- The record of an accepted run. -/
def Reachable (r : LiveOrderLifecycleRecord) : Prop := ∃ events, replay events = .ok r

lemma Reachable.apply {r r' : LiveOrderLifecycleRecord} {event : DomainEvent} (h : Reachable r)
    (happly : apply (some r) event = .ok r') : Reachable r' := by
  obtain ⟨events, hevents⟩ := h
  obtain ⟨-, hevents⟩ := replay_ok_iff.mp hevents
  refine ⟨events ++ [event], replay_ok_iff.mpr ⟨by simp, ?_⟩⟩
  exact replayFrom_append_ok.mpr ⟨some r, hevents, replayFrom_cons_ok.mpr ⟨r', happly, rfl⟩⟩

/-- A reachable record comes from its last event. -/
lemma Reachable.last {r : LiveOrderLifecycleRecord} (h : Reachable r) :
    ∃ s event, LiveOrderLifecycleStateMachine.apply s event = .ok r := by
  obtain ⟨events, hevents⟩ := h
  obtain ⟨hne, hevents⟩ := replay_ok_iff.mp hevents
  obtain ⟨pre, event, rfl⟩ := List.eq_nil_or_concat events |>.resolve_left hne
  rw [List.concat_eq_append, replayFrom_append_ok] at hevents
  obtain ⟨m, -, hlast⟩ := hevents
  obtain ⟨r', hr', hend⟩ := replayFrom_cons_ok.mp hlast
  obtain rfl := Option.some.inj (Except.ok.inj hend)
  exact ⟨m, event, hr'⟩

/-! ### Checked records -/

/-- The record passed its constructor. -/
def Checked (r : LiveOrderLifecycleRecord) : Prop :=
  Sound r ∧ r.validateStageEvidence = .ok ()

lemma isBlank_upper_strip [UpperKeepsText] {s : String} (h : isBlank s = false) :
    isBlank (upper (strip s)) = false := by
  by_contra hblank
  have hstrip := (isBlank_iff _).mp (by simpa using hblank)
  rw [strip_upper_strip] at hstrip
  have hne : strip s ≠ "" := fun he => by simp [(isBlank_iff s).mpr he] at h
  cases hl : (strip s).toList with
  | nil => exact hne (by rw [← String.ofList_toList (s := strip s), hl])
  | cons a l =>
    have ha := head_strip (s := s) a (by rw [hl]; rfl)
    have hupper := congrArg String.toList hstrip
    rw [upper, String.toList_ofList, hl, List.flatMap_cons] at hupper
    exact UpperKeepsText.upperChar_ne_nil a ha (List.append_eq_nil_iff.mp hupper).1

lemma checked_of_check [UpperKeepsText] {r r' : LiveOrderLifecycleRecord} (h : r.check = .ok r') :
    Checked r' := by
  simp only [LiveOrderLifecycleRecord.check, bind_eq_ok, raiseIf_eq_ok, pure_eq_ok,
    Bool.or_eq_true, not_or, Bool.not_eq_true, not_not] at h
  obtain ⟨-, ⟨⟨hid, hsymbol⟩, hhash⟩, -, hrequested, -, ⟨hfilled, haverage⟩, -, hauth, -,
    ⟨hexecution, hstatus⟩, -, hpromotion, _, hevidence, -, -, rfl⟩ := h
  refine ⟨⟨hid, isBlank_upper_strip hsymbol, hhash, upper_strip_upper_strip _, hrequested,
    not_lt.mp hfilled, not_lt.mp haverage, ?_, hexecution, hstatus, hpromotion⟩, hevidence⟩
  simpa using hauth

lemma applyFill_ne_zero {s r : LiveOrderLifecycleRecord} {event : DomainEvent} {isPartial : Bool}
    (h : applyFill s event isPartial = .ok r) : r.filledQuantity ≠ 0 := by
  simp only [applyFill, bind_eq_ok, raiseIf_eq_ok, orRaise_eq_ok] at h
  obtain ⟨q, -, p, -, n, -, -, -, -, -, -, -, v, -, w, -, u, -, a, ha, h⟩ := h
  rw [(transition_ok h).2.1]
  intro hzero
  rw [Context.div, if_pos hzero] at ha
  exact nomatch ha

/-- What is true of a record whose last event was accepted. -/
lemma checked_of_apply [UpperKeepsText] {s : Option LiveOrderLifecycleRecord}
    {r : LiveOrderLifecycleRecord} {event : DomainEvent} (h : apply s event = .ok r) :
    Checked r ∧ r.stage ≠ draft ∧ (r.stage ∈ [partiallyFilled, filled] → r.filledQuantity ≠ 0) := by
  cases s with
  | none =>
    have hstage := (apply_none_ok h).2
    simp only [apply, applyFirst, bind_eq_ok, orRaise_eq_ok, raiseIf_eq_ok] at h
    obtain ⟨_, -, _, -, _, -, _, -, _, -, h⟩ := h
    refine ⟨checked_of_check h, by rw [hstage]; decide, fun hmem => ?_⟩
    rw [hstage] at hmem
    exact absurd hmem (by decide)
  | some s =>
    obtain ⟨k, -, h⟩ := apply_some_ok h
    have htarget := (applyNext_ok h).2.1
    refine ⟨?_, ?_, ?_⟩
    · cases k with
      | previewed => exact absurd h throw_ne_ok.mp
      | promotionRequested => exact checked_of_check h
      | humanApproved =>
        simp only [applyNext, requireStage, bind_eq_ok] at h
        obtain ⟨-, -, _, -, _, -, _, -, h⟩ := h
        exact checked_of_check h
      | submissionAttemptFailed =>
        simp only [applyNext, requireStage, bind_eq_ok] at h
        obtain ⟨-, -, _, -, h⟩ := h
        exact checked_of_check h
      | partiallyFilled =>
        simp only [applyNext, applyFill, bind_eq_ok] at h
        obtain ⟨-, -, _, -, _, -, _, -, _, -, _, -, _, -, _, -, _, -, _, -, _, -, h⟩ := h
        exact checked_of_check h
      | filled =>
        simp only [applyNext, applyFill, bind_eq_ok] at h
        obtain ⟨-, -, _, -, _, -, _, -, _, -, _, -, _, -, _, -, _, -, _, -, _, -, h⟩ := h
        exact checked_of_check h
      | _ =>
        simp only [applyNext, requireStage, bind_eq_ok] at h
        obtain ⟨-, -, h⟩ := h
        exact checked_of_check h
    · rw [htarget]
      cases k <;> decide
    · intro hmem
      rw [htarget] at hmem
      cases k with
      | partiallyFilled =>
        simp only [applyNext, bind_eq_ok] at h
        exact applyFill_ne_zero h.choose_spec.2
      | filled =>
        simp only [applyNext, bind_eq_ok] at h
        exact applyFill_ne_zero h.choose_spec.2
      | _ => exact absurd hmem (by decide)

/-! ### The next event -/

/-- The payload of every event that is no fill. -/
def stepPayload : Payload :=
  .ofList [("approval_id", "p"), ("authorization_envelope_sha256", "b2"),
    ("authorization_id", "q"), ("blockers", "b")]

/-- An event that continues a record. -/
def nextEvent (r : LiveOrderLifecycleRecord) (k : LiveOrderLifecycleEvent) (payload : Payload) :
    DomainEvent where
  eventId := "event"
  aggregateId := r.orderId
  eventType := k.value
  sequence := r.lastSequence + 1
  occurredAt := 0
  payload := payload
  previousHash := "GENESIS"
  eventHash := ""

/-- The fields that an event sets, if it is neither the preview nor a fill. -/
def advance (r : LiveOrderLifecycleRecord) : LiveOrderLifecycleEvent → LiveOrderLifecycleRecord
  | .promotionRequested =>
      { r with
        stage := promotionRequired, promotionStatus := .stagedCandidate, promotedAt := some 0 }
  | .humanApprovalRequested =>
      { r with
        stage := humanApprovalRequired
        promotionStatus := .stagedCandidate
        humanApprovalRequestedAt := some 0 }
  | .humanApproved =>
      { r with
        stage := readyForSubmission
        approvalId := some "p"
        authorizationId := some "q"
        authorizationEnvelopeSha256 := some "b2"
        promotionStatus := .paperApproved
        humanApprovedAt := some 0 }
  | .submitted =>
      { r with
        stage := submitted
        promotionStatus := .liveEligible
        submissionAttemptedAt := some 0
        submittedAt := some 0 }
  | .submissionAttemptFailed =>
      { r with stage := submissionAttemptFailedReviewRequired, submissionAttemptedAt := some 0 }
  | .accepted => { r with stage := accepted, acceptedAt := some 0 }
  | k => { r with stage := targetStage k }

/-- The record after such an event. -/
def next (r : LiveOrderLifecycleRecord) (k : LiveOrderLifecycleEvent) : LiveOrderLifecycleRecord :=
  { advance r k with lastSequence := r.lastSequence + 1 }

/-- The authorization of the record, if it has one, is that of the payload. -/
def Authorized (r : LiveOrderLifecycleRecord) : Prop :=
  (∀ a ∈ r.authorizationId, "q" = a) ∧ ∀ e ∈ r.authorizationEnvelopeSha256, "b2" = e

/-- The kinds of events that `advance` describes. -/
def IsPlain (k : LiveOrderLifecycleEvent) : Prop :=
  k ≠ .previewed ∧ k ≠ .partiallyFilled ∧ k ≠ .filled

instance (k : LiveOrderLifecycleEvent) : Decidable (IsPlain k) :=
  inferInstanceAs (Decidable (_ ∧ _ ∧ _))

omit [UnicodeData] in
lemma sound_advance [UnicodeData] {r : LiveOrderLifecycleRecord} (h : Sound r)
    {k : LiveOrderLifecycleEvent} : Sound (advance r k) := by
  have hauth := h.authorization
  have hpromotion := h.promotionStatus
  cases k <;>
    exact ⟨h.orderId, h.symbol, h.previewHash, h.symbol_normal, h.requestedQuantity,
      h.filledQuantity, h.averageFillPrice, by first | exact hauth | rfl, h.executionAllowed,
      h.liveEligibilityStatus, by first | exact hpromotion | simp [advance]⟩

lemma applyNext_eq_advance {r : LiveOrderLifecycleRecord} {k : LiveOrderLifecycleEvent}
    (hk : IsPlain k) (hguard : r.stage ∈ guardStages k) :
    applyNext r (nextEvent r k stepPayload) k =
      transition (nextEvent r k stepPayload) (advance r k) := by
  have happroval : requiredText (stepPayload.get? "approval_id") "approval_id" = .ok "p" := by
    exact requiredText_self (s := "p") ⟨by decide, by decide⟩ _
  have hauth : requiredText (stepPayload.get? "authorization_id") "authorization_id" =
      .ok "q" := requiredText_self (s := "q") ⟨by decide, by decide⟩ _
  have henvelope : requiredText (stepPayload.get? "authorization_envelope_sha256")
      "authorization_envelope_sha256" = .ok "b2" :=
    requiredText_self (s := "b2") ⟨by decide, by decide⟩ _
  have hblockers : requiredText (stepPayload.get? "blockers") "blockers" = .ok "b" :=
    requiredText_self (s := "b") ⟨by decide, by decide⟩ _
  have hstage : ∀ allowed, r.stage ∈ allowed → requireStage r allowed = .ok () :=
    fun allowed hmem => raiseIf_of_not (not_not.mpr hmem)
  cases k with
  | previewed => exact absurd rfl hk.1
  | partiallyFilled => exact absurd rfl hk.2.1
  | filled => exact absurd rfl hk.2.2
  | promotionRequested => rfl
  | humanApproved =>
    simp only [guardStages] at hguard
    rw [applyNext, hstage _ hguard]
    simp only [nextEvent, happroval, hauth, henvelope, ok_bind]
    rfl
  | submissionAttemptFailed =>
    simp only [guardStages] at hguard
    rw [applyNext, hstage _ hguard]
    simp only [nextEvent, hblockers, ok_bind]
    rfl
  | _ =>
    simp only [guardStages] at hguard
    rw [applyNext, hstage _ hguard]
    rfl

lemma continues_nextEvent {r : LiveOrderLifecycleRecord} (h : Authorized r)
    (k : LiveOrderLifecycleEvent) : Continues r (nextEvent r k stepPayload) k where
  aggregateId := rfl
  sequence := rfl
  eventType := rfl
  symbol s hs := nomatch (show none = some s from hs)
  previewHash s hs := nomatch (show none = some s from hs)
  authorizationId s hs a ha := by
    obtain rfl := Option.some.inj (show some "q" = some s from hs)
    exact h.1 a ha
  envelopeSha256 s hs a ha := by
    obtain rfl := Option.some.inj (show some "b2" = some s from hs)
    exact h.2 a ha

/-- An admitted event is accepted if the new stage has its evidence. -/
lemma apply_nextEvent {r : LiveOrderLifecycleRecord} {k : LiveOrderLifecycleEvent} (hs : Sound r)
    (hauth : Authorized r) (hk : IsPlain k) (hguard : r.stage ∈ guardStages k)
    (hevidence : (advance r k).validateStageEvidence = .ok ())
    (hfill : r.filledQuantity = 0 ∨ targetStage k ∈ withFills) :
    apply (some r) (nextEvent r k stepPayload) = .ok (next r k) := by
  rw [apply_of_continues (continues_nextEvent hauth k), applyNext_eq_advance hk hguard,
    transition_of_sound (sound_advance hs), hevidence, ok_bind]
  have hgeometry : (advance r k).validateFillGeometry = .ok () := by
    refine raiseIf_of_not fun hbad => ?_
    rcases hfill with hzero | hmem
    · exact hbad.1 (by cases k <;> exact hzero)
    · exact hbad.2 (by revert hk hmem; cases k <;> simp [IsPlain, advance, targetStage])
  rw [hgeometry, ok_bind]
  rfl

/-! ### Records with all the evidence -/

/-- A reachable order without fills. -/
structure Unfilled (r : LiveOrderLifecycleRecord) : Prop where
  reachable : Reachable r
  sound : Sound r
  authorized : Authorized r
  unfilled : r.filledQuantity = 0

/-- The evidence that any stage asks for. -/
structure HasEvidence (r : LiveOrderLifecycleRecord) : Prop where
  promotedAt : r.promotedAt ≠ none
  humanApprovalRequestedAt : r.humanApprovalRequestedAt ≠ none
  humanApprovedAt : r.humanApprovedAt ≠ none
  authorizationId : r.authorizationId ≠ none
  envelopeSha256 : r.authorizationEnvelopeSha256 ≠ none
  submissionAttemptedAt : r.submissionAttemptedAt ≠ none
  submittedAt : r.submittedAt ≠ none
  acceptedAt : r.acceptedAt ≠ none
  requestedQuantity : r.requestedQuantity ≠ none

omit [UnicodeData] in
/-- The evidence checks, one after the other. -/
lemma validateStageEvidence_ok_iff {r : LiveOrderLifecycleRecord} :
    r.validateStageEvidence = .ok () ↔ r.stage = draft ∨
      ¬ (r.stage ∈ promoted ∧ r.promotedAt = none) ∧
      ¬ (r.stage ∈ approvalRequested ∧ r.humanApprovalRequestedAt = none) ∧
      ¬ (r.stage ∈ approved ∧ r.humanApprovedAt = none) ∧
      ¬ (r.stage ∈ approved ∧
        (r.authorizationId = none ∨ r.authorizationEnvelopeSha256 = none)) ∧
      ¬ (r.stage = submissionAttemptFailedReviewRequired ∧ r.submissionAttemptedAt = none) ∧
      ¬ (r.stage ∈ afterSubmission ∧ r.submittedAt = none) ∧
      ¬ (r.stage ∈ afterAcceptance ∧ r.acceptedAt = none) ∧
      ¬ (r.stage ∈ withFills ∧ r.requestedQuantity = none) ∧
      ¬ (r.stage ∈ [partiallyFilled, filled] ∧ r.requestedQuantity.any (· < r.filledQuantity)) ∧
      ¬ (r.stage = filled ∧ r.requestedQuantity.any (r.filledQuantity ≠ ·)) := by
  rw [LiveOrderLifecycleRecord.validateStageEvidence]
  by_cases hdraft : r.stage = draft
  · rw [if_pos hdraft]
    exact ⟨fun _ => .inl hdraft, fun _ => rfl⟩
  · rw [if_neg hdraft, or_iff_right hdraft]
    simp only [bind_eq_ok, raiseIf_eq_ok, exists_const]

omit [UnicodeData] in
lemma HasEvidence.validate {r : LiveOrderLifecycleRecord} (h : HasEvidence r)
    (hopen : r.stage ∉ [partiallyFilled, filled]) : r.validateStageEvidence = .ok () := by
  refine validateStageEvidence_ok_iff.mpr (.inr ⟨fun hb => h.promotedAt hb.2,
    fun hb => h.humanApprovalRequestedAt hb.2, fun hb => h.humanApprovedAt hb.2,
    fun hb => hb.2.elim h.authorizationId h.envelopeSha256, fun hb => h.submissionAttemptedAt hb.2,
    fun hb => h.submittedAt hb.2, fun hb => h.acceptedAt hb.2, fun hb => h.requestedQuantity hb.2,
    fun hb => hopen hb.1, fun hb => hopen ?_⟩)
  rw [hb.1]
  simp

omit [UnicodeData] in
lemma HasEvidence.next {r : LiveOrderLifecycleRecord} (h : HasEvidence r)
    (k : LiveOrderLifecycleEvent) : HasEvidence (next r k) := by
  cases k <;>
    exact ⟨by first | exact h.promotedAt | exact Option.some_ne_none _,
      by first | exact h.humanApprovalRequestedAt | exact Option.some_ne_none _,
      by first | exact h.humanApprovedAt | exact Option.some_ne_none _,
      by first | exact h.authorizationId | exact Option.some_ne_none _,
      by first | exact h.envelopeSha256 | exact Option.some_ne_none _,
      by first | exact h.submissionAttemptedAt | exact Option.some_ne_none _,
      by first | exact h.submittedAt | exact Option.some_ne_none _,
      by first | exact h.acceptedAt | exact Option.some_ne_none _, h.requestedQuantity⟩

/-- An admitted event of an unfilled order. -/
lemma Unfilled.step {r : LiveOrderLifecycleRecord} {k : LiveOrderLifecycleEvent} (h : Unfilled r)
    (hk : IsPlain k) (hguard : r.stage ∈ guardStages k)
    (hevidence : (advance r k).validateStageEvidence = .ok ()) :
    apply (some r) (nextEvent r k stepPayload) = .ok (next r k) ∧ Unfilled (next r k) := by
  have happly := apply_nextEvent h.sound h.authorized hk hguard hevidence (.inl h.unfilled)
  refine ⟨happly, h.reachable.apply happly, ?_, ?_, ?_⟩
  · have hsound := sound_advance h.sound (k := k)
    exact ⟨hsound.orderId, hsound.symbol, hsound.previewHash, hsound.symbol_normal,
      hsound.requestedQuantity, hsound.filledQuantity, hsound.averageFillPrice,
      hsound.authorization, hsound.executionAllowed, hsound.liveEligibilityStatus,
      hsound.promotionStatus⟩
  · have hauth := h.authorized
    cases k <;> first | exact hauth | exact ⟨fun a ha => Option.some.inj ha,
      fun a ha => Option.some.inj ha⟩
  · have hzero := h.unfilled
    cases k <;> exact hzero

omit [UnicodeData] in
lemma stage_next {r : LiveOrderLifecycleRecord} {k : LiveOrderLifecycleEvent} :
    (next r k).stage = targetStage k := by
  cases k <;> rfl

omit [UnicodeData] in
lemma targetStage_of_isPlain {k : LiveOrderLifecycleEvent} (hk : IsPlain k) :
    targetStage k ∉ [partiallyFilled, filled] := by
  revert hk
  cases k <;> simp [IsPlain, targetStage]

/-- With all the evidence every admitted event is accepted. -/
lemma Unfilled.next {r : LiveOrderLifecycleRecord} {k : LiveOrderLifecycleEvent} (h : Unfilled r)
    (he : HasEvidence r) (hk : IsPlain k) (hguard : r.stage ∈ guardStages k) :
    apply (some r) (nextEvent r k stepPayload) = .ok (next r k) ∧ Unfilled (next r k) ∧
      HasEvidence (next r k) ∧ (LiveOrderLifecycleStateMachine.next r k).stage = targetStage k := by
  have htarget := targetStage_of_isPlain hk
  have hevidence : (advance r k).validateStageEvidence = .ok () := by
    have hstage : (advance r k).stage = targetStage k := stage_next (r := r)
    have hall := he.next k
    have hadvance : HasEvidence (advance r k) := ⟨hall.1, hall.2, hall.3, hall.4, hall.5, hall.6,
      hall.7, hall.8, hall.9⟩
    refine hadvance.validate ?_
    rw [hstage]
    exact htarget
  have hstep := h.step hk hguard hevidence
  exact ⟨hstep.1, hstep.2, he.next k, stage_next⟩

/-! ### Orders in every stage -/

/-- An unfilled order in a stage, with all the evidence and five units requested. -/
def Ready (stage : LiveOrderLifecycleStage) (r : LiveOrderLifecycleRecord) : Prop :=
  Unfilled r ∧ HasEvidence r ∧ r.stage = stage ∧ r.requestedQuantity = some 5 ∧
    r.averageFillPrice = 0

lemma Ready.next {r : LiveOrderLifecycleRecord} {stage : LiveOrderLifecycleStage}
    {k : LiveOrderLifecycleEvent} (h : Ready stage r) (hk : IsPlain k)
    (hguard : stage ∈ guardStages k) :
    apply (some r) (nextEvent r k stepPayload) = .ok (LiveOrderLifecycleStateMachine.next r k) ∧
      Ready (targetStage k) (LiveOrderLifecycleStateMachine.next r k) := by
  obtain ⟨hunfilled, hevidence, hstage, hrequested, haverage⟩ := h
  obtain ⟨happly, hnext, hevidence', hstage'⟩ :=
    hunfilled.next hevidence hk (by rw [hstage]; exact hguard)
  refine ⟨happly, hnext, hevidence', hstage', ?_, ?_⟩
  · rw [← hrequested]
    cases k <;> rfl
  · rw [← haverage]
    cases k <;> rfl

lemma Ready.target {stage : LiveOrderLifecycleStage} {k : LiveOrderLifecycleEvent}
    (h : ∃ r, Ready stage r) (hk : IsPlain k) (hguard : stage ∈ guardStages k) :
    ∃ r, Ready (targetStage k) r := by
  obtain ⟨r, hr⟩ := h
  exact ⟨_, (hr.next hk hguard).2⟩

/-- The preview of an order. -/
def previewEvent [CanonicalDigest Payload] : DomainEvent where
  eventId := "event"
  aggregateId := "o1"
  eventType := LiveOrderLifecycleEvent.previewed.value
  sequence := 1
  occurredAt := 0
  payload := .ofList [("preview_hash", marketOrder.previewHash),
    ("requested_quantity", marketOrder.quantity.str), ("symbol", marketOrder.symbol)]
  previousHash := "GENESIS"
  eventHash := ""

lemma unfilled_preview [CanonicalDigest Payload] :
    Unfilled (previewRecord marketOrder 0) := by
  have happly : apply none previewEvent = .ok (previewRecord marketOrder 0) := by
    refine apply_preview (e := previewEvent) rfl rfl rfl ?_ ?_ ?_ <;>
      simp [previewEvent, SortedMap.ofList]
  have hreachable : Reachable (previewRecord marketOrder 0) := by
    refine ⟨[previewEvent], replay_ok_iff.mpr ⟨by simp, ?_⟩⟩
    exact replayFrom_cons_ok.mpr ⟨_, happly, rfl⟩
  refine ⟨hreachable, ?_, ⟨?_, ?_⟩, rfl⟩
  rotate_left
  · rintro a ⟨⟩
  · rintro a ⟨⟩
  exact sound_of_command marketOrder rfl rfl rfl rfl le_rfl le_rfl rfl rfl rfl
    (List.mem_cons_self ..)

/-- An order that the exchange has accepted. -/
lemma exists_accepted : ∃ r, Ready accepted r := by
  let _ := CanonicalDigest.const Payload
  have hpromoted := (unfilled_preview.step (k := .promotionRequested) (by decide)
    (mem_guardStages_promotionRequested _) rfl).2
  have hrequested := (hpromoted.step (k := .humanApprovalRequested) (by decide)
    (List.mem_cons_self ..) rfl).2
  have happroved := (hrequested.step (k := .humanApproved) (by decide)
    (List.mem_cons_self ..) rfl).2
  have hsent := (happroved.step (k := .submitted) (by decide) (List.mem_cons_self ..) rfl).2
  have haccepted := (hsent.step (k := .accepted) (by decide) (List.mem_cons_self ..) rfl).2
  refine ⟨_, haccepted, ?_, rfl, ?_, rfl⟩
  · constructor <;> exact Option.some_ne_none _
  · have hquantity : marketOrder.quantity.toRat = 5 := by norm_num [marketOrder, Decimal.toRat]
    exact congrArg some hquantity

/-- A stage in which an order without fills can be. -/
def CanBeReady (stage : LiveOrderLifecycleStage) : Prop :=
  stage ∉ [draft, previewed, partiallyFilled, filled]

lemma exists_ready {stage : LiveOrderLifecycleStage} (h : CanBeReady stage) :
    ∃ r, Ready stage r := by
  have happroval : ∃ r, Ready humanApprovalRequired r :=
    Ready.target (k := .humanApprovalRequested)
      (Ready.target (k := .promotionRequested) exists_accepted (by decide)
        (by decide)) (by decide) (by decide)
  have happroved : ∃ r, Ready readyForSubmission r :=
    Ready.target (k := .humanApproved) happroval (by decide) (by decide)
  cases stage with
  | draft => exact absurd (by decide) h
  | previewed => exact absurd (by decide) h
  | partiallyFilled => exact absurd (by decide) h
  | filled => exact absurd (by decide) h
  | promotionRequired =>
    exact Ready.target (k := .promotionRequested) exists_accepted
      (by decide) (by decide)
  | humanApprovalRequired => exact happroval
  | readyForSubmission => exact happroved
  | submissionAttemptFailedReviewRequired =>
    exact Ready.target (k := .submissionAttemptFailed) happroved (by decide)
      (by decide)
  | submitted =>
    exact Ready.target (k := .submitted) happroved (by decide) (by decide)
  | accepted => exact exists_accepted
  | cancelRequested =>
    exact Ready.target (k := .cancelRequested) exists_accepted (by decide)
      (by decide)
  | cancelled =>
    exact Ready.target (k := .cancelled) exists_accepted (by decide)
      (by decide)
  | rejected =>
    exact Ready.target (k := .rejected) exists_accepted (by decide)
      (by decide)
  | expired =>
    exact Ready.target (k := .expired) exists_accepted (by decide)
      (by decide)

/-! ### Fills -/

/-- A price of one stays the average price: the arithmetic of a fill at one. -/
def UnitPrice (filled average quantity next : ℚ) : Prop :=
  Context.default.add filled quantity = some next ∧
    Context.default.mul average filled = some filled ∧
    Context.default.mul 1 quantity = some quantity ∧ Context.default.div next next = some 1

instance (filled average quantity next : ℚ) : Decidable (UnitPrice filled average quantity next) :=
  inferInstanceAs (Decidable (_ ∧ _ ∧ _ ∧ _))

/-- A fill at the price one. -/
def fillEvent (r : LiveOrderLifecycleRecord) (isPartial : Bool) (quantity : Decimal) :
    DomainEvent :=
  nextEvent r (if isPartial then .partiallyFilled else .filled)
    (.ofList [("fill_price", (Decimal.mk false 1 0).str), ("fill_quantity", quantity.str)])

/-- The record after the fill. -/
def fillRecord (r : LiveOrderLifecycleRecord) (isPartial : Bool) (total : ℚ) :
    LiveOrderLifecycleRecord :=
  { r with
    stage := if isPartial then partiallyFilled else filled
    filledQuantity := total
    averageFillPrice := 1
    lastSequence := r.lastSequence + 1 }

/-- An order for five units in a stage with fills, bought at one. -/
structure Fillable (r : LiveOrderLifecycleRecord) (filled average : ℚ) : Prop where
  reachable : Reachable r
  sound : Sound r
  evidence : HasEvidence r
  stage : r.stage ∈ [accepted, partiallyFilled]
  requestedQuantity : r.requestedQuantity = some 5
  filledQuantity : r.filledQuantity = filled
  averageFillPrice : r.averageFillPrice = average

/-- The quantity that a fill leads to. -/
def FillTo (isPartial : Bool) (total : ℚ) : Prop :=
  0 < total ∧ if isPartial then total < 5 else total = 5

lemma sound_fillRecord {r : LiveOrderLifecycleRecord} {isPartial : Bool} {total : ℚ}
    (h : Sound r) (htotal : 0 < total) : Sound (fillRecord r isPartial total) :=
  ⟨h.orderId, h.symbol, h.previewHash, h.symbol_normal, h.requestedQuantity, htotal.le,
    zero_le_one, h.authorization, h.executionAllowed, h.liveEligibilityStatus, h.promotionStatus⟩

omit [UnicodeData] in
lemma evidence_fillRecord {r : LiveOrderLifecycleRecord} {isPartial : Bool} {total : ℚ}
    (h : HasEvidence r) (hrequested : r.requestedQuantity = some 5) (htotal : FillTo isPartial total) :
    (fillRecord r isPartial total).validateStageEvidence = .ok () := by
  refine validateStageEvidence_ok_iff.mpr (.inr ⟨fun hb => h.promotedAt hb.2,
    fun hb => h.humanApprovalRequestedAt hb.2, fun hb => h.humanApprovedAt hb.2,
    fun hb => hb.2.elim h.authorizationId h.envelopeSha256, fun hb => h.submissionAttemptedAt hb.2,
    fun hb => h.submittedAt hb.2, fun hb => h.acceptedAt hb.2, fun hb => h.requestedQuantity hb.2,
    fun hb => ?_, fun hb => ?_⟩)
  · have hover : (5 : ℚ) < total := by simpa [fillRecord, hrequested] using hb.2
    have hle : total ≤ 5 := by
      cases isPartial with
      | true => exact le_of_lt (by simpa using htotal.2)
      | false => exact le_of_eq (by simpa using htotal.2)
    exact absurd hover (not_lt.mpr hle)
  · have hne : total ≠ 5 := by simpa [fillRecord, hrequested] using hb.2
    cases isPartial with
    | true => exact nomatch (show partiallyFilled = filled from hb.1)
    | false => exact hne (by simpa using htotal.2)

omit [UnicodeData] in
lemma get?_fillEvent (r : LiveOrderLifecycleRecord) (isPartial : Bool) (quantity : Decimal)
    (name : String) :
    (fillEvent r isPartial quantity).payload.get? name =
      if name = "fill_price" then some (Decimal.mk false 1 0).str
      else if name = "fill_quantity" then some quantity.str else none := by
  have hne : ("fill_price" : String) ≠ "fill_quantity" := by decide
  simp only [fillEvent, nextEvent, SortedMap.ofList]
  split_ifs with hprice hquantity
  · subst hprice
    simp
  · subst hquantity
    simp
  · simp [Ne.symm hprice, Ne.symm hquantity]

lemma continues_fillEvent (r : LiveOrderLifecycleRecord) (isPartial : Bool) (quantity : Decimal) :
    Continues r (fillEvent r isPartial quantity)
      (if isPartial then .partiallyFilled else .filled) where
  aggregateId := rfl
  sequence := rfl
  eventType := rfl
  symbol s hs := by simp [get?_fillEvent] at hs
  previewHash s hs := by simp [get?_fillEvent] at hs
  authorizationId s hs := by simp [get?_fillEvent] at hs
  envelopeSha256 s hs := by simp [get?_fillEvent] at hs

omit [UnicodeData] in
lemma FillTo.le {isPartial : Bool} {total : ℚ} (h : FillTo isPartial total) : total ≤ 5 := by
  cases isPartial with
  | true => exact le_of_lt (by simpa using h.2)
  | false => exact le_of_eq (by simpa using h.2)

lemma Fillable.transition {r : LiveOrderLifecycleRecord} {filled average total : ℚ}
    {isPartial : Bool} {event : DomainEvent} (h : Fillable r filled average)
    (htotal : FillTo isPartial total) (hsequence : event.sequence = r.lastSequence + 1) :
    LiveOrderLifecycleStateMachine.transition event
      { r with
        stage := if isPartial then partiallyFilled else LiveOrderLifecycleStage.filled
        filledQuantity := total
        averageFillPrice := 1 } = .ok (fillRecord r isPartial total) := by
  have hevidence := evidence_fillRecord h.evidence h.requestedQuantity htotal
  have hgeometry : (fillRecord r isPartial total).validateFillGeometry = .ok () := by
    refine raiseIf_of_not fun hbad => hbad.2 ?_
    cases isPartial <;> simp [fillRecord, withFills]
  rw [LiveOrderLifecycleStateMachine.transition, hsequence]
  have hsound : Sound (fillRecord r isPartial total) := sound_fillRecord h.sound htotal.1
  have hcheck := check_of_sound hsound
  rw [hevidence, ok_bind, hgeometry, ok_bind] at hcheck
  exact hcheck

/-- A fill that fits is accepted. -/
lemma Fillable.fill {r : LiveOrderLifecycleRecord} {filled average total : ℚ} {isPartial : Bool}
    {quantity : Decimal} (h : Fillable r filled average) (hpos : 0 < quantity.toRat)
    (hunit : UnitPrice filled average quantity.toRat total) (htotal : FillTo isPartial total) :
    apply (some r) (fillEvent r isPartial quantity) = .ok (fillRecord r isPartial total) := by
  have hquantity : positiveDecimal ((fillEvent r isPartial quantity).payload.get? "fill_quantity")
      "fill_quantity" = .ok quantity := by
    rw [get?_fillEvent, if_neg (by decide), if_pos rfl, positiveDecimal_str,
      if_neg (not_le.mpr hpos)]
  have hprice : positiveDecimal ((fillEvent r isPartial quantity).payload.get? "fill_price")
      "fill_price" = .ok ⟨false, 1, 0⟩ := by
    rw [get?_fillEvent, if_pos rfl, positiveDecimal_str, if_neg (by norm_num [Decimal.toRat])]
  have hone : (Decimal.mk false 1 0).toRat = 1 := by norm_num [Decimal.toRat]
  have hle := htotal.le
  have hfit := htotal.2
  have hfill : applyFill r (fillEvent r isPartial quantity) isPartial =
      .ok (fillRecord r isPartial total) := by
    obtain ⟨hadd, hweighted, hvalue, hdiv⟩ := hunit
    rw [applyFill]
    simp only [hquantity, hprice, ok_bind, h.filledQuantity, h.averageFillPrice, hone, hadd,
      hweighted, hvalue, hdiv, orRaise]
    rw [raiseIf_of_not (by simpa [h.requestedQuantity] using hle), ok_bind,
      raiseIf_of_not (by cases isPartial <;> simp_all [h.requestedQuantity]), ok_bind,
      raiseIf_of_not (by cases isPartial <;> simp_all [h.requestedQuantity]), ok_bind]
    exact h.transition htotal rfl
  have hguard : requireStage r [accepted, partiallyFilled] = .ok () :=
    raiseIf_of_not (not_not.mpr h.stage)
  rw [apply_of_continues (continues_fillEvent r isPartial quantity)]
  cases isPartial with
  | true =>
    show applyNext r _ .partiallyFilled = _
    rw [applyNext, hguard, ok_bind]
    exact hfill
  | false =>
    show applyNext r _ .filled = _
    rw [applyNext, hguard, ok_bind]
    exact hfill

lemma Ready.fillable {r : LiveOrderLifecycleRecord} (h : Ready accepted r) : Fillable r 0 0 where
  reachable := h.1.reachable
  sound := h.1.sound
  evidence := h.2.1
  stage := by rw [h.2.2.1]; decide
  requestedQuantity := h.2.2.2.1
  filledQuantity := h.1.unfilled
  averageFillPrice := h.2.2.2.2

lemma exists_partiallyFilled : ∃ r, Fillable r 1 1 ∧ r.stage = partiallyFilled := by
  obtain ⟨r, hr⟩ := exists_accepted
  have h := hr.fillable
  have hfit : FillTo true 1 := ⟨one_pos, by norm_num⟩
  have hone : 0 < (Decimal.mk false 1 0).toRat := by norm_num [Decimal.toRat]
  have happly := h.fill hone (by decide +kernel) hfit
  refine ⟨fillRecord r true 1, ⟨h.reachable.apply happly, sound_fillRecord h.sound one_pos, ?_, ?_,
    h.requestedQuantity, rfl, rfl⟩, rfl⟩
  · have he := h.evidence
    exact ⟨he.1, he.2, he.3, he.4, he.5, he.6, he.7, he.8, he.9⟩
  · exact List.mem_cons_of_mem _ (List.mem_cons_self ..)

/-! ### Live and dead transitions -/

/-- An event of this kind is accepted in this stage, by some reachable record. -/
def Live (stage : LiveOrderLifecycleStage) (k : LiveOrderLifecycleEvent) : Prop :=
  ∃ r event r', Reachable r ∧ r.stage = stage ∧ ofValue event.eventType = some k ∧
    apply (some r) event = .ok r'

/-- The record accepts an event of this kind and keeps its fills. -/
def Recordable (r : LiveOrderLifecycleRecord) (k : LiveOrderLifecycleEvent) : Prop :=
  ∃ event r', ofValue event.eventType = some k ∧ apply (some r) event = .ok r' ∧
    r'.filledQuantity = r.filledQuantity

/-- The transitions that the stage guard admits and that never happen. -/
def deadTransitions : List (LiveOrderLifecycleStage × LiveOrderLifecycleEvent) :=
  [(draft, .promotionRequested), (partiallyFilled, .promotionRequested),
    (partiallyFilled, .rejected), (partiallyFilled, .expired), (filled, .promotionRequested)]

/-- The events that only an order without fills accepts. -/
lemma unfilled_of_applyNext {s r : LiveOrderLifecycleRecord} {event : DomainEvent}
    {k : LiveOrderLifecycleEvent} (hk : k ∈ [.promotionRequested, .rejected, .expired])
    (h : applyNext s event k = .ok r) : s.filledQuantity = 0 := by
  have htransition : ∃ changed, transition event changed = .ok r ∧
      changed.filledQuantity = s.filledQuantity ∧ changed.stage ∉ withFills := by
    simp only [List.mem_cons, List.not_mem_nil, or_false] at hk
    obtain rfl | rfl | rfl := hk
    · exact ⟨_, h, rfl, by simp [withFills]⟩
    · simp only [applyNext, bind_eq_ok] at h
      obtain ⟨-, -, h⟩ := h
      exact ⟨_, h, rfl, by simp [withFills]⟩
    · simp only [applyNext, bind_eq_ok] at h
      obtain ⟨-, -, h⟩ := h
      exact ⟨_, h, rfl, by simp [withFills]⟩
  obtain ⟨changed, h, hfilled, hstage⟩ := htransition
  obtain ⟨hstage', hfilled', hmem⟩ := transition_ok h
  by_contra hne
  rw [hstage', hfilled', hfilled] at hmem
  exact hstage (hmem hne)

lemma not_live_of_dead [UpperKeepsText] {stage : LiveOrderLifecycleStage}
    {k : LiveOrderLifecycleEvent} (hdead : (stage, k) ∈ deadTransitions) : ¬ Live stage k := by
  rintro ⟨r, event, r', hreachable, hstage, hkind, happly⟩
  obtain ⟨s, last, hlast⟩ := hreachable.last
  obtain ⟨-, hdraft, hfilled⟩ := checked_of_apply hlast
  obtain ⟨k', hk', hnext⟩ := apply_some_ok happly
  obtain rfl := Option.some.inj (hkind.symm.trans hk')
  have hdead' : stage = draft ∨ stage ∈ [partiallyFilled, filled] ∧
      k ∈ [.promotionRequested, .rejected, .expired] := by
    revert hdead
    cases stage <;> cases k <;> decide
  rcases hdead' with rfl | ⟨hmem, hk⟩
  · exact hdraft hstage
  · rw [← hstage] at hmem
    exact hfilled hmem (unfilled_of_applyNext hk hnext)

omit [UnicodeData] in
/-- What a submitted or partly filled order lacks to be cancelled. -/
lemma evidence_cancel_iff {r : LiveOrderLifecycleRecord} {stage : LiveOrderLifecycleStage}
    (hstage : r.stage ∈ [submitted, partiallyFilled]) (h : r.validateStageEvidence = .ok ())
    (hcancel : stage ∈ [cancelRequested, cancelled]) :
    { r with stage := stage }.validateStageEvidence = .ok () ↔
      r.acceptedAt ≠ none ∧ r.requestedQuantity ≠ none := by
  have hopen : stage ≠ draft ∧ stage ≠ submissionAttemptFailedReviewRequired ∧
      stage ∉ [partiallyFilled, filled] ∧ stage ≠ filled ∧ stage ∈ afterAcceptance ∧
      stage ∈ withFills := by
    revert hcancel
    cases stage <;> decide
  have hbefore : r.stage ≠ draft ∧ r.stage ∈ promoted ∧ r.stage ∈ approvalRequested ∧
      r.stage ∈ approved ∧ r.stage ∈ afterSubmission := by
    revert hstage
    cases r.stage <;> decide
  obtain ⟨hdraft, hfailed, hfills, hfilled, haccepted, hquantity⟩ := hopen
  obtain ⟨hdraft', hpromoted, hrequested, happroved, hsent⟩ := hbefore
  obtain ⟨h1, h2, h3, h4, -, h6, -⟩ := (validateStageEvidence_ok_iff.mp h).resolve_left hdraft'
  rw [validateStageEvidence_ok_iff, or_iff_right hdraft]
  constructor
  · rintro ⟨-, -, -, -, -, -, h7, h8, -⟩
    exact ⟨fun hnone => h7 ⟨haccepted, hnone⟩, fun hnone => h8 ⟨hquantity, hnone⟩⟩
  · rintro ⟨h7, h8⟩
    exact ⟨fun hb => h1 ⟨hpromoted, hb.2⟩, fun hb => h2 ⟨hrequested, hb.2⟩,
      fun hb => h3 ⟨happroved, hb.2⟩, fun hb => h4 ⟨happroved, hb.2⟩, fun hb => hfailed hb.1,
      fun hb => h6 ⟨hsent, hb.2⟩, fun hb => h7 hb.2, fun hb => h8 hb.2, fun hb => hfills hb.1,
      fun hb => hfilled hb.1⟩

omit [UnicodeData] in
lemma targetStage_cancel {k : LiveOrderLifecycleEvent} (hk : k ∈ [.cancelRequested, .cancelled]) :
    targetStage k ∈ [cancelRequested, cancelled] := by
  revert hk
  cases k <;> decide

/-- The two kinds of events that cancel. -/
lemma applyNext_cancel {r : LiveOrderLifecycleRecord} {event : DomainEvent}
    {k : LiveOrderLifecycleEvent} (hk : k ∈ [.cancelRequested, .cancelled])
    (hstage : r.stage ∈ [submitted, partiallyFilled]) :
    applyNext r event k = transition event { r with stage := targetStage k } := by
  have hguard : ∀ allowed, r.stage ∈ allowed → requireStage r allowed = .ok () :=
    fun allowed hmem => raiseIf_of_not (not_not.mpr hmem)
  simp only [List.mem_cons, List.not_mem_nil, or_false] at hk hstage
  obtain rfl | rfl := hk
  · rw [applyNext, hguard _ (by rcases hstage with h | h <;> rw [h] <;> decide)]
    rfl
  · rw [applyNext, hguard _ (by rcases hstage with h | h <;> rw [h] <;> decide)]
    rfl

/-- An order can be cancelled if the exchange accepted it. -/
lemma recordable_cancel_iff {r : LiveOrderLifecycleRecord} {k : LiveOrderLifecycleEvent}
    (hchecked : Checked r) (hstage : r.stage ∈ [submitted, partiallyFilled])
    (hk : k ∈ [.cancelRequested, .cancelled]) :
    Recordable r k ↔ r.acceptedAt ≠ none ∧ r.requestedQuantity ≠ none := by
  have htarget := targetStage_cancel hk
  have hsound : Sound { r with stage := targetStage k } := by
    have h := hchecked.1
    exact ⟨h.orderId, h.symbol, h.previewHash, h.symbol_normal, h.requestedQuantity,
      h.filledQuantity, h.averageFillPrice, h.authorization, h.executionAllowed,
      h.liveEligibilityStatus, h.promotionStatus⟩
  rw [← evidence_cancel_iff hstage hchecked.2 htarget]
  constructor
  · rintro ⟨event, r', hkind, happly, -⟩
    obtain ⟨k', hk', hnext⟩ := apply_some_ok happly
    obtain rfl := Option.some.inj (hkind.symm.trans hk')
    rw [applyNext_cancel hk hstage, transition_of_sound hsound, bind_eq_ok] at hnext
    exact hnext.choose_spec.1
  · intro hevidence
    have hgeometry : { r with stage := targetStage k }.validateFillGeometry = .ok () := by
      refine raiseIf_of_not fun hbad => hbad.2 ?_
      show targetStage k ∈ withFills
      revert htarget
      cases k <;> decide
    have hcontinues : Continues r (nextEvent r k (.ofList [])) k :=
      ⟨rfl, rfl, rfl, fun s hs => (nomatch hs), fun s hs => (nomatch hs), fun s hs => (nomatch hs),
        fun s hs => (nomatch hs)⟩
    refine ⟨nextEvent r k (.ofList []),
      { r with stage := targetStage k, lastSequence := r.lastSequence + 1 },
      LiveOrderLifecycleEvent.ofValue_value k, ?_, rfl⟩
    rw [apply_of_continues hcontinues, applyNext_cancel hk hstage, transition_of_sound hsound,
      hevidence, ok_bind, hgeometry, ok_bind]
    rfl

/-- What a reachable record keeps: its checks, and its fills. -/
lemma Reachable.checked [UpperKeepsText] {r : LiveOrderLifecycleRecord} (h : Reachable r) :
    Checked r ∧ (r.stage ∈ [partiallyFilled, filled] → r.filledQuantity ≠ 0) := by
  obtain ⟨s, event, hlast⟩ := h.last
  exact ⟨(checked_of_apply hlast).1, (checked_of_apply hlast).2.2⟩

lemma not_recordable_of_filled {r : LiveOrderLifecycleRecord} {k : LiveOrderLifecycleEvent}
    (hfilled : r.filledQuantity ≠ 0) (hk : k ∈ [.promotionRequested, .rejected, .expired]) :
    ¬ Recordable r k := by
  rintro ⟨event, r', hkind, happly, -⟩
  obtain ⟨k', hk', hnext⟩ := apply_some_ok happly
  obtain rfl := Option.some.inj (hkind.symm.trans hk')
  exact hfilled (unfilled_of_applyNext hk hnext)

/-- A partly filled order can be cancelled, and that is all. -/
lemma partiallyFilled_recordable [UpperKeepsText] {r : LiveOrderLifecycleRecord}
    {k : LiveOrderLifecycleEvent} (h : Reachable r) (hstage : r.stage = partiallyFilled)
    (hk : k ∈ [.cancelled, .expired, .rejected]) : Recordable r k ↔ k = .cancelled := by
  obtain ⟨hchecked, hfilled⟩ := h.checked
  have hne := hfilled (by rw [hstage]; decide)
  constructor
  · intro hrecordable
    by_contra hother
    refine not_recordable_of_filled hne ?_ hrecordable
    revert hk hother
    cases k <;> decide
  · rintro rfl
    have hmem : r.stage ∈ [submitted, partiallyFilled] := by rw [hstage]; decide
    refine (recordable_cancel_iff hchecked hmem (by decide)).mpr ?_
    obtain hdraft | ⟨-, -, -, -, -, -, haccepted, hrequested, -⟩ :=
      validateStageEvidence_ok_iff.mp hchecked.2
    · rw [hstage] at hdraft
      exact nomatch hdraft
    · rw [hstage] at haccepted hrequested
      exact ⟨fun hnone => haccepted ⟨by decide, hnone⟩, fun hnone => hrequested ⟨by decide, hnone⟩⟩

/-- A fill of an accepted or of a partly filled order. -/
lemma live_fill {r : LiveOrderLifecycleRecord} {filled average total : ℚ} {isPartial : Bool}
    {quantity : Decimal} (h : Fillable r filled average) (hpos : 0 < quantity.toRat)
    (hunit : UnitPrice filled average quantity.toRat total) (htotal : FillTo isPartial total) :
    Live r.stage (if isPartial then .partiallyFilled else .filled) :=
  ⟨r, fillEvent r isPartial quantity, _, h.reachable, rfl,
    LiveOrderLifecycleEvent.ofValue_value _, h.fill hpos hunit htotal⟩

lemma live_of_recordable {r : LiveOrderLifecycleRecord} {k : LiveOrderLifecycleEvent}
    (h : Reachable r) (hk : Recordable r k) : Live r.stage k := by
  obtain ⟨event, r', hkind, happly, -⟩ := hk
  exact ⟨r, event, r', h, rfl, hkind, happly⟩

lemma live_of_ready {stage : LiveOrderLifecycleStage} {k : LiveOrderLifecycleEvent}
    (hk : IsPlain k) (hstage : CanBeReady stage) (hguard : stage ∈ guardStages k) :
    Live stage k := by
  obtain ⟨r, hr⟩ := exists_ready hstage
  exact ⟨r, nextEvent r k stepPayload, _, hr.1.reachable, hr.2.2.1,
    LiveOrderLifecycleEvent.ofValue_value k, (hr.next hk hguard).1⟩

lemma live_preview : Live previewed .promotionRequested := by
  let _ := CanonicalDigest.const Payload
  have hstep := unfilled_preview.step (k := .promotionRequested) (by decide)
    (mem_guardStages_promotionRequested _) rfl
  exact ⟨_, _, _, unfilled_preview.reachable, rfl, rfl, hstep.1⟩

instance (stage : LiveOrderLifecycleStage) : Decidable (CanBeReady stage) :=
  inferInstanceAs (Decidable (_ ∉ _))

/-- Every other admitted transition happens. -/
lemma live_of_not_dead [UpperKeepsText] {stage : LiveOrderLifecycleStage}
    {k : LiveOrderLifecycleEvent} (hguard : stage ∈ guardStages k)
    (hdead : (stage, k) ∉ deadTransitions) : Live stage k := by
  have hfive : 0 < (Decimal.mk false 5 0).toRat := by norm_num [Decimal.toRat]
  have hfour : 0 < (Decimal.mk false 4 0).toRat := by norm_num [Decimal.toRat]
  have hone : 0 < (Decimal.mk false 1 0).toRat := by norm_num [Decimal.toRat]
  have hfirst : FillTo true 1 := ⟨one_pos, by norm_num⟩
  have hsecond : FillTo true 2 := ⟨two_pos, by norm_num⟩
  have hall : FillTo false 5 := ⟨by norm_num, by norm_num⟩
  by_cases hready : IsPlain k ∧ CanBeReady stage
  · exact live_of_ready hready.1 hready.2 hguard
  by_cases hpart : stage = partiallyFilled
  · subst hpart
    obtain ⟨r, hr, hstage⟩ := exists_partiallyFilled
    have hchecked := (hr.reachable.checked).1
    have hmem : r.stage ∈ [submitted, partiallyFilled] := by rw [hstage]; decide
    have hcancel : ∀ k' ∈ [LiveOrderLifecycleEvent.cancelRequested, .cancelled],
        Live partiallyFilled k' := fun k' hk' => by
      rw [← hstage]
      exact live_of_recordable hr.reachable ((recordable_cancel_iff hchecked hmem hk').mpr
        ⟨hr.evidence.acceptedAt, hr.evidence.requestedQuantity⟩)
    cases k with
    | partiallyFilled => exact hstage ▸ live_fill hr hone (by decide +kernel) hsecond
    | filled => exact hstage ▸ live_fill hr hfour (by decide +kernel) hall
    | cancelRequested => exact hcancel _ (by decide)
    | cancelled => exact hcancel _ (by decide)
    | _ => exact absurd hguard (by revert hdead; decide)
  by_cases haccepted : stage = accepted
  · subst haccepted
    obtain ⟨r, hr⟩ := exists_accepted
    have hstage : r.stage = accepted := hr.2.2.1
    cases k with
    | partiallyFilled => exact hstage ▸ live_fill hr.fillable hone (by decide +kernel) hfirst
    | filled => exact hstage ▸ live_fill hr.fillable hfive (by decide +kernel) hall
    | previewed => exact absurd hguard (by decide)
    | _ => exact absurd ⟨by decide, by decide⟩ hready
  by_cases hpreview : stage = previewed ∧ k = .promotionRequested
  · rw [hpreview.1, hpreview.2]
    exact live_preview
  · exfalso
    revert hguard hdead hready hpart haccepted hpreview
    cases stage <;> cases k <;> decide

/-- **Dead transitions**: of the transitions that the stage guard admits, all
happen but a promotion from the initial stage or of an order with fills, and the
rejection and the expiry of a partly filled order.  A partly filled order can be
cancelled with its fills, and neither expire nor be rejected; a submitted order can
be cancelled if and only if it was accepted before and has a quantity. -/
theorem transition_live_iff [UpperKeepsText] {stage : LiveOrderLifecycleStage}
    {k : LiveOrderLifecycleEvent} (hguard : stage ∈ guardStages k) :
    (Live stage k ↔ (stage, k) ∉ deadTransitions) ∧
      (∀ r, Reachable r → r.stage = partiallyFilled →
        ∀ t ∈ [LiveOrderLifecycleEvent.cancelled, .expired, .rejected],
          (Recordable r t ↔ t = .cancelled)) ∧
      ∀ r, Reachable r → r.stage = submitted →
        ∀ t ∈ [LiveOrderLifecycleEvent.cancelRequested, .cancelled],
          (Recordable r t ↔ r.acceptedAt ≠ none ∧ r.requestedQuantity ≠ none) := by
  refine ⟨⟨fun hlive hdead => not_live_of_dead hdead hlive, live_of_not_dead hguard⟩,
    fun r hr hstage t ht => partiallyFilled_recordable hr hstage ht, fun r hr hstage t ht => ?_⟩
  exact recordable_cancel_iff hr.checked.1 (by rw [hstage]; decide) ht

end LiveOrderLifecycleStateMachine

/-! ### A partly filled order that expires -/

namespace LiveOrderLifecycleStateMachine

open LiveOrderLifecycleStage
open LiveOrderLifecycleEvent (ofValue)

/-- The payloads of an order for five units, one of them filled. -/
def partialPayload : LiveOrderLifecycleEvent → Payload
  | .previewed =>
      .ofList [("preview_hash", "a1"), ("requested_quantity", "5"), ("symbol", "BTCUSDT")]
  | .partiallyFilled => .ofList [("fill_price", "10"), ("fill_quantity", "1")]
  | k => orderPayload k

/-- The events of that order. -/
def partialEvents (kinds : List LiveOrderLifecycleEvent) : List DomainEvent :=
  letI := CanonicalDigest.const EventContent
  ((buildEvents "o1" (kinds.map fun k => (k, partialPayload k)) (.aware 0)).toOption).getD []

/-- An order from its preview to its submission. -/
def sentOrder : List LiveOrderLifecycleEvent :=
  [.previewed, .promotionRequested, .humanApprovalRequested, .humanApproved, .submitted]

/-- The submitted order is accepted and one unit is filled. -/
def partialOrder : List LiveOrderLifecycleEvent := sentOrder ++ [.accepted, .partiallyFilled]

/-- The order is partly filled after its events. -/
lemma partialOrder_replays :
    ∃ r, replay (partialEvents partialOrder) = .ok r ∧ r.stage = partiallyFilled := by
  obtain ⟨r, hr, hstage⟩ := exists_ok_of_any (x := replay (partialEvents partialOrder))
    (p := fun r => r.stage = partiallyFilled) (by decide +kernel)
  exact ⟨r, hr, of_decide_eq_true hstage⟩

/-- The submitted order is not accepted yet. -/
lemma sentOrder_replays :
    ∃ r, replay (partialEvents sentOrder) = .ok r ∧ r.stage = submitted ∧ r.acceptedAt = none := by
  obtain ⟨r, hr, hsent⟩ := exists_ok_of_any (x := replay (partialEvents sentOrder))
    (p := fun r => r.stage = submitted ∧ r.acceptedAt = none) (by decide +kernel)
  exact ⟨r, hr, of_decide_eq_true hsent⟩

/-- The expiry of an accepted order happens, and this order, partly filled, can be
cancelled. -/
theorem accepted_order_expires :
    Live accepted .expired ∧ ∃ r, replay (partialEvents partialOrder) = .ok r ∧
      Recordable r .cancelled := by
  obtain ⟨r, hr, hstage⟩ := partialOrder_replays
  have hguard : accepted ∈ guardStages .expired := by decide
  obtain ⟨hlive, hpart, -⟩ := transition_live_iff hguard
  exact ⟨hlive.mpr (by decide), r, hr, (hpart r ⟨_, hr⟩ hstage _ (by decide)).mpr rfl⟩

/-- The guard lets a partly filled order expire and a submitted order be cancelled,
and the constructor refuses both records. -/
theorem partial_order_never_expires :
    partiallyFilled ∈ guardStages .expired ∧ submitted ∈ guardStages .cancelled ∧
      (∃ r, replay (partialEvents partialOrder) = .ok r ∧ r.stage = partiallyFilled ∧
        ¬ Recordable r .expired ∧ ¬ Recordable r .rejected) ∧
      replay (partialEvents (partialOrder ++ [.expired])) =
        .error (.value "fill evidence is only allowed after submission") ∧
      (∃ r, replay (partialEvents sentOrder) = .ok r ∧ r.stage = submitted ∧
        ¬ Recordable r .cancelRequested ∧ ¬ Recordable r .cancelled) ∧
      replay (partialEvents (sentOrder ++ [.cancelled])) =
        .error (.value "accepted or terminal live orders require acceptance evidence") := by
  obtain ⟨r, hr, hstage⟩ := partialOrder_replays
  obtain ⟨s, hs, hsent, hunaccepted⟩ := sentOrder_replays
  have hfilled := Reachable.checked ⟨_, hr⟩ |>.2 (by rw [hstage]; decide)
  have hcancel : ∀ k ∈ [LiveOrderLifecycleEvent.cancelRequested, .cancelled],
      ¬ Recordable s k := fun k hk hrecordable =>
    ((recordable_cancel_iff (Reachable.checked ⟨_, hs⟩).1 (by rw [hsent]; decide) hk).mp
      hrecordable).1 hunaccepted
  exact ⟨by decide, by decide, ⟨r, hr, hstage, not_recordable_of_filled hfilled (by decide),
    not_recordable_of_filled hfilled (by decide)⟩, by decide +kernel,
    ⟨s, hs, hsent, hcancel _ (by decide), hcancel _ (by decide)⟩, by decide +kernel⟩

end LiveOrderLifecycleStateMachine

end Ai4Binance

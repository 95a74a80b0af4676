/-
Whole runs of the live-order lifecycle machine.

Every event but one names the stages it may start from, and none of these is a
terminal stage.  `PROMOTION_REQUESTED` names none: it takes a rejected, expired,
cancelled or failed order without fills back to `PROMOTION_REQUIRED`, from where
it is approved and submitted again.

* `isTerminal`, `beforeSubmission`: the stages at the two ends of a run;
* `promotionsBeforeSubmission`: the runs in which promotion is requested only
  before the order is submitted;
* `GuardedStep`: one accepted event of such a run;
* `terminal_stage_is_final`: in these runs a terminal stage is the last one and
  the order is submitted at most once;
* `reopened_order_is_submitted_twice`: a run outside them.
-/
import Ai4Binance.Execution.LiveOrderLifecycle
import Ai4Binance.Lib.Run

open Text Check

namespace Ai4Binance

namespace LiveOrderLifecycleStage

/-- The stages a finished order is in. -/
def isTerminal : LiveOrderLifecycleStage → Bool
  | filled | cancelled | rejected | expired | submissionAttemptFailedReviewRequired => true
  | _ => false

/-- The stages of an order that has not been submitted. -/
def beforeSubmission : LiveOrderLifecycleStage → Bool
  | draft | previewed | promotionRequired | humanApprovalRequired | readyForSubmission => true
  | _ => false

lemma not_isTerminal_of_beforeSubmission {stage : LiveOrderLifecycleStage}
    (h : stage.beforeSubmission) : stage.isTerminal = false := by
  cases stage <;> first | rfl | exact absurd h (by decide)

end LiveOrderLifecycleStage

namespace LiveOrderLifecycleStateMachine

open LiveOrderLifecycleStage
open LiveOrderLifecycleEvent (ofValue value_of_ofValue ofValue_value)

/-! ### One accepted event -/

/-- No event but a promotion request starts from a terminal stage. -/
lemma not_isTerminal_of_mem_guardStages {k : LiveOrderLifecycleEvent}
    {stage : LiveOrderLifecycleStage} (hk : k ≠ .promotionRequested) (h : stage ∈ guardStages k) :
    stage.isTerminal = false := by
  cases k <;> cases stage <;> simp_all [guardStages, isTerminal]

/-- No event but a promotion request leads back before the submission. -/
lemma beforeSubmission_of_target {k : LiveOrderLifecycleEvent} {stage : LiveOrderLifecycleStage}
    (hk : k ≠ .promotionRequested) (h : stage ∈ guardStages k)
    (ht : (targetStage k).beforeSubmission) : stage.beforeSubmission := by
  cases k <;> cases stage <;> simp_all [guardStages, targetStage, beforeSubmission]

section Runs

variable [UnicodeData]

/-- One accepted event, where promotion is requested only before the
submission. -/
def GuardedStep (state : Option LiveOrderLifecycleRecord) (event : DomainEvent)
    (next : Option LiveOrderLifecycleRecord) : Prop :=
  ∃ r, apply state event = .ok r ∧ next = some r ∧
    ∀ s, state = some s → event.eventType = LiveOrderLifecycleEvent.promotionRequested.value →
      s.stage.beforeSubmission

/-- The order of a state has not been submitted. -/
def NotSubmitted (state : Option LiveOrderLifecycleRecord) : Prop :=
  ∀ s, state = some s → s.stage.beforeSubmission

/-- A terminal record accepts at most a promotion request, and only without
fills. -/
lemma terminal_accepts_promotion_only {s r : LiveOrderLifecycleRecord} {event : DomainEvent}
    (hs : s.stage.isTerminal) (h : apply (some s) event = .ok r) :
    event.eventType = LiveOrderLifecycleEvent.promotionRequested.value ∧ s.filledQuantity = 0 := by
  obtain ⟨k, hk, hnext⟩ := apply_some_ok h
  obtain ⟨hguard, -, hfill⟩ := applyNext_ok hnext
  by_cases hp : k = .promotionRequested
  · exact ⟨by rw [← value_of_ofValue hk, hp], hfill hp⟩
  · rw [not_isTerminal_of_mem_guardStages hp hguard] at hs
    exact absurd hs (by decide)

/-- A guarded step does not leave a terminal stage. -/
lemma GuardedStep.not_isTerminal {s : LiveOrderLifecycleRecord} {event : DomainEvent}
    {next : Option LiveOrderLifecycleRecord} (h : GuardedStep (some s) event next) :
    s.stage.isTerminal = false := by
  obtain ⟨r, happ, -, hpromo⟩ := h
  by_contra hs
  have hterm : s.stage.isTerminal = true := by simpa using hs
  have hb := hpromo s rfl (terminal_accepts_promotion_only hterm happ).1
  exact hs (not_isTerminal_of_beforeSubmission hb)

/-- A submission closes the part of the run before it. -/
lemma GuardedStep.submitted_fires {state next : Option LiveOrderLifecycleRecord}
    {event : DomainEvent} (h : GuardedStep state event next)
    (he : event.eventType = LiveOrderLifecycleEvent.submitted.value) :
    NotSubmitted state ∧ ¬ NotSubmitted next := by
  obtain ⟨r, happ, rfl, -⟩ := h
  cases state with
  | none =>
      have hk := (apply_none_ok happ).1
      rw [he, ofValue_value] at hk
      exact absurd hk (by decide)
  | some s =>
      obtain ⟨k, hk, hnext⟩ := apply_some_ok happ
      rw [he, ofValue_value] at hk
      obtain rfl := Option.some.inj hk
      obtain ⟨hguard, htarget, -⟩ := applyNext_ok hnext
      refine ⟨fun s' hs' => ?_, fun hn => ?_⟩
      · obtain rfl := Option.some.inj hs'
        rw [List.mem_singleton.mp hguard]
        rfl
      · have hb := hn r rfl
        rw [htarget] at hb
        exact absurd hb (by decide)

/-- No guarded step leads back before the submission. -/
lemma GuardedStep.notSubmitted_back {state next : Option LiveOrderLifecycleRecord}
    {event : DomainEvent} (h : GuardedStep state event next) (hn : NotSubmitted next) :
    NotSubmitted state := by
  rintro s rfl
  obtain ⟨r, happ, rfl, hpromo⟩ := h
  obtain ⟨k, hk, hnext⟩ := apply_some_ok happ
  obtain ⟨hguard, htarget, -⟩ := applyNext_ok hnext
  by_cases hp : k = .promotionRequested
  · exact hpromo s rfl (by rw [← value_of_ofValue hk, hp])
  · have hb := hn r rfl
    rw [htarget] at hb
    exact beforeSubmission_of_target hp hguard hb

/-! ### Runs -/

/-- Promotion is requested only while the order has not been submitted. -/
def promotionsBeforeSubmission (state : Option LiveOrderLifecycleRecord) :
    List DomainEvent → Bool
  | [] => true
  | event :: rest =>
      (event.eventType ≠ LiveOrderLifecycleEvent.promotionRequested.value ||
        state.all (·.stage.beforeSubmission)) &&
      match apply state event with
      | .ok r => promotionsBeforeSubmission (some r) rest
      | .error _ => true

/-- A replayed list of events is a run of guarded steps. -/
lemma run_of_replayFrom {events : List DomainEvent} {state next : Option LiveOrderLifecycleRecord}
    (h : replayFrom state events = .ok next) (hguard : promotionsBeforeSubmission state events) :
    Run GuardedStep state events next := by
  induction events generalizing state with
  | nil =>
      obtain rfl : state = next := Except.ok.inj h
      exact .nil state
  | cons event rest ih =>
      obtain ⟨r, happ, hrest⟩ := replayFrom_cons_ok.mp h
      simp only [promotionsBeforeSubmission, happ, Bool.and_eq_true, Bool.or_eq_true,
        decide_eq_true_eq] at hguard
      refine .cons (t := some r) ⟨r, happ, rfl, ?_⟩ (ih hrest hguard.2)
      rintro s rfl hp
      simpa [hp] using hguard.1

lemma replayFrom_of_run {events : List DomainEvent} {state next : Option LiveOrderLifecycleRecord}
    (h : Run GuardedStep state events next) : replayFrom state events = .ok next := by
  induction h with
  | nil _ => rfl
  | cons hstep _ ih =>
      obtain ⟨r, happ, rfl, -⟩ := hstep
      exact replayFrom_cons_ok.mpr ⟨r, happ, ih⟩

/-- **A terminal stage is final.**  In every accepted run in which promotion is
requested only before the submission, no event follows a record in a terminal
stage, and the order is submitted at most once.  Whatever the run, the only
event a terminal record accepts is a promotion request, and only without
fills. -/
theorem terminal_stage_is_final {events : List DomainEvent} {r : LiveOrderLifecycleRecord}
    (h : replay events = .ok r) (hguard : promotionsBeforeSubmission none events) :
    (∀ pre event post s, events = pre ++ event :: post → replay pre = .ok s →
      s.stage.isTerminal = false) ∧
    events.countP (·.eventType = LiveOrderLifecycleEvent.submitted.value) ≤ 1 ∧
    (r.stage.isTerminal → ∀ event t, apply (some r) event = .ok t →
      event.eventType = LiveOrderLifecycleEvent.promotionRequested.value ∧
        r.filledQuantity = 0) := by
  have hrun := run_of_replayFrom (replay_ok_iff.mp h).2 hguard
  refine ⟨?_, ?_, fun hr event t => terminal_accepts_promotion_only hr⟩
  · rintro pre event post s rfl hpre
    obtain ⟨m, hm, hrest⟩ := run_append_iff.mp hrun
    obtain ⟨n, hstep, -⟩ := run_cons_iff.mp hrest
    -- the run and the replay of the same events reach the same record
    obtain rfl : some s = m :=
      Except.ok.inj ((replay_ok_iff.mp hpre).2.symm.trans (replayFrom_of_run hm))
    exact hstep.not_isTerminal
  · refine (hrun.countP_le_one NotSubmitted ?_ ?_).1
    · exact fun hstep he => hstep.submitted_fires (of_decide_eq_true he)
    · exact fun hstep => hstep.notSubmitted_back

end Runs

/-! ### A run that submits twice -/

/-- The payloads of the example order. -/
def orderPayload : LiveOrderLifecycleEvent → Payload
  | .previewed => .ofList [("symbol", "BTCUSDT"), ("preview_hash", "a1")]
  | .humanApproved =>
      .ofList [("approval_id", "p"), ("authorization_id", "q"),
        ("authorization_envelope_sha256", "b2")]
  | _ => .empty

/-- An order from its preview to its rejection. -/
def rejectedOrder : List LiveOrderLifecycleEvent :=
  [.previewed, .promotionRequested, .humanApprovalRequested, .humanApproved, .submitted, .rejected]

/-- The events of the example order. -/
def orderEvents (kinds : List LiveOrderLifecycleEvent) : List DomainEvent :=
  letI := CanonicalDigest.const EventContent
  ((buildEvents "o1" (kinds.map fun k => (k, orderPayload k)) (.aware 0)).toOption).getD []

/-- The rejected order is promoted, approved and submitted once more. -/
def reopenedOrder : List LiveOrderLifecycleEvent :=
  rejectedOrder ++ [.promotionRequested, .humanApprovalRequested, .humanApproved, .submitted]

/-- The rejected order is a run that ends in its terminal stage, submitted
once. -/
theorem rejectedOrder_is_final :
    ∃ r, replay (orderEvents rejectedOrder) = .ok r ∧ r.stage.isTerminal ∧
      (orderEvents rejectedOrder).countP
        (·.eventType = LiveOrderLifecycleEvent.submitted.value) ≤ 1 := by
  have hstage : (replay (orderEvents rejectedOrder)).toOption.map (·.stage) = some .rejected := by
    decide +kernel
  cases h : replay (orderEvents rejectedOrder) with
  | error e => simp [h, Except.toOption] at hstage
  | ok r =>
      have hr : r.stage = .rejected := by simpa [h, Except.toOption] using hstage
      exact ⟨r, rfl, by rw [hr]; rfl, (terminal_stage_is_final h (by decide +kernel)).2.1⟩

/-- From `REJECTED` the machine accepts a promotion request, and the same order
is submitted a second time. -/
theorem reopened_order_is_submitted_twice :
    ((replay ((orderEvents reopenedOrder).take 6)).toOption.map (·.stage) = some .rejected) ∧
      ((replay (orderEvents reopenedOrder)).toOption.map (·.stage) = some .submitted) ∧
      (orderEvents reopenedOrder).countP
        (·.eventType = LiveOrderLifecycleEvent.submitted.value) = 2 := by
  decide +kernel

end LiveOrderLifecycleStateMachine

end Ai4Binance

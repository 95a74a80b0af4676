/-
The Spot order machine (`execution/order_state.py`).

An order is rebuilt from its events.  Each event has a guard on the current status;
a fill moreover adds to the filled quantity and to the average price, and computes
the next status from them.

* `DecimalOps`: the arithmetic of a machine, of a context or exact;
* `OrderState`, `OrderEventType`;
* `apply`, `replay`: the machine;
* `fillOf`: the fill an event reports;
* `apply_some_cases`: what an accepted event does.
-/
import Ai4Binance.Execution.LiveOrderLifecycle
import Ai4Binance.Virtual.Request

open Text Check

namespace Ai4Binance

/-! ### Arithmetic -/

/-- The decimal operations of a machine; there is no result where the context
signals. -/
structure DecimalOps where
  add : ℚ → ℚ → Option ℚ
  sub : ℚ → ℚ → Option ℚ
  mul : ℚ → ℚ → Option ℚ
  div : ℚ → ℚ → Option ℚ

/-- The operations of a context. -/
def DecimalOps.ofContext (c : Context) : DecimalOps := ⟨c.add, c.sub, c.mul, c.div⟩

/-- Exact operations. -/
def DecimalOps.exact : DecimalOps where
  add x y := some (x + y)
  sub x y := some (x - y)
  mul x y := some (x * y)
  div x y := if y = 0 then none else some (x / y)

/-! ### Orders and events -/

/-- `OrderStatus`. -/
inductive OrderStatus where
  | submitted
  | accepted
  | partiallyFilled
  | pendingCancel
  | filled
  | cancelled
  | rejected
  deriving DecidableEq, Repr

/-- `OrderState`. -/
structure OrderState where
  orderId : String
  symbol : String
  action : Action
  requestedQuantity : ℚ
  filledQuantity : ℚ
  averageFillPrice : ℚ
  status : OrderStatus
  lastSequence : ℕ
  deriving DecidableEq

/-- The event types of an order. -/
inductive OrderEventType where
  | submitted
  | accepted
  | rejected
  | cancelled
  | cancelRequested
  | partiallyFilled
  | filled
  deriving DecidableEq, Repr

namespace OrderEventType

/-- The text of an event type. -/
def value : OrderEventType → String
  | submitted => "ORDER_SUBMITTED"
  | accepted => "ORDER_ACCEPTED"
  | rejected => "ORDER_REJECTED"
  | cancelled => "ORDER_CANCELLED"
  | cancelRequested => "ORDER_CANCEL_REQUESTED"
  | partiallyFilled => "ORDER_PARTIALLY_FILLED"
  | filled => "ORDER_FILLED"

/-- The event type of a text. -/
def ofValue (s : String) : Option OrderEventType :=
  [submitted, accepted, rejected, cancelled, cancelRequested, partiallyFilled, filled].find?
    (·.value = s)

lemma ofValue_value (k : OrderEventType) : ofValue k.value = some k := by
  cases k <;> decide

lemma value_of_ofValue {s : String} {k : OrderEventType} (h : ofValue s = some k) :
    k.value = s := by
  simpa using List.find?_some h

end OrderEventType

/-- `Action(value)`. -/
def Action.ofValue (s : String) : Option Action :=
  if s = "BUY" then some .buy
  else if s = "SELL" then some .sell
  else if s = "HOLD" then some .hold
  else if s = "WAIT" then some .wait
  else if s = "NO_TRADE" then some .noTrade
  else none

/-! ### The machine -/

namespace OrderStateMachine

variable [UnicodeData]

/-- `_positive_decimal`: a missing value is the empty text. -/
def positiveDecimal (value : Option String) (name : String) : Except PyError Decimal :=
  Ai4Binance.positiveDecimal (some (value.getD "")) name

/-- `apply` on the first event. -/
def applyFirst (event : DomainEvent) : Except PyError OrderState := do
  raiseIf (event.eventType ≠ OrderEventType.submitted.value)
    (.value "first order event must be ORDER_SUBMITTED")
  let quantity ← positiveDecimal (event.payload.get? "quantity") "quantity"
  let action ← orRaise (Action.ofValue ((event.payload.get? "action").getD ""))
    (.value "order action is invalid")
  let symbol := upper (strip ((event.payload.get? "symbol").getD ""))
  raiseIf (symbol = "") (.value "order symbol is required")
  pure
    { orderId := event.aggregateId
      symbol
      action
      requestedQuantity := quantity.toRat
      filledQuantity := 0
      averageFillPrice := 0
      status := .submitted
      lastSequence := event.sequence }

/-- `_validate_identity_and_sequence`. -/
def validateIdentityAndSequence (state : OrderState) (event : DomainEvent) :
    Except PyError Unit := do
  raiseIf (event.aggregateId ≠ state.orderId) (.value "order event aggregate identity mismatch")
  raiseIf (event.sequence ≠ state.lastSequence + 1)
    (.value "order event sequence is not contiguous")

/-- `_require_status`. -/
def requireStatus (state : OrderState) (allowed : List OrderStatus) : Except PyError Unit :=
  raiseIf (state.status ∉ allowed) (.value "illegal order state transition")

/-- `_with_status`. -/
def withStatus (state : OrderState) (status : OrderStatus) (sequence : ℕ) : OrderState :=
  { state with status, lastSequence := sequence }

/-- `_apply_fill`, for an event that says whether the order is filled. -/
def applyFill (ops : DecimalOps) (state : OrderState) (event : DomainEvent) (isFilled : Bool) :
    Except PyError OrderState := do
  requireStatus state [.accepted, .partiallyFilled, .pendingCancel]
  let quantity ← positiveDecimal (event.payload.get? "fill_quantity") "fill_quantity"
  let price ← positiveDecimal (event.payload.get? "fill_price") "fill_price"
  let newQuantity ← orRaise (ops.add state.filledQuantity quantity.toRat) .decimal
  raiseIf (state.requestedQuantity < newQuantity) (.value "order fill exceeds requested quantity")
  raiseIf (isFilled ≠ decide (newQuantity = state.requestedQuantity))
    (.value "fill event type and cumulative quantity disagree")
  let previousValue ← orRaise (ops.mul state.averageFillPrice state.filledQuantity) .decimal
  let fillValue ← orRaise (ops.mul price.toRat quantity.toRat) .decimal
  let totalValue ← orRaise (ops.add previousValue fillValue) .decimal
  let average ← orRaise (ops.div totalValue newQuantity) .decimal
  pure
    { state with
      filledQuantity := newQuantity
      averageFillPrice := average
      status := if newQuantity = state.requestedQuantity then .filled else .partiallyFilled
      lastSequence := event.sequence }

/-- `apply` on a later event, once its identity and sequence agree. -/
def applyNext (ops : DecimalOps) (state : OrderState) (event : DomainEvent) :
    Option OrderEventType → Except PyError OrderState
  | some .accepted => do
      requireStatus state [.submitted]
      pure (withStatus state .accepted event.sequence)
  | some .rejected => do
      requireStatus state [.submitted]
      pure (withStatus state .rejected event.sequence)
  | some .cancelled => do
      requireStatus state [.submitted, .accepted, .partiallyFilled, .pendingCancel]
      pure (withStatus state .cancelled event.sequence)
  | some .cancelRequested => do
      requireStatus state [.accepted, .partiallyFilled]
      pure (withStatus state .pendingCancel event.sequence)
  | some .partiallyFilled => applyFill ops state event false
  | some .filled => applyFill ops state event true
  | some .submitted | none => throw (.value "unsupported order event type")

/-- `apply`. -/
def apply (ops : DecimalOps) (state : Option OrderState) (event : DomainEvent) :
    Except PyError OrderState :=
  match state with
  | none => applyFirst event
  | some state => do
      validateIdentityAndSequence state event
      applyNext ops state event (OrderEventType.ofValue event.eventType)

/-- The loop of `replay`. -/
def replayFrom (ops : DecimalOps) (state : Option OrderState) :
    List DomainEvent → Except PyError (Option OrderState)
  | [] => .ok state
  | event :: rest => do
      let next ← apply ops state event
      replayFrom ops (some next) rest

/-- `replay`. -/
def replay (ops : DecimalOps) (events : List DomainEvent) : Except PyError OrderState := do
  raiseIf (events = []) (.value "order replay requires events")
  let state ← replayFrom ops none events
  orRaise state (.runtime "order replay did not produce state")

/-! ### Accepted events -/

/-- The quantity and the price an event reports. -/
def fillOf (event : DomainEvent) : Option (ℚ × ℚ) :=
  if OrderEventType.ofValue event.eventType ∈
      [some OrderEventType.partiallyFilled, some OrderEventType.filled] then do
    let quantity ← (positiveDecimal (event.payload.get? "fill_quantity") "fill_quantity").toOption
    let price ← (positiveDecimal (event.payload.get? "fill_price") "fill_price").toOption
    return (quantity.toRat, price.toRat)
  else none

/-- What an accepted fill does. -/
structure FillStep (ops : DecimalOps) (s t : OrderState) (quantity price : ℚ) : Prop where
  status_mem : s.status ∈ [.accepted, .partiallyFilled, .pendingCancel]
  quantity_pos : 0 < quantity
  price_pos : 0 < price
  filled_eq : ops.add s.filledQuantity quantity = some t.filledQuantity
  filled_le : t.filledQuantity ≤ s.requestedQuantity
  average_eq : ∃ previous value total, ops.mul s.averageFillPrice s.filledQuantity = some previous ∧
    ops.mul price quantity = some value ∧ ops.add previous value = some total ∧
    ops.div total t.filledQuantity = some t.averageFillPrice
  status_eq : t.status =
    if t.filledQuantity = s.requestedQuantity then .filled else .partiallyFilled

/-- What an accepted event does: it leads from one status to another, or it is a
fill. -/
inductive Step (ops : DecimalOps) (s t : OrderState) (event : DomainEvent) : Prop
  | status (k : OrderEventType) (status : OrderStatus)
      (hk : OrderEventType.ofValue event.eventType = some k)
      (hmem : (k, s.status, status) ∈ [(.accepted, .submitted, .accepted),
        (.rejected, .submitted, .rejected), (.cancelled, .submitted, .cancelled),
        (.cancelled, .accepted, .cancelled), (.cancelled, .partiallyFilled, .cancelled),
        (.cancelled, .pendingCancel, .cancelled), (.cancelRequested, .accepted, .pendingCancel),
        (.cancelRequested, .partiallyFilled, .pendingCancel)])
      (ht : t = withStatus s status event.sequence)
  | fill (isFilled : Bool) (quantity price : ℚ)
      (hk : OrderEventType.ofValue event.eventType =
        some (if isFilled then .filled else .partiallyFilled))
      (hfill : fillOf event = some (quantity, price)) (hstep : FillStep ops s t quantity price)
      (htype : isFilled = decide (t.filledQuantity = s.requestedQuantity))
      (hsame : t.orderId = s.orderId ∧ t.symbol = s.symbol ∧ t.action = s.action ∧
        t.requestedQuantity = s.requestedQuantity ∧ t.lastSequence = event.sequence)

lemma positiveDecimal_pos {value : Option String} {name : String} {d : Decimal}
    (h : positiveDecimal value name = .ok d) : 0 < d.toRat := by
  rw [positiveDecimal, Ai4Binance.positiveDecimal] at h
  split at h
  · cases h
  · split_ifs at h with hle
    obtain rfl := Except.ok.inj h
    exact not_le.mp hle
  · cases h

lemma applyFill_step {ops : DecimalOps} {s t : OrderState} {event : DomainEvent} (isFilled : Bool)
    (hk : OrderEventType.ofValue event.eventType =
      some (if isFilled then .filled else .partiallyFilled))
    (h : applyFill ops s event isFilled = .ok t) : Step ops s t event := by
  simp only [applyFill, requireStatus, bind_eq_ok, raiseIf_eq_ok, orRaise_eq_ok, pure_eq_ok,
    not_not] at h
  obtain ⟨_, hstatus, q, hq, p, hp, n, hn, _, hle, _, htype, v, hv, w, hw, u, hu, a, ha, rfl⟩ := h
  have hfill : fillOf event = some (q.toRat, p.toRat) := by
    have hmem : OrderEventType.ofValue event.eventType ∈
        [some OrderEventType.partiallyFilled, some OrderEventType.filled] := by
      rw [hk]
      cases isFilled <;> decide
    rw [fillOf, if_pos hmem, hq, hp]
    rfl
  exact .fill isFilled q.toRat p.toRat hk hfill
    ⟨hstatus, positiveDecimal_pos hq, positiveDecimal_pos hp, hn, not_lt.mp hle,
      ⟨v, w, u, hv, hw, hu, ha⟩, rfl⟩ htype ⟨rfl, rfl, rfl, rfl, rfl⟩

/-- **Inversion of an accepted event.** -/
theorem apply_some_cases {ops : DecimalOps} {s t : OrderState} {event : DomainEvent}
    (h : apply ops (some s) event = .ok t) :
    event.aggregateId = s.orderId ∧ event.sequence = s.lastSequence + 1 ∧ Step ops s t event := by
  simp only [apply, validateIdentityAndSequence, bind_eq_ok, raiseIf_eq_ok, not_not] at h
  obtain ⟨_, ⟨_, haggregate, hsequence⟩, h⟩ := h
  refine ⟨haggregate, hsequence, ?_⟩
  cases hk : OrderEventType.ofValue event.eventType with
  | none =>
    rw [hk] at h
    exact absurd h throw_ne_ok.mp
  | some k =>
    rw [hk] at h
    cases k with
    | submitted => exact absurd h throw_ne_ok.mp
    | accepted =>
      simp only [applyNext, requireStatus, bind_eq_ok, raiseIf_eq_ok, not_not, pure_eq_ok,
        List.mem_singleton] at h
      obtain ⟨_, hstatus, rfl⟩ := h
      exact .status .accepted .accepted hk (by simp [hstatus]) rfl
    | rejected =>
      simp only [applyNext, requireStatus, bind_eq_ok, raiseIf_eq_ok, not_not, pure_eq_ok,
        List.mem_singleton] at h
      obtain ⟨_, hstatus, rfl⟩ := h
      exact .status .rejected .rejected hk (by simp [hstatus]) rfl
    | cancelled =>
      simp only [applyNext, requireStatus, bind_eq_ok, raiseIf_eq_ok, not_not, pure_eq_ok] at h
      obtain ⟨_, hstatus, rfl⟩ := h
      refine .status .cancelled .cancelled hk ?_ rfl
      simp only [List.mem_cons, List.not_mem_nil, or_false] at hstatus
      rcases hstatus with hs | hs | hs | hs <;> simp [hs]
    | cancelRequested =>
      simp only [applyNext, requireStatus, bind_eq_ok, raiseIf_eq_ok, not_not, pure_eq_ok] at h
      obtain ⟨_, hstatus, rfl⟩ := h
      refine .status .cancelRequested .pendingCancel hk ?_ rfl
      simp only [List.mem_cons, List.not_mem_nil, or_false] at hstatus
      rcases hstatus with hs | hs <;> simp [hs]
    | partiallyFilled => exact applyFill_step false hk h
    | filled => exact applyFill_step true hk h

/-! ### Replays -/

@[simp] lemma replayFrom_cons_ok {ops : DecimalOps} {state s : Option OrderState}
    {event : DomainEvent} {rest : List DomainEvent} :
    replayFrom ops state (event :: rest) = .ok s ↔
      ∃ r, apply ops state event = .ok r ∧ replayFrom ops (some r) rest = .ok s := by
  rw [replayFrom, bind_eq_ok]

lemma replayFrom_append_ok {ops : DecimalOps} {state s : Option OrderState}
    {l l' : List DomainEvent} :
    replayFrom ops state (l ++ l') = .ok s ↔
      ∃ m, replayFrom ops state l = .ok m ∧ replayFrom ops m l' = .ok s := by
  induction l generalizing state with
  | nil => simp [replayFrom]
  | cons event l ih =>
    simp only [List.cons_append, replayFrom_cons_ok, ih]
    constructor
    · rintro ⟨r, hr, m, hm, hs⟩
      exact ⟨m, ⟨r, hr, hm⟩, hs⟩
    · rintro ⟨m, ⟨r, hr, hm⟩, hs⟩
      exact ⟨r, hr, m, hm, hs⟩

/-- A replay of some events ends in a state. -/
lemma replayFrom_some {ops : DecimalOps} {s : OrderState} {m : Option OrderState}
    {l : List DomainEvent} (h : replayFrom ops (some s) l = .ok m) : ∃ t, m = some t := by
  induction l generalizing s with
  | nil => exact ⟨s, (Except.ok.inj h).symm⟩
  | cons event l ih =>
    obtain ⟨r, -, hr⟩ := replayFrom_cons_ok.mp h
    exact ih hr

lemma replay_ok_iff {ops : DecimalOps} {events : List DomainEvent} {t : OrderState} :
    replay ops events = .ok t ↔ events ≠ [] ∧ replayFrom ops none events = .ok (some t) := by
  simp only [replay, bind_eq_ok, raiseIf_eq_ok, orRaise_eq_ok]
  constructor
  · rintro ⟨-, hne, s, hs, rfl⟩
    exact ⟨hne, hs⟩
  · rintro ⟨hne, hs⟩
    exact ⟨(), hne, some t, hs, rfl⟩

end OrderStateMachine

end Ai4Binance

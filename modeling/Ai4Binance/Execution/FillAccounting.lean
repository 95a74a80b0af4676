/-
Fill accounting: in both order machines the filled quantity, the average price and
the status always agree with the fills that were accepted.

Averages are computed fill by fill.  In exact arithmetic the average times the
filled quantity is the value of the fills (`FillAccount.fill`), and everything else
follows the guards: no fill goes beyond the requested quantity, and the one that
reaches it closes the order.  An order takes its first number from its first event.

* `FillAccount`: quantity and average of a list of fills;
* `OrderState.Accounted`, `LiveOrderLifecycleRecord.Accounted`: the account of an
  order, kept by every accepted event;
* `replayWith`: the live machine with the arithmetic as a parameter;
* `fills_are_accounted`: every record of every accepted run.
-/
import Ai4Binance.Execution.PendingCancel

open Text Check

namespace Ai4Binance

/-! ### Fills -/

/-- The filled quantity and the average price of a list of fills, quantity and
price. -/
structure FillAccount (fills : List (ℚ × ℚ)) (filled average : ℚ) : Prop where
  filled_eq : filled = (fills.map Prod.fst).sum
  value_eq : average * filled = (fills.map fun f => f.2 * f.1).sum

lemma FillAccount.nil : FillAccount [] 0 0 := ⟨rfl, by simp⟩

/-- The average of one fill more. -/
lemma FillAccount.fill {fills : List (ℚ × ℚ)} {filled average quantity price : ℚ}
    (h : FillAccount fills filled average) (hpos : 0 < filled + quantity) :
    FillAccount (fills ++ [(quantity, price)]) (filled + quantity)
      ((average * filled + price * quantity) / (filled + quantity)) := by
  constructor
  · rw [List.map_append, List.sum_append, ← h.filled_eq]
    simp
  · rw [List.map_append, List.sum_append, ← h.value_eq, div_mul_cancel₀ _ hpos.ne']
    simp

/-! ### The Spot order machine -/

/-- The account of an order after its events. -/
structure OrderState.Accounted [UnicodeData] (s : OrderState) (events : List DomainEvent) :
    Prop where
  fills : FillAccount (events.filterMap OrderStateMachine.fillOf) s.filledQuantity
    s.averageFillPrice
  filled_le : s.filledQuantity ≤ s.requestedQuantity
  filled_iff : s.status = .filled ↔ s.filledQuantity = s.requestedQuantity
  sequence_eq : ∀ first ∈ events.head?, s.lastSequence + 1 = first.sequence + events.length

namespace OrderStateMachine

variable [UnicodeData]

/-- The account, and that nothing negative was filled. -/
structure Invariant (s : OrderState) (events : List DomainEvent) : Prop where
  accounted : s.Accounted events
  filled_nonneg : 0 ≤ s.filledQuantity

/-- The fields of an order that no event changes. -/
def SameOrder (s t : OrderState) : Prop :=
  t.orderId = s.orderId ∧ t.symbol = s.symbol ∧ t.action = s.action ∧
    t.requestedQuantity = s.requestedQuantity

lemma fillOf_eq_none {event : DomainEvent} {k : OrderEventType}
    (hk : OrderEventType.ofValue event.eventType = some k)
    (hne : k ≠ .partiallyFilled ∧ k ≠ .filled) : fillOf event = none := by
  rw [fillOf, if_neg]
  rw [hk]
  simp [hne.1, hne.2]

omit [UnicodeData] in
lemma sequence_append {s t : ℕ} {events : List DomainEvent} {event : DomainEvent}
    (hne : events ≠ []) (h : ∀ first ∈ events.head?, s + 1 = first.sequence + events.length)
    (ht : t = s + 1) :
    ∀ first ∈ (events ++ [event]).head?, t + 1 = first.sequence + (events ++ [event]).length := by
  intro first hfirst
  rw [List.head?_append_of_ne_nil _ hne] at hfirst
  have hs := h first hfirst
  rw [List.length_append, List.length_singleton]
  omega

/-- The first event of an order. -/
lemma Invariant.first {s : OrderState} {event : DomainEvent} (h : applyFirst event = .ok s) :
    Invariant s [event] := by
  simp only [applyFirst, bind_eq_ok, raiseIf_eq_ok, orRaise_eq_ok, pure_eq_ok, not_not] at h
  obtain ⟨_, htype, quantity, hquantity, _, -, _, -, rfl⟩ := h
  have hpos := positiveDecimal_pos hquantity
  have hfill : fillOf event = none := by
    refine fillOf_eq_none (k := .submitted) ?_ ⟨by decide, by decide⟩
    rw [htype, OrderEventType.ofValue_value]
  refine ⟨⟨?_, hpos.le, ?_, ?_⟩, le_rfl⟩
  · rw [List.filterMap_cons_none hfill]
    exact FillAccount.nil
  · constructor
    · intro hstatus
      cases hstatus
    · exact fun heq => absurd heq hpos.ne
  · intro first hfirst
    obtain rfl := Option.some.inj hfirst
    rfl

/-- **Every accepted event keeps the account**, and the order it is of. -/
lemma Invariant.step {s t : OrderState} {events : List DomainEvent} {event : DomainEvent}
    (hi : Invariant s events) (hne : events ≠ []) (h : apply .exact (some s) event = .ok t) :
    Invariant t (events ++ [event]) ∧ SameOrder s t := by
  obtain ⟨-, hsequence, hstep⟩ := apply_some_cases h
  cases hstep with
  | status k status hk hmem ht =>
    rw [ht]
    have hfill : fillOf event = none := by
      refine fillOf_eq_none hk ?_
      constructor
      · rintro rfl
        simp at hmem
      · rintro rfl
        simp at hmem
    have hopen : s.status ≠ .filled ∧ status ≠ .filled := by
      simp only [List.mem_cons, Prod.mk.injEq, List.not_mem_nil, or_false] at hmem
      rcases hmem with h | h | h | h | h | h | h | h <;> simp [h.2.1, h.2.2]
    refine ⟨⟨⟨?_, hi.accounted.filled_le, ?_, ?_⟩, hi.filled_nonneg⟩, rfl, rfl, rfl, rfl⟩
    · rw [List.filterMap_append, List.filterMap_cons_none hfill, List.filterMap_nil,
        List.append_nil]
      exact hi.accounted.fills
    · constructor
      · exact fun hstatus => absurd hstatus hopen.2
      · exact fun heq => absurd (hi.accounted.filled_iff.mpr heq) hopen.1
    · exact sequence_append hne hi.accounted.sequence_eq hsequence
  | fill isFilled quantity price hk hfill hfillStep htype hsame =>
    obtain ⟨hid, hsymbol, haction, hrequested, hlast⟩ := hsame
    obtain ⟨previous, value, total, hprevious, hvalue, htotal, haverage⟩ := hfillStep.average_eq
    have hfilled : s.filledQuantity + quantity = t.filledQuantity :=
      Option.some.inj hfillStep.filled_eq
    have hpos : 0 < s.filledQuantity + quantity := by
      have hnonneg := hi.filled_nonneg
      have hquantity := hfillStep.quantity_pos
      linarith
    obtain rfl := Option.some.inj hprevious
    obtain rfl := Option.some.inj hvalue
    obtain rfl := Option.some.inj htotal
    have haverage' : t.averageFillPrice = (s.averageFillPrice * s.filledQuantity +
        price * quantity) / (s.filledQuantity + quantity) := by
      rw [← hfilled] at haverage
      simp only [DecimalOps.exact, if_neg hpos.ne'] at haverage
      exact (Option.some.inj haverage).symm
    refine ⟨⟨⟨?_, ?_, ?_, ?_⟩, ?_⟩, hid, hsymbol, haction, hrequested⟩
    · rw [List.filterMap_append, List.filterMap_cons_some hfill, List.filterMap_nil, haverage',
        ← hfilled]
      exact hi.accounted.fills.fill hpos
    · rw [hrequested]
      exact hfillStep.filled_le
    · rw [hfillStep.status_eq, hrequested]
      split_ifs with heq
      · exact ⟨fun _ => heq, fun _ => rfl⟩
      · exact ⟨fun hstatus => (nomatch hstatus), fun h => absurd h heq⟩
    · rw [← hlast] at hsequence
      exact sequence_append hne hi.accounted.sequence_eq hsequence
    · rw [← hfilled]
      exact hpos.le

/-- The account along a replay, from an accounted order on. -/
lemma Invariant.replayFrom {s : OrderState} {m : Option OrderState}
    {events later : List DomainEvent} (hi : Invariant s events) (hne : events ≠ [])
    (h : replayFrom .exact (some s) later = .ok m) :
    ∃ t, m = some t ∧ Invariant t (events ++ later) ∧ SameOrder s t := by
  induction later generalizing s events with
  | nil =>
    obtain rfl := Except.ok.inj h
    rw [List.append_nil]
    exact ⟨s, rfl, hi, rfl, rfl, rfl, rfl⟩
  | cons event later ih =>
    obtain ⟨r, hr, hlater⟩ := replayFrom_cons_ok.mp h
    obtain ⟨hr', hsame⟩ := hi.step hne hr
    obtain ⟨t, rfl, ht, hsame'⟩ := ih hr' (by simp) hlater
    rw [List.append_assoc] at ht
    exact ⟨t, rfl, ht, hsame'.1.trans hsame.1, hsame'.2.1.trans hsame.2.1,
      hsame'.2.2.1.trans hsame.2.2.1, hsame'.2.2.2.trans hsame.2.2.2⟩

/-- The account of every record of an accepted run. -/
lemma replay_accounted {pre suf : List DomainEvent} {t : OrderState} (hne : pre ≠ [])
    (h : replay .exact (pre ++ suf) = .ok t) :
    ∃ s, replay .exact pre = .ok s ∧ s.Accounted pre ∧ SameOrder s t := by
  obtain ⟨-, h⟩ := replay_ok_iff.mp h
  obtain ⟨m, hpre, hsuf⟩ := replayFrom_append_ok.mp h
  cases pre with
  | nil => exact absurd rfl hne
  | cons first rest =>
    obtain ⟨r, hr, hrest⟩ := replayFrom_cons_ok.mp hpre
    obtain ⟨s, rfl, hs, -⟩ := (Invariant.first hr).replayFrom (by simp) hrest
    obtain ⟨t', ht', -, hsame⟩ := hs.replayFrom (by simp) hsuf
    obtain rfl := Option.some.inj ht'
    exact ⟨s, replay_ok_iff.mpr ⟨hne, hpre⟩, hs.accounted, hsame⟩

end OrderStateMachine

/-! ### The live machine, for any arithmetic -/

namespace LiveOrderLifecycleStateMachine

variable [UnicodeData]

open LiveOrderLifecycleStage
open LiveOrderLifecycleEvent (ofValue)

/-- `_apply_fill`. -/
def applyFillWith (ops : DecimalOps) (state : LiveOrderLifecycleRecord) (event : DomainEvent)
    (isPartial : Bool) : Except PyError LiveOrderLifecycleRecord := do
  let fillQuantity ← positiveDecimal (event.payload.get? "fill_quantity") "fill_quantity"
  let fillPrice ← positiveDecimal (event.payload.get? "fill_price") "fill_price"
  let nextQuantity ← orRaise (ops.add state.filledQuantity fillQuantity.toRat) .decimal
  raiseIf (state.requestedQuantity.any (· < nextQuantity))
    (.value "live order fill exceeds requested quantity")
  raiseIf (isPartial = false ∧ state.requestedQuantity.any (nextQuantity ≠ ·))
    (.value "filled live orders must match requested quantity")
  raiseIf (isPartial = true ∧ state.requestedQuantity.any (· ≤ nextQuantity))
    (.value "partial fill cannot complete the requested quantity")
  let weightedValue ← orRaise (ops.mul state.averageFillPrice state.filledQuantity) .decimal
  let fillValue ← orRaise (ops.mul fillPrice.toRat fillQuantity.toRat) .decimal
  let totalValue ← orRaise (ops.add weightedValue fillValue) .decimal
  let averagePrice ← orRaise (ops.div totalValue nextQuantity) .decimal
  transition event
    { state with
      stage := if isPartial then partiallyFilled else filled
      filledQuantity := nextQuantity
      averageFillPrice := averagePrice }

/-- `apply` on a later event: only fills compute. -/
def applyNextWith (ops : DecimalOps) (state : LiveOrderLifecycleRecord) (event : DomainEvent) :
    LiveOrderLifecycleEvent → Except PyError LiveOrderLifecycleRecord
  | .partiallyFilled => do
      requireStage state [accepted, partiallyFilled]
      applyFillWith ops state event true
  | .filled => do
      requireStage state [accepted, partiallyFilled]
      applyFillWith ops state event false
  | kind => applyNext state event kind

/-- `apply`. -/
def applyWith (ops : DecimalOps) (state : Option LiveOrderLifecycleRecord) (event : DomainEvent) :
    Except PyError LiveOrderLifecycleRecord := do
  let eventType ← orRaise (ofValue event.eventType) (.value "unsupported live order event type")
  match state with
  | none => do
      raiseIf (eventType ≠ .previewed)
        (.value "first live order event must be LIVE_ORDER_PREVIEWED")
      applyFirst event
  | some state => do
      validateIdentityAndSequence state event
      validateSymbolAndPreviewHash state event.payload
      applyNextWith ops state event eventType

/-- The loop of `replay`. -/
def replayFromWith (ops : DecimalOps) (state : Option LiveOrderLifecycleRecord) :
    List DomainEvent → Except PyError (Option LiveOrderLifecycleRecord)
  | [] => .ok state
  | event :: rest => do
      let next ← applyWith ops state event
      replayFromWith ops (some next) rest

/-- `replay`. -/
def replayWith (ops : DecimalOps) (events : List DomainEvent) :
    Except PyError LiveOrderLifecycleRecord := do
  raiseIf (events = []) (.value "live order replay requires events")
  let state ← replayFromWith ops none events
  orRaise state (.runtime "live order replay did not produce state")

/-- With the default context this is the machine of the code. -/
lemma applyWith_context : applyWith (.ofContext .default) = apply := by
  funext state event
  rw [applyWith, apply]
  cases ofValue event.eventType with
  | none => rfl
  | some k =>
    cases state with
    | none => rfl
    | some state => cases k <;> rfl

lemma replayWith_context : replayWith (.ofContext .default) = replay := by
  have hfrom : replayFromWith (.ofContext .default) = replayFrom := by
    funext state events
    induction events generalizing state with
    | nil => rfl
    | cons event rest ih =>
      rw [replayFromWith, replayFrom, applyWith_context]
      simp only [ih]
  funext events
  rw [replayWith, replay, hfrom]

/-! ### What the live machine changes -/

/-- The constructor normalizes the symbol and keeps every other field. -/
lemma check_eq {r r' : LiveOrderLifecycleRecord} (h : r.check = .ok r') :
    r' = { r with symbol := upper (strip r.symbol) } ∧ r'.validateStageEvidence = .ok () ∧
      r.requestedQuantity.any (· ≤ 0) = false ∧ 0 ≤ r.filledQuantity := by
  simp only [LiveOrderLifecycleRecord.check, bind_eq_ok, raiseIf_eq_ok, pure_eq_ok] at h
  obtain ⟨-, -, -, hrequested, -, hnonneg, -, -, -, -, -, -, _, hevidence, -, -, rfl⟩ := h
  refine ⟨rfl, hevidence, by simpa using hrequested, ?_⟩
  exact not_lt.mp fun hlt => hnonneg (.inl hlt)

lemma transition_eq {event : DomainEvent} {r r' : LiveOrderLifecycleRecord}
    (h : transition event r = .ok r') :
    r' = { r with symbol := upper (strip r.symbol), lastSequence := event.sequence } ∧
      r'.validateStageEvidence = .ok () :=
  ⟨(check_eq h).1, (check_eq h).2.1⟩

omit [UnicodeData] in
/-- A record in the last stage has filled what was requested. -/
lemma filled_of_evidence {r : LiveOrderLifecycleRecord} (h : r.validateStageEvidence = .ok ())
    (hstage : r.stage = filled) : r.requestedQuantity = some r.filledQuantity := by
  rw [LiveOrderLifecycleRecord.validateStageEvidence, if_neg (by rw [hstage]; decide)] at h
  simp only [bind_eq_ok, raiseIf_eq_ok] at h
  obtain ⟨-, -, -, -, -, -, -, -, -, -, -, -, -, -, _, hrequested, -, -, hmatch⟩ := h
  cases hq : r.requestedQuantity with
  | none => exact absurd ⟨by rw [hstage]; decide, hq⟩ hrequested
  | some q =>
    have heq : ¬ r.filledQuantity ≠ q := fun hne => hmatch ⟨hstage, by simp [hq, hne]⟩
    rw [not_not.mp heq]

/-- What an event that is no fill leaves of a record. -/
structure Frame (s t : LiveOrderLifecycleRecord) (event : DomainEvent) : Prop where
  orderId : t.orderId = s.orderId
  symbol : t.symbol = upper (strip s.symbol)
  requestedQuantity : t.requestedQuantity = s.requestedQuantity
  filledQuantity : t.filledQuantity = s.filledQuantity
  averageFillPrice : t.averageFillPrice = s.averageFillPrice
  lastSequence : t.lastSequence = event.sequence

lemma applyNext_frame {s t : LiveOrderLifecycleRecord} {event : DomainEvent}
    {k : LiveOrderLifecycleEvent} (hk : k ≠ .partiallyFilled ∧ k ≠ .filled)
    (h : applyNext s event k = .ok t) : Frame s t event := by
  cases k with
  | partiallyFilled => exact absurd rfl hk.1
  | filled => exact absurd rfl hk.2
  | previewed => exact absurd h throw_ne_ok.mp
  | promotionRequested =>
    obtain ⟨rfl, -⟩ := transition_eq h
    exact ⟨rfl, rfl, rfl, rfl, rfl, rfl⟩
  | humanApproved =>
    simp only [applyNext, requireStage, bind_eq_ok, raiseIf_eq_ok, not_not] at h
    obtain ⟨-, -, _, -, _, -, _, -, h⟩ := h
    obtain ⟨rfl, -⟩ := transition_eq h
    exact ⟨rfl, rfl, rfl, rfl, rfl, rfl⟩
  | submissionAttemptFailed =>
    simp only [applyNext, requireStage, bind_eq_ok, raiseIf_eq_ok, not_not] at h
    obtain ⟨-, -, _, -, h⟩ := h
    obtain ⟨rfl, -⟩ := transition_eq h
    exact ⟨rfl, rfl, rfl, rfl, rfl, rfl⟩
  | _ =>
    simp only [applyNext, requireStage, bind_eq_ok, raiseIf_eq_ok, not_not] at h
    obtain ⟨-, -, h⟩ := h
    obtain ⟨rfl, -⟩ := transition_eq h
    exact ⟨rfl, rfl, rfl, rfl, rfl, rfl⟩

/-- The quantity and the price an event reports. -/
def fillOf (event : DomainEvent) : Option (ℚ × ℚ) :=
  if ofValue event.eventType ∈
      [some LiveOrderLifecycleEvent.partiallyFilled, some LiveOrderLifecycleEvent.filled] then do
    let quantity ← (positiveDecimal (event.payload.get? "fill_quantity") "fill_quantity").toOption
    let price ← (positiveDecimal (event.payload.get? "fill_price") "fill_price").toOption
    return (quantity.toRat, price.toRat)
  else none

lemma fillOf_eq_none {event : DomainEvent} {k : LiveOrderLifecycleEvent}
    (hk : ofValue event.eventType = some k) (hne : k ≠ .partiallyFilled ∧ k ≠ .filled) :
    fillOf event = none := by
  rw [fillOf, if_neg]
  rw [hk]
  simp [hne.1, hne.2]

/-- What an accepted fill does in exact arithmetic. -/
structure FillStep (s t : LiveOrderLifecycleRecord) (event : DomainEvent) (isPartial : Bool)
    (quantity price : ℚ) : Prop where
  reports : fillOf event = some (quantity, price)
  quantity_pos : 0 < quantity
  filled_eq : t.filledQuantity = s.filledQuantity + quantity
  average_eq : t.averageFillPrice = (s.averageFillPrice * s.filledQuantity + price * quantity) /
    (s.filledQuantity + quantity)
  stage_eq : t.stage = if isPartial then partiallyFilled else filled
  partial_lt : isPartial → ∀ q ∈ s.requestedQuantity, t.filledQuantity < q
  evidence : t.validateStageEvidence = .ok ()
  orderId : t.orderId = s.orderId
  symbol : t.symbol = upper (strip s.symbol)
  requestedQuantity : t.requestedQuantity = s.requestedQuantity
  lastSequence : t.lastSequence = event.sequence

lemma positiveDecimal_pos {value : Option String} {name : String} {d : Decimal}
    (h : positiveDecimal value name = .ok d) : 0 < d.toRat := by
  rw [positiveDecimal] at h
  split at h
  · cases h
  · split_ifs at h with hle
    obtain rfl := Except.ok.inj h
    exact not_le.mp hle
  · cases h

lemma applyFillWith_step {s t : LiveOrderLifecycleRecord} {event : DomainEvent} (isPartial : Bool)
    (hk : ofValue event.eventType = some (if isPartial then .partiallyFilled else .filled))
    (hnonneg : 0 ≤ s.filledQuantity) (h : applyFillWith .exact s event isPartial = .ok t) :
    ∃ quantity price, FillStep s t event isPartial quantity price := by
  simp only [applyFillWith, bind_eq_ok, raiseIf_eq_ok, orRaise_eq_ok] at h
  obtain ⟨q, hq, p, hp, n, hn, -, -, -, -, _, hpart, v, hv, w, hw, u, hu, a, ha, h⟩ := h
  have hpos := positiveDecimal_pos hq
  obtain rfl : s.filledQuantity + q.toRat = n := Option.some.inj hn
  obtain rfl : s.averageFillPrice * s.filledQuantity = v := Option.some.inj hv
  obtain rfl : p.toRat * q.toRat = w := Option.some.inj hw
  obtain rfl := Option.some.inj hu
  have hne : s.filledQuantity + q.toRat ≠ 0 := by linarith
  simp only [DecimalOps.exact, if_neg hne] at ha
  obtain rfl := Option.some.inj ha
  obtain ⟨rfl, hevidence⟩ := transition_eq h
  have hreports : fillOf event = some (q.toRat, p.toRat) := by
    have hmem : ofValue event.eventType ∈
        [some LiveOrderLifecycleEvent.partiallyFilled, some LiveOrderLifecycleEvent.filled] := by
      rw [hk]
      cases isPartial <;> decide
    rw [fillOf, if_pos hmem, hq, hp]
    rfl
  refine ⟨q.toRat, p.toRat, hreports, hpos, rfl, rfl, rfl, ?_, hevidence, rfl, rfl, rfl, rfl⟩
  intro htrue requested hrequested
  by_contra hle
  refine hpart ⟨htrue, ?_⟩
  rw [Option.mem_def.mp hrequested]
  simpa using not_lt.mp hle

end LiveOrderLifecycleStateMachine

/-- The account of a live order after its events. -/
structure LiveOrderLifecycleRecord.Accounted [UnicodeData] (s : LiveOrderLifecycleRecord)
    (events : List DomainEvent) : Prop where
  fills : FillAccount (events.filterMap LiveOrderLifecycleStateMachine.fillOf) s.filledQuantity
    s.averageFillPrice
  filled_le : ∀ q ∈ s.requestedQuantity, s.filledQuantity ≤ q
  filled_iff : s.stage = .filled ↔ s.requestedQuantity = some s.filledQuantity
  sequence_eq : ∀ first ∈ events.head?, s.lastSequence + 1 = first.sequence + events.length

namespace LiveOrderLifecycleStateMachine

variable [UnicodeData]

open LiveOrderLifecycleStage
open LiveOrderLifecycleEvent (ofValue)

/-- The account of a live order, by its stage. -/
structure Invariant (s : LiveOrderLifecycleRecord) (events : List DomainEvent) : Prop where
  fills : FillAccount (events.filterMap fillOf) s.filledQuantity s.averageFillPrice
  filled_nonneg : 0 ≤ s.filledQuantity
  requested_pos : ∀ q ∈ s.requestedQuantity, 0 < q
  of_filled : s.stage = filled → s.requestedQuantity = some s.filledQuantity
  of_open : s.stage ≠ filled → ∀ q ∈ s.requestedQuantity, s.filledQuantity < q
  symbol_normal : upper (strip s.symbol) = s.symbol
  sequence_eq : ∀ first ∈ events.head?, s.lastSequence + 1 = first.sequence + events.length

omit [UnicodeData] in
lemma mem_requested {o : Option ℚ} {x : ℚ} (h : o = some x) : ∀ q ∈ o, x ≤ q := by
  intro q hq
  rw [h] at hq
  exact (Option.some.inj hq).le

lemma Invariant.accounted {s : LiveOrderLifecycleRecord} {events : List DomainEvent}
    (h : Invariant s events) : s.Accounted events := by
  refine ⟨h.fills, ?_, ⟨h.of_filled, fun heq => ?_⟩, h.sequence_eq⟩
  · by_cases hstage : s.stage = filled
    · exact mem_requested (h.of_filled hstage)
    · exact fun q hq => (h.of_open hstage q hq).le
  · by_contra hstage
    exact lt_irrefl _ (h.of_open hstage _ heq)

/-- The fields of an order that no event changes. -/
def SameOrder (s t : LiveOrderLifecycleRecord) : Prop :=
  t.orderId = s.orderId ∧ t.symbol = s.symbol ∧ t.requestedQuantity = s.requestedQuantity

variable [UpperKeepsText]

/-- The first event of an order. -/
lemma Invariant.first {s : LiveOrderLifecycleRecord} {event : DomainEvent}
    (h : applyWith .exact none event = .ok s) : Invariant s [event] := by
  simp only [applyWith, applyFirst, bind_eq_ok, orRaise_eq_ok, raiseIf_eq_ok, not_not] at h
  obtain ⟨k, hk, _, rfl, symbol, -, preview, -, requested, -, h⟩ := h
  obtain ⟨rfl, -, hpos, -⟩ := check_eq h
  have hfill : fillOf event = none := fillOf_eq_none hk ⟨by decide, by decide⟩
  have hrequested : ∀ q ∈ requested.map Decimal.toRat, 0 < q := by
    intro q hq
    rw [Option.mem_def.mp hq] at hpos
    simpa using hpos
  refine ⟨?_, le_rfl, hrequested, ?_, fun _ => hrequested, upper_strip_upper_strip symbol, ?_⟩
  · rw [List.filterMap_cons_none hfill]
    exact FillAccount.nil
  · intro hstage
    cases hstage
  · intro first hfirst
    obtain rfl := Option.some.inj hfirst
    rfl

/-- An event that is no fill. -/
lemma Invariant.frame {s t : LiveOrderLifecycleRecord} {events : List DomainEvent}
    {event : DomainEvent} {k : LiveOrderLifecycleEvent} (hi : Invariant s events)
    (hne : events ≠ []) (hk : ofValue event.eventType = some k)
    (hkind : k ≠ .partiallyFilled ∧ k ≠ .filled) (hsequence : event.sequence = s.lastSequence + 1)
    (h : applyNext s event k = .ok t) : Invariant t (events ++ [event]) ∧ SameOrder s t := by
  have hframe := applyNext_frame hkind h
  obtain ⟨hguard, htarget, hpromotion⟩ := applyNext_ok h
  have hopen : s.stage ≠ filled := by
    intro hstage
    by_cases hp : k = .promotionRequested
    · have hpos := hi.requested_pos _ (hi.of_filled hstage)
      rw [hpromotion hp] at hpos
      exact lt_irrefl 0 hpos
    · rw [hstage] at hguard
      revert hguard hkind
      cases k <;> simp_all [guardStages]
  have htarget' : t.stage ≠ filled := by
    rw [htarget]
    revert hkind
    cases k <;> simp [targetStage]
  refine ⟨⟨?_, ?_, ?_, fun hstage => absurd hstage htarget', fun _ => ?_, ?_, ?_⟩,
    hframe.orderId, hframe.symbol.trans hi.symbol_normal, hframe.requestedQuantity⟩
  · rw [List.filterMap_append, List.filterMap_cons_none (fillOf_eq_none hk hkind),
      List.filterMap_nil, List.append_nil, hframe.filledQuantity, hframe.averageFillPrice]
    exact hi.fills
  · rw [hframe.filledQuantity]
    exact hi.filled_nonneg
  · rw [hframe.requestedQuantity]
    exact hi.requested_pos
  · rw [hframe.requestedQuantity, hframe.filledQuantity]
    exact hi.of_open hopen
  · rw [hframe.symbol, upper_strip_upper_strip]
  · exact OrderStateMachine.sequence_append hne hi.sequence_eq
      (hframe.lastSequence.trans hsequence)

/-- A fill. -/
lemma Invariant.fill {s t : LiveOrderLifecycleRecord} {events : List DomainEvent}
    {event : DomainEvent} {isPartial : Bool} {quantity price : ℚ} (hi : Invariant s events)
    (hne : events ≠ []) (hsequence : event.sequence = s.lastSequence + 1)
    (h : FillStep s t event isPartial quantity price) :
    Invariant t (events ++ [event]) ∧ SameOrder s t := by
  have hnonneg := hi.filled_nonneg
  have hpos : 0 < s.filledQuantity + quantity := add_pos_of_nonneg_of_pos hnonneg h.quantity_pos
  refine ⟨⟨?_, ?_, ?_, fun hstage => filled_of_evidence h.evidence hstage, fun hstage => ?_, ?_, ?_⟩,
    h.orderId, h.symbol.trans hi.symbol_normal, h.requestedQuantity⟩
  · rw [List.filterMap_append, List.filterMap_cons_some h.reports, List.filterMap_nil,
      h.filled_eq, h.average_eq]
    exact hi.fills.fill hpos
  · rw [h.filled_eq]
    exact hpos.le
  · rw [h.requestedQuantity]
    exact hi.requested_pos
  · rw [h.requestedQuantity]
    cases isPartial with
    | true => exact h.partial_lt rfl
    | false => exact absurd h.stage_eq hstage
  · rw [h.symbol, upper_strip_upper_strip]
  · exact OrderStateMachine.sequence_append hne hi.sequence_eq (h.lastSequence.trans hsequence)

/-- **Every accepted event keeps the account**, and the order it is of. -/
lemma Invariant.step {s t : LiveOrderLifecycleRecord} {events : List DomainEvent}
    {event : DomainEvent} (hi : Invariant s events) (hne : events ≠ [])
    (h : applyWith .exact (some s) event = .ok t) :
    Invariant t (events ++ [event]) ∧ SameOrder s t := by
  simp only [applyWith, validateIdentityAndSequence, bind_eq_ok, orRaise_eq_ok, raiseIf_eq_ok,
    not_not] at h
  obtain ⟨k, hk, _, ⟨_, -, hsequence⟩, _, -, h⟩ := h
  by_cases hpart : k = .partiallyFilled
  · subst hpart
    simp only [applyNextWith, bind_eq_ok] at h
    obtain ⟨_, -, h⟩ := h
    obtain ⟨quantity, price, hstep⟩ :=
      applyFillWith_step true hk hi.filled_nonneg h
    exact hi.fill hne hsequence hstep
  · by_cases hfilled : k = .filled
    · subst hfilled
      simp only [applyNextWith, bind_eq_ok] at h
      obtain ⟨_, -, h⟩ := h
      obtain ⟨quantity, price, hstep⟩ :=
        applyFillWith_step false hk hi.filled_nonneg h
      exact hi.fill hne hsequence hstep
    · have hnext : applyNextWith .exact s event k = applyNext s event k := by
        revert hpart hfilled
        cases k <;> simp [applyNextWith]
      rw [hnext] at h
      exact hi.frame hne hk ⟨hpart, hfilled⟩ hsequence h

omit [UpperKeepsText] in
lemma replayFromWith_cons_ok {ops : DecimalOps} {state s : Option LiveOrderLifecycleRecord}
    {event : DomainEvent} {rest : List DomainEvent} :
    replayFromWith ops state (event :: rest) = .ok s ↔
      ∃ r, applyWith ops state event = .ok r ∧ replayFromWith ops (some r) rest = .ok s := by
  rw [replayFromWith, bind_eq_ok]

omit [UpperKeepsText] in
lemma replayFromWith_append_ok {ops : DecimalOps} {state s : Option LiveOrderLifecycleRecord}
    {l l' : List DomainEvent} :
    replayFromWith ops state (l ++ l') = .ok s ↔
      ∃ m, replayFromWith ops state l = .ok m ∧ replayFromWith ops m l' = .ok s := by
  induction l generalizing state with
  | nil => simp [replayFromWith]
  | cons event l ih =>
    simp only [List.cons_append, replayFromWith_cons_ok, ih]
    constructor
    · rintro ⟨r, hr, m, hm, hs⟩
      exact ⟨m, ⟨r, hr, hm⟩, hs⟩
    · rintro ⟨m, ⟨r, hr, hm⟩, hs⟩
      exact ⟨r, hr, m, hm, hs⟩

omit [UpperKeepsText] in
lemma replayWith_ok_iff {ops : DecimalOps} {events : List DomainEvent}
    {r : LiveOrderLifecycleRecord} :
    replayWith ops events = .ok r ↔ events ≠ [] ∧ replayFromWith ops none events = .ok (some r) := by
  simp only [replayWith, bind_eq_ok, raiseIf_eq_ok, orRaise_eq_ok]
  constructor
  · rintro ⟨-, hne, s, hs, rfl⟩
    exact ⟨hne, hs⟩
  · rintro ⟨hne, hs⟩
    exact ⟨(), hne, some r, hs, rfl⟩

/-- The account along a replay, from an accounted record on. -/
lemma Invariant.replayFrom {s : LiveOrderLifecycleRecord} {m : Option LiveOrderLifecycleRecord}
    {events later : List DomainEvent} (hi : Invariant s events) (hne : events ≠ [])
    (h : replayFromWith .exact (some s) later = .ok m) :
    ∃ t, m = some t ∧ Invariant t (events ++ later) ∧ SameOrder s t := by
  induction later generalizing s events with
  | nil =>
    obtain rfl := Except.ok.inj h
    rw [List.append_nil]
    exact ⟨s, rfl, hi, rfl, rfl, rfl⟩
  | cons event later ih =>
    obtain ⟨r, hr, hlater⟩ := replayFromWith_cons_ok.mp h
    obtain ⟨hr', hsame⟩ := hi.step hne hr
    obtain ⟨t, rfl, ht, hsame'⟩ := ih hr' (by simp) hlater
    rw [List.append_assoc] at ht
    exact ⟨t, rfl, ht, hsame'.1.trans hsame.1, hsame'.2.1.trans hsame.2.1,
      hsame'.2.2.trans hsame.2.2⟩

/-- The account of every record of an accepted run. -/
lemma replay_accounted {pre suf : List DomainEvent} {t : LiveOrderLifecycleRecord} (hne : pre ≠ [])
    (h : replayWith .exact (pre ++ suf) = .ok t) :
    ∃ s, replayWith .exact pre = .ok s ∧ s.Accounted pre ∧ SameOrder s t := by
  obtain ⟨-, h⟩ := replayWith_ok_iff.mp h
  obtain ⟨m, hpre, hsuf⟩ := replayFromWith_append_ok.mp h
  cases pre with
  | nil => exact absurd rfl hne
  | cons first rest =>
    obtain ⟨r, hr, hrest⟩ := replayFromWith_cons_ok.mp hpre
    obtain ⟨s, rfl, hs, -⟩ := (Invariant.first hr).replayFrom (by simp) hrest
    obtain ⟨t', ht', -, hsame⟩ := hs.replayFrom (by simp) hsuf
    obtain rfl := Option.some.inj ht'
    exact ⟨s, replayWith_ok_iff.mpr ⟨hne, hpre⟩, hs.accounted, hsame⟩

end LiveOrderLifecycleStateMachine

/-! ### Both machines -/

/-- **Every record of every accepted run is accounted**, in exact arithmetic, and
belongs to the order of the first one. -/
theorem fills_are_accounted [UnicodeData] [UpperKeepsText] {pre suf : List DomainEvent}
    (hne : pre ≠ []) :
    (∀ t, LiveOrderLifecycleStateMachine.replayWith .exact (pre ++ suf) = .ok t →
      ∃ s, LiveOrderLifecycleStateMachine.replayWith .exact pre = .ok s ∧ s.Accounted pre ∧
        LiveOrderLifecycleStateMachine.SameOrder s t) ∧
    (∀ t, OrderStateMachine.replay .exact (pre ++ suf) = .ok t →
      ∃ s, OrderStateMachine.replay .exact pre = .ok s ∧ s.Accounted pre ∧
        OrderStateMachine.SameOrder s t) :=
  ⟨fun _ h => LiveOrderLifecycleStateMachine.replay_accounted hne h,
    fun _ h => OrderStateMachine.replay_accounted hne h⟩

/-- The events of the example order, with two fills. -/
def filledOrder : List DomainEvent :=
  OrderStateMachine.openOrder ++
    [OrderStateMachine.orderEvent 3 .partiallyFilled
        (.ofList [("fill_price", "100"), ("fill_quantity", "1.5")]),
      OrderStateMachine.orderEvent 4 .filled
        (.ofList [("fill_price", "120"), ("fill_quantity", "0.5")])]

/-- A filled order is accounted. -/
theorem filledOrder_is_accounted :
    ∃ s t, OrderStateMachine.replay .exact filledOrder = .ok s ∧
      OrderStateMachine.replay .exact (filledOrder ++ []) = .ok t ∧ s.filledQuantity = 2 ∧
      s.Accounted filledOrder ∧ OrderStateMachine.SameOrder s t := by
  obtain ⟨t, ht, hfilled⟩ := OrderStateMachine.exists_replay .exact (filledOrder ++ [])
    (·.filledQuantity) (a := 2) (by decide +kernel)
  have hne : filledOrder ≠ [] := by decide
  obtain ⟨s, hs, haccounted, hsame⟩ := (fills_are_accounted hne).2 t ht
  rw [List.append_nil] at ht
  obtain rfl := Except.ok.inj (hs.symm.trans ht)
  exact ⟨s, s, hs, by rw [List.append_nil]; exact hs, hfilled, haccounted, hsame⟩

/-- An order that starts with the event numbered 2: after one event its sequence
number is 2. -/
theorem late_first_event_is_not_counted :
    (OrderStateMachine.replay .exact
        [OrderStateMachine.orderEvent 2 .submitted
          (.ofList [("action", "BUY"), ("quantity", "2"), ("symbol", "HOTUSDT")])]).toOption.map
      (·.lastSequence) = some 2 := by
  decide +kernel

end Ai4Binance

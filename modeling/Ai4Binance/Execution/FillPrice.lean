/-
The price of a fill (`_snapshot_fill_price` in `execution/live_order_lifecycle.py`).

The exchange answers a placement with the executed quantity and the quote amount that was paid
for it.  The price of the fill is read from a price field if the answer has one, be it the limit
price of the order or the zero of a market order, and only else computed from the quote amount.

* `Reports`, `Executed`: the answers that a placement can report;
* `PriceAgrees`: the price field of the answer, if any, is the price of the quote amount;
* `buildEvents_ok`: the chain of a placement is built;
* `RecordsAnswer`, `recorded_price_iff`: **the recorded price is the one of the quote amount**
  exactly for the answers whose price agrees.
-/
import Ai4Binance.Execution.FillAccounting
import Ai4Binance.Execution.PlaceReplay

open Text Check

namespace Ai4Binance

open LiveOrderLifecycleStateMachine

section

variable [UnicodeData]

/-! ### The answers of the exchange -/

/-- The fields of an answer that a fill price is read from, in their order. -/
def priceKeys : List String := ["avgPrice", "avg_price", "averagePrice", "price"]

/-- The fields of an answer with the quote amount. -/
def quoteKeys : List String := ["cummulativeQuoteQty", "cumQuote", "cumulativeQuoteQty"]

/-- A placement under an authorization whose answer has a positive executed quantity and a
positive quote amount. -/
structure LiveCommandResult.Reports (result : LiveCommandResult) (snapshot : Payload)
    (quantity quote : Decimal) : Prop where
  sent : result.status = .submitted ∨ result.status = .unverifiedReviewRequired
  authorized : ∀ id ∈ [result.approvalId, result.authorizationId,
    result.authorizationEnvelopeSha256], id.any fun text => !isBlank text
  snapshot_eq : result.exchangeOrderSnapshot = some snapshot
  quantity_eq : ∃ found, firstPresent snapshot ["executedQty", "executed_qty"] = some found ∧
    positiveDecimal (some found.2) "executedQty" = .ok quantity
  quote_eq : ∃ found, firstPresent snapshot quoteKeys = some found ∧
    positiveDecimal (some found.2) found.1 = .ok quote

/-- The status of the answer is that of an executed order. -/
def LiveCommandResult.Executed (result : LiveCommandResult) : Prop :=
  snapshotStatus result.exchangeOrderStatus result.exchangeOrderSnapshot ∈
    [some "PARTIALLY_FILLED", some "FILLED"]

instance (result : LiveCommandResult) : Decidable result.Executed :=
  inferInstanceAs (Decidable (_ ∈ _))

/-- The first price field of an answer, if it has one, is the price of its quote amount; without
one, the quotient has at most the digits of the arithmetic. -/
def PriceAgrees (snapshot : Payload) (quantity quote : Decimal) : Prop :=
  match firstPresent snapshot priceKeys with
  | some (_, text) => ∃ price, Decimal.parse text = some (.finite price) ∧
      price.toRat * quantity.toRat = quote.toRat
  | none => Context.default.Representable (quote.toRat / quantity.toRat)

/-- A chain records the executed quantity of an executed order, and the quote amount as its
value. -/
structure RecordsAnswer (result : LiveCommandResult) (quantity quote : Decimal)
    (fills : List (ℚ × ℚ)) : Prop where
  quantities : fills.map Prod.fst = if result.Executed then [quantity.toRat] else []
  value : ∀ fill ∈ fills, fill.2 * fill.1 = quote.toRat

/-- The price that is read is exact for the answers whose price agrees. -/
lemma snapshotFillPrice_exact_iff {snapshot : Payload} {quantity quote : Decimal}
    (hquantity : 0 < quantity.toRat) (hquote : ∃ found,
      firstPresent snapshot quoteKeys = some found ∧
      positiveDecimal (some found.2) found.1 = .ok quote) :
    (∃ price, snapshotFillPrice (some snapshot) quantity = .ok price ∧
      price.toRat * quantity.toRat = quote.toRat) ↔ PriceAgrees snapshot quantity quote := by
  obtain ⟨found, hfound, hquote⟩ := hquote
  have hpos := (positiveDecimal_eq_ok.mp hquote).2
  rw [PriceAgrees]
  simp only [snapshotFillPrice, orRaise, ok_bind]
  rw [priceKeys]
  cases firstPresent snapshot ["avgPrice", "avg_price", "averagePrice", "price"] with
  | some entry =>
    simp only [positiveDecimal_eq_ok]
    constructor
    · rintro ⟨price, ⟨hparse, -⟩, heq⟩
      exact ⟨price, hparse, heq⟩
    · rintro ⟨price, hparse, heq⟩
      -- a price that gives the quote amount is positive
      exact ⟨price, ⟨hparse, (mul_pos_iff_of_pos_right hquantity).mp (heq ▸ hpos)⟩, heq⟩
  | none =>
    rw [quoteKeys] at hfound
    simp only [hfound, hquote, ok_bind]
    rw [← Context.divide_exact_iff (by decide) hpos hquantity]
    refine exists_congr fun price => and_congr_left fun _ => ?_
    cases Context.default.divide quote quantity <;> simp

/-! ### The fills of a chain -/

/-- The fill that a payload of a chain reports. -/
def fillIn (kp : LiveOrderLifecycleEvent × Payload) : Option (ℚ × ℚ) :=
  if kp.1 ∈ [LiveOrderLifecycleEvent.partiallyFilled, LiveOrderLifecycleEvent.filled] then do
    let quantity ← (positiveDecimal (kp.2.get? "fill_quantity") "fill_quantity").toOption
    let price ← (positiveDecimal (kp.2.get? "fill_price") "fill_price").toOption
    return (quantity.toRat, price.toRat)
  else none

/-- The fills of a chain are those of its payloads. -/
lemma fills_of_matches {aggregateId : String} {t : ℤ} {n : ℕ}
    {payloads : List (LiveOrderLifecycleEvent × Payload)} {events : List DomainEvent}
    (h : Matches aggregateId t n payloads events) :
    events.filterMap fillOf = payloads.filterMap fillIn := by
  induction payloads generalizing n events with
  | nil =>
    obtain rfl := h
    rfl
  | cons kp rest ih =>
    obtain ⟨event, events, rfl, -, htype, -, -, hpayload, h⟩ := h
    have hfill : fillOf event = fillIn kp := by
      rw [fillOf, fillIn, htype, LiveOrderLifecycleEvent.ofValue_value, hpayload]
      simp only [List.mem_cons, Option.some.injEq, List.not_mem_nil, or_false]
    rw [List.filterMap_cons, List.filterMap_cons, hfill, ih h]

/-! ### The chain is built -/

/-- The keys of a payload are no blank texts. -/
def Named (kp : LiveOrderLifecycleEvent × Payload) : Prop :=
  ∀ entry ∈ kp.2.entries, isBlank entry.1 = false

omit [UnicodeData] in
lemma named_of_keys {k : LiveOrderLifecycleEvent} {entries : List (String × String)}
    (h : (entries.map Prod.fst).all fun key => !isBlank key) : Named (k, .ofList entries) := by
  intro entry hentry
  have hkey := List.all_eq_true.mp h _ (List.mem_map_of_mem (SortedMap.mem_ofList hentry))
  simpa using hkey

omit [UnicodeData] in
/-- A chain with an identified order and named payloads is built at every instant. -/
lemma buildEventsFrom_ok [CanonicalDigest EventContent] {aggregateId : String} (t : ℤ) {n : ℕ}
    (hid : isBlank aggregateId = false) (hn : 1 ≤ n) (previousHash : String)
    {payloads : List (LiveOrderLifecycleEvent × Payload)} (hnamed : ∀ kp ∈ payloads, Named kp) :
    ∃ events, buildEventsFrom aggregateId (.aware t) n previousHash payloads = .ok events := by
  induction payloads generalizing n previousHash with
  | nil => exact ⟨[], rfl⟩
  | cons kp rest ih =>
    obtain ⟨k, payload⟩ := kp
    have hevent : isBlank (aggregateId ++ ":" ++ k.value ++ ":" ++ toString n) = false := by
      simp only [isBlank, String.toList_append, List.all_append, Bool.and_eq_false_iff] at hid ⊢
      exact .inl (.inl (.inl (.inl hid)))
    have htype : isBlank k.value = false := by cases k <;> decide
    have hkeys : payload.entries.any (fun p => isBlank p.1) = false := by
      rw [List.any_eq_false]
      intro entry hentry
      rw [hnamed _ List.mem_cons_self entry hentry]
      exact Bool.false_ne_true
    obtain ⟨event, hcreate⟩ : ∃ event, DomainEvent.create
        (aggregateId ++ ":" ++ k.value ++ ":" ++ toString n) aggregateId k.value n (.aware t)
        payload previousHash = .ok event := by
      have hpositive : ¬ n < 1 := not_lt.mpr hn
      simp only [DomainEvent.create, hevent, hid, htype, hkeys, hpositive, Bool.or_false,
        decide_false, Bool.false_eq_true, raiseIf_of_not, not_false_eq_true, ok_bind]
      exact ⟨_, rfl⟩
    have hnext : 1 ≤ n + 1 := by omega
    obtain ⟨events, hevents⟩ := ih hnext event.eventHash fun kp hkp =>
      hnamed kp (List.mem_cons_of_mem _ hkp)
    refine ⟨event :: events, ?_⟩
    rw [buildEventsFrom, hcreate, ok_bind, hevents, ok_bind]
    rfl

omit [UnicodeData] in
/-- The keys of a further event of a chain. -/
lemma named_entries {command : SpotOrderCommand} [CanonicalDigest Payload]
    (k : LiveOrderLifecycleEvent) {entries : List (String × String)}
    (h : (entries.map Prod.fst).all fun key => !isBlank key) :
    Named (k, .ofList (commandEntries command ++ entries)) := by
  refine named_of_keys ?_
  rw [List.map_append, List.all_append, h, Bool.and_true]
  exact (by decide : ["symbol", "preview_hash"].all fun key => !isBlank key)

lemma outcomePayloads_named {command : SpotOrderCommand} {result : LiveCommandResult}
    {outcome : List (LiveOrderLifecycleEvent × Payload)} [CanonicalDigest Payload]
    (h : outcomePayloads command result = .ok outcome) : ∀ kp ∈ outcome, Named kp := by
  have hentries : ∀ status, ((exchangeEntries result status).map Prod.fst).all
      fun key => !isBlank key := by
    intro status
    exact (by decide : ["exchange_order_id", "exchange_order_status"].all fun key => !isBlank key)
  have hone : ∀ status k, ∀ kp ∈ [((k : LiveOrderLifecycleEvent),
      (SortedMap.ofList (commandEntries command ++ exchangeEntries result status) : Payload))],
      Named kp := by
    intro status k kp hkp
    rw [List.mem_singleton.mp hkp]
    exact named_entries k (hentries status)
  have hfill : ∀ status k, fillPayloads command result status k = .ok outcome →
      ∀ kp ∈ outcome, Named kp := by
    intro status k h
    simp only [fillPayloads, bind_eq_ok, pure_eq_ok] at h
    obtain ⟨quantity, -, price, -, rfl⟩ := h
    intro kp hkp
    rcases List.mem_cons.mp hkp with rfl | hkp
    · exact named_entries _ (hentries status)
    · rw [List.mem_singleton.mp hkp, List.append_assoc]
      refine named_entries k ?_
      rw [List.map_append, List.all_append, hentries, Bool.true_and]
      exact (by decide : ["fill_quantity", "fill_price"].all fun key => !isBlank key)
  rw [outcomePayloads] at h
  split at h
  case h_2 | h_3 => exact hfill _ _ h
  case h_7 =>
    obtain rfl := Except.ok.inj h
    exact fun kp hkp => absurd hkp List.not_mem_nil
  all_goals
    obtain rfl := Except.ok.inj h
    exact hone _ _

/-! ### The record of an answer -/

variable {command : SpotOrderCommand} {result : LiveCommandResult} {snapshot : Payload}
  {quantity quote : Decimal} [CanonicalDigest Payload]

/-- The payload of a fill reports its quantity and its price; a price of zero is none. -/
lemma fillIn_fill {k : LiveOrderLifecycleEvent} (hk : k = .partiallyFilled ∨ k = .filled)
    (hquantity : 0 < quantity.toRat) (status : String) (price : Decimal) :
    fillIn (k, .ofList (commandEntries command ++ exchangeEntries result status ++
      [("fill_quantity", quantity.str), ("fill_price", price.str)])) =
      if 0 < price.toRat then some (quantity.toRat, price.toRat) else none := by
  have hmem : k ∈ [LiveOrderLifecycleEvent.partiallyFilled, LiveOrderLifecycleEvent.filled] := by
    simpa using hk
  rw [fillIn, if_pos hmem]
  generalize hpayload : SortedMap.ofList (commandEntries command ++ exchangeEntries result status ++
    [("fill_quantity", quantity.str), ("fill_price", price.str)]) = payload
  have hq : payload.get? "fill_quantity" = some quantity.str := by
    rw [← hpayload]
    simp [SortedMap.ofList, commandEntries, exchangeEntries]
  have hp : payload.get? "fill_price" = some price.str := by
    rw [← hpayload]
    simp [SortedMap.ofList, commandEntries, exchangeEntries]
  simp only [hq, hp, positiveDecimal_str, if_neg (not_le.mpr hquantity)]
  by_cases hprice : 0 < price.toRat
  · rw [if_pos hprice, if_neg (not_le.mpr hprice)]
    rfl
  · rw [if_neg hprice, if_pos (not_lt.mp hprice)]
    rfl

/-- The fill of an executed order has the executed quantity and the price that is read. -/
lemma fillPayloads_iff (hsnapshot : result.exchangeOrderSnapshot = some snapshot)
    (hquantity : ∃ found, firstPresent snapshot ["executedQty", "executed_qty"] = some found ∧
      positiveDecimal (some found.2) "executedQty" = .ok quantity) (status : String)
    {k : LiveOrderLifecycleEvent} (hk : k = .partiallyFilled ∨ k = .filled)
    {P : List (ℚ × ℚ) → Prop} :
    (∃ outcome, fillPayloads command result status k = .ok outcome ∧
      P (outcome.filterMap fillIn)) ↔
      ∃ price, snapshotFillPrice (some snapshot) quantity = .ok price ∧
        P (if 0 < price.toRat then some (quantity.toRat, price.toRat) else none).toList := by
  obtain ⟨found, hfound, hquantity⟩ := hquantity
  have hpos := (positiveDecimal_eq_ok.mp hquantity).2
  have hread : snapshotDecimal (some snapshot) ["executedQty", "executed_qty"] "executedQty" =
      .ok quantity := by
    simp only [snapshotDecimal, orRaise, ok_bind, hfound, hquantity]
  have haccepted : ∀ payload : Payload, fillIn (.accepted, payload) = none := fun _ => rfl
  have hlast : ∀ kp : LiveOrderLifecycleEvent × Payload,
      [kp].filterMap fillIn = (fillIn kp).toList := by
    intro kp
    cases h : fillIn kp <;> simp [h]
  simp only [fillPayloads, hsnapshot, hread, ok_bind, bind_eq_ok, pure_eq_ok]
  constructor
  · rintro ⟨_, ⟨price, hprice, rfl⟩, hP⟩
    rw [List.filterMap_cons_none (haccepted _), hlast, fillIn_fill hk hpos] at hP
    exact ⟨price, hprice, hP⟩
  · rintro ⟨price, hprice, hP⟩
    refine ⟨_, ⟨price, hprice, rfl⟩, ?_⟩
    rwa [List.filterMap_cons_none (haccepted _), hlast, fillIn_fill hk hpos]

variable (command) in
lemma outcomePayloads_unexecuted (hexecuted : ¬ result.Executed) :
    ∃ outcome, outcomePayloads command result = .ok outcome ∧ outcome.filterMap fillIn = [] := by
  rw [LiveCommandResult.Executed] at hexecuted
  rw [outcomePayloads]
  split
  case h_2 h => exact absurd (by rw [h]; decide) hexecuted
  case h_3 h => exact absurd (by rw [h]; decide) hexecuted
  all_goals exact ⟨_, rfl, rfl⟩

/-- The payloads of the chain of a placement that was sent, with the outcome. -/
def sentPayloads (command : SpotOrderCommand) (result : LiveCommandResult) (ids : AuthorizationIds)
    (outcome : List (LiveOrderLifecycleEvent × Payload)) :
    List (LiveOrderLifecycleEvent × Payload) :=
  approvedPayloads command ids ++
    (.submitted, .ofList (commandEntries command ++ authorizationEntries ids ++
      [("exchange_order_id", result.exchangeOrderId.getD ""),
        ("client_order_id", command.clientOrderId)])) :: outcome

variable (command) in
/-- The chain of an answered placement goes by its outcome alone. -/
lemma buildPlaceEvents_eq [CanonicalDigest EventContent] (t : ℤ)
    (h : result.Reports snapshot quantity quote) :
    ∃ ids, buildPlaceEvents command result (.aware t) =
      (outcomePayloads command result >>= fun outcome =>
        buildEvents command.clientOrderId (sentPayloads command result ids outcome)
          (.aware t)) := by
  have hgiven : ∀ id ∈ [result.approvalId, result.authorizationId,
      result.authorizationEnvelopeSha256], ∀ name, ∃ text, requiredText id name = .ok text := by
    intro id hid name
    obtain ⟨text, rfl, htext⟩ := (Option.any_eq_true _ _).mp (h.authorized id hid)
    rw [requiredText, if_neg (by simpa using htext)]
    exact ⟨_, rfl⟩
  obtain ⟨approvalId, happroval⟩ := hgiven result.approvalId (by simp) "approval_id"
  obtain ⟨authorizationId, hauthorization⟩ :=
    hgiven result.authorizationId (by simp) "authorization_id"
  obtain ⟨envelope, henvelope⟩ :=
    hgiven result.authorizationEnvelopeSha256 (by simp) "authorization_envelope_sha256"
  refine ⟨⟨approvalId, authorizationId, envelope⟩, ?_⟩
  simp only [buildPlaceEvents, happroval, hauthorization, henvelope, ok_bind, attemptPayloads]
  rcases h.sent with hstatus | hstatus <;>
    · rw [hstatus]
      cases outcomePayloads command result with
      | error e => simp only [error_bind]
      | ok outcome => simp only [ok_bind, pure_bind, sentPayloads]

variable (result) in
/-- The chain is built, and its fills are those of the outcome. -/
lemma sentPayloads_ok [CanonicalDigest EventContent] (t : ℤ) (ids : AuthorizationIds)
    {outcome : List (LiveOrderLifecycleEvent × Payload)} (hnamed : ∀ kp ∈ outcome, Named kp) :
    ∃ events, buildEvents command.clientOrderId (sentPayloads command result ids outcome)
        (.aware t) = .ok events ∧ events.filterMap fillOf = outcome.filterMap fillIn := by
  have hauthorization : ((authorizationEntries ids).map Prod.fst).all fun key => !isBlank key :=
    (by decide : ["approval_id", "authorization_id",
      "authorization_envelope_sha256"].all fun key => !isBlank key)
  have happroved : ∀ kp ∈ approvedPayloads command ids, Named kp := by
    intro kp hkp
    simp only [approvedPayloads, List.mem_cons, List.not_mem_nil, or_false] at hkp
    rcases hkp with rfl | rfl | rfl | rfl
    · exact named_entries _ (by decide : ["requested_quantity", "client_order_id", "side",
        "order_type"].all fun key => !isBlank key)
    · exact named_entries _ (by decide : ["requested_quantity"].all fun key => !isBlank key)
    · exact named_entries _ (by decide : ["requested_quantity"].all fun key => !isBlank key)
    · exact named_entries _ hauthorization
  have hall : ∀ kp ∈ sentPayloads command result ids outcome, Named kp := by
    intro kp hkp
    rcases List.mem_append.mp hkp with hkp | hkp
    · exact happroved kp hkp
    rcases List.mem_cons.mp hkp with rfl | hkp
    · rw [List.append_assoc]
      refine named_entries _ ?_
      rw [List.map_append, List.all_append, hauthorization, Bool.true_and]
      exact (by decide : ["exchange_order_id", "client_order_id"].all fun key => !isBlank key)
    · exact hnamed kp hkp
  obtain ⟨events, hevents⟩ :=
    buildEventsFrom_ok t command.clientOrderId_not_blank le_rfl "GENESIS" hall
  refine ⟨events, hevents, ?_⟩
  rw [fills_of_matches (buildEventsFrom_matches hevents)]
  rfl

/-- The chain of an answered placement is built with its outcome, and has the fills of it. -/
lemma exists_built_iff [CanonicalDigest EventContent] (t : ℤ)
    (h : result.Reports snapshot quantity quote) {P : List (ℚ × ℚ) → Prop} :
    (∃ events, buildPlaceEvents command result (.aware t) = .ok events ∧
      P (events.filterMap fillOf)) ↔
      ∃ outcome, outcomePayloads command result = .ok outcome ∧
        P (outcome.filterMap fillIn) := by
  obtain ⟨ids, hids⟩ := buildPlaceEvents_eq command t h
  rw [hids]
  constructor
  · rintro ⟨events, hbuild, hP⟩
    obtain ⟨outcome, houtcome, hbuild⟩ := bind_eq_ok.mp hbuild
    obtain ⟨events', hbuild', hfills⟩ :=
      sentPayloads_ok result t ids (outcomePayloads_named houtcome)
    obtain rfl := Except.ok.inj (hbuild.symm.trans hbuild')
    exact ⟨outcome, houtcome, hfills ▸ hP⟩
  · rintro ⟨outcome, houtcome, hP⟩
    obtain ⟨events, hbuild, hfills⟩ :=
      sentPayloads_ok result t ids (outcomePayloads_named houtcome)
    rw [houtcome, ok_bind]
    exact ⟨events, hbuild, hfills ▸ hP⟩

/-- **The price of a fill.**  The chain of every answered placement is built and records the
executed quantity at the price of the quote amount, or no fill for an order that the answer does
not call executed, if and only if the price of an executed answer agrees with its quote amount. -/
theorem recorded_price_iff [CanonicalDigest EventContent] (command : SpotOrderCommand) (t : ℤ)
    (h : result.Reports snapshot quantity quote) :
    (∃ events, buildPlaceEvents command result (.aware t) = .ok events ∧
      RecordsAnswer result quantity quote (events.filterMap fillOf)) ↔
      (result.Executed → PriceAgrees snapshot quantity quote) := by
  have hpos : 0 < quantity.toRat := by
    obtain ⟨_, -, hquantity⟩ := h.quantity_eq
    exact (positiveDecimal_eq_ok.mp hquantity).2
  have hquote : 0 < quote.toRat := by
    obtain ⟨_, -, hquote⟩ := h.quote_eq
    exact (positiveDecimal_eq_ok.mp hquote).2
  rw [exists_built_iff t h (P := RecordsAnswer result quantity quote)]
  by_cases hexecuted : result.Executed
  · have hfills : (∃ outcome, outcomePayloads command result = .ok outcome ∧
        RecordsAnswer result quantity quote (outcome.filterMap fillIn)) ↔
        ∃ price, snapshotFillPrice (some snapshot) quantity = .ok price ∧
          RecordsAnswer result quantity quote
            (if 0 < price.toRat then some (quantity.toRat, price.toRat) else none).toList := by
      rcases List.mem_cons.mp hexecuted with hstatus | hstatus
      · simp only [outcomePayloads, hstatus]
        exact fillPayloads_iff h.snapshot_eq h.quantity_eq _ (.inl rfl)
      · simp only [outcomePayloads, List.mem_singleton.mp hstatus]
        exact fillPayloads_iff h.snapshot_eq h.quantity_eq _ (.inr rfl)
    rw [hfills, imp_iff_right hexecuted, ← snapshotFillPrice_exact_iff hpos h.quote_eq]
    refine exists_congr fun price => and_congr_right fun _ => ?_
    by_cases hprice : 0 < price.toRat
    · rw [if_pos hprice]
      constructor
      · exact fun hrecords => hrecords.value _ List.mem_cons_self
      · intro heq
        refine ⟨by rw [if_pos hexecuted]; rfl, fun fill hfill => ?_⟩
        rw [List.mem_singleton.mp hfill]
        exact heq
    · rw [if_neg hprice]
      constructor
      · intro hrecords
        have hnone := hrecords.quantities
        rw [if_pos hexecuted] at hnone
        cases hnone
      · intro heq
        exact absurd ((mul_pos_iff_of_pos_right hpos).mp (heq ▸ hquote)) hprice
  · refine iff_of_true ?_ fun h => absurd h hexecuted
    obtain ⟨outcome, houtcome, hnone⟩ := outcomePayloads_unexecuted command hexecuted
    refine ⟨outcome, houtcome, ?_⟩
    rw [hnone]
    exact ⟨by rw [if_neg hexecuted]; rfl, fun _ h => absurd h List.not_mem_nil⟩

end

/-! ### A fill at its price, a market order and a better price -/

/-- The exchange reports five units as filled for fifty, with the given price field. -/
def paidResult (key price : String) : LiveCommandResult :=
  sentResult "FILLED" [("executedQty", "5"), ("cummulativeQuoteQty", "50"), (key, price)]

/-- A limit order for five units at eleven. -/
def limitOrder : SpotOrderCommand where
  symbol := "HOTUSDT"
  side := .buy
  orderType := .limit
  quantity := ⟨false, 5, 0⟩
  clientOrderId := "o2"
  price := some ⟨false, 11, 0⟩
  timeInForce := some "GTC"
  symbol_alnum := hotusdt_alnum
  quantity_pos := fiveUnits_pos
  clientOrderId_not_blank := by decide
  clientOrderId_short := by decide
  clientOrderId_ascii := by decide
  priceConstraints := by decide +kernel

/-- The answer reports its quantity and its quote amount, whatever its price field. -/
lemma paidResult_reports {key price : String} (hkey : key = "avgPrice" ∨ key = "price") :
    (paidResult key price).Reports
      (.ofList [("executedQty", "5"), ("cummulativeQuoteQty", "50"), (key, price)])
      ⟨false, 5, 0⟩ ⟨false, 50, 0⟩ where
  sent := .inl rfl
  authorized := by
    change ∀ id ∈ [some "p", some "q", some "b2"], id.any fun text => !isBlank text
    decide
  snapshot_eq := rfl
  quantity_eq := by
    refine ⟨("executedQty", "5"), ?_, by decide +kernel⟩
    rcases hkey with rfl | rfl <;> simp [firstPresent, SortedMap.ofList]
  quote_eq := by
    refine ⟨("cummulativeQuoteQty", "50"), ?_, by decide +kernel⟩
    rcases hkey with rfl | rfl <;> simp [firstPresent, SortedMap.ofList, quoteKeys]

/-- An average price of the answer is recorded with its quote amount. -/
theorem average_price_recorded :
    letI := CanonicalDigest.const Payload
    letI := CanonicalDigest.const EventContent
    ∃ events, buildPlaceEvents marketOrder (paidResult "avgPrice" "10.00") (.aware 0) =
        .ok events ∧
      RecordsAnswer (paidResult "avgPrice" "10.00") ⟨false, 5, 0⟩ ⟨false, 50, 0⟩
        (events.filterMap fillOf) := by
  let _ := CanonicalDigest.const Payload
  let _ := CanonicalDigest.const EventContent
  refine (recorded_price_iff marketOrder 0 (paidResult_reports (.inl rfl))).mpr fun _ => ?_
  have hprice : firstPresent (.ofList [("executedQty", "5"), ("cummulativeQuoteQty", "50"),
      ("avgPrice", "10.00")]) priceKeys = some ("avgPrice", "10.00") := by decide +kernel
  rw [PriceAgrees, hprice]
  exact ⟨⟨false, 1000, -2⟩, by decide +kernel, by norm_num [Decimal.toRat]⟩

/-- The zero price of a market order aborts the chain, and of an order that was filled at a better
price than its limit the limit is recorded. -/
theorem price_field_recorded :
    letI := CanonicalDigest.const Payload
    letI := CanonicalDigest.const EventContent
    ((paidResult "price" "0.00000000").Reports
        (.ofList [("executedQty", "5"), ("cummulativeQuoteQty", "50"), ("price", "0.00000000")])
        ⟨false, 5, 0⟩ ⟨false, 50, 0⟩ ∧
      ¬ ∃ events, buildPlaceEvents marketOrder (paidResult "price" "0.00000000") (.aware 0) =
        .ok events) ∧
    (paidResult "price" "11").Reports
        (.ofList [("executedQty", "5"), ("cummulativeQuoteQty", "50"), ("price", "11")])
        ⟨false, 5, 0⟩ ⟨false, 50, 0⟩ ∧
      ∃ events, buildPlaceEvents limitOrder (paidResult "price" "11") (.aware 0) = .ok events ∧
        events.filterMap fillOf = [(5, 11)] ∧
        ¬ RecordsAnswer (paidResult "price" "11") ⟨false, 5, 0⟩ ⟨false, 50, 0⟩
          (events.filterMap fillOf) := by
  let _ := CanonicalDigest.const Payload
  let _ := CanonicalDigest.const EventContent
  refine ⟨⟨paidResult_reports (.inr rfl), ?_⟩, paidResult_reports (.inr rfl), ?_⟩
  · have hnone : (buildPlaceEvents marketOrder (paidResult "price" "0.00000000")
        (.aware 0)).toOption.isNone := by decide +kernel
    rintro ⟨events, hbuild⟩
    rw [hbuild] at hnone
    cases hnone
  · have hbuild : (buildPlaceEvents limitOrder (paidResult "price" "11")
        (.aware 0)).toOption.map (·.filterMap fillOf) = some [(5, 11)] := by decide +kernel
    obtain ⟨events, hevents, hfills⟩ := Option.map_eq_some_iff.mp hbuild
    refine ⟨events, toOption_eq_some.mp hevents, hfills, fun hrecords => ?_⟩
    have hvalue := hrecords.value (5, 11) (hfills ▸ List.mem_cons_self)
    norm_num [Decimal.toRat] at hvalue

end Ai4Binance

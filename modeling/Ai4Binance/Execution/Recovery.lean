/-
Restart recovery of paper orders (`recover_paper_orders` of `execution/recovery.py` and
`reconcile_open_orders` of `portfolio/reconciliation.py`).

Every journal is rebuilt to one order, or a blocker says why not; the open orders are
then compared with the open orders of the exchange, if these are known.  Every failure
ends in one list of blockers, and the recovery is complete when the list is empty.  Only
`EventJournalCorruptionError` and `ValueError` are such failures: a record whose decoding
raises another exception ends the recovery with it.

* `recoverJournals`: the loop over the journals;
* `reconcileOpenOrders`: the comparison, symbols up to letter case;
* `recoverPaperOrders`: the report;
* `Recovered`: what a complete recovery amounts to;
* `recovery_is_fail_closed`: a report comes back for every snapshot without repeated
  ids, and it is complete exactly for recovered orders;
* `escaped_load_raises`: an exception that a load lets through.
-/
import Ai4Binance.Execution.PendingCancel

open Text Check

namespace Ai4Binance

/-! ### Open orders -/

/-- `OpenOrderView`.  A quantity may be infinite. -/
@[ext] structure OpenOrderView where
  clientOrderId : String
  symbol : String
  remainingQuantity : WithTop ℚ
  identity : isBlank clientOrderId = false ∧ isBlank symbol = false
  remaining_pos : 0 < remainingQuantity

instance : DecidableEq OpenOrderView := fun _ _ =>
  decidable_of_iff _ OpenOrderView.ext_iff.symm

/-- `OpenOrderView(…)`, on a finite quantity. -/
def createView (clientOrderId symbol : String) (remaining : ℚ) : Except PyError OpenOrderView :=
  if hid : isBlank clientOrderId = false ∧ isBlank symbol = false then
    if hpos : 0 < remaining then
      .ok ⟨clientOrderId, symbol, remaining, hid, WithTop.coe_pos.mpr hpos⟩
    else .error (.value "open-order remaining quantity must be positive")
  else .error (.value "open-order identity is required")

/-- What `load` of a journal comes to: the events, an `EventJournalCorruptionError`, or
another exception, of the decoding of a record (`_load_unlocked` catches `KeyError`,
`TypeError` and `ValueError` there, and neither `IndexError` nor `OverflowError`). -/
inductive JournalLoad where
  | loaded (events : List DomainEvent)
  | corrupt
  | raises (error : PyError)
  deriving DecidableEq

/-- `ReconciliationReport`. -/
structure ReconciliationReport where
  localCount : ℕ
  exchangeCount : ℕ
  missingOnExchange : List String
  unknownOnExchange : List String
  quantityMismatches : List String
  blockers : List String
  deriving DecidableEq

/-- `sorted` on texts. -/
def sortedTexts (texts : List String) : List String := texts.mergeSort fun a b => decide (a ≤ b)

/-- `if texts: blockers.append(message)`. -/
def blockerIf (texts : List String) (message : String) : List String :=
  match texts with
  | [] => []
  | _ :: _ => [message]

namespace OpenOrderView

/-- The ids of a list of orders. -/
def ids (orders : List OpenOrderView) : List String := orders.map (·.clientOrderId)

variable [UnicodeData]

/-- What is compared: the id, the symbol in upper case and the quantity. -/
def row (view : OpenOrderView) : String × String × WithTop ℚ :=
  (view.clientOrderId, upper view.symbol, view.remainingQuantity)

end OpenOrderView

open OpenOrderView (ids)

/-- `_index`: the ids have to be different ones. -/
def index (orders : List OpenOrderView) (source : String) : Except PyError Unit :=
  raiseIf ((ids orders).dedup.length ≠ orders.length)
    (.value (source ++ " open orders must have unique identities"))

/-- `reconcile_open_orders`, once both sides are indexed. -/
def reconcileIndexed [UnicodeData] (localOrders exchangeOrders : List OpenOrderView) :
    ReconciliationReport :=
  let missing := sortedTexts ((ids localOrders).filter (· ∉ ids exchangeOrders))
  let unknown := sortedTexts ((ids exchangeOrders).filter (· ∉ ids localOrders))
  let mismatches := sortedTexts (ids (localOrders.filter fun l =>
    exchangeOrders.any fun e => l.clientOrderId = e.clientOrderId &&
      (upper l.symbol ≠ upper e.symbol || l.remainingQuantity ≠ e.remainingQuantity)))
  { localCount := localOrders.length
    exchangeCount := exchangeOrders.length
    missingOnExchange := missing
    unknownOnExchange := unknown
    quantityMismatches := mismatches
    blockers :=
      blockerIf missing "LOCAL_ORDER_MISSING_ON_EXCHANGE" ++
        blockerIf unknown "UNKNOWN_EXCHANGE_OPEN_ORDER" ++
        blockerIf mismatches "OPEN_ORDER_STATE_MISMATCH" }

/-- `reconcile_open_orders`. -/
def reconcileOpenOrders [UnicodeData] (localOrders exchangeOrders : List OpenOrderView) :
    Except PyError ReconciliationReport := do
  index localOrders "local"
  index exchangeOrders "exchange"
  pure (reconcileIndexed localOrders exchangeOrders)

/-! ### The recovery -/

/-- `_OPEN_STATUSES`. -/
def openStatuses : List OrderStatus := [.submitted, .accepted, .partiallyFilled, .pendingCancel]

/-- The local variables of the loop.  The identities that were seen are those of the
orders. -/
structure RecoveryLoop where
  orders : List OrderState := []
  quarantined : List String := []
  blockers : List String := []
  deriving DecidableEq

/-- `PaperOrderRecoveryReport`. -/
structure PaperOrderRecoveryReport where
  orders : List OrderState
  reconciliation : Option ReconciliationReport
  quarantinedOrderIds : List String
  blockers : List String
  recoveryComplete : Bool
  deriving DecidableEq

section

variable [UnicodeData] (ops : DecimalOps)

/-- The order of a journal with events. -/
def rebuildOrder (events : List DomainEvent) : Except PyError OrderState := do
  raiseIf ((events.map (·.aggregateId)).dedup.length ≠ 1)
    (.value "paper order journal must contain one aggregate")
  OrderStateMachine.replay ops events

/-- A journal whose events were replayed, or which raised; `ValueError` is caught. -/
def addOrder (loop : RecoveryLoop) : Except PyError OrderState → Except PyError RecoveryLoop
  | .ok state =>
      if state.orderId ∈ loop.orders.map (·.orderId) then
        .ok { loop with
          quarantined := loop.quarantined ++ [state.orderId]
          blockers := loop.blockers ++ ["DUPLICATE_PAPER_ORDER_IDENTITY"] }
      else .ok { loop with orders := loop.orders ++ [state] }
  | .error (.value _) =>
      .ok { loop with blockers := loop.blockers ++ ["PAPER_ORDER_JOURNAL_INVALID"] }
  | .error e => .error e

/-- The body of the loop. -/
def recoverJournal (loop : RecoveryLoop) : JournalLoad → Except PyError RecoveryLoop
  | .corrupt => .ok { loop with blockers := loop.blockers ++ ["PAPER_ORDER_JOURNAL_INVALID"] }
  | .raises error => addOrder loop (.error error)
  | .loaded [] => .ok { loop with blockers := loop.blockers ++ ["PAPER_ORDER_JOURNAL_EMPTY"] }
  | .loaded (event :: events) => addOrder loop (rebuildOrder ops (event :: events))

/-- The loop. -/
def recoverJournals (loop : RecoveryLoop) :
    List JournalLoad → Except PyError RecoveryLoop
  | [] => .ok loop
  | journal :: journals => do
      let next ← recoverJournal ops loop journal
      recoverJournals next journals

/-- The view of an open order, with its `remaining_quantity`. -/
def openView (state : OrderState) : Except PyError OpenOrderView := do
  let remaining ← orRaise (ops.sub state.requestedQuantity state.filledQuantity) .decimal
  createView state.orderId state.symbol remaining

/-- The open orders among the rebuilt ones. -/
def localOpen (orders : List OrderState) : Except PyError (List OpenOrderView) :=
  (orders.filter (·.status ∈ openStatuses)).mapM (openView ops)

/-- The comparison with the snapshot: the report, if there is a snapshot, its blockers and
the ids it adds to the quarantine. -/
def compareSnapshot (views : List OpenOrderView) :
    Option (List OpenOrderView) →
      Except PyError (Option ReconciliationReport × List String × List String)
  | none =>
      .ok (none, blockerIf (ids views) "EXCHANGE_OPEN_ORDER_SNAPSHOT_NOT_SUPPLIED", [])
  | some exchange => do
      let report ← reconcileOpenOrders views exchange
      pure (some report, report.blockers, report.unknownOnExchange)

/-- `recover_paper_orders`. -/
def recoverPaperOrders (journals : List JournalLoad)
    (exchangeOpenOrders : Option (List OpenOrderView)) :
    Except PyError PaperOrderRecoveryReport := do
  let loop ← recoverJournals ops {} journals
  let views ← localOpen ops loop.orders
  let (reconciliation, blockers, unknown) ← compareSnapshot views exchangeOpenOrders
  let uniqueBlockers := (loop.blockers ++ blockers).eraseDups
  pure
    { orders := loop.orders.mergeSort fun a b => decide (a.orderId ≤ b.orderId)
      reconciliation
      quarantinedOrderIds := sortedTexts (loop.quarantined ++ unknown).dedup
      blockers := uniqueBlockers
      recoveryComplete := uniqueBlockers = [] }

end

/-! ### The comparison -/

lemma sortedTexts_eq_nil {texts : List String} : sortedTexts texts = [] ↔ texts = [] := by
  rw [sortedTexts, ← List.length_eq_zero_iff, List.length_mergeSort, List.length_eq_zero_iff]

lemma blockerIf_eq_nil {texts : List String} {message : String} :
    blockerIf texts message = [] ↔ texts = [] := by
  cases texts <;> simp [blockerIf]

lemma ids_eq_nil {orders : List OpenOrderView} : ids orders = [] ↔ orders = [] :=
  List.map_eq_nil_iff

lemma length_dedup_ids {orders : List OpenOrderView} :
    (ids orders).dedup.length = orders.length ↔ (ids orders).Nodup := by
  constructor
  · intro h
    have hlength : (ids orders).dedup.length = (ids orders).length := by simpa [ids] using h
    rw [← (List.dedup_sublist _).eq_of_length hlength]
    exact List.nodup_dedup _
  · intro h
    rw [h.dedup, ids, List.length_map]

lemma index_eq_ok {orders : List OpenOrderView} {source : String} :
    index orders source = .ok () ↔ (ids orders).Nodup := by
  rw [index, raiseIf_eq_ok, not_not, length_dedup_ids]

lemma eq_of_id {orders : List OpenOrderView} (h : (ids orders).Nodup) {v w : OpenOrderView}
    (hv : v ∈ orders) (hw : w ∈ orders) (hid : v.clientOrderId = w.clientOrderId) : v = w :=
  List.inj_on_of_nodup_map h hv hw hid

lemma mem_ids {orders : List OpenOrderView} {id : String} :
    id ∈ ids orders ↔ ∃ v ∈ orders, v.clientOrderId = id := List.mem_map

variable [UnicodeData]

/-- Both sides have the same rows. -/
def SameRows (localOrders exchangeOrders : List OpenOrderView) : Prop :=
  ∀ row, row ∈ localOrders.map (·.row) ↔ row ∈ exchangeOrders.map (·.row)

lemma mem_ids_of_row {orders : List OpenOrderView} {v : OpenOrderView}
    (h : v.row ∈ orders.map (·.row)) : v.clientOrderId ∈ ids orders := by
  obtain ⟨w, hw, hrow⟩ := List.mem_map.mp h
  exact mem_ids.mpr ⟨w, hw, congrArg Prod.fst hrow⟩

/-- **The comparison has no blocker exactly for the same rows.** -/
lemma reconcileIndexed_blockers {localOrders exchangeOrders : List OpenOrderView}
    (hexchange : (ids exchangeOrders).Nodup) :
    (reconcileIndexed localOrders exchangeOrders).blockers = [] ↔
      SameRows localOrders exchangeOrders := by
  simp only [reconcileIndexed, List.append_eq_nil_iff, blockerIf_eq_nil, sortedTexts_eq_nil,
    ids_eq_nil, List.filter_eq_nil_iff, decide_eq_true_eq, not_not]
  constructor
  · rintro ⟨⟨hmissing, hunknown⟩, hmismatch⟩ row
    have hrow : ∀ l ∈ localOrders, ∀ e ∈ exchangeOrders, l.clientOrderId = e.clientOrderId →
        l.row = e.row := by
      intro l hl e he hid
      have hnone := hmismatch l hl
      simp only [List.any_eq_true, not_exists, not_and] at hnone
      have hsame := hnone e he
      simp only [hid, decide_true, Bool.true_and, Bool.or_eq_true, decide_eq_true_eq, not_or,
        not_not, ne_eq] at hsame
      rw [OpenOrderView.row, OpenOrderView.row, hid, hsame.1, hsame.2]
    constructor
    · intro hmem
      obtain ⟨l, hl, rfl⟩ := List.mem_map.mp hmem
      obtain ⟨e, he, hid⟩ := mem_ids.mp (hmissing _ (List.mem_map_of_mem hl))
      exact List.mem_map.mpr ⟨e, he, (hrow l hl e he hid.symm).symm⟩
    · intro hmem
      obtain ⟨e, he, rfl⟩ := List.mem_map.mp hmem
      obtain ⟨l, hl, hid⟩ := mem_ids.mp (hunknown _ (List.mem_map_of_mem he))
      exact List.mem_map.mpr ⟨l, hl, hrow l hl e he hid⟩
  · intro hsame
    refine ⟨⟨fun id hid => ?_, fun id hid => ?_⟩, fun l hl hany => ?_⟩
    · obtain ⟨l, hl, rfl⟩ := mem_ids.mp hid
      exact mem_ids_of_row ((hsame _).mp (List.mem_map_of_mem hl))
    · obtain ⟨e, he, rfl⟩ := mem_ids.mp hid
      exact mem_ids_of_row ((hsame _).mpr (List.mem_map_of_mem he))
    · obtain ⟨e, he, hbad⟩ := List.any_eq_true.mp hany
      obtain ⟨w, hw, hrow⟩ := List.mem_map.mp ((hsame l.row).mp (List.mem_map_of_mem hl))
      simp only [Bool.and_eq_true, decide_eq_true_eq, Bool.or_eq_true, ne_eq] at hbad
      obtain rfl := eq_of_id hexchange hw he ((congrArg Prod.fst hrow).trans hbad.1)
      have hrest := congrArg Prod.snd hrow
      rcases hbad.2 with hsymbol | hquantity
      · exact hsymbol (congrArg Prod.fst hrest).symm
      · exact hquantity (congrArg Prod.snd hrest).symm

/-! ### The loop -/

section

variable {ops : DecimalOps}

/-- The journal has events of one aggregate that replay to this order. -/
def Rebuilds (ops : DecimalOps) (journal : JournalLoad) (state : OrderState) : Prop :=
  ∃ events, journal = .loaded events ∧ events ≠ [] ∧
    (events.map (·.aggregateId)).dedup.length = 1 ∧ OrderStateMachine.replay ops events = .ok state

/-- The decimal context signals nothing while the journal is replayed, and leaves an open
order a positive remaining quantity. -/
structure DecimalSafe (ops : DecimalOps) (events : List DomainEvent) : Prop where
  replay : ∀ e, OrderStateMachine.replay ops events = .error e → ∃ message, e = .value message
  remaining : ∀ state, OrderStateMachine.replay ops events = .ok state →
    state.status ∈ openStatuses →
    ∃ q, ops.sub state.requestedQuantity state.filledQuantity = some q ∧ 0 < q

lemma Rebuilds.eq {journal : JournalLoad} {s t : OrderState}
    (hs : Rebuilds ops journal s) (ht : Rebuilds ops journal t) : s = t := by
  obtain ⟨events, rfl, -, -, hs⟩ := hs
  obtain ⟨events', hevents, -, -, ht⟩ := ht
  obtain rfl := JournalLoad.loaded.inj hevents
  exact Except.ok.inj (hs.symm.trans ht)

lemma rebuilds_cons {event : DomainEvent} {events : List DomainEvent} {state : OrderState} :
    Rebuilds ops (.loaded (event :: events)) state ↔
      rebuildOrder ops (event :: events) = .ok state := by
  simp only [rebuildOrder, bind_eq_ok, raiseIf_eq_ok, not_not]
  constructor
  · rintro ⟨_, h, -, hone, hreplay⟩
    obtain rfl := JournalLoad.loaded.inj h
    exact ⟨(), hone, hreplay⟩
  · rintro ⟨-, hone, hreplay⟩
    exact ⟨_, rfl, by simp, hone, hreplay⟩

/-- A journal that is not rebuilt to a new order leaves a blocker. -/
def Blocked (ops : DecimalOps) (loop next : RecoveryLoop) (journal : JournalLoad) :
    Prop :=
  next.orders = loop.orders ∧ next.blockers ≠ [] ∧
    ∀ state, Rebuilds ops journal state → state.orderId ∈ loop.orders.map (·.orderId)

/-- A journal that is rebuilt. -/
def Rebuilt (ops : DecimalOps) (loop next : RecoveryLoop) (journal : JournalLoad) :
    Prop :=
  ∃ state, Rebuilds ops journal state ∧ state.orderId ∉ loop.orders.map (·.orderId) ∧
    next = { loop with orders := loop.orders ++ [state] }

/-- **One journal**: it is rebuilt, or there is a blocker. -/
lemma recoverJournal_cases (loop : RecoveryLoop) {journal : JournalLoad}
    (hload : ∀ error, journal ≠ .raises error)
    (hsafe : ∀ events, journal = .loaded events → DecimalSafe ops events) :
    ∃ next, recoverJournal ops loop journal = .ok next ∧
      (Blocked ops loop next journal ∨ Rebuilt ops loop next journal) := by
  match journal with
  | .corrupt =>
    refine ⟨_, rfl, .inl ⟨rfl, by simp, ?_⟩⟩
    rintro state ⟨_, h, -⟩
    cases h
  | .raises error => exact absurd rfl (hload error)
  | .loaded [] =>
    refine ⟨_, rfl, .inl ⟨rfl, by simp, ?_⟩⟩
    rintro state ⟨_, h, hne, -⟩
    exact absurd (JournalLoad.loaded.inj h).symm hne
  | .loaded (event :: events) =>
    rw [recoverJournal]
    cases hrebuild : rebuildOrder ops (event :: events) with
    | ok state =>
      rw [addOrder]
      split_ifs with hmem
      · refine ⟨_, rfl, .inl ⟨rfl, by simp, fun other hother => ?_⟩⟩
        rwa [hother.eq (rebuilds_cons.mpr hrebuild)]
      · exact ⟨_, rfl, .inr ⟨state, rebuilds_cons.mpr hrebuild, hmem, rfl⟩⟩
    | error e =>
      -- an error of the aggregate check or of the replay is a `ValueError`
      have hvalue : ∃ message, e = .value message := by
        rw [rebuildOrder] at hrebuild
        by_cases hone : (((event :: events).map (·.aggregateId)).dedup.length ≠ 1)
        · rw [raiseIf, if_pos hone, error_bind] at hrebuild
          exact ⟨_, (Except.error.inj hrebuild).symm⟩
        · rw [raiseIf, if_neg hone, ok_bind] at hrebuild
          exact (hsafe _ rfl).replay e hrebuild
      obtain ⟨message, rfl⟩ := hvalue
      refine ⟨_, rfl, .inl ⟨rfl, by simp, fun state hstate => ?_⟩⟩
      rw [rebuilds_cons, hrebuild] at hstate
      cases hstate

/-- The state after the loop. -/
structure LoopEnd (ops : DecimalOps) (loop next : RecoveryLoop)
    (journals : List JournalLoad) : Prop where
  nodup : (next.orders.map (·.orderId)).Nodup
  mem : ∀ o ∈ next.orders, o ∈ loop.orders ∨
    ∃ events, .loaded events ∈ journals ∧ OrderStateMachine.replay ops events = .ok o
  rebuilt : next.blockers = [] → loop.blockers = [] ∧ ∃ orders,
    List.Forall₂ (Rebuilds ops) journals orders ∧ next.orders = loop.orders ++ orders
  complete : ∀ orders, List.Forall₂ (Rebuilds ops) journals orders →
    ((loop.orders ++ orders).map (·.orderId)).Nodup → loop.blockers = [] →
    next.blockers = [] ∧ next.orders = loop.orders ++ orders

lemma Rebuilt.loopEnd {loop next final : RecoveryLoop} {journal : JournalLoad}
    {journals : List JournalLoad} (h : Rebuilt ops loop next journal)
    (hend : LoopEnd ops next final journals) : LoopEnd ops loop final (journal :: journals) := by
  obtain ⟨state, hstate, hnew, rfl⟩ := h
  refine ⟨hend.nodup, fun o ho => ?_, fun hempty => ?_, fun orders horders hnodup hempty => ?_⟩
  · rcases hend.mem o ho with ho | ⟨events, hevents, hreplay⟩
    · rcases List.mem_append.mp ho with ho | ho
      · exact .inl ho
      · obtain ⟨events, rfl, -, -, hreplay⟩ := hstate
        exact .inr ⟨events, List.mem_cons_self .., by rw [List.mem_singleton.mp ho]; exact hreplay⟩
    · exact .inr ⟨events, List.mem_cons_of_mem _ hevents, hreplay⟩
  · obtain ⟨hloop, orders, horders, hfinal⟩ := hend.rebuilt hempty
    refine ⟨hloop, state :: orders, .cons hstate horders, ?_⟩
    rw [hfinal, List.append_assoc]
    rfl
  · cases horders with
    | cons hother horders =>
      obtain rfl := hother.eq hstate
      obtain ⟨hblockers, hfinal⟩ :=
        hend.complete _ horders (by rwa [List.append_assoc]) hempty
      refine ⟨hblockers, ?_⟩
      rw [hfinal, List.append_assoc]
      rfl

lemma Blocked.loopEnd {loop next final : RecoveryLoop} {journal : JournalLoad}
    {journals : List JournalLoad} (h : Blocked ops loop next journal)
    (hend : LoopEnd ops next final journals) : LoopEnd ops loop final (journal :: journals) := by
  obtain ⟨horders, hblocked, hknown⟩ := h
  refine ⟨hend.nodup, fun o ho => ?_, fun hempty => absurd (hend.rebuilt hempty).1 hblocked,
    fun orders hrebuilds hnodup _ => ?_⟩
  · rcases hend.mem o ho with ho | ⟨events, hevents, hreplay⟩
    · exact .inl (horders ▸ ho)
    · exact .inr ⟨events, List.mem_cons_of_mem _ hevents, hreplay⟩
  · cases hrebuilds with
    | cons hstate _ =>
      rw [List.map_append, List.map_cons, List.nodup_append] at hnodup
      exact absurd rfl (hnodup.2.2 _ (hknown _ hstate) _ (List.mem_cons_self ..))

/-- **The loop**: it ends, and without blockers exactly when all journals are rebuilt to
different orders. -/
lemma recoverJournals_ok {journals : List JournalLoad} (loop : RecoveryLoop)
    (hload : ∀ error, .raises error ∉ journals)
    (hsafe : ∀ events, .loaded events ∈ journals → DecimalSafe ops events)
    (hnodup : (loop.orders.map (·.orderId)).Nodup) :
    ∃ next, recoverJournals ops loop journals = .ok next ∧ LoopEnd ops loop next journals := by
  induction journals generalizing loop with
  | nil =>
    refine ⟨loop, rfl, hnodup, fun o ho => .inl ho, fun hempty => ⟨hempty, [], .nil, by simp⟩, ?_⟩
    rintro orders horders - hempty
    cases horders
    exact ⟨hempty, by simp⟩
  | cons journal journals ih =>
    have hjournal : ∀ events, journal = .loaded events → DecimalSafe ops events :=
      fun events h => hsafe events (by simp [h])
    have hloaded : ∀ error, journal ≠ .raises error :=
      fun error h => hload error (by simp [h])
    obtain ⟨next, hnext, hcases⟩ := recoverJournal_cases loop hloaded hjournal
    have hnodup' : (next.orders.map (·.orderId)).Nodup := by
      rcases hcases with ⟨horders, -⟩ | ⟨state, -, hnew, rfl⟩
      · rwa [horders]
      · rw [List.map_append, List.map_cons, List.map_nil, List.nodup_append]
        exact ⟨hnodup, List.nodup_singleton _, fun a ha b hb hab =>
          hnew (List.mem_singleton.mp hb ▸ hab ▸ ha)⟩
    obtain ⟨final, hfinal, hend⟩ :=
      ih next (fun error h => hload error (List.mem_cons_of_mem _ h))
        (fun events h => hsafe events (List.mem_cons_of_mem _ h)) hnodup'
    refine ⟨final, by rw [recoverJournals, hnext, ok_bind, hfinal], ?_⟩
    rcases hcases with hblocked | hrebuilt
    · exact hblocked.loopEnd hend
    · exact hrebuilt.loopEnd hend

/-! ### The open orders -/

/-- An order keeps the id and the symbol of its first event. -/
lemma replayFrom_identity {events : List DomainEvent} {s t : OrderState}
    (h : OrderStateMachine.replayFrom ops (some s) events = .ok (some t)) :
    t.orderId = s.orderId ∧ t.symbol = s.symbol := by
  induction events generalizing s with
  | nil =>
    obtain rfl := Option.some.inj (Except.ok.inj h)
    exact ⟨rfl, rfl⟩
  | cons event events ih =>
    obtain ⟨r, hr, hrest⟩ := OrderStateMachine.replayFrom_cons_ok.mp h
    obtain ⟨-, -, hstep⟩ := OrderStateMachine.apply_some_cases hr
    obtain ⟨hid, hsymbol⟩ := ih hrest
    cases hstep with
    | status k status hk hmem ht =>
      rw [ht] at hid hsymbol
      exact ⟨hid, hsymbol⟩
    | fill isFilled quantity price hk hfill hstep htype hsame =>
      exact ⟨hid.trans hsame.1, hsymbol.trans hsame.2.1⟩

/-- A replayed order has an id and a symbol. -/
lemma replay_not_blank [UpperKeepsText] {events : List DomainEvent} {t : OrderState}
    (hvalid : ∀ e ∈ events, isBlank e.aggregateId = false)
    (h : OrderStateMachine.replay ops events = .ok t) :
    isBlank t.orderId = false ∧ isBlank t.symbol = false := by
  obtain ⟨hne, h⟩ := OrderStateMachine.replay_ok_iff.mp h
  cases events with
  | nil => exact absurd rfl hne
  | cons first rest =>
    obtain ⟨s, hs, hrest⟩ := OrderStateMachine.replayFrom_cons_ok.mp h
    obtain ⟨hid, hsymbol⟩ := replayFrom_identity hrest
    simp only [OrderStateMachine.apply, OrderStateMachine.applyFirst, bind_eq_ok, raiseIf_eq_ok,
      pure_eq_ok] at hs
    obtain ⟨-, -, _, -, _, -, -, hblank, rfl⟩ := hs
    rw [hid, hsymbol]
    refine ⟨hvalid first (List.mem_cons_self ..), ?_⟩
    by_contra hspace
    have hstrip := (isBlank_iff _).mp (by simpa using hspace)
    rw [strip_upper_strip] at hstrip
    exact hblank hstrip

omit [UnicodeData] in
lemma openView_ok {state : OrderState}
    (hid : isBlank state.orderId = false ∧ isBlank state.symbol = false)
    (hq : ∃ q, ops.sub state.requestedQuantity state.filledQuantity = some q ∧ 0 < q) :
    ∃ view, openView ops state = .ok view ∧ view.clientOrderId = state.orderId := by
  obtain ⟨q, hsub, hpos⟩ := hq
  refine ⟨⟨state.orderId, state.symbol, q, hid, WithTop.coe_pos.mpr hpos⟩, ?_, rfl⟩
  rw [openView, hsub, orRaise, ok_bind, createView, dif_pos hid, dif_pos hpos]

omit [UnicodeData] in
lemma exists_mapM_openView {orders : List OrderState}
    (h : ∀ o ∈ orders, ∃ view, openView ops o = .ok view ∧ view.clientOrderId = o.orderId) :
    ∃ views, orders.mapM (openView ops) = .ok views ∧ ids views = orders.map (·.orderId) := by
  induction orders with
  | nil => exact ⟨[], rfl, rfl⟩
  | cons o orders ih =>
    obtain ⟨view, hview, hid⟩ := h o (List.mem_cons_self ..)
    obtain ⟨views, hviews, hids⟩ := ih fun p hp => h p (List.mem_cons_of_mem _ hp)
    refine ⟨view :: views, ?_, ?_⟩
    · rw [List.mapM_cons, hview, ok_bind, hviews]
      rfl
    · rw [ids, List.map_cons, hid, List.map_cons, ← hids, ids]

/-! ### The report -/

/-- The open orders are those of the snapshot; without a snapshot there are none. -/
def SnapshotAgrees (views : List OpenOrderView) : Option (List OpenOrderView) → Prop
  | none => views = []
  | some exchange => SameRows views exchange

/-- **A recovered restart**: every journal holds the events of one aggregate and replays,
to orders with different ids, and the open orders among them are those of the snapshot. -/
def Recovered (ops : DecimalOps) (journals : List JournalLoad)
    (snapshot : Option (List OpenOrderView)) : Prop :=
  ∃ orders views, List.Forall₂ (Rebuilds ops) journals orders ∧
    (orders.map (·.orderId)).Nodup ∧ localOpen ops orders = .ok views ∧
    SnapshotAgrees views snapshot

lemma compareSnapshot_ok {views : List OpenOrderView} {snapshot : Option (List OpenOrderView)}
    (hviews : (ids views).Nodup) (hsnapshot : ∀ exchange ∈ snapshot, (ids exchange).Nodup) :
    ∃ result, compareSnapshot views snapshot = .ok result ∧
      (result.2.1 = [] ↔ SnapshotAgrees views snapshot) := by
  cases snapshot with
  | none =>
    refine ⟨_, rfl, ?_⟩
    rw [blockerIf_eq_nil, ids_eq_nil]
    rfl
  | some exchange =>
    have hexchange := hsnapshot exchange rfl
    have hreconcile : reconcileOpenOrders views exchange = .ok (reconcileIndexed views exchange) := by
      rw [reconcileOpenOrders, index_eq_ok.mpr hviews, ok_bind, index_eq_ok.mpr hexchange]
      rfl
    refine ⟨_, by rw [compareSnapshot, hreconcile]; rfl, ?_⟩
    exact reconcileIndexed_blockers hexchange

/-- The open orders of the loop. -/
lemma localOpen_ok [UpperKeepsText] {journals : List JournalLoad}
    {next : RecoveryLoop}
    (hvalid : ∀ events, .loaded events ∈ journals → ∀ e ∈ events, isBlank e.aggregateId = false)
    (hsafe : ∀ events, .loaded events ∈ journals → DecimalSafe ops events)
    (hend : LoopEnd ops {} next journals) :
    ∃ views, localOpen ops next.orders = .ok views ∧ (ids views).Nodup := by
  have hviews : ∀ o ∈ next.orders.filter (·.status ∈ openStatuses),
      ∃ view, openView ops o = .ok view ∧ view.clientOrderId = o.orderId := by
    intro o ho
    obtain ⟨ho, hopen⟩ := List.mem_filter.mp ho
    obtain ⟨events, hevents, hreplay⟩ := (hend.mem o ho).resolve_left (by simp)
    exact openView_ok (replay_not_blank (hvalid events hevents) hreplay)
      ((hsafe events hevents).remaining o hreplay (by simpa using hopen))
  obtain ⟨views, hok, hids⟩ := exists_mapM_openView hviews
  refine ⟨views, hok, ?_⟩
  rw [hids]
  exact hend.nodup.sublist (List.filter_sublist.map _)

/-- **Recovery is fail-closed**: for journals that load or are refused as corrupt, on which
the decimal context signals nothing, a snapshot that repeats an id is refused, and for every
other one there is a report, which is complete exactly when the orders are recovered. -/
theorem recovery_is_fail_closed [UpperKeepsText] {journals : List JournalLoad}
    (snapshot : Option (List OpenOrderView)) (hload : ∀ error, .raises error ∉ journals)
    (hvalid : ∀ events, .loaded events ∈ journals → ∀ e ∈ events, isBlank e.aggregateId = false)
    (hsafe : ∀ events, .loaded events ∈ journals → DecimalSafe ops events) :
    ((∀ exchange ∈ snapshot, (ids exchange).Nodup) →
      ∃ report, recoverPaperOrders ops journals snapshot = .ok report ∧
        (report.recoveryComplete = true ↔ Recovered ops journals snapshot)) ∧
    ∀ exchange ∈ snapshot, ¬ (ids exchange).Nodup →
      recoverPaperOrders ops journals snapshot =
        .error (.value "exchange open orders must have unique identities") := by
  obtain ⟨next, hnext, hend⟩ := recoverJournals_ok {} hload hsafe List.nodup_nil
  obtain ⟨views, hviews, hnodup⟩ := localOpen_ok hvalid hsafe hend
  constructor
  · intro hsnapshot
    obtain ⟨result, hresult, hagrees⟩ := compareSnapshot_ok hnodup hsnapshot
    refine ⟨_, by rw [recoverPaperOrders, hnext, ok_bind, hviews, ok_bind, hresult, ok_bind]; rfl,
      ?_⟩
    simp only [decide_eq_true_eq, eraseDups_eq_nil, List.append_eq_nil_iff]
    rw [hagrees]
    constructor
    · rintro ⟨hempty, hsame⟩
      obtain ⟨-, orders, hrebuilds, horders⟩ := hend.rebuilt hempty
      obtain rfl : next.orders = orders := horders
      exact ⟨next.orders, views, hrebuilds, hend.nodup, hviews, hsame⟩
    · rintro ⟨orders, views', hrebuilds, hids, hviews', hsame⟩
      obtain ⟨hempty, horders⟩ := hend.complete orders hrebuilds hids rfl
      obtain rfl : next.orders = orders := horders
      obtain rfl := Except.ok.inj (hviews.symm.trans hviews')
      exact ⟨hempty, hsame⟩
  · rintro exchange rfl hrepeated
    have hindex : index exchange "exchange" =
        .error (.value "exchange open orders must have unique identities") := by
      rw [index, raiseIf, if_pos (length_dedup_ids.not.mpr hrepeated)]
      rfl
    rw [recoverPaperOrders, hnext, ok_bind, hviews, ok_bind, compareSnapshot, reconcileOpenOrders,
      index_eq_ok.mpr hnodup, ok_bind, hindex]
    rfl

lemma recoverJournals_append (loop : RecoveryLoop) (before after : List JournalLoad) :
    recoverJournals ops loop (before ++ after) =
      recoverJournals ops loop before >>= fun next => recoverJournals ops next after := by
  induction before generalizing loop with
  | nil => rfl
  | cons journal before ih =>
    simp only [List.cons_append, recoverJournals, bind_assoc, ih]

/-- An exception that a load lets through, other than `ValueError`, is raised by the recovery
when the journals before can be read, whatever comes after them. -/
theorem escaped_load_raises {before after : List JournalLoad} {error : PyError}
    (snapshot : Option (List OpenOrderView)) (hload : ∀ error, .raises error ∉ before)
    (hsafe : ∀ events, .loaded events ∈ before → DecimalSafe ops events)
    (herror : ∀ message, error ≠ .value message) :
    recoverPaperOrders ops (before ++ .raises error :: after) snapshot = .error error := by
  obtain ⟨next, hnext, -⟩ := recoverJournals_ok {} hload hsafe List.nodup_nil
  have hraises : recoverJournal ops next (.raises error) = .error error := by
    cases error with
    | value message => exact absurd rfl (herror message)
    | _ => rfl
  rw [recoverPaperOrders, recoverJournals_append, hnext, ok_bind, recoverJournals, hraises]
  rfl

end

end Ai4Binance

/-! ### A recovered order and a repeated id -/

namespace Ai4Binance

open OpenOrderView (ids)
open OrderStateMachine (openOrder)

/-- The open order of the journal `openOrder`, as the exchange reports it. -/
def openRow : OpenOrderView := ⟨"order-1", "hotusdt", 2, by decide, by decide⟩

/-- The restart of an open order is complete. -/
theorem open_order_is_recovered :
    ∃ report, recoverPaperOrders (.ofContext .default) [.loaded openOrder] (some [openRow]) =
        .ok report ∧ report.recoveryComplete = true ∧
      Recovered (.ofContext .default) [.loaded openOrder] (some [openRow]) := by
  have hvalid : ∀ events, JournalLoad.loaded events ∈ [.loaded openOrder] → ∀ e ∈ events,
      isBlank e.aggregateId = false := by
    intro events hevents
    obtain rfl := JournalLoad.loaded.inj (List.mem_singleton.mp hevents)
    decide
  have hsafe : ∀ events, JournalLoad.loaded events ∈ [.loaded openOrder] →
      DecimalSafe (.ofContext .default) events := by
    intro events hevents
    obtain rfl := JournalLoad.loaded.inj (List.mem_singleton.mp hevents)
    obtain ⟨t, ht, hfields⟩ := OrderStateMachine.exists_replay (.ofContext .default) openOrder
      (fun t => (t.requestedQuantity, t.filledQuantity)) (a := (2, 0)) (by decide +kernel)
    refine ⟨fun e he => (nomatch ht.symm.trans he), fun state hstate _ => ?_⟩
    obtain rfl := Except.ok.inj (ht.symm.trans hstate)
    obtain ⟨hrequested, hfilled⟩ := Prod.mk.inj hfields
    rw [hrequested, hfilled]
    exact ⟨2, by decide +kernel, two_pos⟩
  obtain ⟨report, hreport, hiff⟩ :=
    (recovery_is_fail_closed (some [openRow]) (by simp) hvalid hsafe).1 (by decide)
  have hcomplete : (recoverPaperOrders (.ofContext .default) [.loaded openOrder]
      (some [openRow])).toOption.map (·.recoveryComplete) = some true := by decide +kernel
  rw [hreport] at hcomplete
  have hreported : report.recoveryComplete = true := Option.some.inj hcomplete
  exact ⟨report, hreport, hreported, hiff.mp hreported⟩

/-- A snapshot with a repeated id raises. -/
theorem repeated_id_raises :
    (ids [openRow, openRow]).length = 2 ∧
      recoverPaperOrders (.ofContext .default) [.loaded openOrder] (some [openRow, openRow]) =
        .error (.value "exchange open orders must have unique identities") := by
  decide +kernel

end Ai4Binance

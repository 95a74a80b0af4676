/-
What a raising call leaves behind in the order book.

`apply_snapshot` and `apply_delta` write the bids before they look at the asks,
and set the state before they compute the observation.  A call that raises at
one of these points leaves a book that is neither the old one nor the new one,
while the state still says `LIVE`.

* `BookCall`, `call`, `after`, `raises`: the calls, with the exception
  swallowed by the caller;
* `CompletesOn`: the calls that do not stop half-way, or stop after writing what
  was there already;
* `LiveShape`: what a `LIVE` book promises;
* `raise_unchanged_iff_completesOn`: exactly the calls in `CompletesOn` leave
  the book alone when they raise, and runs of such calls keep `LiveShape`.
-/
import Ai4Binance.Exchange.OrderBook
import Ai4Binance.Lib.Run

namespace Ai4Binance

/-- A call of the order book. -/
inductive BookCall where
  | snapshot (s : OrderBookSnapshot)
  | delta (d : OrderBookDelta)
  deriving DecidableEq

namespace ReadOnlyOrderBook

/-! ### Calls -/

/-- The call, and what it leaves behind. -/
def call (b : ReadOnlyOrderBook) : BookCall → Outcome
  | .snapshot s => b.applySnapshot s
  | .delta d => b.applyDelta d

/-- The book after a call whose exception, if any, is swallowed. -/
def after (b : ReadOnlyOrderBook) (c : BookCall) : ReadOnlyOrderBook := (b.call c).1

/-- The call raises. -/
def raises (b : ReadOnlyOrderBook) (c : BookCall) : Bool :=
  match (b.call c).2 with
  | .error _ => true
  | .ok _ => false

/-- The calls that do not stop between two writes.

A snapshot of the book's own symbol with unique bid prices has unique ask
prices, unless it restates the stored bids; and the figures of its sides do not
trap, unless it restates the whole book.  The same holds of a delta that
continues the sequence; for one that leaves a gap, the figures of the stored
sides do not trap. -/
def CompletesOn (b : ReadOnlyOrderBook) : BookCall → Prop
  | .snapshot s =>
      s.symbol = b.symbol → ∀ bids, levelsOf s.bids = .ok bids →
        (uniquePrices s.asks = false → bids = b.bids) ∧
        ∀ asks, levelsOf s.asks = .ok asks → quoteTop bids asks = none →
          b.withSnapshot s bids asks = b
  | .delta d =>
      ∀ last, b.Judged d last →
        (b.validSequence last d = false → quoteTop b.bids b.asks ≠ none) ∧
        (b.validSequence last d → ∀ bids, applySide b.bids d.bids = .ok bids →
          (uniquePrices d.asks = false → bids = b.bids) ∧
          ∀ asks, applySide b.asks d.asks = .ok asks → quoteTop bids asks = none →
            b.withDelta d bids asks = b)

/-- What the state `LIVE` promises: two sides, within the limit, not crossed. -/
def LiveShape (b : ReadOnlyOrderBook) : Prop :=
  b.state = .live → ∃ bestBid bestAsk, b.bids.maxKey? = some bestBid ∧
    b.asks.minKey? = some bestAsk ∧ bestBid < bestAsk ∧
    b.bids.size ≤ b.maximumLevels ∧ b.asks.size ≤ b.maximumLevels

/-! ### A live book -/

lemma validate_live {maximumLevels : ℕ} {bids asks : Side}
    (h : (validate maximumLevels bids asks).1 = .live) :
    ∃ bestBid bestAsk, bids.maxKey? = some bestBid ∧ asks.minKey? = some bestAsk ∧
      bestBid < bestAsk ∧ bids.size ≤ maximumLevels ∧ asks.size ≤ maximumLevels := by
  rw [validate] at h
  split at h
  case h_1 bestBid bestAsk hb ha =>
      split_ifs at h with hsize hcross
      rw [not_or, not_lt, not_lt] at hsize
      exact ⟨bestBid, bestAsk, hb, ha, not_le.mp hcross, hsize⟩
  case h_2 => exact absurd h (by decide)

lemma liveShape_withSnapshot (b : ReadOnlyOrderBook) (s : OrderBookSnapshot) (bids asks : Side) :
    (b.withSnapshot s bids asks).LiveShape := fun h => validate_live h

lemma liveShape_withDelta (b : ReadOnlyOrderBook) (d : OrderBookDelta) (bids asks : Side) :
    (b.withDelta d bids asks).LiveShape := fun h => validate_live h

lemma raises_iff {b : ReadOnlyOrderBook} {c : BookCall} :
    b.raises c ↔ ∃ e, (b.call c).2 = .error e := by
  rw [raises]
  split <;> simp_all

/-! ### Raising calls -/

lemma snapshot_unchanged_iff (b : ReadOnlyOrderBook) (s : OrderBookSnapshot) :
    (b.raises (.snapshot s) → b.after (.snapshot s) = b) ↔ b.CompletesOn (.snapshot s) := by
  rw [raises_iff, after, call, CompletesOn]
  have hcases := b.applySnapshot_cases s
  generalize b.applySnapshot s = o at hcases ⊢
  cases hcases with
  | refused hwhy =>
      refine iff_of_true (fun _ => rfl) fun hs bids hbids => ?_
      have hnot := levelsOf_error_iff.mpr (hwhy.resolve_left (not_not.mpr hs))
      simp [hbids] at hnot
  | @halfway e bids hs hbids hasks =>
      constructor
      · intro h _ bids' hbids'
        obtain rfl : bids = bids' := Except.ok.inj (hbids.symm.trans hbids')
        refine ⟨fun _ => congrArg ReadOnlyOrderBook.bids (h ⟨e, rfl⟩), fun asks ha => ?_⟩
        simpa [ha] using levelsOf_error_iff.mpr hasks
      · intro h _
        have hb := (h hs bids hbids).1 hasks
        subst hb
        rfl
  | @written bids asks hs hbids hasks =>
      rw [observation_error_iff, observation_fst]
      constructor
      · intro h _ bids' hbids'
        obtain rfl : bids = bids' := Except.ok.inj (hbids.symm.trans hbids')
        refine ⟨fun hu => ?_, fun asks' ha => ?_⟩
        · simpa [hasks] using levelsOf_error_iff.mpr hu
        · obtain rfl : asks = asks' := Except.ok.inj (hasks.symm.trans ha)
          exact h
      · exact fun h => (h hs bids hbids).2 asks hasks

lemma delta_unchanged_iff (b : ReadOnlyOrderBook) (d : OrderBookDelta) :
    (b.raises (.delta d) → b.after (.delta d) = b) ↔ b.CompletesOn (.delta d) := by
  rw [raises_iff, after, call, CompletesOn]
  have hcases := b.applyDelta_cases d
  generalize b.applyDelta d = o at hcases ⊢
  -- a judged delta is judged against the one update id the book has
  have hid : ∀ {l l'}, b.Judged d l → b.Judged d l' → l = l' := fun hl hl' =>
    Option.some.inj (hl.1.symm.trans hl'.1)
  cases hcases with
  | refused hwhy => exact iff_of_true (fun _ => rfl) fun l hj => absurd hj (hwhy l)
  | ignored hwhy =>
      exact iff_of_true (fun _ => observation_fst _ _ _) fun l hj => absurd hj (hwhy l)
  | @gap last hj hseq =>
      rw [observation_error_iff, observation_fst]
      constructor
      · intro h l hl
        obtain rfl := hid hj hl
        refine ⟨fun _ htrap => ?_, fun hv => by simp [hseq] at hv⟩
        have hstate : BookState.gapDetected = b.state := congrArg ReadOnlyOrderBook.state (h htrap)
        rw [hj.2.1] at hstate
        exact absurd hstate (by decide)
      · exact fun h htrap => absurd htrap ((h last hj).1 hseq)
  | @duplicated e last hj hseq hbids =>
      refine iff_of_true (fun _ => rfl) fun l hl => ?_
      obtain rfl := hid hj hl
      refine ⟨fun hv => by simp [hseq] at hv, fun _ bids hb => ?_⟩
      simpa [hb] using (applySide_error_iff b.bids).mpr hbids
  | @halfway e last bids hj hseq hbids hasks =>
      constructor
      · intro h l hl
        obtain rfl := hid hj hl
        refine ⟨fun hv => by simp [hseq] at hv, fun _ bids' hb => ?_⟩
        obtain rfl : bids = bids' := Except.ok.inj (hbids.symm.trans hb)
        refine ⟨fun _ => congrArg ReadOnlyOrderBook.bids (h ⟨e, rfl⟩), fun asks ha => ?_⟩
        simpa [ha] using (applySide_error_iff b.asks).mpr hasks
      · intro h _
        have hb := (((h last hj).2 hseq) bids hbids).1 hasks
        subst hb
        rfl
  | @written last bids asks hj hseq hbids hasks =>
      rw [observation_error_iff, observation_fst]
      constructor
      · intro h l hl
        obtain rfl := hid hj hl
        refine ⟨fun hv => by simp [hseq] at hv, fun _ bids' hb => ?_⟩
        obtain rfl : bids = bids' := Except.ok.inj (hbids.symm.trans hb)
        refine ⟨fun hu => ?_, fun asks' ha => ?_⟩
        · simpa [hasks] using (applySide_error_iff b.asks).mpr hu
        · obtain rfl : asks = asks' := Except.ok.inj (hasks.symm.trans ha)
          exact h
      · exact fun h => (((h last hj).2 hseq) bids hbids).2 asks hasks

/-- A call leaves the book alone when it raises exactly if it completes. -/
lemma raise_unchanged_iff (b : ReadOnlyOrderBook) (c : BookCall) :
    (b.raises c → b.after c = b) ↔ b.CompletesOn c := by
  cases c with
  | snapshot s => exact b.snapshot_unchanged_iff s
  | delta d => exact b.delta_unchanged_iff d

/-! ### Runs -/

/-- A call that does not raise keeps the promise of `LIVE`. -/
lemma liveShape_after_of_ok {b : ReadOnlyOrderBook} {c : BookCall} (hok : b.raises c = false)
    (hb : b.LiveShape) : (b.after c).LiveShape := by
  have hnot : ¬ ∃ e, (b.call c).2 = .error e := by rw [← raises_iff, hok]; decide
  cases c with
  | snapshot s =>
      rw [after, call] at *
      have hcases := b.applySnapshot_cases s
      generalize b.applySnapshot s = o at hcases hnot ⊢
      cases hcases with
      | refused => exact hb
      | halfway => exact absurd ⟨_, rfl⟩ hnot
      | written =>
          rw [observation_fst]
          exact b.liveShape_withSnapshot s _ _
  | delta d =>
      rw [after, call] at *
      have hcases := b.applyDelta_cases d
      generalize b.applyDelta d = o at hcases hnot ⊢
      cases hcases with
      | refused => exact hb
      | ignored =>
          rw [observation_fst]
          exact hb
      | gap =>
          rw [observation_fst]
          exact fun h => BookState.noConfusion h
      | duplicated => exact hb
      | halfway => exact absurd ⟨_, rfl⟩ hnot
      | written =>
          rw [observation_fst]
          exact b.liveShape_withDelta d _ _

/-- One completing call, raising or not, keeps the promise of `LIVE`. -/
lemma liveShape_after {b : ReadOnlyOrderBook} {c : BookCall} (hc : b.CompletesOn c)
    (hb : b.LiveShape) : (b.after c).LiveShape := by
  by_cases hr : b.raises c
  · rwa [(b.raise_unchanged_iff c).mpr hc hr]
  · exact liveShape_after_of_ok (by simpa using hr) hb

/-- A fresh book promises nothing. -/
lemma liveShape_new [Text.UnicodeData] {symbol : String} {maximumLevels : ℕ} {futures : Bool}
    {b : ReadOnlyOrderBook} (h : new symbol maximumLevels futures = .ok b) : b.LiveShape := by
  rw [new] at h
  split_ifs at h
  obtain rfl := Except.ok.inj h
  exact fun hl => BookState.noConfusion hl

/-- **Error atomicity of the order book.**  A call leaves every field of the
book as it was when it raises if and only if it does not stop between two
writes; and in every run of such calls, swallowed exceptions included, a `LIVE`
book has two sides within the limit and is not crossed. -/
theorem raise_unchanged_iff_completesOn (b : ReadOnlyOrderBook) (c : BookCall) :
    ((b.raises c → b.after c = b) ↔ b.CompletesOn c) ∧
    ∀ calls b', b.LiveShape →
      Run (fun b c b' => b.CompletesOn c ∧ b' = b.after c) b calls b' → b'.LiveShape := by
  refine ⟨b.raise_unchanged_iff c, fun calls b' hb hrun => ?_⟩
  refine hrun.invariant (P := LiveShape) ?_ hb
  rintro s c _ ⟨hc, rfl⟩ hs
  exact liveShape_after hc hs

/-! The prices, the update id and the symbol of a thin book. -/

lemma bidPrice_pos : (0 : ℚ) < 100 := by norm_num

lemma askPrice_pos : (0 : ℚ) < 101 := by norm_num

lemma updateId_pos : 1 ≤ 10 := by norm_num

lemma noQuantity_nonneg : (0 : ℚ) ≤ 0 := le_rfl

lemma twoUnits_nonneg : (0 : ℚ) ≤ 2 := by norm_num

lemma btcusdt_not_blank : Text.isBlank "BTCUSDT" = false := by decide

/-- One bid at 100, one ask at 101, update id 10. -/
def thinSnapshot : OrderBookSnapshot where
  symbol := "BTCUSDT"
  lastUpdateId := 10
  observedAt := 0
  bids := [⟨⟨100, bidPrice_pos⟩, 1, by norm_num⟩]
  asks := [⟨⟨101, askPrice_pos⟩, 1, by norm_num⟩]
  lastUpdateId_pos := updateId_pos
  symbol_not_blank := btcusdt_not_blank
  bids_ne_nil := by simp
  asks_ne_nil := by simp

/-- The next delta takes the bid away and names one ask price twice. -/
def duplicatedAskDelta : OrderBookDelta where
  firstUpdateId := 11
  lastUpdateId := 11
  eventTime := 1
  bids := [⟨⟨100, bidPrice_pos⟩, 0, noQuantity_nonneg⟩]
  asks := [⟨⟨101, askPrice_pos⟩, 1, by norm_num⟩, ⟨⟨101, askPrice_pos⟩, 2, twoUnits_nonneg⟩]
  firstUpdateId_pos := by norm_num
  first_le_last := by norm_num

/-- The delta is refused with an exception, and the book is left `LIVE`, at the
old update id, with no bid at all. -/
theorem duplicatedAskDelta_leaves_live_book_without_bids :
    let fresh : ReadOnlyOrderBook := { symbol := "BTCUSDT" }
    let b := fresh.after (.snapshot thinSnapshot)
    let b' := b.after (.delta duplicatedAskDelta)
    b.state = .live ∧ b.raises (.delta duplicatedAskDelta) = true ∧ b' ≠ b ∧
      b'.state = .live ∧ b'.lastUpdateId = some 10 ∧ b'.bids = SortedMap.empty := by
  decide +kernel

end ReadOnlyOrderBook

end Ai4Binance

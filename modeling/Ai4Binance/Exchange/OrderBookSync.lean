/-
The order book follows the exchange's book.

The exchange's book is any sequence of finite books indexed by update id.  A
snapshot repeats it at one id; a delta carries absolute quantities that are
true at its last id, among them every level that changed in the range of ids it
covers.  Which range that is depends on the market: `first … last` for spot and
for the futures delta that bridges the snapshot, `previous + 1 … last` for later
futures deltas.

* `GroundTruth`, `TrueSide`, `Truthful`: the exchange's book and the calls that
  report it;
* `Synced`: a `LIVE` book equals the truth at its update id;
* `after_synced`: one truthful call keeps `Synced`, whatever its outcome;
* `accepted_call_tracks_truth`: the statement over runs, with the behaviour of
  stale deltas and of a book that has seen a gap.
-/
import Ai4Binance.Exchange.OrderBookAtomicity
import Ai4Binance.Lib.Replica

open Replica

namespace Ai4Binance

/-! ### The exchange's book -/

/-- The quantity resting at a price, zero for none. -/
def qty (side : Side) (p : PosRat) : ℚ := (side.get? p).elim 0 Subtype.val

/-- The exchange's book at every update id. -/
structure GroundTruth where
  bids : ℕ → Side
  asks : ℕ → Side

/-- The levels are true at id `last`, and every price whose quantity changed in
the updates `start + 1, …, last` is among them. -/
def TrueSide (truth : ℕ → Side) (start last : ℕ) (levels : List BookLevel) : Prop :=
  (∀ item ∈ levels, item.quantity = qty (truth last) item.price) ∧
    ∀ p, ChangedIn (fun n => qty (truth n)) start last p → ∃ item ∈ levels, item.price = p

/-! ### Sides as quantity functions -/

lemma qty_eq_zero_iff {side : Side} {p : PosRat} : qty side p = 0 ↔ side.get? p = none := by
  rw [qty]
  cases side.get? p with
  | none => simp
  | some q => simpa using ne_of_gt q.2

/-- Two sides with the same quantity at every price are the same side. -/
lemma side_ext {side side' : Side} (h : ∀ p, qty side p = qty side' p) : side = side' := by
  refine SortedMap.ext_get? fun p => ?_
  cases hp : side.get? p with
  | none => rw [eq_comm, ← qty_eq_zero_iff, ← h, qty_eq_zero_iff.mpr hp]
  | some q =>
      have hq : qty side' p = q := by rw [← h, qty, hp]; rfl
      cases hp' : side'.get? p with
      | none =>
          rw [qty_eq_zero_iff.mpr hp'] at hq
          exact absurd hq (ne_of_lt q.2)
      | some q' =>
          rw [qty, hp'] at hq
          exact congrArg some (Subtype.ext hq.symm)

namespace ReadOnlyOrderBook

@[simp] lemma qty_putLevel (side : Side) (item : BookLevel) (p : PosRat) :
    qty (putLevel side item) p = if item.price = p then item.quantity else qty side p := by
  rw [putLevel]
  split_ifs with h0 hp hp
  · simp [qty, hp, h0]
  · simp [qty, hp]
  · simp [qty, hp]
  · simp [qty, hp]

/-- The quantities after a level list with unique prices: the list's own where
it has the price, the old ones elsewhere. -/
lemma qty_foldl_putLevel {levels : List BookLevel} (h : (levels.map (·.price)).Nodup)
    (side : Side) (p : PosRat) :
    qty (levels.foldl putLevel side) p =
      ((levels.find? (·.price = p)).map (·.quantity)).getD (qty side p) := by
  induction levels generalizing side with
  | nil => rfl
  | cons item levels ih =>
      obtain ⟨hnot, hrest⟩ := List.nodup_cons.mp h
      rw [List.foldl_cons, ih hrest, qty_putLevel]
      by_cases hp : item.price = p
      · have hnone : levels.find? (·.price = p) = none := by
          refine List.find?_eq_none.mpr fun item' hmem he => hnot ?_
          exact List.mem_map.mpr ⟨item', hmem, (of_decide_eq_true he).trans hp.symm⟩
        simp [hp, hnone]
      · simp [hp]

/-- A truthful delta side brings a side from the truth at an id it connects to
to the truth at its last id. -/
lemma applySide_eq_truth {truth : ℕ → Side} {start from' last : ℕ} {levels : List BookLevel}
    {side : Side} (htrue : TrueSide truth start last levels) (hstart : start ≤ from')
    (hlast : from' ≤ last) (happ : applySide (truth from') levels = .ok side) :
    side = truth last := by
  rw [applySide] at happ
  split_ifs at happ with hu
  obtain rfl := Except.ok.inj happ
  refine side_ext fun p => ?_
  rw [qty_foldl_putLevel (of_decide_eq_true hu)]
  refine patch_eq_truth (fun n => qty (truth n))
    (fun p => (levels.find? (·.price = p)).map (·.quantity)) hlast
    (fun _ => rfl) (fun q v hv => ?_) (fun q hq => ?_) p
  · obtain ⟨item, hfind, rfl⟩ := Option.map_eq_some_iff.mp hv
    have hprice : item.price = q := by simpa using List.find?_some hfind
    rw [htrue.1 item (List.mem_of_find?_eq_some hfind), hprice]
  · obtain ⟨item, hmem, hprice⟩ := htrue.2 q (hq.mono hstart)
    rw [Option.isSome_map, List.find?_isSome]
    exact ⟨item, hmem, by simpa using hprice⟩

/-! ### Truthful calls -/

/-- The id before the first update a delta covers, as the book reads it. -/
def coverStart (b : ReadOnlyOrderBook) (d : OrderBookDelta) : ℕ :=
  if b.futuresSequence && b.bridged then d.previousUpdateId.getD d.lastUpdateId
  else d.firstUpdateId - 1

/-- The call reports the exchange's book, with unique prices on each side. -/
def Truthful (b : ReadOnlyOrderBook) (truth : GroundTruth) : BookCall → Prop
  | .snapshot s =>
      levelsOf s.bids = .ok (truth.bids s.lastUpdateId) ∧
        levelsOf s.asks = .ok (truth.asks s.lastUpdateId)
  | .delta d =>
      uniquePrices d.bids ∧ uniquePrices d.asks ∧
        TrueSide truth.bids (b.coverStart d) d.lastUpdateId d.bids ∧
        TrueSide truth.asks (b.coverStart d) d.lastUpdateId d.asks

/-- Both sides equal the truth at the book's update id. -/
def Tracks (b : ReadOnlyOrderBook) (truth : GroundTruth) : Prop :=
  ∃ last, b.lastUpdateId = some last ∧ b.bids = truth.bids last ∧ b.asks = truth.asks last

/-- A `LIVE` book has passed its checks and tracks the truth. -/
def Synced (truth : GroundTruth) (b : ReadOnlyOrderBook) : Prop :=
  b.state = .live → (validate b.maximumLevels b.bids b.asks).1 = .live ∧ b.Tracks truth

/-- A delta that continues the sequence covers everything after the book's id. -/
lemma coverStart_le {b : ReadOnlyOrderBook} {d : OrderBookDelta} {last : ℕ}
    (hseq : b.validSequence last d) : b.coverStart d ≤ last := by
  have hfirst := d.firstUpdateId_pos
  rw [validSequence, expectedId] at hseq
  rw [coverStart]
  cases hf : b.futuresSequence <;> cases hb : b.bridged <;> simp [hf, hb] at hseq ⊢
  · omega
  · omega
  · omega
  · simp [hseq.2]

lemma Judged.le {b : ReadOnlyOrderBook} {d : OrderBookDelta} {last : ℕ} (h : b.Judged d last) :
    last ≤ d.lastUpdateId := by
  have := h.2.2.2
  rw [expectedId] at this
  omega

/-- A written delta leads from the truth to the truth. -/
lemma written_eq_truth {truth : GroundTruth} {b : ReadOnlyOrderBook} {d : OrderBookDelta}
    {last : ℕ} {bids asks : Side} (hsync : b.Synced truth) (htrue : b.Truthful truth (.delta d))
    (hj : b.Judged d last) (hseq : b.validSequence last d)
    (hbids : applySide b.bids d.bids = .ok bids) (hasks : applySide b.asks d.asks = .ok asks) :
    bids = truth.bids d.lastUpdateId ∧ asks = truth.asks d.lastUpdateId := by
  obtain ⟨-, last', hlast', htb, hta⟩ := hsync hj.2.1
  obtain rfl : last = last' := Option.some.inj (hj.1.symm.trans hlast')
  rw [htb] at hbids
  rw [hta] at hasks
  exact ⟨applySide_eq_truth htrue.2.2.1 (coverStart_le hseq) hj.le hbids,
    applySide_eq_truth htrue.2.2.2 (coverStart_le hseq) hj.le hasks⟩

/-- **One step**: a truthful call keeps a synced book synced, also when it
raises. -/
theorem after_synced {truth : GroundTruth} {b : ReadOnlyOrderBook} {c : BookCall}
    (htrue : b.Truthful truth c) (hsync : b.Synced truth) : (b.after c).Synced truth := by
  cases c with
  | snapshot s =>
      rw [after, call]
      have hcases := b.applySnapshot_cases s
      generalize b.applySnapshot s = o at hcases ⊢
      cases hcases with
      | refused => exact hsync
      | halfway _ _ hasks =>
          simpa [htrue.2] using levelsOf_error_iff.mpr hasks
      | written _ hbids hasks =>
          rw [observation_fst]
          refine fun hlive => ⟨hlive, s.lastUpdateId, rfl, ?_, ?_⟩
          · exact Except.ok.inj (hbids.symm.trans htrue.1)
          · exact Except.ok.inj (hasks.symm.trans htrue.2)
  | delta d =>
      rw [after, call]
      have hcases := b.applyDelta_cases d
      generalize b.applyDelta d = o at hcases ⊢
      cases hcases with
      | refused => exact hsync
      | ignored =>
          rw [observation_fst]
          exact hsync
      | gap =>
          rw [observation_fst]
          exact fun h => BookState.noConfusion h
      | duplicated => exact hsync
      | halfway _ _ _ hasks => simp [htrue.2.1] at hasks
      | written hj hseq hbids hasks =>
          rw [observation_fst]
          exact fun hlive => ⟨hlive, d.lastUpdateId, rfl,
            written_eq_truth hsync htrue hj hseq hbids hasks⟩

/-! ### Accepted calls, stale deltas, gaps -/

lemma observation_accepted {b : ReadOnlyOrderBook} {accepted : Bool} {bl : List String}
    {obs : OrderBookObservation} (h : (b.observation accepted bl).2 = .ok obs) :
    obs.accepted = accepted := by
  rw [observation] at h
  split at h
  · simp at h
  · obtain rfl := Except.ok.inj h
    rfl

/-- A call is accepted only into a `LIVE` book. -/
lemma live_of_accepted {b : ReadOnlyOrderBook} {c : BookCall} {obs : OrderBookObservation}
    (hok : (b.call c).2 = .ok obs) (hacc : obs.accepted = true) : (b.after c).state = .live := by
  cases c with
  | snapshot s =>
      rw [after, call] at *
      have hcases := b.applySnapshot_cases s
      generalize b.applySnapshot s = o at hcases hok ⊢
      cases hcases with
      | refused => simp at hok
      | halfway => simp at hok
      | written =>
          rw [observation_accepted hok] at hacc
          rw [observation_fst]
          exact of_decide_eq_true hacc
  | delta d =>
      rw [after, call] at *
      have hcases := b.applyDelta_cases d
      generalize b.applyDelta d = o at hcases hok ⊢
      cases hcases with
      | refused => simp at hok
      | ignored => simp [observation_accepted hok] at hacc
      | gap => simp [observation_accepted hok] at hacc
      | duplicated => simp at hok
      | halfway => simp at hok
      | written =>
          rw [observation_accepted hok] at hacc
          rw [observation_fst]
          exact of_decide_eq_true hacc

/-- A stale delta can only be judged by a futures book that still waits for its
bridge, and only at the book's own id. -/
lemma Judged.stale {b : ReadOnlyOrderBook} {d : OrderBookDelta} {last last' : ℕ}
    (hj : b.Judged d last') (hlast : b.lastUpdateId = some last) (hle : d.lastUpdateId ≤ last) :
    last' = last ∧ b.futuresSequence = true ∧ b.bridged = false ∧ d.lastUpdateId = last := by
  obtain rfl : last' = last := Option.some.inj (hj.1.symm.trans hlast)
  have hexp := hj.2.2.2
  rw [expectedId] at hexp
  split_ifs at hexp with h
  · rw [Bool.and_eq_true, Bool.not_eq_true'] at h
    exact ⟨rfl, h.1, h.2, le_antisymm hle (by simpa using hexp)⟩
  · omega

/-- At the book's own id, a waiting futures book asks only for a previous id. -/
lemma validSequence_at_bridge {b : ReadOnlyOrderBook} {d : OrderBookDelta}
    (hf : b.futuresSequence = true) (hb : b.bridged = false) :
    b.validSequence d.lastUpdateId d = d.previousUpdateId.isSome := by
  simp [validSequence, expectedId, hf, hb, d.first_le_last]

/-- A delta wholly at or before the book's id changes nothing, but for the
bridging delta of a futures book: it sets the flag and the time, or opens a gap
when it has no previous id. -/
lemma after_stale_delta {truth : GroundTruth} {b : ReadOnlyOrderBook} {d : OrderBookDelta}
    {last : ℕ} (hsync : b.Synced truth) (htrue : b.Truthful truth (.delta d))
    (hlast : b.lastUpdateId = some last) (hle : d.lastUpdateId ≤ last) :
    b.after (.delta d) = b ∨
      (b.futuresSequence = true ∧ b.bridged = false ∧ d.lastUpdateId = last ∧
        b.after (.delta d) =
          if d.previousUpdateId.isSome then
            { b with bridged := true, lastEventAt := some d.eventTime }
          else { b with state := .gapDetected }) := by
  rw [after, call]
  have hcases := b.applyDelta_cases d
  generalize b.applyDelta d = o at hcases ⊢
  cases hcases with
  | refused => exact Or.inl rfl
  | ignored => exact Or.inl (observation_fst _ _ _)
  | gap hj hseq =>
      obtain ⟨rfl, hf, hb, he⟩ := hj.stale hlast hle
      rw [← he, validSequence_at_bridge hf hb] at hseq
      refine Or.inr ⟨hf, hb, he, ?_⟩
      rw [observation_fst, hseq]
      rfl
  | duplicated _ _ hbids => simp [htrue.1] at hbids
  | halfway _ _ _ hasks => simp [htrue.2.1] at hasks
  | @written _ bids asks hj hseq hbids hasks =>
      obtain ⟨rfl, hf, hb, he⟩ := hj.stale hlast hle
      have hprev := hseq
      rw [← he, validSequence_at_bridge hf hb] at hprev
      obtain ⟨hvalid, last', hlast', htb, hta⟩ := hsync hj.2.1
      obtain ⟨hb', ha'⟩ := written_eq_truth hsync htrue hj hseq hbids hasks
      have hl : last' = d.lastUpdateId := by
        rw [he]
        exact Option.some.inj (hlast'.symm.trans hlast)
      rw [← hl, ← htb] at hb'
      rw [← hl, ← hta] at ha'
      refine Or.inr ⟨hf, hb, he, ?_⟩
      rw [observation_fst, if_pos hprev, withDelta, hb', ha', hvalid, he, ← hlast, ← hj.2.1]

/-- A book that is not `LIVE` answers every delta with a refusal. -/
lemma applyDelta_of_not_live {b : ReadOnlyOrderBook} (hlive : b.state ≠ .live)
    (d : OrderBookDelta) :
    b.after (.delta d) = b ∧
      ∀ obs, (b.call (.delta d)).2 = .ok obs → obs.accepted = false := by
  rw [after, call]
  have hcases := b.applyDelta_cases d
  generalize b.applyDelta d = o at hcases ⊢
  cases hcases with
  | refused => exact ⟨rfl, fun obs h => by simp at h⟩
  | ignored => exact ⟨observation_fst _ _ _, fun obs h => observation_accepted h⟩
  | gap hj => exact absurd hj.2.1 hlive
  | duplicated hj => exact absurd hj.2.1 hlive
  | halfway hj => exact absurd hj.2.1 hlive
  | written hj => exact absurd hj.2.1 hlive

/-- **Resynchronisation.**  In every run of truthful snapshots and deltas, in
any order, with repeats and gaps: an accepted call leaves both sides equal to
the truth at the book's update id; a delta wholly at or before that id changes
neither the sides nor the id, and nothing at all unless it is the bridging delta
of a futures book; and after a gap every further delta is refused, until the
next snapshot. -/
theorem accepted_call_tracks_truth (truth : GroundTruth) {b₀ b : ReadOnlyOrderBook}
    {calls : List BookCall} (h₀ : b₀.state ≠ .live)
    (hrun : Run (fun b c b' => b.Truthful truth c ∧ b' = b.after c) b₀ calls b) :
    (∀ c obs, b.Truthful truth c → (b.call c).2 = .ok obs → obs.accepted = true →
      (b.after c).Tracks truth) ∧
    (∀ d last, b.Truthful truth (.delta d) → b.lastUpdateId = some last →
      d.lastUpdateId ≤ last →
        b.after (.delta d) = b ∨
          (b.futuresSequence = true ∧ b.bridged = false ∧ d.lastUpdateId = last ∧
            b.after (.delta d) =
              if d.previousUpdateId.isSome then
                { b with bridged := true, lastEventAt := some d.eventTime }
              else { b with state := .gapDetected })) ∧
    (b.state = .gapDetected → ∀ ds b', Run (fun b d b' => b' = b.after (.delta d)) b ds b' →
      b' = b ∧ ∀ d obs, (b'.call (.delta d)).2 = .ok obs → obs.accepted = false) := by
  have hsync : b.Synced truth := by
    refine hrun.invariant (P := Synced truth) ?_ fun h => absurd h h₀
    rintro s c _ ⟨htrue, rfl⟩ hs
    exact after_synced htrue hs
  refine ⟨fun c obs htrue hok hacc => ?_, fun d last => after_stale_delta hsync, ?_⟩
  · exact (after_synced htrue hsync (live_of_accepted hok hacc)).2
  · intro hgap ds b' hds
    have hnot : b.state ≠ .live := by rw [hgap]; decide
    have hb' : b' = b := by
      refine hds.invariant (P := (· = b)) ?_ rfl
      rintro s d _ rfl rfl
      exact (applyDelta_of_not_live hnot d).1
    subst hb'
    exact ⟨rfl, fun d => (applyDelta_of_not_live hnot d).2⟩

/-- The exchange's book of the examples: the bid grows from 1 to 2 in update
11. -/
def thinTruth : GroundTruth where
  bids n := SortedMap.empty.insert ⟨100, bidPrice_pos⟩
    (if n < 11 then ⟨1, by norm_num⟩ else ⟨2, by norm_num⟩)
  asks _ := SortedMap.empty.insert ⟨101, askPrice_pos⟩ ⟨1, by norm_num⟩

/-- The futures delta of updates 10 and 11. -/
def bridgingDelta : OrderBookDelta where
  firstUpdateId := 10
  lastUpdateId := 11
  eventTime := 1
  bids := [⟨⟨100, bidPrice_pos⟩, 2, twoUnits_nonneg⟩]
  asks := []
  previousUpdateId := some 9
  firstUpdateId_pos := updateId_pos
  first_le_last := by norm_num

/-- The futures delta that ends at the snapshot's own id. -/
def ownIdDelta : OrderBookDelta where
  firstUpdateId := 10
  lastUpdateId := 10
  eventTime := 1
  bids := []
  asks := []
  previousUpdateId := some 9
  firstUpdateId_pos := updateId_pos
  first_le_last := by norm_num

/-- A futures book that has taken the thin snapshot. -/
def thinFuturesBook : ReadOnlyOrderBook :=
  ({ symbol := "BTCUSDT", futuresSequence := true } : ReadOnlyOrderBook).after
    (.snapshot thinSnapshot)

lemma thinSnapshot_truthful :
    ({ symbol := "BTCUSDT", futuresSequence := true } : ReadOnlyOrderBook).Truthful thinTruth
      (.snapshot thinSnapshot) := by
  rw [Truthful]
  decide

lemma bridgingDelta_truthful : thinFuturesBook.Truthful thinTruth (.delta bridgingDelta) := by
  refine ⟨by decide, by decide, ⟨by decide, ?_⟩, by decide, ?_⟩
  · rintro p ⟨i, hi, -, hne⟩
    -- only the price of the bid can change
    by_contra hp
    have hp' : ((⟨100, by norm_num⟩ : PosRat) = p) = False := by simpa [bridgingDelta] using hp
    simp [qty, thinTruth, hp'] at hne
  · rintro p ⟨i, -, -, hne⟩
    exact absurd rfl hne

/-- The bridging delta is accepted, and the book is the exchange's at id 11. -/
theorem bridgingDelta_tracks_truth :
    (thinFuturesBook.after (.delta bridgingDelta)).lastUpdateId = some 11 ∧
      (thinFuturesBook.after (.delta bridgingDelta)).Tracks thinTruth := by
  refine ⟨by decide +kernel, ?_⟩
  have hrun : Run (fun b c b' => b.Truthful thinTruth c ∧ b' = b.after c)
      { symbol := "BTCUSDT", futuresSequence := true } [.snapshot thinSnapshot] thinFuturesBook :=
    .single ⟨thinSnapshot_truthful, rfl⟩
  exact (accepted_call_tracks_truth thinTruth (by decide) hrun).1 (.delta bridgingDelta)
    { state := .live, accepted := true, lastUpdateId := some 11, bestBid := some 100,
      bestAsk := some 101, spreadBps := some (9950248756218905472636815920 / 10 ^ 26),
      topImbalance := some (3333333333333333333333333333 / 10 ^ 28), blockers := [] }
    bridgingDelta_truthful (by decide +kernel) rfl

/-- A truthful delta wholly at the book's update id that changes the book: it
sets the bridged flag of a futures book. -/
theorem ownIdDelta_changes_book :
    thinFuturesBook.state = .live ∧ thinFuturesBook.lastUpdateId = some 10 ∧
      thinFuturesBook.Truthful thinTruth (.delta ownIdDelta) ∧ ownIdDelta.lastUpdateId ≤ 10 ∧
      thinFuturesBook.bridged = false ∧
      (thinFuturesBook.after (.delta ownIdDelta)).bridged = true := by
  refine ⟨by decide +kernel, by decide +kernel, ?_, by decide, by decide +kernel,
    by decide +kernel⟩
  refine ⟨by decide, by decide, ⟨by simp [ownIdDelta], ?_⟩, by simp [ownIdDelta], ?_⟩
  · rintro p ⟨i, -, hi, hne⟩
    have h10 : i < 10 := hi
    simp [thinTruth, show i < 11 by omega, show i + 1 < 11 by omega] at hne
  · rintro p ⟨i, -, -, hne⟩
    exact absurd rfl hne

end ReadOnlyOrderBook

end Ai4Binance

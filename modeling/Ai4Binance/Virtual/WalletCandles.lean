/-
The candles of a managed position.

`manage_positions` is called again and again with windows of candles that overlap in any
way.  When the windows are cut from one regular series, the candles that are processed
over all calls are a run of that series, without a gap or a repetition, from the first
candle that opens at or after the opening; each is closed when it is processed; and one
call with the whole run leaves the same position and portfolio.  A window without the next
candle moves nothing; it is refused when it holds a later closed candle, and passed over
when it is a regular one that holds none.

* `Regular`, `firstFrom`: a regular series, and its first candle from a time on;
* `Processes`: processing candles one after the other;
* `CandleEvent`, `Progress`: the movements of the processed candles, kept by every call
  (`Progress.step`, `Progressed.run`);
* `manageCandles_run`, `manageCandles_stays`: one call on a run, and on a window without
  the next candle;
* `candles_are_managed_once`.
-/
import Ai4Binance.Virtual.WalletSoundness

open Text Check

namespace Ai4Binance

/-! ### Regular series -/

/-- Candles that open one duration after the other. -/
def Regular (duration : ℤ) (series : ℤ → ZonedCandle) : Prop :=
  ∀ k, (series (k + 1)).timestamp = (series k).timestamp + duration

namespace Regular

variable {duration : ℤ} {series : ℤ → ZonedCandle}

lemma timestamp_eq (h : Regular duration series) (k : ℤ) :
    (series k).timestamp = (series 0).timestamp + k * duration := by
  induction k with
  | zero => simp
  | succ k ih => rw [h, ih]; ring
  | pred k ih =>
      have := h (-k - 1)
      rw [sub_add_cancel, ih] at this
      linarith

/-- A time lies in the span of one candle only. -/
lemma index_unique (h : Regular duration series) (hpos : 0 < duration) {t : ℤ} {j k : ℤ}
    (hj : t ≤ (series j).timestamp ∧ (series j).timestamp < t + duration)
    (hk : t ≤ (series k).timestamp ∧ (series k).timestamp < t + duration) : j = k := by
  rw [h.timestamp_eq j, h.timestamp_eq k] at *
  rcases lt_trichotomy j k with hlt | heq | hgt
  · nlinarith
  · exact heq
  · nlinarith

end Regular

/-- The index of the first candle that opens at or after a time. -/
def firstFrom (duration : ℤ) (series : ℤ → ZonedCandle) (t : ℤ) : ℤ :=
  (t - (series 0).timestamp + duration - 1) / duration

lemma firstFrom_le_iff {duration : ℤ} {series : ℤ → ZonedCandle} (h : Regular duration series)
    (hpos : 0 < duration) {t k : ℤ} :
    firstFrom duration series t ≤ k ↔ t ≤ (series k).timestamp := by
  rw [h.timestamp_eq, firstFrom, ← Int.lt_add_one_iff, Int.ediv_lt_iff_lt_mul hpos, add_mul,
    one_mul]
  omega

/-- The first candle opens less than one duration after the time. -/
lemma firstFrom_spec {duration : ℤ} {series : ℤ → ZonedCandle} (h : Regular duration series)
    (hpos : 0 < duration) (t : ℤ) :
    t ≤ (series (firstFrom duration series t)).timestamp ∧
      (series (firstFrom duration series t)).timestamp < t + duration := by
  refine ⟨(firstFrom_le_iff h hpos).mp le_rfl, ?_⟩
  have hprev : ¬ t ≤ (series (firstFrom duration series t - 1)).timestamp := by
    rw [← firstFrom_le_iff h hpos]
    omega
  have hstep := h (firstFrom duration series t - 1)
  rw [sub_add_cancel] at hstep
  omega

/-- The run of `n` candles from an index on. -/
def runFrom (series : ℤ → ZonedCandle) (first : ℤ) (n : ℕ) : List ZonedCandle :=
  (List.range n).map fun i : ℕ => series (first + i)

lemma runFrom_succ (series : ℤ → ZonedCandle) (first : ℤ) (n : ℕ) :
    runFrom series first (n + 1) = runFrom series first n ++ [series (first + n)] := by
  simp [runFrom, List.range_succ]

lemma runFrom_isChain {duration : ℤ} {series : ℤ → ZonedCandle} (h : Regular duration series)
    (first : ℤ) (n : ℕ) : (runFrom series first n).IsChain
      fun left right => right.timestamp - left.timestamp = duration := by
  induction n with
  | zero => exact List.isChain_nil
  | succ n ih =>
      rw [runFrom_succ, List.isChain_append]
      refine ⟨ih, List.isChain_singleton _, fun left hleft right hright => ?_⟩
      obtain rfl : series (first + n) = right := by simpa using hright
      cases n with
      | zero => simp [runFrom] at hleft
      | succ n =>
          rw [runFrom_succ, List.getLast?_concat, Option.mem_some_iff] at hleft
          have hstep := h (first + n)
          rw [← hleft, Nat.cast_succ, ← add_assoc, hstep]
          ring

namespace VirtualWalletJournal

lemma timeframeDuration_pos {timeframe : String} {duration : ℤ}
    (h : timeframeDuration timeframe = .ok duration) : 0 < duration := by
  rw [timeframeDuration] at h
  split at h
  · next seconds hlookup =>
    obtain rfl := Except.ok.inj h
    have hpos : 0 < seconds := by
      simp only [timeframeSeconds, List.lookup] at hlookup
      repeat' split at hlookup
      all_goals simp_all <;> omega
    omega
  · cases h

/-! ### Processed candles -/

/-- Processing candles one after the other, each on the position, the portfolio and the
cursor that the one before it left. -/
inductive Processes (duration : ℤ) : StoredPosition → VirtualPortfolioState → Timestamp →
    List ZonedCandle → StoredPosition → VirtualPortfolioState → Timestamp → Prop
  | nil {stored : StoredPosition} {portfolio : VirtualPortfolioState} {cursor : Timestamp} :
      Processes duration stored portfolio cursor [] stored portfolio cursor
  | cons {stored stored' : StoredPosition} {portfolio portfolio' : VirtualPortfolioState}
      {cursor cursor' : Timestamp} {candle : ZonedCandle} {candles : List ZonedCandle}
      {update : VirtualPositionUpdateDecision}
      (hpos : 0 < stored.position.remainingQuantity)
      (hupdate : stored.position.processPosition portfolio candle.toOHLCVCandle {} none
        (some (candle.timestamp + duration)) = .ok update)
      (htail : Processes duration (advancedPosition stored update.positionAfter candle)
        update.portfolioAfter (candle.time.add duration) candles stored' portfolio' cursor') :
      Processes duration stored portfolio cursor (candle :: candles) stored' portfolio' cursor'

/-- The movement of a processed candle, recorded after the candle has closed. -/
structure CandleEvent (positionId : String) (duration : ℤ) (event : LedgerEvent)
    (candle : ZonedCandle) : Prop where
  eventType : event.eventType = .movementRecorded
  movementId : event.movement.movementId = candleMovementId positionId (candle.time.add duration)
  cursor : event.movement.positionCursor = some (candle.time.add duration)
  closed : candle.timestamp + duration ≤ event.movement.timestamp.instant

lemma eventType_of_candles {positionId : String} {duration : ℤ} {events : Ledger}
    {candles : List ZonedCandle}
    (h : List.Forall₂ (CandleEvent positionId duration) events candles) :
    ∀ e ∈ events, e.eventType = .movementRecorded := by
  induction h with
  | nil => simp
  | cons hevent _ ih => exact List.forall_mem_cons.mpr ⟨hevent.eventType, ih⟩

variable {duration : ℤ} {series : ℤ → ZonedCandle} {stored stored' : StoredPosition}
  {portfolio portfolio' : VirtualPortfolioState} {cursor cursor' : Timestamp}

/-- One more candle at the end. -/
lemma Processes.concat {candles : List ZonedCandle} {candle : ZonedCandle}
    {update : VirtualPositionUpdateDecision}
    (h : Processes duration stored portfolio cursor candles stored' portfolio' cursor')
    (hpos : 0 < stored'.position.remainingQuantity)
    (hupdate : stored'.position.processPosition portfolio' candle.toOHLCVCandle {} none
      (some (candle.timestamp + duration)) = .ok update) :
    Processes duration stored portfolio cursor (candles ++ [candle])
      (advancedPosition stored' update.positionAfter candle) update.portfolioAfter
      (candle.time.add duration) := by
  induction h with
  | nil => exact .cons hpos hupdate .nil
  | cons hpos' hupdate' _ ih => exact .cons hpos' hupdate' (ih hpos hupdate)

/-- What the last movement of the Spot wallet says: the position, its cursor and the
portfolio. -/
def spotState (ledger : Ledger) : Option (StoredPosition × Timestamp × PortfolioFields) := do
  let movement ← lastMovement ledger .spot
  let stored ← movement.managedPosition
  let cursor ← movement.positionCursor
  return (stored, cursor, movement.after)

lemma spotState_eq_some {ledger : Ledger} {after : PortfolioFields} :
    spotState ledger = some (stored, cursor, after) ↔ ∃ m, lastMovement ledger .spot = some m ∧
      m.managedPosition = some stored ∧ m.positionCursor = some cursor ∧ m.after = after := by
  simp [spotState, Option.bind_eq_some_iff]

/-- The candles of a window are those of a series, if the snapshot is one of the position. -/
def CutFrom (series : ℤ → ZonedCandle) (stored : StoredPosition) (snapshot : MarketSnapshot) :
    Prop :=
  snapshot.marketType = .spot → snapshot.symbol = stored.position.symbol →
    ∀ candle ∈ snapshot.ohlcvByTimeframe stored.position.lineage.timeframe,
      ∃ k, candle = series k

/-- What the calls have done to a position after `n` candles of a series. -/
structure Progress (ledger : Ledger) (duration : ℤ) (series : ℤ → ZonedCandle) (first : ℤ)
    (stored : StoredPosition) (portfolio : VirtualPortfolioState) (cursor : Timestamp) (n : ℕ)
    (events : Ledger) (stored' : StoredPosition) (portfolio' : VirtualPortfolioState)
    (cursor' : Timestamp) : Prop where
  coherent : Coherent (ledger ++ events)
  candles : List.Forall₂ (CandleEvent stored.position.positionId duration) events
    (runFrom series first n)
  fresh : ∀ e ∈ events, ¬ Recorded ledger .movementRecorded e.movement.movementId
  nodup : (events.map (·.movement.movementId)).Nodup
  processes :
    Processes duration stored portfolio cursor (runFrom series first n) stored' portfolio' cursor'
  same : SamePosition stored'.position.toPositionFields stored.position.toPositionFields
  state : spotState (ledger ++ events) = some (stored', cursor', portfolio'.toPortfolioFields)
  cursor_le : cursor'.instant ≤ (series (first + n)).timestamp
  lt_cursor : (series (first + n)).timestamp < cursor'.instant + duration

variable {ledger events start : Ledger} {first : ℤ} {n : ℕ} {event : LedgerEvent}
  {snapshot : MarketSnapshot}

/-- **One more candle.**  A movement that a call appends is the one of the next candle. -/
lemma Progress.step
    (h : Progress ledger duration series first stored portfolio cursor n events stored' portfolio'
      cursor')
    (hseries : Regular duration series)
    (hduration : timeframeDuration stored.position.lineage.timeframe = .ok duration)
    (hcut : CutFrom series stored snapshot)
    (hwrites : Writes start (ledger ++ events) (.managePositions snapshot) event) :
    ∃ stored'' portfolio'' cursor'', Progress ledger duration series first stored portfolio cursor
      (n + 1) (events ++ [event]) stored'' portfolio'' cursor'' := by
  have hcoherent := hwrites.coherent h.coherent
  obtain ⟨m, hm, hmanaged, hcursor, hafter⟩ := spotState_eq_some.mp h.state
  cases hwrites with
  | genesis _ hcall => exact absurd rfl (hcall _)
  | @candle snapshot d storedW portfolioW cursorW candle update hspot hmarket hsymbol hd hcandle hlast
      hfrom hclosed hnext hupdate hnew =>
      -- the call has found the position and the portfolio that the last candle left
      obtain ⟨m', c, hm', hopen, hc, hafter'⟩ := hlast
      obtain rfl := Option.some.inj (hm.symm.trans hm')
      obtain ⟨hmanaged', hpos, c', hc', rfl⟩ := openAt_eq_some hopen
      obtain rfl := Option.some.inj (hmanaged.symm.trans hmanaged')
      obtain rfl := Option.some.inj (hcursor.symm.trans hc')
      obtain rfl := VirtualPortfolioState.eq_of_fields_eq (hafter.symm.trans hafter')
      rw [Timestamp.instant_toUtc] at hc
      rw [h.same.lineage_eq] at hd hcandle
      obtain rfl := Except.ok.inj (hduration.symm.trans hd)
      -- its candle is the next one of the series
      obtain ⟨k, rfl⟩ := hcut hmarket (hsymbol.symm.trans h.same.symbol_eq) candle hcandle
      obtain rfl : k = first + n := hseries.index_unique (timeframeDuration_pos hduration)
        (t := cursor'.instant) ⟨by omega, by omega⟩ ⟨h.cursor_le, h.lt_cursor⟩
      obtain ⟨hsame, -⟩ := VirtualManagedPosition.processPosition_keeps hspot hupdate
      have hid := h.same.positionId_eq
      refine ⟨advancedPosition stored' update.positionAfter (series (first + n)),
        update.portfolioAfter, (series (first + n)).time.add duration, ?_⟩
      refine ⟨by rwa [← List.append_assoc], ?_, ?_, ?_, ?_, hsame.trans h.same, ?_, ?_, ?_⟩
      · rw [runFrom_succ]
        refine List.rel_append h.candles (.cons ⟨rfl, ?_, rfl, hclosed⟩ .nil)
        exact congrArg (fun id => candleMovementId id _) hid
      · intro e he hrecorded
        rcases List.mem_append.mp he with he | he
        · exact h.fresh e he hrecorded
        · obtain rfl := List.mem_singleton.mp he
          exact hnew (hrecorded.mono events)
      · rw [List.map_append, List.map_singleton, ← List.concat_eq_append, List.nodup_concat]
        refine ⟨fun hmem => ?_, h.nodup⟩
        obtain ⟨e, he, heq⟩ := List.mem_map.mp hmem
        exact hnew ⟨e, List.mem_append_right _ he, eventType_of_candles h.candles e he, heq⟩
      · rw [runFrom_succ]
        exact h.processes.concat hpos hupdate
      · rw [← List.append_assoc, spotState_eq_some]
        refine ⟨candleMovement snapshot duration stored' portfolio' _ update, ?_, rfl, rfl, rfl⟩
        rw [lastMovement_snoc]
        exact if_pos hspot
      · have hstep := hseries (first + n)
        rw [Nat.cast_succ, ← add_assoc, hstep]
        rfl
      · have hstep := hseries (first + n)
        have hpos := timeframeDuration_pos hduration
        rw [Nat.cast_succ, ← add_assoc, hstep, Timestamp.instant_add]
        exact lt_add_of_pos_right _ hpos

/-- Some number of candles of the series have been processed since a journal. -/
def Progressed (ledger : Ledger) (duration : ℤ) (series : ℤ → ZonedCandle) (first : ℤ)
    (stored : StoredPosition) (portfolio : VirtualPortfolioState) (cursor : Timestamp)
    (ledger' : Ledger) : Prop :=
  ∃ n events stored' portfolio' cursor', ledger' = ledger ++ events ∧
    Progress ledger duration series first stored portfolio cursor n events stored' portfolio' cursor'

lemma Progressed.manage {ledger' : Ledger}
    (h : Progressed ledger duration series first stored portfolio cursor ledger')
    (hseries : Regular duration series)
    (hduration : timeframeDuration stored.position.lineage.timeframe = .ok duration)
    (hcut : CutFrom series stored snapshot) :
    Progressed ledger duration series first stored portfolio cursor
      (managePositions snapshot ledger').2 := by
  have happends : Appends ledger' (.managePositions snapshot) ledger'
      (managePositions snapshot ledger').2 := by
    obtain ⟨n, events, _, _, _, rfl, hprogress⟩ := h
    exact managePositions_appends hprogress.coherent
  generalize (managePositions snapshot ledger').2 = ledger'' at happends ⊢
  induction happends with
  | refl => exact h
  | tail _ hstep ih =>
      obtain ⟨event, hwrites, rfl⟩ := hstep
      obtain ⟨n, events, stored', portfolio', cursor', rfl, hprogress⟩ := ih
      obtain ⟨stored'', portfolio'', cursor'', hprogress'⟩ :=
        hprogress.step hseries hduration hcut hwrites
      exact ⟨n + 1, _, _, _, _, List.append_assoc _ _ _, hprogress'⟩

/-- **Every run of calls** has processed a run of the series. -/
lemma Progressed.run {ledger' : Ledger} {snapshots : List MarketSnapshot}
    (h : Progressed ledger duration series first stored portfolio cursor ledger')
    (hseries : Regular duration series)
    (hduration : timeframeDuration stored.position.lineage.timeframe = .ok duration)
    (hcut : ∀ snapshot ∈ snapshots, CutFrom series stored snapshot) :
    Progressed ledger duration series first stored portfolio cursor
      (WalletCall.run ledger' (snapshots.map .managePositions)) := by
  induction snapshots generalizing ledger' with
  | nil => exact h
  | cons snapshot snapshots ih =>
      exact ih (h.manage hseries hduration (hcut snapshot List.mem_cons_self))
        fun s hs => hcut s (List.mem_cons_of_mem _ hs)

/-! ### One call -/

lemma ids_of_candles {positionId : String} {candles : List ZonedCandle}
    (h : List.Forall₂ (CandleEvent positionId duration) events candles) :
    events.map (·.movement.movementId) =
      candles.map fun candle => candleMovementId positionId (candle.time.add duration) := by
  induction h with
  | nil => rfl
  | cons hevent _ ih => rw [List.map_cons, List.map_cons, hevent.movementId, ih]

/-- A new identity is appended. -/
lemma appendMovement_of_not_recorded {eventType : WalletEventType} {movement : WalletMovement}
    (h : ¬ Recorded ledger eventType movement.movementId) :
    appendMovement eventType movement ledger = .ok (ledger ++ [⟨eventType, movement⟩]) := by
  have hnone : ledger.find? (fun e => e.eventType = eventType ∧
      e.movement.movementId = movement.movementId) = none := by
    rw [List.find?_eq_none]
    intro e he hfound
    rw [decide_eq_true_eq] at hfound
    exact h ⟨e, he, hfound⟩
  rw [appendMovement, hnone]

/-- One call with closed candles that follow the cursor processes all of them. -/
lemma manageCandles_run {candles : List ZonedCandle}
    (h : Processes duration stored portfolio cursor candles stored' portfolio' cursor')
    {start : Timestamp} (hstart : start.instant = cursor.instant)
    (hspot : stored.position.market = .spot)
    (hstate : spotState ledger = some (stored, cursor, portfolio.toPortfolioFields))
    (hclosed : ∀ c ∈ candles, c.timestamp + duration ≤ snapshot.createdAt.instant)
    (hfirst : ∀ c ∈ candles.head?, cursor.instant ≤ c.timestamp ∧
      c.timestamp < cursor.instant + duration)
    (hpos : 0 < duration)
    (hchain : candles.IsChain fun left right => right.timestamp - left.timestamp = duration)
    (hfresh : ∀ c ∈ candles, ¬ Recorded ledger .movementRecorded
      (candleMovementId stored.position.positionId (c.time.add duration)))
    (hnodup : (candles.map fun c =>
      candleMovementId stored.position.positionId (c.time.add duration)).Nodup) :
    spotState (manageCandles snapshot duration candles stored portfolio start ledger).2 =
      some (stored', cursor', portfolio'.toPortfolioFields) := by
  induction h generalizing ledger start with
  | nil => exact hstate
  | @cons stored _ portfolio _ cursor cursor' candle candles update _ hupdate htail ih =>
      obtain ⟨hfrom, hnext⟩ := hfirst candle rfl
      have hskip : ¬ (candle.timestamp < start.instant ∨
          snapshot.createdAt.instant < candle.timestamp + duration) := by
        have := hclosed candle List.mem_cons_self
        omega
      have hgap : ¬ duration ≤ candle.timestamp - start.instant := by omega
      have hnew : ¬ Recorded ledger .movementRecorded
          (candleMovement snapshot duration stored portfolio candle update).movementId :=
        hfresh candle List.mem_cons_self
      rw [manageCandles, if_neg hskip, if_neg hgap, hupdate]
      simp only [appendMovement_of_not_recorded hnew]
      have hstate' : spotState (ledger ++ [⟨.movementRecorded,
          candleMovement snapshot duration stored portfolio candle update⟩]) =
          some (advancedPosition stored update.positionAfter candle, candle.time.add duration,
            update.portfolioAfter.toPortfolioFields) := by
        rw [spotState_eq_some]
        refine ⟨candleMovement snapshot duration stored portfolio candle update, ?_, rfl, rfl, rfl⟩
        rw [lastMovement_snoc]
        exact if_pos hspot
      split_ifs with hzero
      · -- the position is closed, and no candle is left for it
        cases htail with
        | nil => exact hstate'
        | cons hpos => exact absurd hzero hpos.ne'
      · obtain ⟨hsame, -⟩ := VirtualManagedPosition.processPosition_keeps hspot hupdate
        have hid : (advancedPosition stored update.positionAfter candle).position.positionId =
          stored.position.positionId := hsame.positionId_eq
        rw [List.map_cons, List.nodup_cons] at hnodup
        refine ih rfl (hsame.market_eq.trans hspot) hstate'
          (fun c hc => hclosed c (List.mem_cons_of_mem _ hc)) ?_ hchain.tail ?_ (hid ▸ hnodup.2)
        · intro c hc
          have hlink := (List.isChain_cons.mp hchain).1 c hc
          rw [Timestamp.instant_add]
          change candle.timestamp + duration ≤ _ ∧ _ < candle.timestamp + duration + duration
          omega
        · rintro c hc ⟨e, he, htype, heq⟩
          rw [hid] at heq
          rcases List.mem_append.mp he with he | he
          · exact hfresh c (List.mem_cons_of_mem _ hc) ⟨e, he, htype, heq⟩
          · obtain rfl := List.mem_singleton.mp he
            exact hnodup.1 (List.mem_map.mpr ⟨c, hc, heq.symm⟩)

/-- A call passes over the candles that open before the cursor or are unfinished. -/
lemma manageCandles_skips {candles : List ZonedCandle}
    (h : ∀ c ∈ candles, c.timestamp < cursor.instant ∨
      snapshot.createdAt.instant < c.timestamp + duration) :
    manageCandles snapshot duration candles stored portfolio cursor ledger = (.ok (), ledger) := by
  induction candles with
  | nil => rfl
  | cons candle candles ih =>
      rw [manageCandles, if_pos (h candle List.mem_cons_self)]
      exact ih fun c hc => h c (List.mem_cons_of_mem _ hc)

/-- One call without the next candle moves nothing; a later closed candle is refused. -/
lemma manageCandles_stays {candles : List ZonedCandle}
    (h : ∀ c ∈ candles, c.timestamp < cursor.instant ∨ cursor.instant + duration ≤ c.timestamp) :
    (manageCandles snapshot duration candles stored portfolio cursor ledger).2 = ledger ∧
      ((∃ c ∈ candles, cursor.instant + duration ≤ c.timestamp ∧
          c.timestamp + duration ≤ snapshot.createdAt.instant) → 0 < duration →
        (manageCandles snapshot duration candles stored portfolio cursor ledger).1 =
          .error (.runtime "VIRTUAL_POSITION_CANDLE_GAP")) := by
  induction candles with
  | nil =>
      refine ⟨rfl, ?_⟩
      rintro ⟨c, hc, -⟩
      exact absurd hc List.not_mem_nil
  | cons candle candles ih =>
      obtain ⟨hstays, hraises⟩ := ih fun c hc => h c (List.mem_cons_of_mem _ hc)
      rw [manageCandles]
      split_ifs with hskip hgap
      · refine ⟨hstays, ?_⟩
        rintro ⟨c, hc, hlate, hclosed⟩ hpos
        rcases List.mem_cons.mp hc with rfl | hc
        · omega
        · exact hraises ⟨c, hc, hlate, hclosed⟩ hpos
      · exact ⟨rfl, fun _ _ => rfl⟩
      · rcases h candle List.mem_cons_self with hlt | hle
        · exact absurd (.inl hlt) hskip
        · omega

/-! ### From the position that the journal holds -/

/-- The position that a call finds is the one that the last movement leaves open. -/
lemma heldPosition_spec (hL : Coherent ledger)
    (h : heldPosition ledger .spot = some (stored, cursor)) :
    ∃ portfolio cursor₀, spotState ledger = some (stored, cursor₀, portfolio.toPortfolioFields) ∧
      cursor₀.instant = cursor.instant ∧ stored.position.market = .spot ∧
      0 < stored.position.remainingQuantity ∧
      ∀ snapshot : MarketSnapshot, snapshot.marketType = .spot →
        snapshot.symbol = stored.position.symbol →
        managedOf snapshot ledger = .ok (some (stored, cursor, some portfolio)) := by
  obtain ⟨positions, hpositions, hspot⟩ := Option.bind_eq_some_iff.mp h
  rw [toOption_eq_some] at hpositions
  obtain ⟨movements, hread, hpositions'⟩ := bind_eq_ok.mp hpositions
  have hlatest : openOf ledger .spot = some (stored, cursor) :=
    (read_latestPositions hpositions .spot).symm.trans hspot
  obtain ⟨m, hm, hopen⟩ := Option.bind_eq_some_iff.mp hlatest
  obtain ⟨hmanaged, hpos, c, hc, rfl⟩ := openAt_eq_some hopen
  obtain ⟨⟨e, he, rfl⟩, hmarket⟩ := mem_of_lastMovement hm
  have htracks : stored.position.market = .spot := by
    rw [latestPositions, latestBy_read (fun _ => rfl) hread] at hpositions'
    obtain ⟨value, hvalue⟩ := (latestBy_spec hpositions').1 e he
    obtain ⟨_, -, htracks⟩ := (trackedPosition_eq_ok hvalue).2 _ hmanaged
    exact htracks.market.trans hmarket
  obtain ⟨portfolios, hportfolios⟩ : ∃ portfolios, latestPortfolios movements = .ok portfolios := by
    rw [latestPortfolios, latestBy_read (fun _ => rfl) hread]
    refine exists_latestBy fun e he => ?_
    obtain ⟨p, hp, htrim, -⟩ := hL.portfolio e he
    rw [trackedPortfolio, hp, VirtualPortfolioState.fromPayload_eq_ok htrim]
    exact ⟨_, rfl⟩
  rcases hL.agrees (bind_eq_ok.mpr ⟨_, hread, hportfolios⟩) .spot with
    ⟨hnone, -⟩ | ⟨m', p, hm', hp, hafter⟩
  · rw [hm] at hnone
    cases hnone
  · obtain rfl := Option.some.inj (hm.symm.trans hm')
    refine ⟨p, c, spotState_eq_some.mpr ⟨_, hm, hmanaged, hc, hafter⟩, rfl, htracks, hpos,
      fun snapshot hmarket' hsymbol => ?_⟩
    rw [managedOf, hread, ok_bind, hpositions', ok_bind, hmarket', hspot]
    simp only [hsymbol, ne_eq, not_true, if_false, hportfolios, ok_bind, htracks, hp]
    rfl

/-- The call for a whole run of the series. -/
structure WholeRun (snapshot : MarketSnapshot) (duration : ℤ) (stored : StoredPosition)
    (candles : List ZonedCandle) : Prop where
  marketType : snapshot.marketType = .spot
  symbol : snapshot.symbol = stored.position.symbol
  dataValid : snapshot.dataQuality = .dataValid
  window : snapshot.ohlcvByTimeframe stored.position.lineage.timeframe = candles
  closed : ∀ c ∈ candles, c.timestamp + duration ≤ snapshot.createdAt.instant

/-- A window of valid data, regular and not empty, whose candles open before the next one or
are unfinished. -/
structure StaleWindow (snapshot : MarketSnapshot) (duration : ℤ) (stored : StoredPosition)
    (next : ZonedCandle) : Prop where
  dataValid : snapshot.dataQuality = .dataValid
  nonempty : snapshot.ohlcvByTimeframe stored.position.lineage.timeframe ≠ []
  regular : (snapshot.ohlcvByTimeframe stored.position.lineage.timeframe).IsChain
    fun left right => right.timestamp - left.timestamp = duration
  early : ∀ candle ∈ snapshot.ohlcvByTimeframe stored.position.lineage.timeframe,
    candle.timestamp < next.timestamp ∨ snapshot.createdAt.instant < candle.timestamp + duration

/-- A regular window of valid data is gone through. -/
lemma managedCandles_of_regular {position : VirtualManagedPosition}
    (hvalid : snapshot.dataQuality = .dataValid) (hspot : position.market = .spot)
    (hduration : timeframeDuration position.lineage.timeframe = .ok duration)
    (hne : snapshot.ohlcvByTimeframe position.lineage.timeframe ≠ [])
    (hchain : (snapshot.ohlcvByTimeframe position.lineage.timeframe).IsChain
      fun left right => right.timestamp - left.timestamp = duration) :
    managedCandles snapshot position =
      .ok (duration, snapshot.ohlcvByTimeframe position.lineage.timeframe) := by
  simp only [managedCandles, raiseIf_of_not (not_not.mpr hvalid),
    raiseIf_of_not (not_not.mpr hspot), hduration, raiseIf_of_not hne,
    raiseIf_of_not (not_not.mpr hchain), ok_bind]
  rfl

lemma managePositions_error {portfolio : VirtualPortfolioState} {e : PyError}
    (hmanaged : managedOf snapshot ledger = .ok (some (stored, cursor, some portfolio)))
    (h : managedCandles snapshot stored.position = .error e) :
    managePositions snapshot ledger = (.error e, ledger) := by
  simp only [managePositions, hmanaged, h]

lemma managePositions_ok {portfolio : VirtualPortfolioState} {candles : List ZonedCandle}
    (hmanaged : managedOf snapshot ledger = .ok (some (stored, cursor, some portfolio)))
    (h : managedCandles snapshot stored.position = .ok (duration, candles)) :
    managePositions snapshot ledger =
      manageCandles snapshot duration candles stored portfolio cursor ledger := by
  simp only [managePositions, hmanaged, h]

/-- The call for the whole run leaves what the run of calls has left. -/
lemma Progress.whole_run
    (h : Progress ledger duration series first stored portfolio cursor n events stored' portfolio'
      cursor')
    (hseries : Regular duration series)
    (hduration : timeframeDuration stored.position.lineage.timeframe = .ok duration)
    (hspot : stored.position.market = .spot)
    (hstate : spotState ledger = some (stored, cursor, portfolio.toPortfolioFields))
    (hfirst : cursor.instant ≤ (series first).timestamp ∧
      (series first).timestamp < cursor.instant + duration)
    {cursor₀ : Timestamp} (hcursor : cursor₀.instant = cursor.instant)
    (hmanaged : managedOf snapshot ledger = .ok (some (stored, cursor₀, some portfolio)))
    (hwhole : WholeRun snapshot duration stored (runFrom series first n)) :
    spotState (managePositions snapshot ledger).2 = spotState (ledger ++ events) := by
  rw [h.state]
  cases hcandles : managedCandles snapshot stored.position with
  | error e =>
      rw [managePositions_error hmanaged hcandles]
      -- only an empty run is refused
      have hnil : runFrom series first n = [] := by
        by_contra hne
        have hchain := runFrom_isChain hseries first n
        rw [← hwhole.window] at hne hchain
        have hok := managedCandles_of_regular hwhole.dataValid hspot hduration hne hchain
        exact absurd (hok.symm.trans hcandles) (by simp)
      have hprocesses := h.processes
      rw [hnil] at hprocesses
      cases hprocesses
      exact hstate
  | ok result =>
      obtain ⟨d, candles⟩ := result
      obtain ⟨-, hd, rfl, -, hchain⟩ := managedCandles_eq_ok hcandles
      obtain rfl := Except.ok.inj (hduration.symm.trans hd)
      rw [managePositions_ok hmanaged hcandles, hwhole.window]
      rw [hwhole.window] at hchain
      have hids := ids_of_candles h.candles
      refine manageCandles_run h.processes hcursor hspot hstate hwhole.closed ?_
        (timeframeDuration_pos hduration) hchain ?_ (hids ▸ h.nodup)
      · intro c hc
        cases n with
        | zero => simp [runFrom] at hc
        | succ n =>
            rw [runFrom, List.range_succ_eq_map, List.map_cons, List.head?_cons,
              Option.mem_some_iff] at hc
            rw [← hc, Nat.cast_zero, add_zero]
            exact hfirst
      · intro c hc
        have hmem : candleMovementId stored.position.positionId (c.time.add duration) ∈
            events.map (·.movement.movementId) := by
          rw [hids]
          exact List.mem_map_of_mem hc
        obtain ⟨e, he, heq⟩ := List.mem_map.mp hmem
        exact heq ▸ h.fresh e he

/-- A candle of a window without the next one opens before the last movement, or at least a
duration after it. -/
lemma Progress.candle_apart
    (h : Progress ledger duration series first stored portfolio cursor n events stored' portfolio'
      cursor')
    (hseries : Regular duration series) (hpos : 0 < duration)
    (hmarket : snapshot.marketType = .spot) (hsymbol : snapshot.symbol = stored.position.symbol)
    (hcut : CutFrom series stored snapshot)
    (hmissing : series (first + n) ∉
      snapshot.ohlcvByTimeframe stored.position.lineage.timeframe)
    {candle : ZonedCandle}
    (hcandle : candle ∈ snapshot.ohlcvByTimeframe stored.position.lineage.timeframe) :
    candle.timestamp < cursor'.instant ∨ cursor'.instant + duration ≤ candle.timestamp := by
  obtain ⟨k, rfl⟩ := hcut hmarket hsymbol candle hcandle
  have hle := h.cursor_le
  have hlt := h.lt_cursor
  have hk := hseries.timestamp_eq k
  have hnext := hseries.timestamp_eq (first + n)
  rcases lt_trichotomy k (first + n) with hbefore | rfl | hafter
  · left
    nlinarith
  · exact absurd hcandle hmissing
  · right
    nlinarith

/-- A stale window is gone through. -/
lemma StaleWindow.managedCandles_eq {next : ZonedCandle}
    (h : StaleWindow snapshot duration stored next)
    (hlineage : stored'.position.lineage = stored.position.lineage)
    (hspot : stored'.position.market = .spot)
    (hduration : timeframeDuration stored.position.lineage.timeframe = .ok duration) :
    managedCandles snapshot stored'.position =
      .ok (duration, snapshot.ohlcvByTimeframe stored.position.lineage.timeframe) := by
  rw [← hlineage]
  exact managedCandles_of_regular h.dataValid hspot (by rwa [hlineage])
    (by rw [hlineage]; exact h.nonempty) (by rw [hlineage]; exact h.regular)

/-- Each candle of a stale window opens before the last movement or is unfinished. -/
lemma Progress.candle_skipped
    (h : Progress ledger duration series first stored portfolio cursor n events stored' portfolio'
      cursor')
    (hseries : Regular duration series) (hpos : 0 < duration)
    (hmarket : snapshot.marketType = .spot) (hsymbol : snapshot.symbol = stored.position.symbol)
    (hcut : CutFrom series stored snapshot)
    (hmissing : series (first + n) ∉
      snapshot.ohlcvByTimeframe stored.position.lineage.timeframe)
    (hstale : StaleWindow snapshot duration stored (series (first + n)))
    {candle : ZonedCandle}
    (hcandle : candle ∈ snapshot.ohlcvByTimeframe stored.position.lineage.timeframe) :
    candle.timestamp < cursor'.instant ∨
      snapshot.createdAt.instant < candle.timestamp + duration := by
  refine (hstale.early candle hcandle).imp_left fun hearly => ?_
  -- the candle opens before the next one, which opens within a duration of the last movement
  have hlt := h.lt_cursor
  rcases h.candle_apart hseries hpos hmarket hsymbol hcut hmissing hcandle with hbefore | hafter
  · exact hbefore
  · omega

/-- A call whose window lacks the next candle processes nothing; it raises if the window
holds a later closed candle, or if it is not regular, and it passes over a stale window. -/
lemma Progress.gap
    (h : Progress ledger duration series first stored portfolio cursor n events stored' portfolio'
      cursor')
    (hseries : Regular duration series)
    (hduration : timeframeDuration stored.position.lineage.timeframe = .ok duration)
    {cursor₀ : Timestamp} (hheld : heldPosition (ledger ++ events) .spot = some (stored', cursor₀))
    (hmarket : snapshot.marketType = .spot) (hsymbol : snapshot.symbol = stored.position.symbol)
    (hcut : CutFrom series stored snapshot)
    (hmissing : series (first + n) ∉
      snapshot.ohlcvByTimeframe stored.position.lineage.timeframe) :
    (managePositions snapshot (ledger ++ events)).2 = ledger ++ events ∧
      ((∃ k, first + n < k ∧
          series k ∈ snapshot.ohlcvByTimeframe stored.position.lineage.timeframe ∧
          (series k).timestamp + duration ≤ snapshot.createdAt.instant) ∨
        (¬ (snapshot.ohlcvByTimeframe stored.position.lineage.timeframe).IsChain
          fun left right => right.timestamp - left.timestamp = duration) →
        ∃ e, (managePositions snapshot (ledger ++ events)).1 = .error e) ∧
      (StaleWindow snapshot duration stored (series (first + n)) →
        (managePositions snapshot (ledger ++ events)).1 = .ok ()) := by
  have hpos := timeframeDuration_pos hduration
  obtain ⟨p, c, hstate, hc, hspot', -, hmanaged⟩ := heldPosition_spec h.coherent hheld
  obtain ⟨rfl, hp⟩ : c = cursor' ∧ p.toPortfolioFields = portfolio'.toPortfolioFields := by
    have := h.state.symm.trans hstate
    simp only [Option.some.injEq, Prod.mk.injEq, true_and] at this
    exact ⟨this.1.symm, this.2.symm⟩
  have hmanaged' := hmanaged snapshot hmarket (hsymbol.trans h.same.symbol_eq.symm)
  cases hcandles : managedCandles snapshot stored'.position with
  | error e =>
      rw [managePositions_error hmanaged' hcandles]
      refine ⟨rfl, fun _ => ⟨e, rfl⟩, fun hstale => ?_⟩
      have hok := hstale.managedCandles_eq h.same.lineage_eq hspot' hduration
      exact absurd (hok.symm.trans hcandles) (by simp)
  | ok result =>
      obtain ⟨d, candles⟩ := result
      obtain ⟨-, hd, rfl, -, hchain⟩ := managedCandles_eq_ok hcandles
      rw [managePositions_ok hmanaged' hcandles]
      rw [h.same.lineage_eq] at hd hchain ⊢
      obtain rfl := Except.ok.inj (hduration.symm.trans hd)
      have hapart : ∀ candle ∈ snapshot.ohlcvByTimeframe stored.position.lineage.timeframe,
          candle.timestamp < cursor₀.instant ∨ cursor₀.instant + duration ≤ candle.timestamp := by
        rw [← hc]
        exact fun _ => h.candle_apart hseries hpos hmarket hsymbol hcut hmissing
      obtain ⟨hstays, hraises⟩ := manageCandles_stays hapart
      refine ⟨hstays, ?_, fun hstale => ?_⟩
      · rintro (⟨k, hk, hmem, hclosed⟩ | hirregular)
        · refine ⟨_, hraises ⟨_, hmem, ?_, hclosed⟩ hpos⟩
          have hle := h.cursor_le
          have hlate := hseries.timestamp_eq k
          have hnext := hseries.timestamp_eq (first + n)
          nlinarith
        · exact absurd hchain hirregular
      · have hskips : ∀ candle ∈ snapshot.ohlcvByTimeframe stored.position.lineage.timeframe,
            candle.timestamp < cursor₀.instant ∨
              snapshot.createdAt.instant < candle.timestamp + duration := by
          rw [← hc]
          exact fun _ => h.candle_skipped hseries hpos hmarket hsymbol hcut hmissing hstale
        rw [manageCandles_skips hskips]

/-- **Candles are managed once.**  For an open Spot position that no candle has moved yet,
in every run of calls with windows of one regular series, the processed candles are `n`
consecutive ones, from the first that opens at or after the opening, each recorded once it
has closed; the last movement is what processing them leaves, and what one call with all of
them leaves.  A window without the next candle moves nothing; it is refused if it holds a
later closed candle or is not regular, and a stale one is passed over. -/
theorem candles_are_managed_once {history : List WalletCall} {snapshots : List MarketSnapshot}
    (hheld : heldPosition (WalletCall.run [] history) .spot = some (stored, cursor))
    (hopened : cursor.instant = stored.position.openedAt)
    (hduration : timeframeDuration stored.position.lineage.timeframe = .ok duration)
    (hseries : Regular duration series)
    (hcut : ∀ snapshot ∈ snapshots, CutFrom series stored snapshot) :
    let ledger := WalletCall.run [] history
    let first := firstFrom duration series stored.position.openedAt
    let ledger' := WalletCall.run ledger (snapshots.map .managePositions)
    (∀ k, first ≤ k ↔ stored.position.openedAt ≤ (series k).timestamp) ∧
      ∃ portfolio cursor₀ n events stored' portfolio' cursor',
        spotState ledger = some (stored, cursor₀, portfolio.toPortfolioFields) ∧
        ledger' = ledger ++ events ∧
        List.Forall₂ (CandleEvent stored.position.positionId duration) events
          (runFrom series first n) ∧
        Processes duration stored portfolio cursor₀ (runFrom series first n) stored' portfolio'
          cursor' ∧
        spotState ledger' = some (stored', cursor', portfolio'.toPortfolioFields) ∧
        (∀ snapshot, WholeRun snapshot duration stored (runFrom series first n) →
          spotState (managePositions snapshot ledger).2 = spotState ledger') ∧
        ∀ snapshot, CutFrom series stored snapshot → snapshot.marketType = .spot →
          snapshot.symbol = stored.position.symbol →
          (heldPosition ledger' .spot).map (·.1) = some stored' →
          series (first + n) ∉ snapshot.ohlcvByTimeframe stored.position.lineage.timeframe →
          (managePositions snapshot ledger').2 = ledger' ∧
            ((∃ k, first + n < k ∧
                series k ∈ snapshot.ohlcvByTimeframe stored.position.lineage.timeframe ∧
                (series k).timestamp + duration ≤ snapshot.createdAt.instant) ∨
              (¬ (snapshot.ohlcvByTimeframe stored.position.lineage.timeframe).IsChain
                fun left right => right.timestamp - left.timestamp = duration) →
              ∃ e, (managePositions snapshot ledger').1 = .error e) ∧
            (StaleWindow snapshot duration stored (series (first + n)) →
              (managePositions snapshot ledger').1 = .ok ()) := by
  intro ledger first ledger'
  have hpos := timeframeDuration_pos hduration
  have hL : Coherent ledger := run_coherent history coherent_nil
  obtain ⟨portfolio, cursor₀, hstate, hcursor, hspot, -, hmanaged⟩ := heldPosition_spec hL hheld
  have hfirst : cursor₀.instant ≤ (series first).timestamp ∧
      (series first).timestamp < cursor₀.instant + duration := by
    rw [hcursor, hopened]
    exact firstFrom_spec hseries hpos _
  have hstart : Progressed ledger duration series first stored portfolio cursor₀ ledger := by
    refine ⟨0, [], stored, portfolio, cursor₀, (List.append_nil _).symm, ?_⟩
    exact ⟨by rwa [List.append_nil], .nil, by simp, by simp, .nil, .refl _,
      by rwa [List.append_nil], by simpa using hfirst.1, by simpa using hfirst.2⟩
  obtain ⟨n, events, stored', portfolio', cursor', hevents, h⟩ :=
    hstart.run hseries hduration hcut
  refine ⟨fun k => firstFrom_le_iff hseries hpos, portfolio, cursor₀, n, events, stored',
    portfolio', cursor', hstate, hevents, h.candles, h.processes, ?_, fun snapshot hwhole => ?_,
    fun snapshot hcut hmarket hsymbol hheld' hmissing => ?_⟩
  · rw [← h.state, ← hevents]
  · rw [h.whole_run hseries hduration hspot hstate hfirst hcursor.symm
      (hmanaged snapshot hwhole.marketType hwhole.symbol) hwhole, ← hevents]
  · obtain ⟨⟨s, c⟩, hfound, rfl⟩ := Option.map_eq_some_iff.mp hheld'
    have hheld'' : heldPosition (ledger ++ events) .spot = some (s, c) := hevents ▸ hfound
    have hgap := h.gap hseries hduration hheld'' hmarket hsymbol hcut hmissing
    rwa [← hevents] at hgap

/-- A minute in which the price stays at 100. -/
def calmCandle (k : ℤ) : ZonedCandle where
  timestamp := k * 60000000
  «open» := 100
  high := 100
  low := 100
  close := 100
  volume := 10
  nonneg := by norm_num
  low_le_high := le_rfl
  max_le_high := by norm_num
  low_le_min := by norm_num

/-- A snapshot of the Spot market with a window of minutes. -/
def minutes (window : List ℤ) (createdAt : ℤ) : MarketSnapshot where
  snapshotId := "m1"
  createdAt := ⟨createdAt, 0⟩
  marketType := .spot
  symbol := "BTCUSDT"
  ohlcvByTimeframe timeframe := if timeframe = "1m" then window.map calmCandle else []
  dataQuality := .dataValid
  snapshotId_nonblank := by decide

lemma calmCandle_regular : Regular 60000000 calmCandle := by
  intro k
  change (k + 1) * 60000000 = k * 60000000 + 60000000
  ring

lemma minutes_cut (stored : StoredPosition) (window : List ℤ) (createdAt : ℤ) :
    CutFrom calmCandle stored (minutes window createdAt) := by
  intro _ _ candle hcandle
  simp only [minutes] at hcandle
  split_ifs at hcandle
  · obtain ⟨k, -, rfl⟩ := List.mem_map.mp hcandle
    exact ⟨k, rfl⟩
  · cases hcandle

/-- Two overlapping windows after the opening: the first three minutes are processed. -/
theorem overlapping_minutes_once : ∃ events,
    WalletCall.run (WalletCall.run [] [openingCycle])
        ([minutes [-1, 0, 1] 120000000, minutes [0, 1, 2, 3] 180000000].map .managePositions) =
      WalletCall.run [] [openingCycle] ++ events ∧
    List.Forall₂ (CandleEvent "virtual-position:c1" 60000000) events
      (runFrom calmCandle 0 3) := by
  have hfields : (heldPosition (WalletCall.run [] [openingCycle]) .spot).map (fun held =>
      (held.1.position.positionId, held.1.position.openedAt, held.1.position.lineage.timeframe,
        held.2.instant)) = some ("virtual-position:c1", 0, "1m", 0) := by decide +kernel
  obtain ⟨⟨stored, cursor⟩, hheld, hfields⟩ := Option.map_eq_some_iff.mp hfields
  rw [Prod.mk.injEq, Prod.mk.injEq, Prod.mk.injEq] at hfields
  obtain ⟨hid, hopened, htimeframe, hcursor⟩ := hfields
  have hcut : ∀ snapshot ∈ [minutes [-1, 0, 1] 120000000, minutes [0, 1, 2, 3] 180000000],
      CutFrom calmCandle stored snapshot := by
    simp [minutes_cut]
  obtain ⟨-, portfolio, cursor₀, n, events, stored', portfolio', cursor', -, hevents, hcandles,
    -⟩ := candles_are_managed_once hheld (hcursor.trans hopened.symm)
      (by rw [htimeframe]; rfl : timeframeDuration _ = .ok 60000000) calmCandle_regular hcut
  have hlength : (WalletCall.run (WalletCall.run [] [openingCycle])
      ([minutes [-1, 0, 1] 120000000, minutes [0, 1, 2, 3] 180000000].map
        .managePositions)).length = (WalletCall.run [] [openingCycle]).length + 3 := by
    decide +kernel
  have hfirst : firstFrom 60000000 calmCandle 0 = 0 := by decide +kernel
  obtain rfl : n = 3 := by
    have hn := hcandles.length_eq
    rw [hevents, List.length_append] at hlength
    rw [runFrom, List.length_map, List.length_range] at hn
    omega
  rw [hid, hopened, hfirst] at hcandles
  exact ⟨events, hevents, hcandles⟩

/-- A stale window: the next minute opened with the position, and it has closed, and the
window does not hold it.  The call returns, and leaves the journal. -/
theorem stale_window_is_passed_over :
    (heldPosition (WalletCall.run [] [openingCycle]) .spot).map
        (fun held => (held.1.position.openedAt, held.2.instant)) = some (0, 0) ∧
      firstFrom 60000000 calmCandle 0 = 0 ∧
      (calmCandle 0).timestamp + 60000000 ≤ (minutes [-1] 600000000).createdAt.instant ∧
      calmCandle 0 ∉ (minutes [-1] 600000000).ohlcvByTimeframe "1m" ∧
      (managePositions (minutes [-1] 600000000) (WalletCall.run [] [openingCycle])).1.toOption =
        some () ∧
      (managePositions (minutes [-1] 600000000) (WalletCall.run [] [openingCycle])).2 =
        WalletCall.run [] [openingCycle] := by
  decide +kernel

end VirtualWalletJournal

end Ai4Binance

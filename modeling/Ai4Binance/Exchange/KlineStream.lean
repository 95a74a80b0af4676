/-
The ingest of public kline messages (`exchange/public_stream.py`).

A kline message carries the state of one candle and the range of its trades so far.  The
ingestor lets it through the sequence check of the recovery machine by its trade ids and
emits a candle when a closed kline passes that is newer than the last one.

* `SpotKlineUpdate`, `PublicKlineIngestor.ingest`: messages, and the ingest of one;
* `KlineEffect`, `ingest_kline`: what the ingest of a kline can do;
* `KlineMarket`, `HonestFeed`, `Received`: the messages of an honest exchange, and what is
  left of them when some are lost and some repeated;
* `LossesShow`: a candle whose closing message is lost has lost its last trade too;
* `no_skipped_candle`: **under it, no candle is skipped without a blocker**;
* `lost_closing_skips_candle`: a lost closing message alone skips one.
-/
import Ai4Binance.Data.Archive
import Ai4Binance.Exchange.StreamState

open Check Text

namespace Ai4Binance

/-! ### Messages -/

/-- `SUPPORTED_DECISION_INTERVALS`. -/
def supportedDecisionIntervals : List String := ["1m", "5m", "15m", "1h", "4h", "1d"]

/-- The duration of a supported interval, in microseconds. -/
def intervalDuration (interval : String) : ℤ :=
  (timeframeSeconds.lookup interval).getD 0 * 1000000

/-- The fields of `SpotKlineUpdate`.  The times are in UTC, in microseconds. -/
structure KlineFields where
  eventTime : ℤ
  symbol : String
  interval : String
  openTime : ℤ
  closeTime : ℤ
  firstTradeId : ℤ
  lastTradeId : ℤ
  «open» : ℚ
  high : ℚ
  low : ℚ
  close : ℚ
  volume : ℚ
  tradeCount : ℤ
  isClosed : Bool
  deriving DecidableEq

/-- `SpotKlineUpdate.__post_init__`. -/
def KlineFields.checks (k : KlineFields) : List (Bool × String) :=
  [(!isAsciiAlnum k.symbol || k.symbol.toList.any (·.isLower),
      "kline symbol must be normalized ASCII text"),
    (k.interval ∉ supportedDecisionIntervals, "kline interval is unsupported"),
    (k.closeTime ≠ k.openTime + intervalDuration k.interval - 1000 ∨ k.eventTime < k.openTime ∨
        (k.isClosed ∧ k.eventTime < k.closeTime), "kline time bounds are invalid"),
    ([k.open, k.high, k.low, k.close, k.volume].any (· < 0),
      "kline values must be finite and non-negative"),
    (min k.open k.close < k.low ∨ k.high < max k.open k.close,
      "kline OHLC relationship is invalid"),
    (k.tradeCount < 0 ∨ (k.tradeCount = 0 ∧ (k.firstTradeId ≠ -1 ∨ k.lastTradeId ≠ -1)),
      "empty kline trade lineage is invalid"),
    (k.tradeCount ≠ 0 ∧ (k.firstTradeId < 0 ∨ k.lastTradeId < k.firstTradeId),
      "kline trade lineage is invalid")]

/-- `SpotKlineUpdate`. -/
structure SpotKlineUpdate extends KlineFields where
  passes : Passes toKlineFields.checks
  deriving DecidableEq

namespace SpotKlineUpdate

variable (k : SpotKlineUpdate)

lemma interval_mem : k.interval ∈ supportedDecisionIntervals := by
  have h := k.passes
  simp only [KlineFields.checks, passes_cons, decide_eq_false_iff_not, not_not] at h
  exact h.2.1

lemma closeTime_eq : k.closeTime = k.openTime + intervalDuration k.interval - 1000 := by
  have h := k.passes
  simp only [KlineFields.checks, passes_cons, decide_eq_false_iff_not, not_or, not_not] at h
  exact h.2.2.1.1

lemma first_le_last (h : k.tradeCount ≠ 0) : k.firstTradeId ≤ k.lastTradeId := by
  have hpass := k.passes
  simp only [KlineFields.checks, passes_cons, decide_eq_false_iff_not, not_and, not_or,
    not_lt] at hpass
  exact (hpass.2.2.2.2.2.2.1 h).2

/-- The candle of a kline. -/
def candle : OHLCVCandle where
  timestamp := k.openTime
  «open» := k.open
  high := k.high
  low := k.low
  close := k.close
  volume := k.volume
  nonneg := by
    have h := k.passes
    simp only [KlineFields.checks, passes_cons, List.any_cons, List.any_nil, Bool.or_eq_false_iff,
      decide_eq_false_iff_not, not_lt] at h
    obtain ⟨hopen, hhigh, hlow, hclose, hvolume, -⟩ := h.2.2.2.1
    exact ⟨hopen, hhigh, hlow, hclose, hvolume⟩
  low_le_high := by
    have h := k.passes
    simp only [KlineFields.checks, passes_cons, decide_eq_false_iff_not, not_or, not_lt] at h
    exact h.2.2.2.2.1.1.trans ((min_le_max).trans h.2.2.2.2.1.2)
  max_le_high := by
    have h := k.passes
    simp only [KlineFields.checks, passes_cons, decide_eq_false_iff_not, not_or, not_lt] at h
    exact h.2.2.2.2.1.2
  low_le_min := by
    have h := k.passes
    simp only [KlineFields.checks, passes_cons, decide_eq_false_iff_not, not_or, not_lt] at h
    exact h.2.2.2.2.1.1

/-- `as_candle`. -/
def asCandle : Except PyError OHLCVCandle :=
  if k.isClosed then .ok k.candle
  else .error (.value "open kline cannot become a decision candle")

/-- `sequence_bounds`. -/
def sequenceBounds : Option (ℤ × ℤ) :=
  if k.tradeCount = 0 then none else some (k.firstTradeId, k.lastTradeId)

/-- `event_time`, as the recovery machine reads it. -/
def eventDatetime : ZonedDatetime := { wall := k.eventTime, tz := .fixed 0 }

end SpotKlineUpdate

/-- `SpotStreamMessage`. -/
inductive SpotStreamMessage where
  | kline (update : SpotKlineUpdate)
  | serverShutdown (eventTime : ℤ)
  deriving DecidableEq

/-! ### The ingestor -/

/-- `ExchangePayloadError`, or what the recovery machine raises. -/
inductive IngestError where
  | payload (message : String)
  | stream (error : PyError)
  deriving DecidableEq

/-- `KlineIngestResult`. -/
structure KlineIngestResult where
  transition : StreamTransition
  update : Option SpotKlineUpdate
  candle : Option OHLCVCandle
  blockers : List String
  decisionEligible : Bool
  eligible_eq : decisionEligible = (candle.isSome && blockers.isEmpty)

/-- `PublicKlineIngestor`. -/
structure PublicKlineIngestor where
  symbol : String
  interval : String
  recovery : PublicStreamRecovery
  latestClosedAt : Option ℤ := none

namespace PublicKlineIngestor

variable [TzData] (s : PublicKlineIngestor)

/-- The ingestor afterwards, and what `ingest` returns or raises. -/
abbrev Outcome := PublicKlineIngestor × Except IngestError KlineIngestResult

/-- Goes on with the transition of the recovery machine. -/
def through (outcome : PublicStreamRecovery.Outcome)
    (next : PublicKlineIngestor → StreamTransition → Outcome) : Outcome :=
  match outcome with
  | (recovery, .error error) => ({ s with recovery }, .error (.stream error))
  | (recovery, .ok transition) => next { s with recovery } transition

/-- A message that emits no candle. -/
def withoutCandle (transition : StreamTransition) (update : Option SpotKlineUpdate)
    (blockers : List String) : Outcome :=
  (s, .ok ⟨transition, update, none, blockers, false, rfl⟩)

/-- `ingest`, after `parse`. -/
def ingest (message : SpotStreamMessage) (queueDepth : ℤ) : Outcome :=
  match message with
  | .serverShutdown _ =>
      s.through s.recovery.serverShutdown fun s transition =>
        s.withoutCandle transition none transition.blockers
  | .kline k =>
      if k.symbol ≠ s.symbol ∨ k.interval ≠ s.interval then
        (s, .error (.payload "kline stream does not match ingestor identity"))
      else
        match k.sequenceBounds with
        | none =>
            s.through s.recovery.rejectUnsequencedUpdate fun s transition =>
              s.withoutCandle transition k ["KLINE_TRADE_SEQUENCE_UNAVAILABLE"]
        | some (first, last) =>
            s.through (s.recovery.applyUpdate first last (.aware k.eventDatetime) queueDepth)
              fun s transition =>
              if transition.blockers ≠ [] then s.withoutCandle transition k transition.blockers
              else if k.isClosed = false then
                s.withoutCandle transition k ["OPEN_KLINE_NOT_DECISION_ELIGIBLE"]
              else if ∃ t ∈ s.latestClosedAt, k.closeTime ≤ t then
                s.withoutCandle transition k ["DUPLICATE_OR_OLD_CLOSED_KLINE"]
              else
                ({ s with latestClosedAt := some k.closeTime },
                  match k.asCandle with
                  | .error error => .error (.stream error)
                  | .ok candle => .ok ⟨transition, some k, some candle, [], true, rfl⟩)

end PublicKlineIngestor

/-! ### What the ingest of a kline can do -/

/-- The blockers that the ingest of a kline returns although nothing is amiss. -/
def routineBlockers : List String :=
  ["OPEN_KLINE_NOT_DECISION_ELIGIBLE", "DUPLICATE_OR_OLD_CLOSED_KLINE"]

/-- No candle is emitted, and no blocker says that something is amiss. -/
def Quiet : Except IngestError KlineIngestResult → Prop
  | .error _ => True
  | .ok result => result.candle = none ∧ ∀ b ∈ result.blockers, b ∈ routineBlockers

instance : DecidablePred Quiet
  | .error _ => .isTrue trivial
  | .ok result => inferInstanceAs (Decidable (result.candle = none ∧ _))

/-- The candle that a call emits. -/
def emitted : Except IngestError KlineIngestResult → Option OHLCVCandle
  | .error _ => none
  | .ok result => if result.decisionEligible then result.candle else none

namespace PublicStreamRecovery

variable [TzData] {s recovery : PublicStreamRecovery} {first last queueDepth : ℤ}
  {t : ZonedDatetime} {transition : StreamTransition}

/-- An update in sequence: it brings nothing new, or continues the sequence. -/
inductive Follows (s : PublicStreamRecovery) (first last : ℤ) (t : ZonedDatetime) :
    PublicStreamRecovery → Prop
  | stale {previous : ℤ} (hprevious : s.lastSequence = some previous) (hlast : last ≤ previous) :
      Follows s first last t s
  | next {previous : ℤ} (hprevious : s.lastSequence = some previous)
      (hfirst : first ≤ previous + 1) (hlast : previous < last) :
      Follows s first last t { s with lastSequence := last, lastEventAt := t }

/-- The checks of an update, of a call that does not give a negative queue depth. -/
structure Admits (s : PublicStreamRecovery) (first last : ℤ) (t : ZonedDatetime) : Prop where
  live : s.state = .live
  not_before : s.lastEventAt.any t.lt = false
  first_pos : 1 ≤ first
  first_le_last : first ≤ last

/-- **What an update can do**: it is refused, follows, or ends the connection. -/
lemma applyUpdate_cases (s : PublicStreamRecovery) (first last : ℤ) (t : ZonedDatetime)
    (queueDepth : ℤ) :
    ((∃ error, s.applyUpdate first last (.aware t) queueDepth = (s, .error error)) ∧
        (s.Admits first last t → s.lastSequence.isSome → queueDepth < 0)) ∨
      (s.Admits first last t ∧ ∃ recovery transition,
        s.applyUpdate first last (.aware t) queueDepth = (recovery, .ok transition) ∧
        ((transition.blockers = [] ∧ s.Follows first last t recovery) ∨
          (recovery.state ≠ .live ∧ recovery.lastSequence = s.lastSequence ∧
            recovery.lastEventAt = s.lastEventAt ∧
            ∃ b ∈ transition.blockers, b ∉ routineBlockers))) := by
  unfold applyUpdate checked
  split
  · rename_i error hchecks
    refine .inl ⟨⟨error, rfl⟩, fun hadmits _ => ?_⟩
    by_contra hdepth
    have hpos : 1 ≤ last := hadmits.first_pos.trans hadmits.first_le_last
    have hfirst : ¬ (first < 1 ∨ last < first ∨ queueDepth < 0) := by
      have := hadmits.first_pos
      have := hadmits.first_le_last
      omega
    simp [requireState, validateSequenceAndTime, requireAware, raiseIf, hadmits.live,
      hadmits.not_before, hfirst, not_lt.mpr hpos, bind, Except.bind, pure, Except.pure] at hchecks
  · rename_i t' hchecks
    simp only [requireState, validateSequenceAndTime, requireAware, bind_eq_ok, raiseIf_eq_ok,
      pure_eq_ok, Except.ok.injEq, exists_eq_left', not_or, not_lt, not_not, Bool.not_eq_true,
      exists_and_left, exists_const, List.mem_singleton] at hchecks
    obtain ⟨hlive, _, ⟨-, htime, rfl⟩, ⟨hfirst, hle, hdepth⟩, rfl⟩ := hchecks
    have hadmits : s.Admits first last t := ⟨hlive, htime, hfirst, hle⟩
    dsimp only
    split_ifs with hfull
    · exact .inr ⟨hadmits, _, _, rfl, .inr ⟨by simp, rfl, rfl, _, List.mem_singleton_self _,
        by simp [routineBlockers]⟩⟩
    · cases hprevious : s.lastSequence with
      | none => exact .inl ⟨⟨_, rfl⟩, fun _ hsome => absurd hsome (by simp)⟩
      | some previous =>
        refine .inr ⟨hadmits, ?_⟩
        dsimp only
        split_ifs with hstale hgap hlarge
        · exact ⟨_, _, rfl, .inl ⟨rfl, .stale hprevious (by omega)⟩⟩
        · exact ⟨_, _, rfl, .inr ⟨by simp, rfl, rfl, _, List.mem_singleton_self _,
            by simp [routineBlockers]⟩⟩
        · exact ⟨_, _, rfl, .inr ⟨by simp, rfl, rfl, _, List.mem_singleton_self _,
            by simp [routineBlockers]⟩⟩
        · exact ⟨_, _, rfl, .inl ⟨rfl, .next hprevious (by omega) (by omega)⟩⟩

end PublicStreamRecovery

namespace PublicKlineIngestor

variable [TzData] {s t : PublicKlineIngestor} {k : SpotKlineUpdate} {queueDepth : ℤ}
  {result : Except IngestError KlineIngestResult}

/-- The sequence check of a kline with trades. -/
def Admits (s : PublicKlineIngestor) (k : SpotKlineUpdate) : Prop :=
  s.recovery.Admits k.firstTradeId k.lastTradeId k.eventDatetime

/-- The recovery machine after a kline in sequence. -/
def Follows (s : PublicKlineIngestor) (k : SpotKlineUpdate) (recovery : PublicStreamRecovery) : Prop :=
  s.recovery.Follows k.firstTradeId k.lastTradeId k.eventDatetime recovery

/-- What the ingest of a kline does to the ingestor, by its outcome. -/
inductive KlineEffect (s : PublicKlineIngestor) (k : SpotKlineUpdate) (queueDepth : ℤ) :
    PublicKlineIngestor → Except IngestError KlineIngestResult → Prop
  /-- The message is not one for the ingestor. -/
  | refused (error : IngestError) (hidentity : k.symbol ≠ s.symbol ∨ k.interval ≠ s.interval) :
      KlineEffect s k queueDepth s (.error error)
  /-- The recovery machine refuses it. -/
  | raised (error : IngestError)
      (hwhy : s.recovery.state = .live → k.tradeCount ≠ 0 ∧
        (s.Admits k → s.recovery.lastSequence.isSome → queueDepth < 0)) :
      KlineEffect s k queueDepth s (.error error)
  /-- It ends the connection, or has no trades. -/
  | blocked (recovery : PublicStreamRecovery) (result : KlineIngestResult)
      (hlive : s.recovery.state = .live)
      (hsequence : recovery.lastSequence = s.recovery.lastSequence)
      (hevent : recovery.lastEventAt = s.recovery.lastEventAt)
      (hcandle : result.candle = none) (hblocker : ∃ b ∈ result.blockers, b ∉ routineBlockers) :
      KlineEffect s k queueDepth { s with recovery } (.ok result)
  /-- It follows, and is open or old. -/
  | followed (recovery : PublicStreamRecovery) (result : KlineIngestResult) (hadmits : s.Admits k)
      (htrades : k.tradeCount ≠ 0) (hfollows : s.Follows k recovery) (hcandle : result.candle = none)
      (hroutine : k.isClosed = false ∨ ∃ t ∈ s.latestClosedAt, k.closeTime ≤ t) :
      KlineEffect s k queueDepth { s with recovery } (.ok result)
  /-- It follows, and its candle is emitted. -/
  | emits (recovery : PublicStreamRecovery) (result : KlineIngestResult) (hadmits : s.Admits k)
      (htrades : k.tradeCount ≠ 0) (hfollows : s.Follows k recovery)
      (hcandle : result.candle = some k.candle) (heligible : result.decisionEligible = true)
      (hclosed : k.isClosed = true) (hnew : ∀ t ∈ s.latestClosedAt, t < k.closeTime) :
      KlineEffect s k queueDepth { s with recovery, latestClosedAt := some k.closeTime }
        (.ok result)

/-- **Inversion of the ingest of a kline.** -/
theorem ingest_kline (s : PublicKlineIngestor) (k : SpotKlineUpdate) (queueDepth : ℤ) :
    KlineEffect s k queueDepth (s.ingest (.kline k) queueDepth).1
      (s.ingest (.kline k) queueDepth).2 := by
  by_cases hidentity : k.symbol ≠ s.symbol ∨ k.interval ≠ s.interval
  · simp only [ingest, if_pos hidentity]
    exact .refused _ hidentity
  simp only [ingest, if_neg hidentity]
  by_cases htrades : k.tradeCount = 0
  · simp only [SpotKlineUpdate.sequenceBounds, if_pos htrades]
    by_cases hlive : s.recovery.state = .live
    · have hok : s.recovery.rejectUnsequencedUpdate =
          s.recovery.result false ["KLINE_TRADE_SEQUENCE_UNAVAILABLE"] := by
        simp [PublicStreamRecovery.rejectUnsequencedUpdate, PublicStreamRecovery.checked,
          PublicStreamRecovery.requireState, raiseIf, hlive]
      simp only [through, hok, PublicStreamRecovery.result, withoutCandle]
      exact .blocked s.recovery _ hlive rfl rfl rfl
        ⟨_, List.mem_singleton_self _, by simp [routineBlockers]⟩
    · have herror : s.recovery.rejectUnsequencedUpdate = (s.recovery,
          .error (.value ("invalid stream transition from " ++ s.recovery.state.text))) := by
        simp [PublicStreamRecovery.rejectUnsequencedUpdate, PublicStreamRecovery.checked,
          PublicStreamRecovery.requireState, raiseIf, hlive]
      simp only [through, herror]
      exact .raised _ fun h => absurd h hlive
  · simp only [SpotKlineUpdate.sequenceBounds, if_neg htrades]
    rcases s.recovery.applyUpdate_cases k.firstTradeId k.lastTradeId k.eventDatetime queueDepth with
      ⟨⟨error, herror⟩, hwhy⟩ | ⟨hadmits, recovery, transition, hok, hcase⟩
    · simp only [through, herror]
      exact .raised _ fun _ => ⟨htrades, hwhy⟩
    · simp only [through, hok, withoutCandle]
      rcases hcase with ⟨hnone, hfollows⟩ | ⟨-, hsequence, hevent, b, hb, hroutine⟩
      · rw [if_neg (not_not.mpr hnone)]
        by_cases hopen : k.isClosed = false
        · rw [if_pos hopen]
          exact .followed recovery _ hadmits htrades hfollows rfl (.inl hopen)
        rw [if_neg hopen]
        by_cases hold : ∃ t ∈ s.latestClosedAt, k.closeTime ≤ t
        · rw [if_pos hold]
          exact .followed recovery _ hadmits htrades hfollows rfl (.inr hold)
        rw [if_neg hold]
        have hclosed : k.isClosed = true := by simpa using hopen
        simp only [SpotKlineUpdate.asCandle, hclosed, if_true]
        refine .emits recovery _ hadmits htrades hfollows rfl rfl hclosed fun t ht => ?_
        exact not_le.mp fun hle => hold ⟨t, ht, hle⟩
      · rw [if_pos (List.ne_nil_of_mem hb)]
        exact .blocked recovery _ hadmits.live hsequence hevent rfl ⟨b, hb, hroutine⟩

namespace KlineEffect

/-- A connection that is not live emits nothing any more. -/
lemma live_of_live (h : KlineEffect s k queueDepth t result) (ht : t.recovery.state = .live) :
    s.recovery.state = .live := by
  cases h with
  | refused _ _ => exact ht
  | raised _ _ => exact ht
  | blocked _ _ hlive => exact hlive
  | followed _ _ hadmits => exact hadmits.live
  | emits _ _ hadmits => exact hadmits.live

/-- The latest close moves with an emitted candle only. -/
lemma latest_of_quiet (h : KlineEffect s k queueDepth t result) (hquiet : Quiet result) :
    t.latestClosedAt = s.latestClosedAt := by
  cases h with
  | emits _ result _ _ _ hcandle =>
    rw [hquiet.1] at hcandle
    cases hcandle
  | _ => rfl

lemma emitted_eq (h : KlineEffect s k queueDepth t result) {c : OHLCVCandle}
    (hc : emitted result = some c) :
    s.Admits k ∧ k.tradeCount ≠ 0 ∧ s.Follows k t.recovery ∧ c = k.candle ∧ k.isClosed = true ∧
      (∀ latest ∈ s.latestClosedAt, latest < k.closeTime) ∧ t.latestClosedAt = some k.closeTime := by
  cases h with
  | refused _ _ => cases hc
  | raised _ _ => cases hc
  | blocked _ result _ _ _ hcandle => simp [emitted, hcandle] at hc
  | followed _ result _ _ _ hcandle => simp [emitted, hcandle] at hc
  | emits recovery result hadmits htrades hfollows hcandle heligible hclosed hnew =>
    simp only [emitted, heligible, if_true, hcandle, Option.some.injEq] at hc
    exact ⟨hadmits, htrades, hfollows, hc.symm, hclosed, hnew, rfl⟩

/-- The times of the klines from `bound` on are not behind the last event. -/
def NotBefore (s : PublicKlineIngestor) (bound : ℤ) : Prop :=
  ∀ k : SpotKlineUpdate, bound ≤ k.eventTime →
    s.recovery.lastEventAt.any k.eventDatetime.lt = false

lemma lt_eventDatetime {k k' : SpotKlineUpdate} {x : ZonedDatetime}
    (hle : k.eventTime ≤ k'.eventTime) (h : k.eventDatetime.lt x = false) :
    k'.eventDatetime.lt x = false := by
  have hlt (k : SpotKlineUpdate) : k.eventDatetime.lt x =
      if TzInfo.fixed 0 = x.tz then decide (k.eventTime < x.wall)
      else decide (k.eventTime - 0 < x.instant) := rfl
  rw [hlt] at h ⊢
  by_cases hzone : TzInfo.fixed 0 = x.tz
  · rw [if_pos hzone] at h ⊢
    have hwall := of_decide_eq_false h
    exact decide_eq_false (by omega)
  · rw [if_neg hzone] at h ⊢
    have hinstant := of_decide_eq_false h
    exact decide_eq_false (by omega)

lemma notBefore_of_admits (h : s.Admits k) : NotBefore s k.eventTime := by
  intro k' hk'
  have hbefore := h.not_before
  cases hlast : s.recovery.lastEventAt with
  | none => rfl
  | some last =>
    rw [hlast, Option.any_some] at hbefore
    exact lt_eventDatetime hk' hbefore

lemma notBefore (h : KlineEffect s k queueDepth t result) {bound : ℤ} (hk : k.eventTime ≤ bound)
    (hs : NotBefore s bound) : NotBefore t bound := by
  have hfollows {recovery : PublicStreamRecovery} (hrecovery : s.Follows k recovery)
      (k' : SpotKlineUpdate) (hk' : bound ≤ k'.eventTime) :
      recovery.lastEventAt.any k'.eventDatetime.lt = false := by
    cases hrecovery with
    | stale _ _ => exact hs k' hk'
    | next _ _ _ =>
      simp only [Option.any_some, ZonedDatetime.lt, SpotKlineUpdate.eventDatetime,
        decide_eq_false_iff_not, if_true]
      omega
  cases h with
  | refused _ _ => exact hs
  | raised _ _ => exact hs
  | blocked _ _ _ _ hevent => exact fun k' hk' => by simpa [hevent] using hs k' hk'
  | followed _ _ _ _ hrecovery => exact hfollows hrecovery
  | emits _ _ _ _ hrecovery => exact hfollows hrecovery

end KlineEffect

end PublicKlineIngestor

/-! ### The messages of an honest exchange -/

/-- What an exchange knows of one symbol and interval: the time of the first candle, and of
each candle the id of the last trade before it. -/
structure KlineMarket where
  symbol : String
  interval : String
  start : ℤ
  trades : ℕ → ℤ
  supported : interval ∈ supportedDecisionIntervals
  trades_mono : Monotone trades

namespace KlineMarket

variable (market : KlineMarket) {n m : ℕ}

/-- `timeframe_duration(interval)`. -/
def duration : ℤ := intervalDuration market.interval

/-- The open time of a candle. -/
def openTime (n : ℕ) : ℤ := market.start + n * market.duration

lemma duration_pos : 0 < market.duration := by
  have h := market.supported
  simp only [supportedDecisionIntervals, List.mem_cons, List.not_mem_nil, or_false] at h
  rw [duration]
  rcases h with h | h | h | h | h | h <;> rw [h] <;> decide

lemma openTime_le_iff : market.openTime n ≤ market.openTime m ↔ n ≤ m := by
  rw [openTime, openTime, add_le_add_iff_left, mul_le_mul_iff_left₀ market.duration_pos]
  exact Int.ofNat_le

lemma openTime_lt_iff : market.openTime n < market.openTime m ↔ n < m := by
  rw [← not_le, market.openTime_le_iff, not_le]

lemma openTime_succ : market.openTime (n + 1) = market.openTime n + market.duration := by
  rw [openTime, openTime, Nat.cast_add, Nat.cast_one, add_one_mul, add_assoc]

/-- A message tells the truth about a candle: its trades so far are the first ones of the
candle, and all of them when it is closed. -/
structure Describes (n : ℕ) (k : SpotKlineUpdate) : Prop where
  symbol_eq : k.symbol = market.symbol
  interval_eq : k.interval = market.interval
  openTime_eq : k.openTime = market.openTime n
  first_eq : k.tradeCount ≠ 0 → k.firstTradeId = market.trades n + 1
  last_le : k.tradeCount ≠ 0 → k.lastTradeId ≤ market.trades (n + 1)
  last_eq : k.isClosed → k.tradeCount ≠ 0 → k.lastTradeId = market.trades (n + 1)
  empty_eq : k.isClosed → k.tradeCount = 0 → market.trades n = market.trades (n + 1)

end KlineMarket

/-- An honest feed: every message describes a candle, and they come in the order of their
candles and of their times. -/
structure HonestFeed (market : KlineMarket) (messages : List SpotKlineUpdate) : Prop where
  described : ∀ k ∈ messages, ∃ n, market.Describes n k
  ordered : messages.Pairwise fun k k' => k.openTime ≤ k'.openTime ∧ k.eventTime ≤ k'.eventTime

/-- The messages that are received: each may be lost, or be received any number of times. -/
inductive Received : List SpotKlineUpdate → List SpotKlineUpdate → Prop
  | nil : Received [] []
  | lose {k : SpotKlineUpdate} {messages received : List SpotKlineUpdate} :
      Received messages received → Received (k :: messages) received
  | receive {k : SpotKlineUpdate} {messages received : List SpotKlineUpdate} :
      Received (k :: messages) received → Received (k :: messages) (k :: received)

section Feeds

variable {market : KlineMarket} {messages received : List SpotKlineUpdate}

lemma Received.subset (h : Received messages received) : received ⊆ messages := by
  induction h with
  | nil => exact List.Subset.refl []
  | lose _ ih => exact fun k hk => List.mem_cons_of_mem _ (ih hk)
  | receive _ ih => exact List.cons_subset.mpr ⟨List.mem_cons_self, ih⟩

/-- What is received of an honest feed is an honest feed. -/
lemma Received.honestFeed (hfeed : HonestFeed market messages) (h : Received messages received) :
    HonestFeed market received := by
  refine ⟨fun k hk => hfeed.described k (h.subset hk), ?_⟩
  have hordered := hfeed.ordered
  clear hfeed
  induction h with
  | nil => exact .nil
  | lose _ ih => exact ih hordered.of_cons
  | receive hrest ih =>
    refine .cons (fun k hk => ?_) (ih hordered)
    rcases List.mem_cons.mp (hrest.subset hk) with rfl | hk
    · exact ⟨le_rfl, le_rfl⟩
    · exact List.rel_of_pairwise_cons hordered hk

/-- **The condition**: of every candle between two whose closing messages are received, the
closing message is received too, or the candle has trades the last of which neither the
snapshot nor a received message covers. -/
def LossesShow (market : KlineMarket) (snapshot : ℤ) (received : List SpotKlineUpdate) : Prop :=
  ∀ n, (∃ k ∈ received, k.isClosed ∧ k.openTime < market.openTime n) →
    (∃ k ∈ received, k.isClosed ∧ market.openTime n < k.openTime) →
    (∃ k ∈ received, k.isClosed ∧ k.openTime = market.openTime n) ∨
      (market.trades n < market.trades (n + 1) ∧ snapshot < market.trades (n + 1) ∧
        ∀ k ∈ received, k.openTime = market.openTime n → k.tradeCount ≠ 0 →
          k.lastTradeId < market.trades (n + 1))

end Feeds

/-! ### Runs -/

/-- A call of `ingest` with a kline, and what it returned or raised. -/
structure IngestCall where
  kline : SpotKlineUpdate
  queueDepth : ℕ
  result : Except IngestError KlineIngestResult

/-- One call of `ingest`. -/
def IngestStep [TzData] (s : PublicKlineIngestor) (i : IngestCall) (t : PublicKlineIngestor) :
    Prop :=
  s.ingest (.kline i.kline) i.queueDepth = (t, i.result)

/-- The candles that a run emits. -/
def emittedCandles (l : List IngestCall) : List OHLCVCandle := l.filterMap (emitted ·.result)

/-- An ingestor with a live connection on a market, after its snapshot. -/
structure LiveOn (market : KlineMarket) (snapshot : ℤ) (s : PublicKlineIngestor) : Prop where
  live : s.recovery.state = .live
  symbol_eq : s.symbol = market.symbol
  interval_eq : s.interval = market.interval
  sequence_eq : s.recovery.lastSequence = some snapshot

section Runs

variable [TzData] {market : KlineMarket} {snapshot : ℤ} {s t u : PublicKlineIngestor}
  {i j : IngestCall} {l : List IngestCall} {received : List SpotKlineUpdate} {n : ℕ}

open PublicKlineIngestor

lemma IngestStep.effect (h : IngestStep s i t) :
    KlineEffect s i.kline i.queueDepth t i.result := by
  have heffect := ingest_kline s i.kline i.queueDepth
  rwa [show s.ingest (.kline i.kline) i.queueDepth = (t, i.result) from h] at heffect

/-- What is known of an ingestor: it is the market's, and a candle's last trade that the
sequence has passed was covered by the snapshot or by a received message. -/
structure Tracks (market : KlineMarket) (snapshot : ℤ) (received : List SpotKlineUpdate)
    (s : PublicKlineIngestor) : Prop where
  symbol_eq : s.symbol = market.symbol
  interval_eq : s.interval = market.interval
  sequence : ∃ last, s.recovery.lastSequence = some last ∧
    ∀ n, market.trades n < market.trades (n + 1) → market.trades (n + 1) ≤ last →
      market.trades (n + 1) ≤ snapshot ∨
        ∃ k ∈ received, k.openTime = market.openTime n ∧ k.tradeCount ≠ 0 ∧
          market.trades (n + 1) ≤ k.lastTradeId

omit [TzData] in
lemma LiveOn.tracks (h : LiveOn market snapshot s) : Tracks market snapshot [] s :=
  ⟨h.symbol_eq, h.interval_eq, snapshot, h.sequence_eq, fun _ _ hle => .inl hle⟩

omit [TzData] in
/-- A kline in sequence passes the last trade of its own candle at most. -/
lemma Tracks.follow {recovery : PublicStreamRecovery}
    {k : SpotKlineUpdate} {latest : Option ℤ} (h : Tracks market snapshot received s)
    (hk : market.Describes n k) (htrades : k.tradeCount ≠ 0) (hfollows : s.Follows k recovery) :
    Tracks market snapshot (received ++ [k])
      { s with recovery, latestClosedAt := latest } := by
  obtain ⟨last, hlast, hcovered⟩ := h.sequence
  have hkeep : ∀ m, market.trades m < market.trades (m + 1) → market.trades (m + 1) ≤ last →
      market.trades (m + 1) ≤ snapshot ∨
        ∃ k' ∈ received ++ [k], k'.openTime = market.openTime m ∧ k'.tradeCount ≠ 0 ∧
          market.trades (m + 1) ≤ k'.lastTradeId := by
    intro m hm hle
    rcases hcovered m hm hle with hsnapshot | ⟨k', hk', hcovers⟩
    · exact .inl hsnapshot
    · exact .inr ⟨k', List.mem_append_left _ hk', hcovers⟩
  refine ⟨h.symbol_eq, h.interval_eq, ?_⟩
  cases hfollows with
  | stale _ _ => exact ⟨last, hlast, hkeep⟩
  | @next previous hprevious hfirst _ =>
    obtain rfl := Option.some.inj (hprevious.symm.trans hlast)
    refine ⟨k.lastTradeId, rfl, fun m hm hle => ?_⟩
    by_cases hpassed : market.trades (m + 1) ≤ previous
    · exact hkeep m hm hpassed
    · -- the message begins before the end of the candle and reaches it: it is the candle's own
      rw [hk.first_eq htrades] at hfirst
      have hlastle := hk.last_le htrades
      have hmn : n = m := by
        rcases lt_trichotomy n m with hlt | rfl | hlt
        · have := market.trades_mono (show n + 1 ≤ m from hlt)
          omega
        · rfl
        · have := market.trades_mono (show m + 1 ≤ n from hlt)
          omega
      subst hmn
      exact .inr ⟨k, List.mem_append_right _ (List.mem_singleton_self k), hk.openTime_eq, htrades, hle⟩

omit [TzData] in
lemma Tracks.mono {received' : List SpotKlineUpdate} (h : Tracks market snapshot received s)
    (hsub : received ⊆ received') : Tracks market snapshot received' s := by
  obtain ⟨last, hlast, hcovered⟩ := h.sequence
  refine ⟨h.symbol_eq, h.interval_eq, last, hlast, fun m hm hle => ?_⟩
  rcases hcovered m hm hle with hsnapshot | ⟨k, hk, hcovers⟩
  · exact .inl hsnapshot
  · exact .inr ⟨k, hsub hk, hcovers⟩

/-- **Every call keeps track.** -/
lemma Tracks.step (h : Tracks market snapshot received s)
    (hk : market.Describes n i.kline) (hstep : IngestStep s i t) :
    Tracks market snapshot (received ++ [i.kline]) t := by
  have hmono := h.mono (List.subset_append_left received [i.kline])
  obtain ⟨k, queueDepth, result⟩ := i
  have heffect : KlineEffect s k queueDepth t result := hstep.effect
  cases heffect with
  | refused _ _ => exact hmono
  | raised _ _ => exact hmono
  | blocked _ _ _ hsequence =>
    refine ⟨hmono.symbol_eq, hmono.interval_eq, ?_⟩
    simpa only [hsequence] using hmono.sequence
  | followed _ _ _ htrades hfollows => exact h.follow hk htrades hfollows
  | emits _ _ _ htrades hfollows => exact h.follow hk htrades hfollows

lemma Tracks.run (hs : Tracks market snapshot received s)
    (hdescribed : ∀ i ∈ l, ∃ n, market.Describes n i.kline) (h : Run IngestStep s l t) :
    Tracks market snapshot (received ++ l.map (·.kline)) t := by
  induction h generalizing received with
  | nil _ => simpa using hs
  | @cons s u t i l hstep _ ih =>
    obtain ⟨n, hn⟩ := hdescribed i List.mem_cons_self
    have hlast := ih (hs.step hn hstep) fun j hj => hdescribed j (List.mem_cons_of_mem _ hj)
    simpa using hlast

/-- A run to a live connection was on a live connection. -/
lemma live_of_run (h : Run IngestStep s l t) (ht : t.recovery.state = .live) :
    s.recovery.state = .live := by
  induction h with
  | nil _ => exact ht
  | cons hstep _ ih => exact hstep.effect.live_of_live (ih ht)

lemma latest_of_run (h : Run IngestStep s l t) (hquiet : ∀ i ∈ l, Quiet i.result) :
    t.latestClosedAt = s.latestClosedAt := by
  induction h with
  | nil _ => rfl
  | cons hstep _ ih =>
    rw [ih fun j hj => hquiet j (List.mem_cons_of_mem _ hj)]
    exact hstep.effect.latest_of_quiet (hquiet _ List.mem_cons_self)

lemma notBefore_of_run {bound : ℤ} (h : Run IngestStep s l t)
    (hl : ∀ i ∈ l, i.kline.eventTime ≤ bound) (hs : KlineEffect.NotBefore s bound) :
    KlineEffect.NotBefore t bound := by
  induction h with
  | nil _ => exact hs
  | cons hstep _ ih =>
    refine ih (fun j hj => hl j (List.mem_cons_of_mem _ hj)) ?_
    exact hstep.effect.notBefore (hl _ List.mem_cons_self) hs

/-- The emitted candles come in the order of their times, up to the latest close. -/
lemma emitted_increasing (hdescribed : ∀ i ∈ l, ∃ n, market.Describes n i.kline)
    (h : Run IngestStep s l t) :
    (emittedCandles l).Pairwise (·.timestamp < ·.timestamp) ∧
      ∀ c ∈ emittedCandles l, ∃ latest, t.latestClosedAt = some latest ∧
        c.timestamp + market.duration - 1000 ≤ latest := by
  induction l using List.reverseRecOn generalizing t with
  | nil => exact ⟨.nil, fun c hc => by cases hc⟩
  | append_singleton l i ih =>
    obtain ⟨u, hu, hstep⟩ := run_snoc_iff.mp h
    obtain ⟨hpair, hlatest⟩ := ih (fun j hj => hdescribed j (List.mem_append_left _ hj)) hu
    obtain ⟨n, hn⟩ := hdescribed i (by simp)
    have hduration : intervalDuration i.kline.interval = market.duration := by
      rw [hn.interval_eq, KlineMarket.duration]
    rw [emittedCandles, List.filterMap_append]
    cases hemit : emitted i.result with
    | none =>
      have hnil : [i].filterMap (emitted ·.result) = [] := by simp [hemit]
      rw [hnil, List.append_nil]
      refine ⟨hpair, fun c hc => ?_⟩
      obtain ⟨latest, hlast, hle⟩ := hlatest c hc
      obtain ⟨k, queueDepth, result⟩ := i
      have heffect : KlineEffect u k queueDepth t result := hstep.effect
      cases heffect with
      | emits _ _ _ _ _ hcandle heligible => simp [emitted, hcandle, heligible] at hemit
      | _ => exact ⟨latest, hlast, hle⟩
    | some c =>
      have hsingle : [i].filterMap (emitted ·.result) = [c] := by simp [hemit]
      obtain ⟨-, -, -, hc, -, hnew, hclose⟩ := hstep.effect.emitted_eq hemit
      have htime : c.timestamp + market.duration - 1000 = i.kline.closeTime := by
        rw [hc, i.kline.closeTime_eq, hduration]
        rfl
      rw [hsingle]
      refine ⟨List.pairwise_append.mpr ⟨hpair, List.pairwise_singleton _ _, fun d hd e he => ?_⟩,
        fun d hd => ⟨_, hclose, ?_⟩⟩
      · obtain rfl := List.mem_singleton.mp he
        obtain ⟨latest, hlast, hle⟩ := hlatest d hd
        have hlt := hnew latest hlast
        omega
      · rcases List.mem_append.mp hd with hd | hd
        · obtain ⟨latest, hlast, hle⟩ := hlatest d hd
          have hlt := hnew latest hlast
          omega
        · obtain rfl := List.mem_singleton.mp hd
          omega

/-- A closing message in sequence, between two emitted candles, is not quiet. -/
lemma not_quiet_of_closing (hs : Tracks market snapshot received s) (hlive : s.recovery.state = .live)
    (hn : market.Describes n i.kline) (hclosed : i.kline.isClosed = true)
    (hfirst : 0 ≤ market.trades n)
    (hbefore : KlineEffect.NotBefore s i.kline.eventTime)
    (hnew : ∀ latest ∈ s.latestClosedAt, latest < i.kline.closeTime) (hstep : IngestStep s i t) :
    ¬ Quiet i.result := by
  intro hquiet
  obtain ⟨k, queueDepth, result⟩ := i
  have heffect : KlineEffect s k queueDepth t result := hstep.effect
  cases heffect with
  | refused _ hidentity =>
    rcases hidentity with hsymbol | hinterval
    · exact hsymbol (hn.symbol_eq.trans hs.symbol_eq.symm)
    · exact hinterval (hn.interval_eq.trans hs.interval_eq.symm)
  | raised _ hwhy =>
    obtain ⟨htrades, hdepth⟩ := hwhy hlive
    obtain ⟨last, hlast, -⟩ := hs.sequence
    have hadmits : s.Admits k :=
      ⟨hlive, hbefore k le_rfl, by rw [hn.first_eq htrades]; omega, k.first_le_last htrades⟩
    have hneg := hdepth hadmits (by rw [hlast]; rfl)
    omega
  | blocked _ _ _ _ _ _ hblocker =>
    obtain ⟨b, hb, hroutine⟩ := hblocker
    exact hroutine (hquiet.2 b hb)
  | followed _ _ _ _ _ _ hroutine =>
    rcases hroutine with hopen | ⟨latest, hlatest, hle⟩
    · rw [hclosed] at hopen
      cases hopen
    · exact absurd (hnew latest hlatest) (not_lt.mpr hle)
  | emits _ _ _ _ _ hcandle =>
    rw [hquiet.1] at hcandle
    cases hcandle

omit [TzData] in
lemma KlineMarket.Describes.closeTime_eq {k : SpotKlineUpdate} (h : market.Describes n k) :
    k.closeTime = market.openTime n + market.duration - 1000 := by
  rw [k.closeTime_eq, h.interval_eq, h.openTime_eq, KlineMarket.duration]

omit [TzData] in
/-- In the order of the candles, the messages of a candle strictly between two others are
received between them. -/
lemma mem_between {before between after : List IngestCall} {b : IngestCall}
    (hordered : (before ++ i :: (between ++ j :: after)).Pairwise fun a b =>
      a.kline.openTime ≤ b.kline.openTime ∧ a.kline.eventTime ≤ b.kline.eventTime)
    (hb : b ∈ before ++ i :: (between ++ j :: after)) (hi : i.kline.openTime < b.kline.openTime)
    (hj : b.kline.openTime < j.kline.openTime) : b ∈ between := by
  obtain ⟨-, hrest, hbefore⟩ := List.pairwise_append.mp hordered
  obtain ⟨-, hrest⟩ := List.pairwise_cons.mp hrest
  obtain ⟨-, hlast, -⟩ := List.pairwise_append.mp hrest
  rcases List.mem_append.mp hb with hb | hb
  · exact absurd (hbefore b hb i List.mem_cons_self).1 (not_le.mpr hi)
  · rcases List.mem_cons.mp hb with rfl | hb
    · exact absurd hi (lt_irrefl _)
    · rcases List.mem_append.mp hb with hb | hb
      · exact hb
      · rcases List.mem_cons.mp hb with rfl | hb
        · exact absurd hj (lt_irrefl _)
        · exact absurd ((List.pairwise_cons.mp hlast).1 b hb).1 (not_le.mpr hj)

/-- After an emitted candle, the closing message of a later one is not quiet while the
connection is live. -/
lemma not_quiet_between {between : List IngestCall} {b : IngestCall} {m : ℕ}
    (hs : Tracks market snapshot received s) (hdescribe : ∀ b ∈ between, ∃ n, market.Describes n b.kline)
    (hordered : (i :: between).Pairwise fun a b =>
      a.kline.openTime ≤ b.kline.openTime ∧ a.kline.eventTime ≤ b.kline.eventTime)
    (hn : market.Describes n i.kline) (hstep : IngestStep s i t) {c : OHLCVCandle}
    (hi : emitted i.result = some c) (hrun : Run IngestStep t between u)
    (hlive : u.recovery.state = .live) (hb : b ∈ between) (hclosed : b.kline.isClosed = true)
    (hm : market.Describes m b.kline) (hnm : n < m) : ¬ ∀ b ∈ between, Quiet b.result := by
  intro hquiet
  obtain ⟨hadmits, htrades, -, -, -, -, hlatest⟩ := hstep.effect.emitted_eq hi
  obtain ⟨first, rest, rfl⟩ := List.append_of_mem hb
  obtain ⟨v, hfirst, hrest⟩ := run_append_iff.mp hrun
  obtain ⟨w, hbstep, hrest⟩ := run_cons_iff.mp hrest
  have hvlive := hbstep.effect.live_of_live (live_of_run hrest hlive)
  have hvlatest := (latest_of_run hfirst fun a ha => hquiet a (List.mem_append_left _ ha)).trans
    hlatest
  have htracks := (hs.step hn hstep).run
    (fun a ha => hdescribe a (List.mem_append_left _ ha)) hfirst
  -- the times are in order, so the clock of the connection is not ahead of the closing message
  obtain ⟨hafter, hordered⟩ := List.pairwise_cons.mp hordered
  obtain ⟨-, -, hahead⟩ := List.pairwise_append.mp hordered
  have htime := (hafter b hb).2
  have hnotbefore : KlineEffect.NotBefore v b.kline.eventTime := by
    refine notBefore_of_run hfirst (fun a ha => (hahead a ha b List.mem_cons_self).2) ?_
    refine hstep.effect.notBefore htime fun k hk => ?_
    exact KlineEffect.notBefore_of_admits hadmits k (htime.trans hk)
  have hpos : 0 ≤ market.trades m := by
    have hfirstpos := hadmits.first_pos
    rw [hn.first_eq htrades] at hfirstpos
    have := market.trades_mono hnm.le
    omega
  refine not_quiet_of_closing htracks hvlive hm hclosed hpos hnotbefore (fun latest hlast => ?_)
    hbstep (hquiet b hb)
  rw [hvlatest, Option.mem_def, Option.some.injEq] at hlast
  have hlt := (market.openTime_lt_iff).mpr hnm
  rw [← hlast, hn.closeTime_eq, hm.closeTime_eq]
  omega

/-- An emitted candle is behind the trades of the candles before it. -/
lemma trades_le_of_emitted (hs : Tracks market snapshot received s) (hn : market.Describes n i.kline)
    (hstep : IngestStep s i t) {c : OHLCVCandle} (hi : emitted i.result = some c) :
    ∃ last, s.recovery.lastSequence = some last ∧ market.trades n ≤ last := by
  obtain ⟨last, hlast, -⟩ := hs.sequence
  obtain ⟨-, htrades, hfollows, -⟩ := hstep.effect.emitted_eq hi
  have hfirst := hn.first_eq htrades
  have hle := i.kline.first_le_last htrades
  refine ⟨last, hlast, ?_⟩
  generalize t.recovery = recovery at hfollows
  cases hfollows with
  | stale hprevious hstale =>
    obtain rfl := Option.some.inj (hprevious.symm.trans hlast)
    omega
  | next hprevious hnext _ =>
    obtain rfl := Option.some.inj (hprevious.symm.trans hlast)
    omega

/-- No candle is skipped: the emitted candles come in the order of their times, and one follows
the other by one interval when no call between them says that something is amiss. -/
def NoSkippedCandle (market : KlineMarket) (l : List IngestCall) : Prop :=
  (emittedCandles l).Pairwise (·.timestamp < ·.timestamp) ∧
    ∀ before i between j after c d, l = before ++ i :: (between ++ j :: after) →
      emitted i.result = some c → emitted j.result = some d →
      (∀ b ∈ between, Quiet b.result) → d.timestamp = c.timestamp + market.duration

/-- **No silently skipped candle.**  When a lost closing message between received ones always
comes with a trade that nothing covers, no candle is skipped without a blocker. -/
theorem no_skipped_candle {messages : List SpotKlineUpdate} (hs : LiveOn market snapshot s)
    (hfeed : HonestFeed market messages) (hreceived : Received messages (l.map (·.kline)))
    (hloss : LossesShow market snapshot (l.map (·.kline))) (h : Run IngestStep s l t) :
    NoSkippedCandle market l := by
  obtain ⟨hdescribed, hordered⟩ := hreceived.honestFeed hfeed
  have hdescribe : ∀ i ∈ l, ∃ n, market.Describes n i.kline :=
    fun i hi => hdescribed _ (List.mem_map_of_mem hi)
  refine ⟨(emitted_increasing hdescribe h).1, ?_⟩
  rintro before i between j after c d rfl hi hj hquiet
  obtain ⟨s₁, hbefore, h⟩ := run_append_iff.mp h
  obtain ⟨s₂, hstepi, h⟩ := run_cons_iff.mp h
  obtain ⟨s₃, hbetween, h⟩ := run_append_iff.mp h
  obtain ⟨s₄, hstepj, -⟩ := run_cons_iff.mp h
  obtain ⟨n, hn⟩ := hdescribe i (by simp)
  obtain ⟨m, hm⟩ := hdescribe j (by simp)
  obtain ⟨hadmits, htrades, -, rfl, hclosed, -, hlatest⟩ := hstepi.effect.emitted_eq hi
  obtain ⟨hadmits', htrades', hfollows', rfl, hclosed', hnew', -⟩ := hstepj.effect.emitted_eq hj
  have hlatest₃ := (latest_of_run hbetween hquiet).trans hlatest
  have hnm : n < m := by
    have hlt := hnew' _ hlatest₃
    rw [hn.closeTime_eq, hm.closeTime_eq] at hlt
    exact market.openTime_lt_iff.mp (by omega)
  by_cases hnext : m = n + 1
  · subst hnext
    calc j.kline.candle.timestamp = market.openTime (n + 1) := hm.openTime_eq
      _ = market.openTime n + market.duration := market.openTime_succ
      _ = i.kline.candle.timestamp + market.duration := by rw [← hn.openTime_eq]; rfl
  -- the candle after the first one was skipped
  have hlt : n + 1 < m := by omega
  have hordered' := List.pairwise_map.mp hordered
  have htracks := hs.tracks.run (fun a ha => hdescribe a (by simp [ha])) hbefore
  have hafter := hloss (n + 1)
    ⟨i.kline, by simp, hclosed, by rw [hn.openTime_eq, market.openTime_lt_iff]; omega⟩
    ⟨j.kline, by simp, hclosed', by rw [hm.openTime_eq, market.openTime_lt_iff]; omega⟩
  rcases hafter with ⟨k, hk, hkclosed, hkopen⟩ | ⟨hsome, hsnapshot, huncovered⟩
  · obtain ⟨b, hb, rfl⟩ := List.mem_map.mp hk
    have hbetween_mem : b ∈ between := mem_between hordered' hb
      (by rw [hkopen, hn.openTime_eq, market.openTime_lt_iff]; omega)
      (by rw [hkopen, hm.openTime_eq, market.openTime_lt_iff]; omega)
    obtain ⟨m', hm'⟩ := hdescribe b hb
    obtain rfl : m' = n + 1 := le_antisymm
      (market.openTime_le_iff.mp (by rw [← hm'.openTime_eq, hkopen]))
      (market.openTime_le_iff.mp (by rw [← hm'.openTime_eq, hkopen]))
    have hpart : (i :: between).Pairwise fun a b =>
        a.kline.openTime ≤ b.kline.openTime ∧ a.kline.eventTime ≤ b.kline.eventTime :=
      hordered'.sublist (by simp)
    exact absurd hquiet (not_quiet_between htracks (fun a ha => hdescribe a (by simp [ha])) hpart hn
      hstepi hi hbetween hadmits'.live hbetween_mem hkclosed hm' (by omega))
  · have htracks₃ := (htracks.step hn hstepi).run (fun a ha => hdescribe a (by simp [ha])) hbetween
    obtain ⟨last, hlast, hle⟩ := trades_le_of_emitted htracks₃ hm hstepj hj
    obtain ⟨last', hlast', hcovered⟩ := htracks₃.sequence
    obtain rfl := Option.some.inj (hlast.symm.trans hlast')
    have hpassed := market.trades_mono (show n + 1 + 1 ≤ m from hlt)
    rcases hcovered (n + 1) hsome (hpassed.trans hle) with hcover | ⟨k, hk, hkopen, hktrades, hcover⟩
    · omega
    · have hmem : k ∈ (before ++ i :: (between ++ j :: after)).map (·.kline) := by
        simp only [List.nil_append, List.mem_append, List.mem_singleton] at hk
        simp only [List.map_append, List.map_cons, List.mem_append, List.mem_cons]
        tauto
      have := huncovered k hmem hkopen hktrades
      omega

end Runs

/-! ### Sample feeds -/

/-- The minutes of a market with two trades each. -/
def sampleMarket : KlineMarket where
  symbol := "BTCUSDT"
  interval := "1m"
  start := 0
  trades n := 99 + 2 * n
  supported := by decide
  trades_mono m n h := by
    have : (m : ℤ) ≤ n := Int.ofNat_le.mpr h
    dsimp only
    omega

/-- A message with both trades of a minute. -/
def minuteFields (n : ℕ) (isClosed : Bool) : KlineFields where
  eventTime := if isClosed then 60000000 * (n + 1) else 60000000 * n + 30000000
  symbol := "BTCUSDT"
  interval := "1m"
  openTime := 60000000 * n
  closeTime := 60000000 * (n + 1) - 1000
  firstTradeId := 100 + 2 * n
  lastTradeId := 101 + 2 * n
  «open» := 1
  high := 1
  low := 1
  close := 1
  volume := 1
  tradeCount := 2
  isClosed

/-- The messages of three minutes. -/
def firstClosed : SpotKlineUpdate := ⟨minuteFields 0 true, by decide +kernel⟩
def secondOpen : SpotKlineUpdate := ⟨minuteFields 1 false, by decide +kernel⟩
def secondClosed : SpotKlineUpdate := ⟨minuteFields 1 true, by decide +kernel⟩
def thirdClosed : SpotKlineUpdate := ⟨minuteFields 2 true, by decide +kernel⟩

lemma describes_minute {k : SpotKlineUpdate} {n : ℕ} {isClosed : Bool}
    (h : k.toKlineFields = minuteFields n isClosed) : sampleMarket.Describes n k where
  symbol_eq := by rw [h]; rfl
  interval_eq := by rw [h]; rfl
  openTime_eq := by
    rw [h, KlineMarket.openTime, show sampleMarket.duration = 60000000 by decide]
    simp only [minuteFields, sampleMarket]
    ring
  first_eq _ := by
    rw [h]
    simp only [minuteFields, sampleMarket]
    ring
  last_le _ := by
    rw [h]
    simp only [minuteFields, sampleMarket]
    push_cast
    omega
  last_eq _ _ := by
    rw [h]
    simp only [minuteFields, sampleMarket]
    push_cast
    ring
  empty_eq _ hempty := by
    rw [h] at hempty
    cases hempty

lemma sample_honest : HonestFeed sampleMarket [firstClosed, secondOpen, secondClosed, thirdClosed] where
  described k hk := by
    simp only [List.mem_cons, List.not_mem_nil, or_false] at hk
    rcases hk with rfl | rfl | rfl | rfl
    · exact ⟨0, describes_minute rfl⟩
    · exact ⟨1, describes_minute rfl⟩
    · exact ⟨1, describes_minute rfl⟩
    · exact ⟨2, describes_minute rfl⟩
  ordered := by decide +kernel

/-- The ingestor after its snapshot. -/
def liveIngestor : PublicKlineIngestor where
  symbol := "BTCUSDT"
  interval := "1m"
  recovery := { policy := {}, state := .live, lastSequence := some 99 }

lemma liveIngestor_live : LiveOn sampleMarket 99 liveIngestor := ⟨rfl, rfl, rfl, rfl⟩

/-- The calls with the messages in order. -/
def ingestRun [TzData] (s : PublicKlineIngestor) : List SpotKlineUpdate → List IngestCall
  | [] => []
  | k :: rest => ⟨k, 0, (s.ingest (.kline k) 0).2⟩ :: ingestRun (s.ingest (.kline k) 0).1 rest

lemma run_ingestRun [TzData] (s : PublicKlineIngestor) (messages : List SpotKlineUpdate) :
    ∃ t, Run IngestStep s (ingestRun s messages) t := by
  induction messages generalizing s with
  | nil => exact ⟨s, .nil s⟩
  | cons k rest ih =>
    obtain ⟨t, ht⟩ := ih (s.ingest (.kline k) 0).1
    exact ⟨t, .cons rfl ht⟩

lemma map_kline_ingestRun [TzData] (s : PublicKlineIngestor) (messages : List SpotKlineUpdate) :
    (ingestRun s messages).map (·.kline) = messages := by
  induction messages generalizing s with
  | nil => rfl
  | cons k rest ih => rw [ingestRun, List.map_cons, ih]

/-- **A lost closing message skips a candle**: the second minute's trades arrive in an open
kline, its closing message is lost, and the third minute is emitted behind the first. -/
theorem lost_closing_skips_candle :
    ¬ ∀ (market : KlineMarket) (snapshot : ℤ) (messages : List SpotKlineUpdate)
      (l : List IngestCall) (s t : PublicKlineIngestor), LiveOn market snapshot s →
      HonestFeed market messages → Received messages (l.map (·.kline)) → Run IngestStep s l t →
        NoSkippedCandle market l := by
  intro hclaim
  obtain ⟨t, hrun⟩ := run_ingestRun liveIngestor [firstClosed, secondOpen, thirdClosed]
  have hreceived : Received [firstClosed, secondOpen, secondClosed, thirdClosed]
      [firstClosed, secondOpen, thirdClosed] :=
    .receive (.lose (.receive (.lose (.lose (.receive (.lose .nil))))))
  have hskip := (hclaim sampleMarket 99 _ _ _ _ liveIngestor_live sample_honest
    (by rwa [map_kline_ingestRun]) hrun).2 [] _ [_] _ [] firstClosed.candle thirdClosed.candle rfl
    (by decide +kernel) (by decide +kernel) (by decide +kernel)
  revert hskip
  decide +kernel

/-- Three closing messages, and three candles. -/
theorem closings_emit_candles :
    (∃ t, Run IngestStep liveIngestor
      (ingestRun liveIngestor [firstClosed, secondClosed, thirdClosed]) t) ∧
    NoSkippedCandle sampleMarket (ingestRun liveIngestor [firstClosed, secondClosed, thirdClosed]) := by
  obtain ⟨t, hrun⟩ := run_ingestRun liveIngestor [firstClosed, secondClosed, thirdClosed]
  have hreceived : Received [firstClosed, secondOpen, secondClosed, thirdClosed]
      [firstClosed, secondClosed, thirdClosed] :=
    .receive (.lose (.lose (.receive (.lose (.receive (.lose .nil))))))
  have hloss : LossesShow sampleMarket 99 [firstClosed, secondClosed, thirdClosed] := by
    rintro n ⟨k, hk, -, hlt⟩ ⟨k', hk', -, hlt'⟩
    have hopen : sampleMarket.openTime n = 60000000 * n := by
      rw [KlineMarket.openTime, show sampleMarket.duration = 60000000 by decide,
        show sampleMarket.start = 0 from rfl]
      ring
    have hfirst : ∀ k ∈ [firstClosed, secondClosed, thirdClosed],
        0 ≤ k.openTime ∧ k.openTime ≤ 120000000 := by decide +kernel
    have hk := (hfirst k hk).1
    have hk' := (hfirst k' hk').2
    obtain rfl : n = 1 := by omega
    exact .inl ⟨secondClosed, by simp, rfl, by rw [hopen]; rfl⟩
  exact ⟨⟨t, hrun⟩, no_skipped_candle liveIngestor_live sample_honest
    (by rwa [map_kline_ingestRun]) (by rwa [map_kline_ingestRun]) hrun⟩

end Ai4Binance

/-
The dataset of a Futures replay (`validation/futures_replay.py`, `whale_fusion/models.py`)
and the prefixes that a signal provider is shown.

A constructor's checks are a table (`Check.Passes`), in the order the code makes them.

* `DerivativesMetric`, `DerivativesPoint`, `DerivativesDataset`: series of public metrics;
* `RuntimeFuturesReplayDataset`: candles with their derivatives;
* `markCandles`: the native mark path, read from the text attributes of its points;
* `replayPrefix`: `_replay_prefix` of the backtest engine;
* `replayPrefix_spec`: **a prefix of a valid dataset is valid**, and nothing in it is
  later than its last candle.
-/
import Ai4Binance.Backtesting.FuturesEngine
import Ai4Binance.Data.Archive

open Text Check

namespace Ai4Binance

/-- `DerivativesMetric`. -/
inductive DerivativesMetric where
  | openInterest
  | openInterestValue
  | topAccountRatio
  | topPositionRatio
  | globalAccountRatio
  | fundingRate
  | takerBuySellRatio
  | basisRate
  | markPrice
  | indexPrice
  | orderBookImbalance
  | largeTradeNotional
  | liquidationNotional
  | adlRisk
  deriving DecidableEq, Repr

/-- `Provenance`. -/
structure Provenance where
  sourceId : String
  observedAt : ℤ
  sourceUrl : String
  identified : isBlank sourceId = false ∧ "https://".toList <+: sourceUrl.toList
  deriving DecidableEq

/-- `MetricPoint` of `whale_fusion/models.py`. -/
structure DerivativesPoint where
  metric : DerivativesMetric
  timestamp : ℤ
  value : ℚ
  provenance : Provenance
  attributes : List (String × String) := []
  deriving DecidableEq

/-- The part of a funding point that the exit loop reads. -/
def DerivativesPoint.toMetricPoint (point : DerivativesPoint) : MetricPoint :=
  ⟨point.timestamp, point.value⟩

/-- `DerivativesDataset`; the series are a mapping, in the order of its keys. -/
structure DerivativesDataset where
  symbol : String
  asOf : ℤ
  series : List (DerivativesMetric × List DerivativesPoint)
  source : String
  deriving DecidableEq

namespace DerivativesDataset

/-- `series.get(metric, ())`. -/
def points (d : DerivativesDataset) (metric : DerivativesMetric) : List DerivativesPoint :=
  (d.series.lookup metric).getD []

/-- The checks of the constructor on one series. -/
def seriesChecks (metric : DerivativesMetric) (points : List DerivativesPoint) :
    List (Bool × String) :=
  [(points.any (·.metric ≠ metric), "dataset series contains mismatched metric"),
    (!decide ((points.map (·.timestamp)).Pairwise (· < ·)),
      "dataset series must be strictly chronological")]

/-- The checks of the constructor. -/
def checks [UnicodeData] (symbol : String)
    (series : List (DerivativesMetric × List DerivativesPoint)) : List (Bool × String) :=
  (!isAsciiAlnum (upper (strip symbol)), "dataset symbol must be ASCII alphanumeric") ::
    series.flatMap fun entry => seriesChecks entry.1 entry.2

/-- `DerivativesDataset(…)`. -/
def create [UnicodeData] (symbol : String) (asOf : ℤ)
    (series : List (DerivativesMetric × List DerivativesPoint)) (source : String) :
    Except PyError DerivativesDataset :=
  if Passes (checks symbol series) then .ok ⟨upper (strip symbol), asOf, series, source⟩
  else .error (.value (firstRefusal (checks symbol series)))

end DerivativesDataset

/-- `RuntimeFuturesReplayDataset`. -/
structure RuntimeFuturesReplayDataset where
  symbol : String
  candles : List OHLCVCandle
  derivatives : DerivativesDataset
  timeframe : String
  deriving DecidableEq

/-- `RUNTIME_FUTURES_REPLAY_TIMEFRAMES`. -/
def replayTimeframes : List String := ["5m", "15m", "1h", "4h", "1d"]

/-- `_PUBLIC_SOURCE_URLS`. -/
def publicSourceUrls : List (String × List String) :=
  [("BINANCE_USD_M_PUBLIC_REST", ["https://fapi.binance.com"]),
    ("BINANCE_VISION_CHECKSUM_VERIFIED",
      ["https://data.binance.vision",
        "https://s3-ap-northeast-1.amazonaws.com/data.binance.vision"])]

/-- `timeframe_duration`, of a timeframe that was checked, in microseconds. -/
def replayDuration (timeframe : String) : ℤ :=
  (timeframeSeconds.lookup timeframe).getD 0 * 1000000

/-- `provenance.source_url` is a root or lies below one. -/
def approvedUrl (roots : List String) (url : String) : Bool :=
  roots.any fun root => decide (url = root) || decide ((root ++ "/").toList <+: url.toList)

/-- The candles follow each other at the spacing of a timeframe. -/
def EvenlySpaced (timeframe : String) (candles : List OHLCVCandle) : Prop :=
  (candles.map (·.timestamp)).IsChain fun current following =>
    following - current = replayDuration timeframe

instance (timeframe : String) (candles : List OHLCVCandle) :
    Decidable (EvenlySpaced timeframe candles) :=
  inferInstanceAs (Decidable (List.IsChain _ _))

namespace RuntimeFuturesReplayDataset

/-- The checks of `_validate_public_provenance` on one point. -/
def pointChecks (timeframe source : String) (asOf first last : ℤ) (roots : List String)
    (metric : DerivativesMetric) (point : DerivativesPoint) : List (Bool × String) :=
  [(!decide (first ≤ point.timestamp ∧
      if metric = .fundingRate then point.timestamp < last + replayDuration timeframe
      else point.timestamp ≤ last), "Futures replay derivatives timestamps exceed candle bounds"),
    (decide (point.provenance.sourceId ≠ source), "Futures replay source lineage is inconsistent"),
    (decide (asOf < point.provenance.observedAt), "Futures replay provenance exceeds dataset as_of"),
    (decide (point.provenance.observedAt < point.timestamp),
      "Futures replay provenance predates market data"),
    (!approvedUrl roots point.provenance.sourceUrl,
      "Futures replay provenance host is not approved")]

/-- The checks of the constructor that look at the candles. -/
def candleChecks (candles : List OHLCVCandle) (asOf last : ℤ) (timeframe : String) :
    List (Bool × String) :=
  [(!decide ((candles.map (·.timestamp)).Pairwise (· < ·)),
      "Futures replay candles must be unique and strictly chronological"),
    (!decide (EvenlySpaced timeframe candles),
      "Futures replay candle spacing must match timeframe"),
    (candles.any fun c => c.open ≤ 0 || c.high ≤ 0 || c.low ≤ 0 || c.close ≤ 0,
      "Futures replay prices must be positive"),
    (decide (asOf < last), "Futures replay as_of precedes the latest candle")]

/-- The checks of the constructor that look at the derivatives. -/
def derivativesChecks (candles : List OHLCVCandle) (derivatives : DerivativesDataset)
    (first last : ℤ) (timeframe : String) : List (Bool × String) :=
  let roots := (publicSourceUrls.lookup derivatives.source).getD []
  let openInterest := derivatives.points .openInterest
  (decide (publicSourceUrls.lookup derivatives.source = none),
    "Futures replay requires an approved public data source") ::
  (derivatives.series.flatMap fun entry => entry.2.flatMap
    (pointChecks timeframe derivatives.source derivatives.asOf first last roots entry.1)) ++
  [(openInterest.isEmpty, "Futures replay open-interest history is required"),
    (decide (openInterest.map (·.timestamp) ≠ candles.map (·.timestamp)),
      "Futures replay OHLCV and open-interest timestamps must align exactly"),
    (openInterest.any (·.value ≤ 0), "Futures replay open interest must be positive")]

/-- The checks of the constructor. -/
def checks [UnicodeData] (symbol : String) (candles : List OHLCVCandle)
    (derivatives : DerivativesDataset) (timeframe : String) : List (Bool × String) :=
  let first := (candles.head?.map (·.timestamp)).getD 0
  let last := (candles.getLast?.map (·.timestamp)).getD 0
  [(!isAsciiAlnum (upper (strip symbol)), "Futures replay symbol must be ASCII alphanumeric"),
    (!replayTimeframes.contains timeframe, "runtime Futures replay timeframe is unsupported"),
    (decide (derivatives.symbol ≠ upper (strip symbol)),
      "Futures replay symbol lineage is inconsistent"),
    (candles.isEmpty, "Futures replay candles are required")] ++
  candleChecks candles derivatives.asOf last timeframe ++
  derivativesChecks candles derivatives first last timeframe

/-- `RuntimeFuturesReplayDataset(…)`. -/
def create [UnicodeData] (symbol : String) (candles : List OHLCVCandle)
    (derivatives : DerivativesDataset) (timeframe : String) :
    Except PyError RuntimeFuturesReplayDataset :=
  if Passes (checks symbol candles derivatives timeframe) then
    .ok ⟨upper (strip symbol), candles, derivatives, timeframe⟩
  else .error (.value (firstRefusal (checks symbol candles derivatives timeframe)))

/-- A dataset that the two constructors have accepted. -/
structure Valid [UnicodeData] (d : RuntimeFuturesReplayDataset) : Prop where
  derivatives_ok : DerivativesDataset.create d.derivatives.symbol d.derivatives.asOf
    d.derivatives.series d.derivatives.source = .ok d.derivatives
  dataset_ok : create d.symbol d.candles d.derivatives d.timeframe = .ok d

variable (d : RuntimeFuturesReplayDataset)

/-- A decimal text that is finite and positive. -/
def positiveText [UnicodeData] (text : String) : Except PyError ℚ :=
  match Decimal.parse text with
  | some (.finite value) =>
      if value.toRat ≤ 0 then .error (.value "mark-price OHLC must be finite and positive")
      else .ok value.toRat
  | some _ => .error (.value "mark-price OHLC must be finite and positive")
  | none => .error (.value "native mark-price OHLC history is unavailable")

/-- `OHLCVCandle(…)`, of a mark price. -/
def markCandle [UnicodeData] (point : DerivativesPoint) : Except PyError OHLCVCandle := do
  let markText (key : String) : Except PyError ℚ := do
    let text ← orRaise (point.attributes.lookup key)
      (.value "native mark-price OHLC history is unavailable")
    positiveText text
  raiseIf (point.value ≤ 0) (.value "mark-price OHLC must be finite and positive")
  let «open» ← markText "mark_open"
  let high ← markText "mark_high"
  let low ← markText "mark_low"
  if h : (0 ≤ «open» ∧ 0 ≤ high ∧ 0 ≤ low ∧ 0 ≤ point.value ∧ (0 : ℚ) ≤ 0) ∧ low ≤ high ∧
      max «open» point.value ≤ high ∧ low ≤ min «open» point.value then
    return ⟨point.timestamp, «open», high, low, point.value, 0, h.1, h.2.1, h.2.2.1, h.2.2.2⟩
  else throw (.value "invalid OHLC relationship")

/-- `mark_candles`.  Which of several defects raises is left open. -/
def markCandles [UnicodeData] : Except PyError (List OHLCVCandle) := do
  let points := d.derivatives.points .markPrice
  raiseIf (points.map (·.timestamp) ≠ d.candles.map (·.timestamp))
    (.value "complete aligned mark-price OHLC history is required")
  let last := (d.candles.getLast?.map (·.timestamp)).getD 0
  raiseIf (d.derivatives.asOf < last + replayDuration d.timeframe)
    (.value "mark-price history contains an unclosed candle")
  points.mapM markCandle

/-- `_replay_prefix`: the dataset up to the candle with number `length`. -/
def replayPrefix [UnicodeData] (length : ℕ) : Except PyError RuntimeFuturesReplayDataset := do
  let latest := (d.candles[length - 1]?.map (·.timestamp)).getD 0
  let series := d.derivatives.series.map fun entry =>
    (entry.1, entry.2.filter fun point => decide (point.timestamp ≤ latest))
  let derivatives ← DerivativesDataset.create d.symbol d.derivatives.asOf series
    d.derivatives.source
  create d.symbol (d.candles.take length) derivatives d.timeframe

/-! ### A prefix is a dataset -/

/-- A series that the constructor of the derivatives accepts. -/
structure SeriesAccepted (metric : DerivativesMetric) (points : List DerivativesPoint) : Prop where
  metric_eq : ∀ point ∈ points, point.metric = metric
  chronological : (points.map (·.timestamp)).Pairwise (· < ·)

lemma passes_derivatives_iff [UnicodeData] {symbol : String}
    {series : List (DerivativesMetric × List DerivativesPoint)} :
    Passes (DerivativesDataset.checks symbol series) ↔
      isAsciiAlnum (upper (strip symbol)) = true ∧
        ∀ entry ∈ series, SeriesAccepted entry.1 entry.2 := by
  simp only [DerivativesDataset.checks, DerivativesDataset.seriesChecks, passes_cons,
    passes_flatMap, passes_nil, and_true, Bool.not_eq_false', decide_eq_true_eq, List.any_eq_false,
    ne_eq, not_not]
  exact and_congr_right fun _ => forall₂_congr fun entry _ =>
    ⟨fun h => ⟨h.1, h.2⟩, fun h => ⟨h.metric_eq, h.chronological⟩⟩

/-- A point that the constructor of a dataset accepts, of candles from `first` to `last`. -/
structure PointAccepted (timeframe : String) (derivatives : DerivativesDataset)
    (roots : List String) (first last : ℤ) (metric : DerivativesMetric) (point : DerivativesPoint) :
    Prop where
  first_le : first ≤ point.timestamp
  within : if metric = .fundingRate then point.timestamp < last + replayDuration timeframe
    else point.timestamp ≤ last
  source_eq : point.provenance.sourceId = derivatives.source
  observed_le : point.provenance.observedAt ≤ derivatives.asOf
  le_observed : point.timestamp ≤ point.provenance.observedAt
  approved : approvedUrl roots point.provenance.sourceUrl = true

/-- What the constructor of a dataset has checked. -/
structure Accepted [UnicodeData] (symbol : String) (candles : List OHLCVCandle)
    (derivatives : DerivativesDataset) (timeframe : String) : Prop where
  alnum : isAsciiAlnum (upper (strip symbol)) = true
  timeframe_mem : timeframe ∈ replayTimeframes
  symbol_eq : derivatives.symbol = upper (strip symbol)
  candles_ne : candles ≠ []
  chronological : (candles.map (·.timestamp)).Pairwise (· < ·)
  spaced : EvenlySpaced timeframe candles
  positive : ∀ c ∈ candles, 0 < c.open ∧ 0 < c.high ∧ 0 < c.low ∧ 0 < c.close
  last_le : (candles.getLast?.map (·.timestamp)).getD 0 ≤ derivatives.asOf
  source_mem : publicSourceUrls.lookup derivatives.source ≠ none
  points : ∀ entry ∈ derivatives.series, ∀ point ∈ entry.2,
    PointAccepted timeframe derivatives ((publicSourceUrls.lookup derivatives.source).getD [])
      ((candles.head?.map (·.timestamp)).getD 0) ((candles.getLast?.map (·.timestamp)).getD 0)
      entry.1 point
  interest_ne : derivatives.points .openInterest ≠ []
  interest_aligned : (derivatives.points .openInterest).map (·.timestamp) =
    candles.map (·.timestamp)
  interest_pos : ∀ point ∈ derivatives.points .openInterest, 0 < point.value

lemma passes_pointChecks_iff {timeframe : String} {derivatives : DerivativesDataset}
    {first last : ℤ} {roots : List String} {metric : DerivativesMetric} {point : DerivativesPoint} :
    Passes (pointChecks timeframe derivatives.source derivatives.asOf first last roots metric point) ↔
      PointAccepted timeframe derivatives roots first last metric point := by
  simp only [pointChecks, passes_cons, passes_nil, and_true, Bool.not_eq_false',
    decide_eq_true_eq, decide_eq_false_iff_not, ne_eq, not_not, not_lt]
  constructor
  · rintro ⟨⟨h1, h2⟩, h3, h4, h5, h6⟩
    exact ⟨h1, h2, h3, h4, h5, h6⟩
  · rintro ⟨h1, h2, h3, h4, h5, h6⟩
    exact ⟨⟨h1, h2⟩, h3, h4, h5, h6⟩

lemma passes_checks_iff [UnicodeData] {symbol : String} {candles : List OHLCVCandle}
    {derivatives : DerivativesDataset} {timeframe : String} :
    Passes (checks symbol candles derivatives timeframe) ↔
      Accepted symbol candles derivatives timeframe := by
  simp only [checks, candleChecks, derivativesChecks, passes_append, passes_cons, passes_nil,
    passes_flatMap, passes_pointChecks_iff, and_true, Bool.not_eq_false', decide_eq_true_eq,
    decide_eq_false_iff_not, ne_eq, not_not, not_lt, List.any_eq_false, List.contains_iff_mem,
    List.isEmpty_eq_false_iff, Bool.or_eq_true, not_or, not_le]
  constructor
  · rintro ⟨⟨⟨h1, h2, h3, h4⟩, h5, h6, h7, h8⟩, ⟨h9, h10⟩, h11, h12, h13⟩
    exact ⟨h1, h2, h3, h4, h5, h6, fun c hc => by simpa [and_assoc] using h7 c hc, h8, h9, h10, h11,
      h12, h13⟩
  · rintro ⟨h1, h2, h3, h4, h5, h6, h7, h8, h9, h10, h11, h12, h13⟩
    exact ⟨⟨⟨h1, h2, h3, h4⟩, h5, h6, fun c hc => by simpa [and_assoc] using h7 c hc, h8⟩, ⟨h9, h10⟩,
      h11, h12, h13⟩

lemma derivatives_create_eq_ok [UnicodeData] {symbol source : String} {asOf : ℤ}
    {series : List (DerivativesMetric × List DerivativesPoint)} {p : DerivativesDataset} :
    DerivativesDataset.create symbol asOf series source = .ok p ↔
      Passes (DerivativesDataset.checks symbol series) ∧
        p = ⟨upper (strip symbol), asOf, series, source⟩ := by
  rw [DerivativesDataset.create]
  split_ifs with hpasses
  · simp [hpasses, eq_comm]
  · simp [hpasses]

lemma create_eq_ok [UnicodeData] {symbol timeframe : String} {candles : List OHLCVCandle}
    {derivatives : DerivativesDataset} {p : RuntimeFuturesReplayDataset} :
    create symbol candles derivatives timeframe = .ok p ↔
      Passes (checks symbol candles derivatives timeframe) ∧
        p = ⟨upper (strip symbol), candles, derivatives, timeframe⟩ := by
  rw [create]
  split_ifs with hpasses
  · simp [hpasses, eq_comm]
  · simp [hpasses]

/-- The points of a metric up to a time. -/
def pointsUntil (metric : DerivativesMetric) (latest : ℤ) : List DerivativesPoint :=
  (d.derivatives.points metric).filter fun point => decide (point.timestamp ≤ latest)

/-- The derivatives of a prefix. -/
def prefixDerivatives (latest : ℤ) : DerivativesDataset where
  symbol := d.symbol
  asOf := d.derivatives.asOf
  series := d.derivatives.series.map fun entry =>
    (entry.1, entry.2.filter fun point => decide (point.timestamp ≤ latest))
  source := d.derivatives.source

variable {d}

lemma points_prefixDerivatives (metric : DerivativesMetric) (latest : ℤ) :
    (d.prefixDerivatives latest).points metric = d.pointsUntil metric latest := by
  rw [DerivativesDataset.points, pointsUntil, DerivativesDataset.points, prefixDerivatives]
  induction d.derivatives.series with
  | nil => rfl
  | cons entry rest ih =>
    rw [List.map_cons, List.lookup_cons, List.lookup_cons]
    cases metric == entry.1 with
    | true => rfl
    | false => exact ih

/-- The times up to an element of an increasing list are its first ones. -/
lemma filter_le_eq_take {times : List ℤ} (h : times.Pairwise (· < ·)) {n : ℕ} {latest : ℤ}
    (hn : times[n]? = some latest) :
    times.filter (fun t => decide (t ≤ latest)) = times.take (n + 1) := by
  induction times generalizing n with
  | nil => simp at hn
  | cons t times ih =>
    rw [List.pairwise_cons] at h
    cases n with
    | zero =>
      obtain rfl : t = latest := by simpa using hn
      have hnone : times.filter (fun u => decide (u ≤ t)) = [] :=
        List.filter_eq_nil_iff.mpr fun u hu => by simpa using h.1 u hu
      rw [List.filter_cons_of_pos (by simp), hnone, List.take_succ_cons, List.take_zero]
    | succ n =>
      rw [List.getElem?_cons_succ] at hn
      have hlt : t < latest := h.1 latest (List.mem_of_getElem? hn)
      rw [List.filter_cons_of_pos (by simpa using hlt.le), ih h.2 hn, List.take_succ_cons]

/-- No time of an increasing list is after its last one. -/
lemma le_getLast_of_increasing {times : List ℤ} (h : times.Pairwise (· < ·)) {t : ℤ}
    (ht : t ∈ times) : t ≤ times.getLast?.getD 0 := by
  induction times generalizing t with
  | nil => simp at ht
  | cons u times ih =>
    rw [List.pairwise_cons] at h
    cases times with
    | nil =>
      obtain rfl : t = u := by simpa using ht
      exact le_rfl
    | cons v rest =>
      rw [List.getLast?_cons_cons]
      rcases List.mem_cons.mp ht with rfl | ht
      · exact (h.1 v List.mem_cons_self).le.trans (ih h.2 List.mem_cons_self)
      · exact ih h.2 ht

section Prefix

variable [UnicodeData] {n : ℕ} {candle : OHLCVCandle}

lemma Valid.accepted (h : d.Valid) : Accepted d.symbol d.candles d.derivatives d.timeframe :=
  passes_checks_iff.mp (create_eq_ok.mp h.dataset_ok).1

lemma Valid.symbol_eq (h : d.Valid) : upper (strip d.symbol) = d.symbol :=
  (congrArg RuntimeFuturesReplayDataset.symbol (create_eq_ok.mp h.dataset_ok).2).symm

lemma Valid.series_accepted (h : d.Valid) :
    ∀ entry ∈ d.derivatives.series, SeriesAccepted entry.1 entry.2 :=
  (passes_derivatives_iff.mp (derivatives_create_eq_ok.mp h.derivatives_ok).1).2

lemma Valid.replayDuration_pos (h : d.Valid) : 0 < replayDuration d.timeframe := by
  have hmem := h.accepted.timeframe_mem
  simp only [replayTimeframes, List.mem_cons, List.not_mem_nil, or_false] at hmem
  rcases hmem with h | h | h | h | h <;> rw [h] <;> decide

/-- The open interest of a prefix is aligned with its candles. -/
lemma Valid.interest_until (h : d.Valid) (hcandle : d.candles[n]? = some candle) :
    (d.pointsUntil .openInterest candle.timestamp).map (·.timestamp) =
      (d.candles.take (n + 1)).map (·.timestamp) := by
  have htime : (d.candles.map (·.timestamp))[n]? = some candle.timestamp := by
    rw [List.getElem?_map, hcandle, Option.map_some]
  have hmap : (d.pointsUntil .openInterest candle.timestamp).map (·.timestamp) =
      ((d.derivatives.points .openInterest).map (·.timestamp)).filter
        (fun t => decide (t ≤ candle.timestamp)) := by
    rw [pointsUntil, List.filter_map]
    rfl
  rw [hmap, h.accepted.interest_aligned, filter_le_eq_take h.accepted.chronological htime,
    List.map_take]

/-- The constructor of a dataset accepts the parts of a prefix. -/
lemma Valid.prefix_accepted (h : d.Valid) (hcandle : d.candles[n]? = some candle) :
    Accepted d.symbol (d.candles.take (n + 1)) (d.prefixDerivatives candle.timestamp)
      d.timeframe := by
  have hacc := h.accepted
  have hn : n < d.candles.length := (List.getElem?_eq_some_iff.mp hcandle).1
  have hfirst : ((d.candles.take (n + 1)).head?.map (·.timestamp)).getD 0 =
      (d.candles.head?.map (·.timestamp)).getD 0 := by
    rw [List.head?_take, if_neg (by omega)]
  have hlast : ((d.candles.take (n + 1)).getLast?.map (·.timestamp)).getD 0 =
      candle.timestamp := by
    rw [List.getLast?_take, if_neg (by omega), Nat.add_sub_cancel, hcandle]
    rfl
  have hbefore : candle.timestamp ≤ (d.candles.getLast?.map (·.timestamp)).getD 0 := by
    rw [← List.getLast?_map]
    exact le_getLast_of_increasing hacc.chronological
      (List.mem_map_of_mem (List.mem_of_getElem? hcandle))
  have hduration := h.replayDuration_pos
  have hlength : (d.candles.take (n + 1)).length = n + 1 := by
    rw [List.length_take]
    omega
  exact {
    alnum := hacc.alnum
    timeframe_mem := hacc.timeframe_mem
    symbol_eq := h.symbol_eq.symm
    candles_ne := List.ne_nil_of_length_pos (by omega)
    chronological := hacc.chronological.sublist ((List.take_sublist _ _).map _)
    spaced := by
      have hspaced := hacc.spaced
      rw [EvenlySpaced] at hspaced ⊢
      rw [List.map_take]
      exact hspaced.take _
    positive := fun c hc => hacc.positive c (List.mem_of_mem_take hc)
    last_le := by
      rw [hlast]
      exact hbefore.trans hacc.last_le
    source_mem := hacc.source_mem
    points := by
      intro entry hentry point hpoint
      obtain ⟨whole, hwhole, rfl⟩ := List.mem_map.mp hentry
      obtain ⟨hmem, hle⟩ := List.mem_filter.mp hpoint
      have hold := hacc.points whole hwhole point hmem
      have hle : point.timestamp ≤ candle.timestamp := by simpa using hle
      rw [hfirst, hlast]
      refine { hold with within := ?_ }
      split_ifs
      · omega
      · exact hle
    interest_ne := by
      intro hnil
      rw [points_prefixDerivatives] at hnil
      have htimes := congrArg List.length (h.interest_until hcandle)
      rw [hnil, List.length_map, List.length_map, hlength, List.length_nil] at htimes
      omega
    interest_aligned := by
      rw [points_prefixDerivatives]
      exact h.interest_until hcandle
    interest_pos := by
      intro point hpoint
      rw [points_prefixDerivatives] at hpoint
      exact hacc.interest_pos point (List.mem_of_mem_filter hpoint) }

lemma Valid.prefixDerivatives_create (h : d.Valid) (latest : ℤ) :
    DerivativesDataset.create d.symbol d.derivatives.asOf (d.prefixDerivatives latest).series
      d.derivatives.source = .ok (d.prefixDerivatives latest) := by
  have hseries : ∀ entry ∈ (d.prefixDerivatives latest).series,
      SeriesAccepted entry.1 entry.2 := by
    intro entry hentry
    obtain ⟨whole, hwhole, rfl⟩ := List.mem_map.mp hentry
    have hold := h.series_accepted whole hwhole
    exact ⟨fun point hp => hold.metric_eq point (List.mem_of_mem_filter hp),
      hold.chronological.sublist (List.filter_sublist.map _)⟩
  refine derivatives_create_eq_ok.mpr
    ⟨passes_derivatives_iff.mpr ⟨h.accepted.alnum, hseries⟩, ?_⟩
  rw [h.symbol_eq]
  rfl

/-- The prefix of a dataset up to the candle with number `n`. -/
def prefixAt (d : RuntimeFuturesReplayDataset) (n : ℕ) (latest : ℤ) :
    RuntimeFuturesReplayDataset where
  symbol := d.symbol
  candles := d.candles.take (n + 1)
  derivatives := d.prefixDerivatives latest
  timeframe := d.timeframe

/-- **A prefix of a valid dataset is valid**: up to the candle with number `n`, it is built
of the candles so far and, of every series, of the points until the last of them. -/
theorem replayPrefix_spec (h : d.Valid) (hcandle : d.candles[n]? = some candle) :
    d.replayPrefix (n + 1) = .ok (d.prefixAt n candle.timestamp) ∧
      (d.prefixAt n candle.timestamp).Valid := by
  have hlatest : (d.candles[n + 1 - 1]?.map (·.timestamp)).getD 0 = candle.timestamp := by
    rw [Nat.add_sub_cancel, hcandle]
    rfl
  have hderivatives := h.prefixDerivatives_create candle.timestamp
  have hcreate : create d.symbol (d.candles.take (n + 1)) (d.prefixDerivatives candle.timestamp)
      d.timeframe = .ok (d.prefixAt n candle.timestamp) := by
    refine create_eq_ok.mpr ⟨passes_checks_iff.mpr (h.prefix_accepted hcandle), ?_⟩
    rw [h.symbol_eq, prefixAt]
  have hunfold : d.replayPrefix (n + 1) =
      (DerivativesDataset.create d.symbol d.derivatives.asOf
        (d.prefixDerivatives ((d.candles[n + 1 - 1]?.map (·.timestamp)).getD 0)).series
        d.derivatives.source >>= fun derivatives =>
          create d.symbol (d.candles.take (n + 1)) derivatives d.timeframe) := rfl
  refine ⟨?_, hderivatives, hcreate⟩
  rw [hunfold, hlatest, hderivatives, ok_bind, hcreate]

end Prefix

end RuntimeFuturesReplayDataset

end Ai4Binance

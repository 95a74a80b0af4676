/-
Candle health (`data/acquisition_profile.py`).

A report of candle health lists symbols, and a row for each of their streams in the five
timeframes of the profile: what the archive holds of the window that ends at the last completed
boundary.  A checker reads the report at a later time.

* `completedBoundary`, `candleHealthWindow`: the window of a stream at a time;
* `Archive.manifest`, `Archive.readWindow`: what the archive is asked for;
* `streamHealth`, `verifiedCandleHealthStream`, `candleWindowHealth`: the report;
* `candleHealthIdentities`, `currentCandleHealthStream`, `candleHealthStatus`: the checker.
-/
import Ai4Binance.Data.Archive
import Ai4Binance.Lib.Datetime
import Ai4Binance.Lib.EpochTime

namespace Ai4Binance

open Text Check

/-! ### Times -/

/-- What candle health raises: an exception of the archive, of which those of the calendar are
`ValueError`s, or an `OverflowError` of the calendar. -/
inductive HealthError where
  | archive (error : ArchiveError)
  | overflow
  deriving DecidableEq, Repr

/-- A call into the archive. -/
def archived {α : Type} (x : Except ArchiveError α) : Except HealthError α := x.mapError .archive

/-- The first second of the year 1. -/
def firstYearSecond : ℤ := -62135596800

/-- A time of the calendar, in microseconds. -/
def InCalendar (wall : ℤ) : Prop :=
  firstYearSecond * 1000000 ≤ wall ∧ wall < (EpochTime.lastYearSecond + 1) * 1000000

instance (wall : ℤ) : Decidable (InCalendar wall) := inferInstanceAs (Decidable (_ ∧ _))

/-- `t + duration`, which the calendar has to hold. -/
def shifted (t : Timestamp) (duration : ℤ) : Except HealthError Timestamp := do
  raiseIf (¬ InCalendar (t.instant + t.utcoffset + duration)) .overflow
  return t.add duration

/-- The text of a time in UTC. -/
def utcText (t : ℤ) : IsoText := .written (.aware t 0)

/-- `datetime.timestamp()`: the float nearest to the seconds since 1970. -/
def timestampFloat (t : ℤ) : ℚ :=
  if t < 0 then -EpochTime.nearestFloat (-t / 1000000) else EpochTime.nearestFloat (t / 1000000)

/-- `int(t.timestamp())`, which truncates towards zero. -/
def wholeSeconds (t : ℤ) : ℤ := if t < 0 then ⌈timestampFloat t⌉ else ⌊timestampFloat t⌋

/-- `datetime.fromtimestamp(seconds, UTC)`. -/
def fromtimestamp (seconds : ℤ) : Except HealthError ℤ := do
  raiseIf (seconds < firstYearSecond ∨ EpochTime.lastYearSecond < seconds)
    (.archive (.value "year is out of range"))
  return seconds * 1000000

/-- `completed_boundary`. -/
def completedBoundary (cutoff : Moment) (timeframe : String) : Except HealthError ℤ :=
  match cutoff with
  | .naive _ => .error (.archive (.value "profile cutoff must be timezone-aware"))
  | .aware t _ => do
    let duration ← archived (timeframeDuration timeframe)
    let seconds := duration / 1000000
    fromtimestamp (wholeSeconds t / seconds * seconds)

/-- The zone of the system: the instant of a wall-clock reading. -/
class LocalZone where
  instant : ℤ → ℤ

/-- `t.astimezone(UTC)`. -/
def Moment.astimezone [LocalZone] (t : Moment) : Except HealthError ℤ := do
  let instant := match t with
    | .aware instant _ => instant
    | .naive wall => LocalZone.instant wall
  raiseIf (¬ InCalendar instant) .overflow
  return instant

/-! ### Windows -/

/-- `PROFILE_TIMEFRAMES`. -/
def profileTimeframes : List String := ["5m", "15m", "1h", "4h", "1d"]

/-- The markets of candle health, in the order of its rows. -/
def healthMarkets : List String := ["spot", "usd_m_futures"]

/-- `AcquisitionWindow`, its times in UTC. -/
structure AcquisitionWindow where
  market : String
  timeframe : String
  start : ℤ
  «end» : ℤ
  expectedCount : ℕ
  deriving DecidableEq, Repr

/-- The length of a window: 1000 candles, or 30 days. -/
def windowLength (market : String) (duration : ℤ) : ℤ :=
  if market = "spot" then 1000 * duration else 30 * 86400000000

/-- `candle_health_window`. -/
def candleHealthWindow (market timeframe : String) (cutoff : Moment) :
    Except HealthError AcquisitionWindow := do
  raiseIf (market ∉ healthMarkets ∨ timeframe ∉ profileTimeframes)
    (.archive (.value "unsupported candle health stream"))
  let duration ← archived (timeframeDuration timeframe)
  let boundary ← completedBoundary cutoff timeframe
  let start ← shifted ⟨boundary, 0⟩ (-windowLength market duration)
  return ⟨market, timeframe, start.instant, boundary,
    ((boundary - start.instant) / duration).toNat⟩

/-- The opening times of the candles of a window. -/
def AcquisitionWindow.grid (window : AcquisitionWindow) (duration : ℤ) : Finset ℤ :=
  (Finset.range window.expectedCount).image fun index : ℕ => window.start + index * duration

/-! ### Reading the archive -/

/-- A text of 64 hexadecimal digits. -/
def isHexDigest (text : String) : Bool :=
  text.toList.length = 64 && text.toList.all fun char => "0123456789abcdef".toList.contains char

/-- The parquet library with its filters, and `sha256`, whose `hexdigest` has 64 hexadecimal
digits.  `readBetween` reads the rows whose timestamp lies between two instants. -/
class WindowLibrary (File : Type) extends ParquetLibrary File where
  readBetween : File → ℤ → ℤ → Except ArchiveError (Table Schema)
  checksum_hex : ∀ file, isHexDigest (checksum file) = true

namespace Archive

variable {File : Type} [WindowLibrary File] [UnicodeData]

/-- `manifest`. -/
def manifest (a : Archive File) (symbol timeframe : String) :
    Except ArchiveError DatasetManifest := do
  let key ← validateIdentity symbol timeframe "read"
  let (manifest, _) ← (a (key, timeframe)).verified
  return manifest

/-- `read_window`, between two instants in UTC. -/
def readWindow (a : Archive File) (symbol timeframe : String) (windowStart windowEnd : ℤ) :
    Except ArchiveError (List StampedCandle) := do
  raiseIf (windowEnd < windowStart) (.value "dataset window end cannot precede start")
  let key ← validateIdentity symbol timeframe "read"
  let dataset := a (key, timeframe)
  raiseIf (dataset.parquet.isNone ∨ dataset.manifest.isNone)
    (.fileNotFound ("dataset not found: " ++ key ++ "/" ++ timeframe))
  let (manifest, file) ← dataset.verified
  let table ← WindowLibrary.readBetween file windowStart windowEnd
  let candles ← table.rows.mapM rowToCandle
  raiseIf (manifest.rowCount < candles.length ∨
      ∃ candle ∈ candles, ¬ (windowStart ≤ candle.timestamp ∧ candle.timestamp ≤ windowEnd))
    (.integrity "dataset window exceeds verified bounds")
  return candles

end Archive

/-! ### The health of a stream -/

/-- `SAFE_STATE`. -/
structure SafeState where
  executionAllowed : Bool := false
  promotionStatus : String := "RESEARCH_ONLY"
  liveEligibilityStatus : String := "LIVE_ORDER_BLOCKED"
  deriving DecidableEq, Repr

/-- The source of a stream's candles: the empty mapping is `none`. -/
structure SourceLineage where
  source : String
  datasetSha256 : String
  deriving DecidableEq, Repr

/-- The fields of `stream_health` that a row of the report keeps. -/
structure StreamEvidence where
  market : String
  timeframe : String
  requestedStart : IsoText
  requestedEndExclusive : IsoText
  requestedBars : ℕ
  availableVerifiedBars : ℕ
  missingCount : ℕ
  coverageRatio : String
  duplicateCount : ℕ
  lastClosedOpen : Option IsoText
  actualStart : Option IsoText
  actualEndExclusive : Option IsoText
  sourceLagSeconds : Option ℤ
  expectedLatestClosedOpen : IsoText
  tailReady : Bool
  verifiedArchiveCount : ℕ
  status : String
  sourceLineage : Option SourceLineage
  safe : SafeState := {}
  deriving DecidableEq

/-- What `stream_health` returns. -/
structure StreamHealth extends StreamEvidence where
  missingOpenTimes : List IsoText
  strategyRequiredBars : ℕ
  warmupReady : Bool
  warmupGridStatus : String
  warmupBlockers : List String
  analysisStatus : String := "NOT_EVALUATED"

/-- The text of a time with its offset. -/
def isoText (t : Timestamp) : IsoText := .written (.aware t.instant t.utcoffset)

/-- `stream_health`. -/
def streamHealth (window : AcquisitionWindow) (timestamps : List Timestamp)
    (strategyRequiredBars verifiedArchiveCount : ℕ) (lineage : Option SourceLineage)
    (warmupVerified : Bool) : Except HealthError StreamHealth := do
  let duration ← archived (timeframeDuration window.timeframe)
  let expected := window.grid duration
  let actual := (timestamps.map Timestamp.instant).toFinset
  let missing := (expected \ actual).sort
  let duplicateCount := timestamps.length - actual.card
  let valid := missing = [] ∧ duplicateCount = 0 ∧ actual ⊆ expected
  let coverage ← orRaise
    (Context.default.divide ⟨false, (actual ∩ expected).card, 0⟩
      ⟨false, window.expectedCount, 0⟩) (.archive .decimal)
  -- of equal times a set keeps the first
  let earliest := timestamps.minOn? Timestamp.instant
  let latest := timestamps.maxOn? Timestamp.instant
  let actualEnd ← latest.mapM fun t => shifted t duration
  return {
    market := window.market, timeframe := window.timeframe
    requestedStart := utcText window.start, requestedEndExclusive := utcText window.end
    requestedBars := window.expectedCount
    availableVerifiedBars := (actual ∩ expected).card
    missingCount := missing.length
    coverageRatio := coverage.str
    missingOpenTimes := missing.map utcText
    duplicateCount
    lastClosedOpen := latest.map isoText
    actualStart := earliest.map isoText
    actualEndExclusive := actualEnd.map isoText
    sourceLagSeconds := latest.map fun t =>
      max 0 ((window.end - t.instant - duration) / 1000000)
    expectedLatestClosedOpen := utcText (window.end - duration)
    tailReady := decide (window.end - duration ∈ actual)
    strategyRequiredBars, verifiedArchiveCount
    warmupReady := warmupVerified
    warmupGridStatus := if warmupVerified then "VERIFIED" else "NOT_READY"
    warmupBlockers := if warmupVerified then [] else ["WARMUP_INSUFFICIENT"]
    status :=
      if valid ∧ window.market = "spot" then "DATA_READY_1000"
      else if valid then "DATA_READY_MONTH"
      else "PARTIAL"
    sourceLineage := lineage }

/-! ### The report -/

/-- `str.startswith(("BINANCE_PUBLIC_REST_", "BINANCE_VISION_"))`. -/
def isNativeSource (source : String) : Bool :=
  "BINANCE_PUBLIC_REST_".toList.isPrefixOf source.toList ||
    "BINANCE_VISION_".toList.isPrefixOf source.toList

/-- An `OSError`, a `ValueError` or an `ArithmeticError`. -/
def ArchiveError.isCaught : ArchiveError → Bool
  | .type | .index => false
  | _ => true

/-- A row of the report. -/
structure CandleHealthRow extends StreamEvidence where
  symbol : String
  missingOpenTimeSample : List IsoText
  errorCode : Option ArchiveError
  deriving DecidableEq

/-- `symbols`: a market that is absent has none. -/
structure MarketSymbols where
  spot : List String := []
  usdMFutures : List String := []
  deriving DecidableEq, Repr

/-- `symbols.get(market, ())`. -/
def MarketSymbols.get (symbols : MarketSymbols) : String → List String
  | "spot" => symbols.spot
  | "usd_m_futures" => symbols.usdMFutures
  | _ => []

/-- The streams of the symbols: market, symbol and timeframe. -/
def MarketSymbols.streams (symbols : MarketSymbols) : List (String × String × String) :=
  healthMarkets.flatMap fun market => (symbols.get market).flatMap fun symbol =>
    profileTimeframes.map fun timeframe => (market, symbol, timeframe)

/-- `CANDLE_HEALTH_SCOPE`. -/
def candleHealthScope : String := "SPOT_1000_CLOSED_BARS_FUTURES_30_DAYS"

/-- The report. -/
structure CandleHealthReport where
  schemaVersion : ℕ := 1
  scope : String := candleHealthScope
  status : String
  observedAt : IsoText
  symbols : MarketSymbols
  timeframes : List String := profileTimeframes
  spotRequiredBars : ℕ := 1000
  futuresRequiredDays : ℕ := 30
  streamCount : ℕ
  verifiedStreamCount : ℕ
  streams : List CandleHealthRow
  blockers : List String
  analysisStatus : String := "NOT_EVALUATED"
  safe : SafeState := {}

section Producer

variable {File : Type} [WindowLibrary File] [UnicodeData]

/-- The `try` of `_verified_candle_health_stream`. -/
def verifiedCandles (archive : Archive File) (symbol timeframe : String)
    (window : AcquisitionWindow) : Except ArchiveError (List StampedCandle × SourceLineage) := do
  let manifest ← archive.manifest symbol timeframe
  raiseIf (manifest.symbol ≠ symbol ∨ manifest.timeframe ≠ timeframe ∨
      isNativeSource manifest.source = false)
    (.value "candle health source identity is invalid")
  let duration ← timeframeDuration timeframe
  let candles ← archive.readWindow symbol timeframe window.start (window.end - duration)
  let again ← archive.manifest symbol timeframe
  raiseIf (again ≠ manifest) (.value "candle health archive changed during verification")
  return (candles, ⟨manifest.source, manifest.sha256⟩)

/-- The timestamp of a candle. -/
def StampedCandle.time (c : StampedCandle) : Timestamp := ⟨c.timestamp, c.offset⟩

/-- The `try` with its `except`: without candles there is no lineage, and an exception. -/
def triedCandles (archive : Archive File) (symbol timeframe : String)
    (window : AcquisitionWindow) :
    Except HealthError (List StampedCandle × Option SourceLineage × Option ArchiveError) :=
  match verifiedCandles archive symbol timeframe window with
  | .ok (candles, lineage) => .ok (candles, some lineage, none)
  | .error e => if e.isCaught then .ok ([], none, some e) else .error (.archive e)

/-- The row of a stream. -/
def StreamHealth.row (health : StreamHealth) (symbol : String) (errorCode : Option ArchiveError) :
    CandleHealthRow :=
  { health.toStreamEvidence with
    status := if "DATA_READY".toList.isPrefixOf health.status.toList then "VERIFIED" else "PARTIAL"
    symbol, errorCode, missingOpenTimeSample := health.missingOpenTimes.take 5 }

/-- `_verified_candle_health_stream`, on the archives of the markets. -/
def verifiedCandleHealthStream (archives : String → Archive File)
    (market symbol timeframe : String) (cutoff : Moment) :
    Except HealthError CandleHealthRow := do
  let window ← candleHealthWindow market timeframe cutoff
  let (candles, lineage, errorCode) ← triedCandles (archives market) symbol timeframe window
  let health ← streamHealth window (candles.map StampedCandle.time) 200 candles.length lineage false
  return health.row symbol errorCode

/-- The blockers of a report. -/
def healthBlockers (universeBlockers : List String) (rows : List CandleHealthRow) : List String :=
  universeBlockers ++ (if rows = [] then ["CANDLE_HEALTH_UNIVERSE_EMPTY"] else []) ++
    if ∃ row ∈ rows, row.status ≠ "VERIFIED" then ["REQUIRED_NATIVE_CANDLE_WINDOW_INCOMPLETE"]
    else []

/-- The report of some rows. -/
def reportOf (symbols : MarketSymbols) (observedAt : ℤ) (rows : List CandleHealthRow)
    (blockers : List String) : CandleHealthReport where
  status := if blockers ≠ [] then "PARTIAL" else "VERIFIED"
  observedAt := utcText observedAt
  symbols := symbols
  streamCount := rows.length
  verifiedStreamCount := rows.countP (·.status = "VERIFIED")
  streams := rows
  blockers := blockers.toFinset.sort

/-- `candle_window_health`. -/
def candleWindowHealth [LocalZone] (archives : String → Archive File) (symbols : MarketSymbols)
    (cutoff : Moment) (universeBlockers : List String) :
    Except HealthError CandleHealthReport := do
  let rows ← symbols.streams.mapM fun (market, symbol, timeframe) =>
    verifiedCandleHealthStream archives market symbol timeframe cutoff
  let observedAt ← cutoff.astimezone
  return reportOf symbols observedAt rows (healthBlockers universeBlockers rows)

end Producer

/-! ### The checker -/

/-- A `TypeError` or a `ValueError`. -/
def HealthError.isRefusal : HealthError → Bool
  | .archive (.integrity _) | .archive (.conflict _) | .archive (.value _) | .archive .type => true
  | _ => false

/-- `except KeyError, TypeError, ValueError`. -/
def refusedAs {α : Type} (fallback : α) (x : Except HealthError α) : Except HealthError α :=
  match x with
  | .error e => if e.isRefusal then .ok fallback else .error e
  | .ok a => .ok a

/-- `datetime.fromisoformat(text) == t`. -/
def readsAs (text : IsoText) (t : ℤ) : Except HealthError Bool :=
  (archived text.fromisoformat).map fun m => m.same (.aware t 0)

/-- The checks of `_current_candle_health_stream`, in their order. -/
def currentChecks (row : CandleHealthRow) (window : AcquisitionWindow) (duration : ℤ) :
    List (Except HealthError Bool) :=
  [.ok (row.status = "VERIFIED"),
    .ok (row.requestedBars = window.expectedCount),
    .ok (row.availableVerifiedBars = window.expectedCount),
    .ok (row.missingCount = 0), .ok (row.duplicateCount = 0), .ok row.tailReady,
    readsAs row.requestedStart window.start,
    readsAs row.requestedEndExclusive window.end,
    readsAs (row.lastClosedOpen.getD (.foreign "None" none)) (window.end - duration),
    .ok (row.sourceLineage.any fun lineage => isNativeSource lineage.source),
    .ok (isHexDigest ((row.sourceLineage.map (·.datasetSha256)).getD ""))]

/-- `_current_candle_health_stream`. -/
def currentCandleHealthStream (row : CandleHealthRow) (now : Moment) : Except HealthError Bool :=
  refusedAs false do
    let window ← candleHealthWindow row.market row.timeframe now
    let duration ← archived (timeframeDuration window.timeframe)
    (currentChecks row window duration).allM id

/-- The loop of `_candle_health_identities` over the symbols of a market. -/
def checkSymbols [UnicodeData] (symbols : List String) : Except ArchiveError Unit := do
  raiseIf (100 < symbols.length) (.value "candle health symbols are invalid")
  symbols.forM fun symbol => do
    let normalized ← validateIdentity symbol "1d" "health"
    raiseIf (symbol ≠ normalized) (.value "candle health identity is invalid")

/-- `_candle_health_identities`. -/
def candleHealthIdentities [UnicodeData] (declared : MarketSymbols) :
    Except ArchiveError (Finset (String × String × String)) := do
  healthMarkets.forM fun market => checkSymbols (declared.get market)
  return declared.streams.toFinset

/-- The identity of a row. -/
def CandleHealthRow.identity (row : CandleHealthRow) : String × String × String :=
  (row.market, row.symbol, row.timeframe)

/-- The `try` of `candle_health_status`. -/
def listedStatus [UnicodeData] (report : CandleHealthReport) (now : Moment) :
    Except HealthError String := do
  let expected ← archived (candleHealthIdentities report.symbols)
  let observed ← archived report.observedAt.fromisoformat
  if expected = ∅ ∨ (report.streams.map (·.identity)).toFinset ≠ expected ∨
      report.streams.length ≠ expected.card ∨ report.streamCount ≠ expected.card ∨
      report.verifiedStreamCount ≠ expected.card then
    return "NOT_VERIFIED"
  let age ← archived (observed.elapsed now)
  if ¬ (0 ≤ age ∧ age < 300 * 1000000) then
    return "NOT_VERIFIED"
  let current ← report.streams.allM fun row => currentCandleHealthStream row now
  return if current then "VERIFIED" else "STALE"

/-- `candle_health_status`, on a report whose fields have their types. -/
def candleHealthStatus [UnicodeData] (report : CandleHealthReport) (now : Moment) :
    Except HealthError String :=
  if report.scope ≠ candleHealthScope then .ok "NOT_VERIFIED"
  else if report.status ≠ "VERIFIED" ∨ report.blockers ≠ [] ∨
      report.safe.executionAllowed ≠ false ∨ report.safe.promotionStatus ≠ "RESEARCH_ONLY" ∨
      report.safe.liveEligibilityStatus ≠ "LIVE_ORDER_BLOCKED" then
    .ok "PARTIAL"
  else refusedAs "NOT_VERIFIED" (listedStatus report now)

end Ai4Binance

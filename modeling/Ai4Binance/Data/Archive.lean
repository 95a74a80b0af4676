/-
The candle archive (`data/archive.py`).

A dataset is a parquet file and a manifest beside it, each replaced by a rename.
The functions return what the call returns or raises, together with the archive
it leaves behind.  Directory and disk errors are left out; the parquet library
and the file digest are a parameter (`ParquetLibrary`).

* `Moment`, `StampedCandle`: a time with its offset, and a candle at one;
* `Row`, `rowToCandle`: the rows of a table, as `_row_to_candle` reads them;
* `mergeCandles`, `findGaps`: `_merge` and `_find_gaps`;
* `Archive.read`, `Archive.update`, `Archive.truncateFrom`,
  `Archive.appendVerifiedTail`: the operations.
-/
import Ai4Binance.Exchange.OrderBook
import Ai4Binance.Virtual.Candle
import Ai4Binance.Lib.Python

namespace Ai4Binance

open Text Check

/-! ### Times and candles -/

/-- A `datetime`: an instant with the offset of its zone, or a wall-clock
reading.  All three are counted in microseconds. -/
inductive Moment where
  | aware (instant offset : ℤ)
  | naive (wall : ℤ)
  deriving DecidableEq, Repr

/-- The exceptions of the archive.  The first two are `DatasetIntegrityError`. -/
inductive ArchiveError where
  | integrity (message : String)
  | conflict (timestamp : Moment)
  | value (message : String)
  | fileNotFound (message : String)
  | type
  | index
  | decimal
  | parquet (message : String)
  deriving DecidableEq, Repr

/-- A timestamp in a manifest: the text `isoformat` writes, which determines the
time and its offset, or another text with what `fromisoformat` reads in it. -/
inductive IsoText where
  | written (moment : Moment)
  | foreign (text : String) (value : Option Moment)
  deriving DecidableEq, Repr

/-- An entry of the gap list: the text `a->b` of two times, or another text. -/
inductive GapText where
  | written (left right : Moment)
  | foreign (text : String)
  deriving DecidableEq, Repr

namespace Moment

/-- `==` on times: instants with instants, readings with readings. -/
def same : Moment → Moment → Bool
  | aware t _, aware u _ => t == u
  | naive t, naive u => t == u
  | _, _ => false

/-- `right - left`, which refuses to mix the two kinds. -/
def elapsed : Moment → Moment → Except ArchiveError ℤ
  | aware t _, aware u _ => .ok (u - t)
  | naive t, naive u => .ok (u - t)
  | _, _ => .error .type

/-- `_require_aware`. -/
def requireAware : Moment → Except ArchiveError Unit
  | aware _ _ => .ok ()
  | naive _ => .error (.value "generated_at must be timezone-aware")

end Moment

/-- `datetime.fromisoformat`. -/
def IsoText.fromisoformat : IsoText → Except ArchiveError Moment
  | written m => .ok m
  | foreign _ (some m) => .ok m
  | foreign text none => .error (.value ("Invalid isoformat string: " ++ text))

/-- An `OHLCVCandle` with the offset its timestamp carries.  Candles compare by
instant, so `==` is equality of the first field. -/
structure StampedCandle where
  candle : OHLCVCandle
  offset : ℤ
  deriving DecidableEq

namespace StampedCandle

def timestamp (c : StampedCandle) : ℤ := c.candle.timestamp

def moment (c : StampedCandle) : Moment := .aware c.candle.timestamp c.offset

/-- The tuple up to `==`. -/
def values (candles : List StampedCandle) : List OHLCVCandle := candles.map (·.candle)

end StampedCandle

open StampedCandle

/-! ### Tables -/

/-- A cell of a number column: the finite number `Decimal` reads in its text, an
infinity or a not-a-number, or a text that `Decimal` refuses. -/
inductive Cell where
  | number (q : ℚ)
  | notFinite
  | invalid
  deriving DecidableEq

/-- `Decimal(str(cell))`, `none` for a number that is not finite. -/
def Cell.decimal : Cell → Except ArchiveError (Option ℚ)
  | number q => .ok (some q)
  | notFinite => .ok none
  | invalid => .error .decimal

/-- A row of a table under the six column names, the timestamp when it is a
`datetime`. -/
structure Row where
  timestamp : Option Moment
  «open» : Cell
  high : Cell
  low : Cell
  close : Cell
  volume : Cell
  deriving DecidableEq

/-- The row `_candle_table` writes for a candle. -/
def StampedCandle.row (c : StampedCandle) : Row where
  timestamp := some c.moment
  «open» := .number c.candle.open
  high := .number c.candle.high
  low := .number c.candle.low
  close := .number c.candle.close
  volume := .number c.candle.volume

namespace Row

/-- The row with the zone of its timestamp forgotten. -/
def value (r : Row) : Row :=
  { r with timestamp := r.timestamp.map fun
      | .aware t _ => .aware t 0
      | .naive t => .naive t }

end Row

/-- The constructor of `OHLCVCandle`, at finite numbers. -/
def finiteCandle (t offset : ℤ) (o h l c v : ℚ) : Except ArchiveError StampedCandle :=
  if hn : ¬ (0 ≤ o ∧ 0 ≤ h ∧ 0 ≤ l ∧ 0 ≤ c ∧ 0 ≤ v) then
    .error (.value "OHLCV values cannot be negative")
  else if hl : h < l then .error (.value "candle low cannot exceed high")
  else if hr : ¬ (max o c ≤ h ∧ l ≤ min o c) then .error (.value "invalid OHLC relationship")
  else .ok ⟨⟨t, o, h, l, c, v, not_not.mp hn, not_lt.mp hl, (not_not.mp hr).1,
    (not_not.mp hr).2⟩, offset⟩

/-- The constructor of `OHLCVCandle`. -/
def newCandle : Moment → Option ℚ → Option ℚ → Option ℚ → Option ℚ → Option ℚ →
    Except ArchiveError StampedCandle
  | .aware t offset, some o, some h, some l, some c, some v => finiteCandle t offset o h l c v
  | .aware _ _, _, _, _, _, _ => .error (.value "OHLCV values must be finite")
  | .naive _, _, _, _, _, _ => .error (.value "timestamp must be timezone-aware")

/-- `_row_to_candle`. -/
def rowToCandle (r : Row) : Except ArchiveError StampedCandle := do
  let moment ← orRaise r.timestamp (.integrity "dataset timestamp is invalid")
  let o ← r.open.decimal
  let h ← r.high.decimal
  let l ← r.low.decimal
  let c ← r.close.decimal
  let v ← r.volume.decimal
  newCandle moment o h l c v

/-- The schema metadata `_metadata` attaches. -/
structure ArchiveMetadata where
  schemaVersion : String := "1.0"
  symbol : String
  timeframe : String
  source : String
  marketDataOnly : String := "true"
  deriving DecidableEq

/-- A table: the types of its columns, its metadata and its rows. -/
structure Table (Schema : Type) where
  schema : Schema
  metadata : Option ArchiveMetadata
  rows : List Row

/-- The parquet library and `sha256`, on the contents of files.

`inferSchema` gives the types `pa.table` finds for the columns of some candles,
and `cast` converts rows to the types of a schema.  A written table of candles
is read back with the same rows, in order; the zone of the timestamps is up to
the library. -/
class ParquetLibrary (File : Type) where
  Schema : Type
  inferSchema : List StampedCandle → Schema
  cast : Schema → List Row → Except ArchiveError (List Row)
  writeTable : Table Schema → File
  readTable : File → Except ArchiveError (Table Schema)
  checksum : File → String
  read_write : ∀ (metadata : ArchiveMetadata) (candles : List StampedCandle),
    ∃ table, readTable (writeTable ⟨inferSchema candles, some metadata, candles.map row⟩) =
      .ok table ∧ table.rows.map Row.value = (candles.map row).map Row.value

/-! ### Datasets -/

/-- `DatasetManifest`. -/
structure DatasetManifest where
  schemaVersion : String := "1.0"
  symbol : String
  timeframe : String
  source : String
  parquetPath : String
  sha256 : String
  rowCount : ℕ
  firstTimestamp : IsoText
  lastTimestamp : IsoText
  gapCount : ℕ
  gaps : List GapText
  generatedAt : IsoText
  deriving DecidableEq

/-- The two files of a dataset, where they exist.  The manifest is what
`_load_manifest` makes of its text. -/
structure Dataset (File : Type) where
  parquet : Option File := none
  manifest : Option (Except ArchiveError DatasetManifest) := none

/-- `ParquetOHLCVArchive`: the files under `root`, by normalized symbol and
timeframe. -/
abbrev Archive (File : Type) := String × String → Dataset File

/-- `_TIMEFRAME_SECONDS`. -/
def timeframeSeconds : List (String × ℤ) :=
  [("1s", 1), ("1m", 60), ("3m", 180), ("5m", 300), ("15m", 900), ("30m", 1800), ("1h", 3600),
    ("2h", 7200), ("4h", 14400), ("6h", 21600), ("8h", 28800), ("12h", 43200), ("1d", 86400),
    ("3d", 259200), ("1w", 604800), ("1M", 2592000)]

/-- `timeframe_duration`, in microseconds. -/
def timeframeDuration (timeframe : String) : Except ArchiveError ℤ :=
  (orRaise (timeframeSeconds.lookup timeframe)
    (.value ("unsupported timeframe: " ++ timeframe))).map (· * 1000000)

/-- `_validate_identity`. -/
def validateIdentity [UnicodeData] (symbol timeframe source : String) :
    Except ArchiveError String := do
  let normalized := upper (strip symbol)
  raiseIf (isBookSymbol normalized = false)
    (.value "symbol must be an uppercase alphanumeric identifier")
  let _ ← timeframeDuration timeframe
  raiseIf (isBlank source) (.value "dataset source cannot be empty")
  return normalized

/-! ### Merging -/

/-- The loop of `_merge`, on the dictionary of the candles so far. -/
def mergeInto (byTimestamp : SortedMap ℤ StampedCandle) :
    List StampedCandle → Except ArchiveError (SortedMap ℤ StampedCandle)
  | [] => .ok byTimestamp
  | candle :: candles =>
    match byTimestamp.get? candle.timestamp with
    | some current =>
      if current.candle ≠ candle.candle then .error (.conflict candle.moment)
      else mergeInto (byTimestamp.insert candle.timestamp candle) candles
    | none => mergeInto (byTimestamp.insert candle.timestamp candle) candles

/-- The candles of the dictionary in the order of its keys. -/
def sortedCandles (byTimestamp : SortedMap ℤ StampedCandle) : List StampedCandle :=
  byTimestamp.entries.map (·.2)

/-- `_merge`. -/
def mergeCandles (existing incoming : List StampedCandle) :
    Except ArchiveError (List StampedCandle) :=
  (mergeInto SortedMap.empty (existing ++ incoming)).map sortedCandles

/-- The dictionary of the stored candles updated with the incoming ones. -/
def replaceCandles (existing incoming : List StampedCandle) : List StampedCandle :=
  sortedCandles (SortedMap.ofList ((existing ++ incoming).map fun c => (c.timestamp, c)))

/-- `_find_gaps`, at the duration of the timeframe. -/
def findGaps (duration : ℤ) : List StampedCandle → List GapText
  | current :: following :: rest =>
    let gaps := findGaps duration (following :: rest)
    if following.timestamp - current.timestamp ≠ duration then
      .written current.moment following.moment :: gaps
    else gaps
  | _ => []

/-! ### Reading -/

section Operations

variable {File : Type} [ParquetLibrary File] [UnicodeData]

open ParquetLibrary

namespace Dataset

/-- `_load_manifest`. -/
def loadManifest (d : Dataset File) : Except ArchiveError DatasetManifest :=
  match d.manifest with
  | some content => content
  | none => .error (.fileNotFound "manifest")

/-- The manifest and the parquet file, when the checksum of one is that of the
other. -/
def verified (d : Dataset File) : Except ArchiveError (DatasetManifest × File) := do
  let manifest ← d.loadManifest
  let file ← orRaise d.parquet (.fileNotFound "parquet")
  raiseIf (manifest.sha256 ≠ checksum file)
    (.integrity "dataset checksum does not match manifest")
  return (manifest, file)

end Dataset

namespace Archive

/-- `read`. -/
def read (a : Archive File) (symbol timeframe : String) :
    Except ArchiveError (List StampedCandle) := do
  let key ← validateIdentity symbol timeframe "read"
  let dataset := a (key, timeframe)
  raiseIf (dataset.parquet.isNone ∨ dataset.manifest.isNone)
    (.fileNotFound ("dataset not found: " ++ key ++ "/" ++ timeframe))
  let (manifest, file) ← dataset.verified
  let table ← readTable file
  let candles ← table.rows.mapM rowToCandle
  raiseIf (candles.length ≠ manifest.rowCount)
    (.integrity "dataset row count does not match manifest")
  return candles

/-- The stored candles of a dataset, none when there is no file. -/
def stored (a : Archive File) (key : String × String) :
    Except ArchiveError (List StampedCandle) :=
  if (a key).parquet.isSome then a.read key.1 key.2 else .ok []

/-! ### Rewriting a dataset -/

/-- What a call returns or raises, and the archive it leaves behind. -/
abbrev Outcome (File : Type) := Except ArchiveError DatasetManifest × Archive File

/-- `os.replace` onto the parquet file. -/
def withParquet (a : Archive File) (key : String × String) (file : File) : Archive File :=
  Function.update a key { a key with parquet := some file }

/-- `_write_manifest`. -/
def withManifest (a : Archive File) (key : String × String) (manifest : DatasetManifest) :
    Archive File :=
  Function.update a key { a key with manifest := some (.ok manifest) }

/-- The file `_write_parquet` puts in place. -/
def candleFile (key : String × String) (source : String) (candles : List StampedCandle) : File :=
  writeTable ⟨inferSchema candles,
    some { symbol := key.1, timeframe := key.2, source := strip source }, candles.map row⟩

/-- The manifest of a rewritten file: the part of `update` and `truncate_from`
between the write of the file and the write of the manifest. -/
def describe (key : String × String) (source : String) (timestamp : Moment) (file : File)
    (candles : List StampedCandle) : Except ArchiveError DatasetManifest := do
  let duration ← timeframeDuration key.2
  timestamp.requireAware
  let first ← orRaise candles.head? .index
  let last ← orRaise candles.getLast? .index
  return {
    symbol := key.1, timeframe := key.2, source := strip source
    parquetPath := key.2 ++ ".parquet", sha256 := checksum file, rowCount := candles.length
    firstTimestamp := .written first.moment, lastTimestamp := .written last.moment
    gapCount := (findGaps duration candles).length, gaps := findGaps duration candles
    generatedAt := .written timestamp }

/-- Replace the file, then its manifest.  An exception in between leaves the new
file beside the old manifest. -/
def rewrite (a : Archive File) (key : String × String) (source : String) (timestamp : Moment)
    (candles : List StampedCandle) : Outcome File :=
  let file : File := candleFile key source candles
  let written := a.withParquet key file
  match describe key source timestamp file candles with
  | .error e => (.error e, written)
  | .ok manifest => (.ok manifest, written.withManifest key manifest)

/-- `generated_at or datetime.now(UTC)`. -/
def stampOr (generatedAt : Option Moment) (now : ℤ) : Moment := generatedAt.getD (.aware now 0)

/-! ### Updating -/

/-- The arguments of `update` and of `append_verified_tail`. -/
structure UpdateCall where
  symbol : String
  timeframe : String
  candles : List StampedCandle
  source : String
  generatedAt : Option Moment := none
  replaceConflictsFromSources : List String := []

/-- The merge of `update` with its recovery: a conflict is overridden when the
stored candles agree among themselves and their source has an allowed prefix. -/
def mergeAllowing (dataset : Dataset File) (existing incoming : List StampedCandle)
    (prefixes : List String) : Except ArchiveError (List StampedCandle) :=
  match mergeCandles existing incoming with
  | .ok merged => .ok merged
  | .error e => do
    let _ ← mergeCandles [] existing
    let manifest ← dataset.loadManifest
    raiseIf (¬ ∃ p ∈ prefixes, p.toList <+: manifest.source.toList) e
    return replaceCandles existing incoming

/-- `update` up to its first write: the normalized key, the stored candles and
the merged ones. -/
def planUpdate (a : Archive File) (c : UpdateCall) :
    Except ArchiveError ((String × String) × List StampedCandle × List StampedCandle) := do
  let symbol ← validateIdentity c.symbol c.timeframe c.source
  raiseIf (c.candles = []) (.value "archive update requires at least one candle")
  let key := (symbol, c.timeframe)
  let existing ← a.stored key
  let merged ← mergeAllowing (a key) existing c.candles c.replaceConflictsFromSources
  return (key, existing, merged)

/-- `update`, at the time `now`. -/
def update (a : Archive File) (now : ℤ) (c : UpdateCall) : Outcome File :=
  match a.planUpdate c with
  | .error e => (.error e, a)
  | .ok (key, existing, merged) =>
    if values merged = values existing then ((a key).loadManifest, a)
    else a.rewrite key c.source (stampOr c.generatedAt now) merged

/-! ### Truncating -/

/-- The arguments of `truncate_from`. -/
structure TruncateCall where
  symbol : String
  timeframe : String
  startAt : Moment
  source : String
  generatedAt : Option Moment := none

/-- `timestamp < boundary`. -/
def isBefore (boundary : Moment) (c : StampedCandle) : Bool :=
  match boundary with
  | .aware t _ => c.timestamp < t
  | .naive _ => false

/-- `truncate_from` up to its first write: the key, the stored candles and the
retained ones. -/
def planTruncate (a : Archive File) (c : TruncateCall) :
    Except ArchiveError ((String × String) × List StampedCandle × List StampedCandle) := do
  c.startAt.requireAware
  let symbol ← validateIdentity c.symbol c.timeframe c.source
  let existing ← a.read symbol c.timeframe
  let retained := existing.filter (isBefore c.startAt)
  raiseIf (retained = []) (.integrity "closed-candle repair would empty dataset")
  return ((symbol, c.timeframe), existing, retained)

/-- `truncate_from`, at the time `now`. -/
def truncateFrom (a : Archive File) (now : ℤ) (c : TruncateCall) : Outcome File :=
  match a.planTruncate c with
  | .error e => (.error e, a)
  | .ok (key, existing, retained) =>
    if values retained = values existing then ((a key).loadManifest, a)
    else a.rewrite key c.source (stampOr c.generatedAt now) retained

end Archive

/-! ### Appending a tail -/

/-- The loop of `_read_manifest_verified_table` over the timestamps. -/
def storedGaps (duration : ℤ) : List (Option Moment) → Except ArchiveError (List GapText)
  | some left :: some right :: rest => do
    let step ← left.elapsed right
    raiseIf (step ≤ 0) (.integrity "dataset sequence is invalid")
    let gaps ← storedGaps duration (some right :: rest)
    return if step ≠ duration then .written left right :: gaps else gaps
  | _ :: _ :: _ => .error .type
  | _ => .ok []

/-- The timestamp of a row is the given time. -/
def Row.isAt (r : Option Row) (moment : Moment) : Bool :=
  match r.bind (·.timestamp) with
  | some m => m.same moment
  | none => false

/-- `_read_manifest_verified_table`. -/
def readManifestVerifiedTable (file : File) (manifest : DatasetManifest) (duration : ℤ)
    (expectedLast : Moment) : Except ArchiveError (Table (ParquetLibrary.Schema File)) := do
  let table ← readTable file
  raiseIf (table.rows.length = 0 ∨ table.rows.length ≠ manifest.rowCount)
    (.integrity "dataset bounds do not match manifest")
  let first ← manifest.firstTimestamp.fromisoformat
  raiseIf (Row.isAt table.rows.head? first = false ∨
      Row.isAt table.rows.getLast? expectedLast = false)
    (.integrity "dataset bounds do not match manifest")
  let gaps ← storedGaps duration (table.rows.map (·.timestamp))
  raiseIf (gaps ≠ manifest.gaps ∨ gaps.length ≠ manifest.gapCount)
    (.integrity "dataset gaps do not match manifest")
  return table

namespace Archive

/-- What `append_verified_tail` finds out before it writes: that the batch goes
through `update`, or the table to write and its manifest up to the checksum. -/
inductive TailPlan (File : Type) [ParquetLibrary File] where
  | delegate (symbol : String)
  | append (key : String × String) (table : Table (ParquetLibrary.Schema File))
      (draft : DatasetManifest)

/-- The appended table and its manifest, for a batch that starts after `last`. -/
def planAppend (key : String × String) (c : UpdateCall) (now : ℤ) (file : File)
    (manifest : DatasetManifest) (last : Moment) (step : ℤ) (incoming : List StampedCandle) :
    Except ArchiveError (TailPlan File) := do
  let duration ← timeframeDuration key.2
  let table ← readManifestVerifiedTable file manifest duration last
  let rows ← cast table.schema (incoming.map row)
  let head ← orRaise incoming.head? .index
  let tail ← orRaise incoming.getLast? .index
  let gaps := manifest.gaps ++
    (if step ≠ duration then [.written last head.moment] else []) ++ findGaps duration incoming
  let timestamp := stampOr c.generatedAt now
  timestamp.requireAware
  return .append key
    ⟨table.schema, some { symbol := key.1, timeframe := key.2, source := strip c.source },
      table.rows ++ rows⟩
    { symbol := key.1, timeframe := key.2, source := strip c.source
      parquetPath := key.2 ++ ".parquet", sha256 := "", rowCount := (table.rows ++ rows).length
      firstTimestamp := manifest.firstTimestamp, lastTimestamp := .written tail.moment
      gapCount := gaps.length, gaps, generatedAt := .written timestamp }

/-- `append_verified_tail` up to its first write. -/
def planTail (a : Archive File) (now : ℤ) (c : UpdateCall) :
    Except ArchiveError (TailPlan File) := do
  let symbol ← validateIdentity c.symbol c.timeframe c.source
  raiseIf (c.candles = []) (.value "archive update requires at least one candle")
  let key := (symbol, c.timeframe)
  if (a key).parquet.isNone then
    return .delegate symbol
  else do
    let (manifest, file) ← (a key).verified
    let incoming ← mergeCandles [] c.candles
    let last ← manifest.lastTimestamp.fromisoformat
    let head ← orRaise incoming.head? .index
    let step ← last.elapsed head.moment
    if step ≤ 0 then return .delegate symbol
    else planAppend key c now file manifest last step incoming

/-- `append_verified_tail`, at the time `now`. -/
def appendVerifiedTail (a : Archive File) (now : ℤ) (c : UpdateCall) : Outcome File :=
  match a.planTail now c with
  | .error e => (.error e, a)
  | .ok (.delegate symbol) => a.update now { c with symbol }
  | .ok (.append key table draft) =>
    let file : File := writeTable table
    let manifest := { draft with sha256 := checksum file }
    (.ok manifest, (a.withParquet key file).withManifest key manifest)

end Archive

end Operations

end Ai4Binance

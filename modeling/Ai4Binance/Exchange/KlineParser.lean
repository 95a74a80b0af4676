/-
The parser of public stream messages (`exchange/public_stream.py`).

A message is a JSON document of a kline or of a server shutdown, alone or in the envelope of a
combined stream.  What the parser refuses it refuses with `ExchangePayloadError`; the exceptions of
the conversions that it calls are guarded in part.

* `RawMessage`, `ParseError`: messages, and what `parse` raises;
* `header`, `klineHead`, `klineValues`: the fields, in the order they are read;
* `parse`: the parser;
* `Declared`, `declared_bind`: no other exception escapes;
* `DescribesKline`, `describesKline_of_parse`: what a returned kline says about its message;
* `Convertible`, `parse_declared_iff`: **the messages of which no other exception escapes**;
* `parser_total_iff`: both.
-/
import Ai4Binance.Exchange.KlineStream
import Ai4Binance.Lib.EpochTime
import Ai4Binance.Lib.Json

open Check Text EpochTime

namespace Ai4Binance

/-! ### Messages and errors -/

/-- `BinanceSpotStreamPolicy`; the deadline is in microseconds. -/
structure BinanceSpotStreamPolicy where
  maximumMessageBytes : ℕ := 65536
  maximumStreamsPerConnection : ℕ := 1024
  maximumControlMessagesPerSecond : ℕ := 5
  pongDeadline : ℤ := 60000000
  valid : 1 ≤ min (min maximumMessageBytes maximumStreamsPerConnection)
    maximumControlMessagesPerSecond ∧ 0 < pongDeadline := by decide

/-- A `str` or a `bytes`. -/
inductive RawMessage where
  | text (s : PyStr) (valid : s.Valid)
  | bytes (data : Bytes)

/-- The exceptions that nothing guards. -/
inductive ForeignError where
  /-- `UnicodeEncodeError`: a surrogate. -/
  | encode
  /-- The `ValueError` of an integer literal, or `RecursionError`. -/
  | json (fault : JsonFault)
  /-- The conversion of a time. -/
  | time (fault : TimeFault)
  /-- `OverflowError`: a date after the year 9999. -/
  | dateRange
  deriving DecidableEq

/-- `ExchangePayloadError`, or another exception. -/
inductive ParseError where
  | payload (message : String)
  | foreign (error : ForeignError)
  deriving DecidableEq

namespace RawMessage

/-- The bytes of a message. -/
def encoded : RawMessage → Except ParseError Bytes
  | .text s _ => orRaise (Encoding.encodeUtf8 s) (.foreign .encode)
  | .bytes data => .ok data

end RawMessage

/-! ### The fields -/

section Fields

variable {φ : Type}

/-- The members of an object. -/
abbrev Members (φ : Type) : Type := List (PyStr × Json φ)

/-- `mapping.get(key)`, where nothing is `None`. -/
def fieldOf (members : Members φ) (key : String) : Json φ :=
  (members.lookup (PyStr.of key)).getD .null

/-- `key in mapping`. -/
def hasField (members : Members φ) (key : String) : Bool :=
  (members.lookup (PyStr.of key)).isSome

/-- The characters of a text; a surrogate becomes a character that no field accepts. -/
def asString (s : PyStr) : String := String.ofList (s.map Char.ofNat)

/-- `_mapping`. -/
def mapping (name : String) : Json φ → Except ParseError (Members φ)
  | .obj members => .ok members
  | _ => .error (.payload (name ++ " must be an object"))

/-- `_text`. -/
def nonEmptyText (name : String) : Json φ → Except ParseError PyStr
  | .str (c :: s) => .ok (c :: s)
  | _ => .error (.payload (name ++ " must be non-empty text"))

/-- `_integer`. -/
def integer (name : String) : Json φ → Except ParseError ℤ
  | .int n => .ok n
  | _ => .error (.payload (name ++ " must be an integer"))

/-- `_milliseconds`, before the conversion. -/
def milliseconds (name : String) (value : Json φ) : Except ParseError ℕ := do
  let n ← integer name value
  raiseIf (n < 0) (.payload (name ++ " must be non-negative"))
  return n.toNat

/-- `Decimal(text)`, finite. -/
def finiteDecimal [UnicodeData] (name : String) (text : PyStr) : Except ParseError ℚ :=
  match Decimal.parseExact (asString text) with
  | none => .error (.payload (name ++ " must be decimal-compatible"))
  | some (.finite d) => .ok d.toRat
  | some _ => .error (.payload (name ++ " must be finite"))

/-- `_decimal`. -/
def decimalField [UnicodeData] [FloatText φ] (name : String) : Json φ → Except ParseError ℚ
  | .str s => finiteDecimal name s
  | .int n => .ok n
  | .float (.finite x) => finiteDecimal name (FloatText.repr x)
  | .float _ => .error (.payload (name ++ " must be finite"))
  | _ => .error (.payload (name ++ " must be numeric text"))

/-- `_boolean`. -/
def boolean (name : String) : Json φ → Except ParseError Bool
  | .bool b => .ok b
  | _ => .error (.payload (name ++ " must be boolean"))

/-- What is read of every message, before its time is converted. -/
structure Header (φ : Type) where
  stream : Option PyStr
  payload : Members φ
  eventType : PyStr
  eventMs : ℕ

/-- The envelope of a combined stream, if there is one, and the event. -/
def header (decoded : Json φ) : Except ParseError (Header φ) := do
  let envelope ← mapping "stream message" decoded
  let (stream, payload) ←
    if hasField envelope "stream" || hasField envelope "data" then do
      let stream ← nonEmptyText "stream" (fieldOf envelope "stream")
      let payload ← mapping "data" (fieldOf envelope "data")
      pure (some stream, payload)
    else pure (none, envelope)
  let eventType ← nonEmptyText "event type" (fieldOf payload "e")
  let eventMs ← milliseconds "event time" (fieldOf payload "E")
  return { stream, payload, eventType, eventMs }

/-- What is read of a kline, before its open time is converted. -/
structure KlineHead (φ : Type) where
  kline : Members φ
  symbol : PyStr
  interval : PyStr
  openMs : ℕ

/-- The identity of a kline. -/
def klineHead (payload : Members φ) : Except ParseError (KlineHead φ) := do
  let kline ← mapping "kline" (fieldOf payload "k")
  let symbol ← nonEmptyText "symbol" (fieldOf payload "s")
  let klineSymbol ← nonEmptyText "kline symbol" (fieldOf kline "s")
  raiseIf (klineSymbol ≠ symbol) (.payload "kline symbol identity mismatch")
  let interval ← nonEmptyText "interval" (fieldOf kline "i")
  let openMs ← milliseconds "open time" (fieldOf kline "t")
  return { kline, symbol, interval, openMs }

/-- The values of a kline. -/
structure KlineValues where
  firstTradeId : ℤ
  lastTradeId : ℤ
  «open» : ℚ
  high : ℚ
  low : ℚ
  close : ℚ
  volume : ℚ
  tradeCount : ℤ
  isClosed : Bool

/-- The fields after the times. -/
def klineValues [UnicodeData] [FloatText φ] (kline : Members φ) :
    Except ParseError KlineValues := do
  let firstTradeId ← integer "first trade ID" (fieldOf kline "f")
  let lastTradeId ← integer "last trade ID" (fieldOf kline "L")
  let «open» ← decimalField "open" (fieldOf kline "o")
  let high ← decimalField "high" (fieldOf kline "h")
  let low ← decimalField "low" (fieldOf kline "l")
  let close ← decimalField "close" (fieldOf kline "c")
  let volume ← decimalField "volume" (fieldOf kline "v")
  let tradeCount ← integer "trade count" (fieldOf kline "n")
  let isClosed ← boolean "closed" (fieldOf kline "x")
  return { firstTradeId, lastTradeId, «open», high, low, close, volume, tradeCount, isClosed }

end Fields

/-! ### The parser -/

/-- The last instant of a `datetime`. -/
def lastInstant : ℤ := lastYearSecond * 1000000 + 999999

/-- A time whose failures escape. -/
def unguardedTime [Gmtime] (ms : ℕ) : Except ParseError ℤ :=
  match fromMilliseconds ms with
  | .ok t => .ok t
  | .error fault => .error (.foreign (.time fault))

/-- A time in the block that catches `ValueError`. -/
def guardedTime [Gmtime] (ms : ℕ) : Except ParseError ℤ :=
  match fromMilliseconds ms with
  | .ok t => .ok t
  | .error .year => .error (.payload "kline payload contract is invalid")
  | .error fault => .error (.foreign (.time fault))

/-- The symbol and the interval pass their checks; then the close time is computed. -/
def Identified (symbol interval : String) : Prop :=
  isAsciiAlnum symbol ∧ ¬ symbol.toList.any (·.isLower) ∧ interval ∈ supportedDecisionIntervals

instance (symbol interval : String) : Decidable (Identified symbol interval) :=
  inferInstanceAs (Decidable (_ ∧ _ ∧ _))

/-- `SpotKlineUpdate(...)` in the block that catches `ValueError`. -/
def newKline (k : KlineFields) : Except ParseError SpotKlineUpdate :=
  if Identified k.symbol k.interval ∧ lastInstant < k.openTime + intervalDuration k.interval then
    .error (.foreign .dateRange)
  else if h : Passes k.checks then .ok ⟨k, h⟩
  else .error (.payload "kline payload contract is invalid")

/-- The stream of a kline.  Its symbol is ASCII. -/
def streamName (k : SpotKlineUpdate) : PyStr :=
  PyStr.of (String.ofList (k.symbol.toList.map Char.toLower) ++ "@kline_" ++ k.interval)

section Parser

variable {φ : Type} [FloatText φ] [UnicodeData] [Gmtime]

/-- The fields of an update. -/
def klineFields (eventTime openTime closeTime : ℤ) (head : KlineHead φ) (values : KlineValues) :
    KlineFields where
  eventTime
  symbol := asString head.symbol
  interval := asString head.interval
  openTime
  closeTime
  firstTradeId := values.firstTradeId
  lastTradeId := values.lastTradeId
  «open» := values.open
  high := values.high
  low := values.low
  close := values.close
  volume := values.volume
  tradeCount := values.tradeCount
  isClosed := values.isClosed

/-- The block that catches `ValueError`. -/
def klineUpdate (eventTime : ℤ) (head : KlineHead φ) : Except ParseError SpotKlineUpdate := do
  let openTime ← guardedTime head.openMs
  let closeMs ← milliseconds "close time" (fieldOf head.kline "T")
  let closeTime ← guardedTime closeMs
  let values ← klineValues head.kline
  newKline (klineFields eventTime openTime closeTime head values)

variable (limits : JsonLimits) (policy : BinanceSpotStreamPolicy)

/-- The size of a message is valid. -/
def SizeValid (data : Bytes) : Prop := data ≠ [] ∧ data.length ≤ policy.maximumMessageBytes

instance (data : Bytes) : Decidable (SizeValid policy data) :=
  inferInstanceAs (Decidable (_ ∧ _))

/-- The document of a message. -/
def document (raw : RawMessage) : Except ParseError (Json φ) := do
  let data ← raw.encoded
  raiseIf (¬ SizeValid policy data) (.payload "stream message size is invalid")
  match Json.loads limits data with
  | .ok value => return value
  | .error .decode => throw (.payload "stream message is invalid JSON")
  | .error fault => throw (.foreign (.json fault))

/-- What follows the header. -/
def message (header : Header φ) : Except ParseError SpotStreamMessage := do
  let eventTime ← unguardedTime header.eventMs
  if header.eventType = PyStr.of "serverShutdown" then return .serverShutdown eventTime
  raiseIf (header.eventType ≠ PyStr.of "kline") (.payload "unsupported public stream event")
  let head ← klineHead header.payload
  let update ← klineUpdate eventTime head
  raiseIf (∃ stream ∈ header.stream, stream ≠ streamName update)
    (.payload "combined stream identity mismatch")
  return .kline update

variable (φ) in
/-- `parse`. -/
def parse (raw : RawMessage) : Except ParseError SpotStreamMessage := do
  let decoded : Json φ ← document limits policy raw
  message (← header decoded)

end Parser

/-! ### No other exception -/

section Declared

variable {α β : Type}

/-- No exception but `ExchangePayloadError` escapes. -/
def Declared (r : Except ParseError α) : Prop := ∀ error, r ≠ .error (.foreign error)

@[simp] lemma declared_ok (a : α) : Declared (.ok a) := nofun

@[simp] lemma declared_pure (a : α) : Declared (pure a) := nofun

@[simp] lemma declared_payload (message : String) :
    Declared (.error (.payload message) : Except ParseError α) := nofun

@[simp] lemma not_declared_foreign (error : ForeignError) :
    ¬ Declared (.error (.foreign error) : Except ParseError α) := fun h => h error rfl

@[simp] lemma declared_raiseIf {p : Prop} [Decidable p] {message : String} :
    Declared (raiseIf p (.payload message)) := by
  rw [raiseIf]
  split_ifs <;> simp

lemma declared_bind {x : Except ParseError α} {f : α → Except ParseError β} :
    Declared (x >>= f) ↔ Declared x ∧ ∀ a, x = .ok a → Declared (f a) := by
  cases x with
  | error e =>
      cases e with
      | payload message => exact iff_of_true nofun ⟨nofun, nofun⟩
      | foreign error => exact iff_of_false (fun h => h error rfl) fun h => h.1 error rfl
  | ok a => exact ⟨fun h => ⟨nofun, fun b hb => Except.ok.inj hb ▸ h⟩, fun h => h.2 a rfl⟩

lemma Declared.bind {x : Except ParseError α} {f : α → Except ParseError β} (hx : Declared x)
    (hf : ∀ a, Declared (f a)) : Declared (x >>= f) :=
  declared_bind.mpr ⟨hx, fun a _ => hf a⟩

end Declared

/-! ### The stages -/

section Stages

variable {φ : Type} {value decoded : Json φ} {members kline : Members φ} {name : String}

lemma declared_mapping : Declared (mapping name value) := by
  cases value <;> simp [mapping]

lemma declared_nonEmptyText : Declared (nonEmptyText name value) := by
  cases value with
  | str s => cases s <;> simp [nonEmptyText]
  | _ => simp [nonEmptyText]

lemma declared_integer : Declared (integer name value) := by
  cases value <;> simp [integer]

lemma declared_milliseconds : Declared (milliseconds name value) :=
  declared_integer.bind fun _ => declared_raiseIf.bind fun _ => declared_pure _

lemma declared_boolean : Declared (boolean name value) := by
  cases value <;> simp [boolean]

lemma declared_finiteDecimal [UnicodeData] {text : PyStr} : Declared (finiteDecimal name text) := by
  unfold finiteDecimal
  split <;> simp

lemma declared_decimalField [UnicodeData] [FloatText φ] : Declared (decimalField name value) := by
  unfold decimalField
  split
  · exact declared_finiteDecimal
  · exact declared_ok _
  · exact declared_finiteDecimal
  · exact declared_payload _
  · exact declared_payload _

/-- The header is read with no other exception. -/
lemma declared_header : Declared (header decoded) := by
  unfold header
  refine declared_mapping.bind fun envelope => ?_
  split_ifs
  · refine declared_nonEmptyText.bind fun stream => declared_mapping.bind fun payload => ?_
    exact declared_nonEmptyText.bind fun _ => declared_milliseconds.bind fun _ => declared_pure _
  · exact declared_nonEmptyText.bind fun _ => declared_milliseconds.bind fun _ => declared_pure _

/-- So is the head of a kline, -/
lemma declared_klineHead : Declared (klineHead members) := by
  unfold klineHead
  refine declared_mapping.bind fun _ => declared_nonEmptyText.bind fun _ => ?_
  refine declared_nonEmptyText.bind fun _ => declared_raiseIf.bind fun _ => ?_
  exact declared_nonEmptyText.bind fun _ => declared_milliseconds.bind fun _ => declared_pure _

/-- and so are its values. -/
lemma declared_klineValues [UnicodeData] [FloatText φ] : Declared (klineValues kline) := by
  unfold klineValues
  refine declared_integer.bind fun _ => declared_integer.bind fun _ => ?_
  refine declared_decimalField.bind fun _ => declared_decimalField.bind fun _ => ?_
  refine declared_decimalField.bind fun _ => declared_decimalField.bind fun _ => ?_
  refine declared_decimalField.bind fun _ => declared_integer.bind fun _ => ?_
  exact declared_boolean.bind fun _ => declared_pure _

lemma declared_encoded {raw : RawMessage} : Declared raw.encoded ↔
    ∀ s h, raw = .text s h → Encoding.NoSurrogate s := by
  cases raw with
  | bytes data => exact iff_of_true nofun nofun
  | text s h =>
      have hsome := Encoding.encodeUtf8_isSome (s := s)
      rw [RawMessage.encoded]
      cases hencoded : Encoding.encodeUtf8 s with
      | none =>
          rw [hencoded] at hsome
          refine iff_of_false (fun hdeclared => hdeclared _ rfl) fun hnone => ?_
          exact absurd (hsome.mpr (hnone s h rfl)) Bool.false_ne_true
      | some data =>
          rw [hencoded] at hsome
          refine iff_of_true (declared_ok data) ?_
          rintro _ _ ⟨⟩
          exact hsome.mp rfl

lemma declared_unguardedTime [Gmtime] {ms : ℕ} :
    Declared (unguardedTime ms) ↔ EpochTime.seconds ms ≤ lastYearSecond := by
  rw [unguardedTime]
  cases htime : fromMilliseconds ms with
  | ok t => exact iff_of_true (declared_ok t) (fromMilliseconds_eq_ok.mp htime).1
  | error fault =>
      refine iff_of_false (not_declared_foreign _) fun hle => ?_
      rw [fromMilliseconds_eq_ok.mpr ⟨hle, rfl⟩] at htime
      cases htime

lemma declared_guardedTime [Gmtime] {ms : ℕ} :
    Declared (guardedTime ms) ↔ EpochTime.seconds ms ≤ Gmtime.lastSecond := by
  rw [← fromMilliseconds_year, guardedTime]
  cases htime : fromMilliseconds ms with
  | ok t => exact iff_of_true (declared_ok t) nofun
  | error fault =>
      cases fault with
      | year => exact iff_of_true (declared_payload _) fun _ h => (Except.error.inj h).symm
      | overflow =>
          exact iff_of_false (not_declared_foreign _) fun h => absurd (h _ rfl) (by decide)
      | os => exact iff_of_false (not_declared_foreign _) fun h => absurd (h _ rfl) (by decide)

lemma unguardedTime_eq_ok [Gmtime] {ms : ℕ} {t : ℤ} :
    unguardedTime ms = .ok t ↔ fromMilliseconds ms = .ok t := by
  rw [unguardedTime]
  cases fromMilliseconds ms <;> simp

lemma guardedTime_eq_ok [Gmtime] {ms : ℕ} {t : ℤ} :
    guardedTime ms = .ok t ↔ fromMilliseconds ms = .ok t := by
  rw [guardedTime]
  cases fromMilliseconds ms with
  | ok t => simp
  | error fault => cases fault <;> simp

lemma declared_newKline {k : KlineFields} : Declared (newKline k) ↔
    (Identified k.symbol k.interval → k.openTime + intervalDuration k.interval ≤ lastInstant) := by
  rw [newKline]
  split_ifs with hrange
  · exact iff_of_false (not_declared_foreign _) fun h => absurd (h hrange.1) (not_le.mpr hrange.2)
  · exact iff_of_true (declared_ok _) fun h => not_lt.mp fun hlt => hrange ⟨h, hlt⟩
  · exact iff_of_true (declared_payload _) fun h => not_lt.mp fun hlt => hrange ⟨h, hlt⟩

end Stages

/-! ### The condition -/

section Condition

variable {φ : Type} [FloatText φ] [UnicodeData] [Gmtime]

/-- The times of a message are in range where the parser converts them: the event time in the years
up to 9999, the times of a kline where `gmtime` converts them, and the end of its interval in the
years up to 9999 again. -/
structure TimesFit (h : Header φ) : Prop where
  event : EpochTime.seconds h.eventMs ≤ lastYearSecond
  opened : ∀ k, h.eventType = PyStr.of "kline" → klineHead h.payload = .ok k →
    EpochTime.seconds k.openMs ≤ Gmtime.lastSecond
  closed : ∀ k ms, h.eventType = PyStr.of "kline" → klineHead h.payload = .ok k →
    EpochTime.seconds k.openMs ≤ lastYearSecond →
    milliseconds "close time" (fieldOf k.kline "T") = .ok ms →
      EpochTime.seconds ms ≤ Gmtime.lastSecond
  ended : ∀ k ms values openTime, h.eventType = PyStr.of "kline" →
    klineHead h.payload = .ok k → fromMilliseconds k.openMs = .ok openTime →
    milliseconds "close time" (fieldOf k.kline "T") = .ok ms →
    EpochTime.seconds ms ≤ lastYearSecond →
    klineValues k.kline = .ok values → Identified (asString k.symbol) (asString k.interval) →
    openTime + intervalDuration (asString k.interval) ≤ lastInstant

variable (φ) (limits : JsonLimits) (policy : BinanceSpotStreamPolicy)

/-- A text has UTF-8, a document stays within the limits of the interpreter, and the times are in
range. -/
structure Convertible (raw : RawMessage) : Prop where
  encodable : ∀ s h, raw = .text s h → Encoding.NoSurrogate s
  readable : ∀ data, raw.encoded = .ok data → SizeValid policy data → ∀ fault,
    (Json.loads limits data : Except JsonFault (Json φ)) = .error fault → fault = .decode
  times : ∀ (decoded : Json φ) h, document limits policy raw = .ok decoded →
    header decoded = .ok h → TimesFit h

variable {φ limits policy} {raw : RawMessage} {h : Header φ} {k : KlineHead φ} {eventTime : ℤ}

omit [UnicodeData] [Gmtime] in
lemma declared_document : Declared (document limits policy raw : Except ParseError (Json φ)) ↔
    (∀ s h, raw = .text s h → Encoding.NoSurrogate s) ∧
      ∀ data, raw.encoded = .ok data → SizeValid policy data → ∀ fault,
        (Json.loads limits data : Except JsonFault (Json φ)) = .error fault → fault = .decode := by
  rw [document, declared_bind, declared_encoded]
  refine and_congr_right fun _ => forall_congr' fun data => imp_congr_right fun _ => ?_
  rw [declared_bind, and_iff_right declared_raiseIf]
  simp only [raiseIf_eq_ok, not_not, forall_const]
  refine imp_congr_right fun _ => ?_
  split
  · next heq => exact iff_of_true (declared_pure _) fun fault h => by rw [heq] at h; cases h
  · next heq =>
    exact iff_of_true (declared_payload _) fun fault h =>
      (Except.error.inj (heq.symm.trans h)).symm
  · next fault hfault heq =>
    exact iff_of_false (not_declared_foreign _) fun h => hfault (h fault heq)

lemma declared_klineUpdate : Declared (klineUpdate eventTime k) ↔
    EpochTime.seconds k.openMs ≤ Gmtime.lastSecond ∧
      (EpochTime.seconds k.openMs ≤ lastYearSecond → ∀ ms,
        milliseconds "close time" (fieldOf k.kline "T") = .ok ms →
          EpochTime.seconds ms ≤ Gmtime.lastSecond) ∧
      ∀ openTime ms values, fromMilliseconds k.openMs = .ok openTime →
        milliseconds "close time" (fieldOf k.kline "T") = .ok ms →
        EpochTime.seconds ms ≤ lastYearSecond → klineValues k.kline = .ok values →
        Identified (asString k.symbol) (asString k.interval) →
          openTime + intervalDuration (asString k.interval) ≤ lastInstant := by
  simp only [klineUpdate, declared_bind, declared_guardedTime, guardedTime_eq_ok,
    declared_milliseconds, declared_klineValues, declared_newKline, true_and, klineFields]
  refine and_congr_right fun _ => ⟨fun h => ⟨fun hyear ms hms => ?_, ?_⟩, ?_⟩
  · exact (h _ (fromMilliseconds_eq_ok.mpr ⟨hyear, rfl⟩) ms hms).1
  · intro openTime ms values hopen hms hclose hvalues hidentified
    exact (h _ hopen ms hms).2 _ (fromMilliseconds_eq_ok.mpr ⟨hclose, rfl⟩) values hvalues
      hidentified
  · rintro ⟨hclosed, hended⟩ openTime hopen ms hms
    refine ⟨hclosed (fromMilliseconds_eq_ok.mp hopen).1 ms hms, fun closeTime hclose values hvalues
      hidentified => ?_⟩
    exact hended openTime ms values hopen hms (fromMilliseconds_eq_ok.mp hclose).1 hvalues
      hidentified

lemma declared_message : Declared (message h) ↔ TimesFit h := by
  rw [message, declared_bind, declared_unguardedTime]
  simp only [unguardedTime_eq_ok]
  constructor
  · rintro ⟨hevent, hrest⟩
    have hkline : ∀ k, h.eventType = PyStr.of "kline" → klineHead h.payload = .ok k →
        ∃ eventTime, Declared (klineUpdate eventTime k) := by
      intro k htype hk
      have hmessage := hrest _ (fromMilliseconds_eq_ok.mpr ⟨hevent, rfl⟩)
      rw [if_neg (by rw [htype]; decide), declared_bind] at hmessage
      have hhead := hmessage.2 () (raiseIf_of_not (by simp [htype]))
      rw [declared_bind] at hhead
      have hupdate := hhead.2 k hk
      rw [declared_bind] at hupdate
      exact ⟨_, hupdate.1⟩
    refine ⟨hevent, fun k htype hk => ?_, fun k ms htype hk hyear hms => ?_,
      fun k ms values openTime htype hk hopen hms hclose hvalues hid => ?_⟩
    · obtain ⟨_, hupdate⟩ := hkline k htype hk
      exact (declared_klineUpdate.mp hupdate).1
    · obtain ⟨_, hupdate⟩ := hkline k htype hk
      exact (declared_klineUpdate.mp hupdate).2.1 hyear ms hms
    · obtain ⟨_, hupdate⟩ := hkline k htype hk
      exact (declared_klineUpdate.mp hupdate).2.2 openTime ms values hopen hms hclose hvalues hid
  · intro hfit
    refine ⟨hfit.event, fun eventTime _ => ?_⟩
    split_ifs
    · exact declared_pure _
    · refine declared_bind.mpr ⟨declared_raiseIf, fun _ htype => ?_⟩
      have htype := not_not.mp (raiseIf_eq_ok.mp htype)
      refine declared_bind.mpr ⟨declared_klineHead, fun k hk => ?_⟩
      refine declared_bind.mpr ⟨declared_klineUpdate.mpr ⟨hfit.opened k htype hk,
        fun hyear ms hms => hfit.closed k ms htype hk hyear hms,
        fun openTime ms values hopen hms hclose hvalues hid =>
          hfit.ended k ms values openTime htype hk hopen hms hclose hvalues hid⟩, fun _ _ => ?_⟩
      exact declared_raiseIf.bind fun _ => declared_pure _

/-- **No other exception escapes exactly when everything is convertible.** -/
lemma parse_declared_iff : Declared (parse φ limits policy raw) ↔ Convertible φ limits policy raw := by
  rw [parse, declared_bind, declared_document]
  constructor
  · rintro ⟨⟨hencodable, hreadable⟩, hrest⟩
    refine ⟨hencodable, hreadable, fun decoded h hdecoded hh => ?_⟩
    exact declared_message.mp ((declared_bind.mp (hrest decoded hdecoded)).2 h hh)
  · rintro ⟨hencodable, hreadable, htimes⟩
    refine ⟨⟨hencodable, hreadable⟩, fun decoded hdecoded => ?_⟩
    exact declared_bind.mpr ⟨declared_header,
      fun h hh => declared_message.mpr (htimes decoded h hdecoded hh)⟩

end Condition

/-! ### What a kline says about its message -/

section Describes

variable {φ : Type} {value decoded : Json φ} {members : Members φ} {name : String} {s : PyStr}

lemma mapping_eq_ok : mapping name value = .ok members ↔ value = .obj members := by
  cases value <;> simp [mapping]

lemma nonEmptyText_eq_ok (h : nonEmptyText name value = .ok s) : value = .str s := by
  cases value with
  | str t =>
      cases t with
      | nil => cases h
      | cons c t => rw [Except.ok.inj h]
  | _ => cases h

lemma toNat_ofNat_of_isAlphanum {c : ℕ} (h : (Char.ofNat c).isAlphanum) :
    (Char.ofNat c).toNat = c := by
  rw [Char.ofNat] at h ⊢
  split_ifs at h ⊢ with hvalid
  · rfl
  · exact absurd h (by decide)

/-- Alphanumeric text is the text that was read. -/
lemma of_asString (h : isAsciiAlnum (asString s)) : PyStr.of (asString s) = s := by
  simp only [isAsciiAlnum, asString, Bool.and_eq_true, String.toList_ofList, List.all_map,
    List.all_eq_true, Function.comp_apply] at h
  rw [PyStr.of, asString, String.toList_ofList, List.map_map]
  exact (List.map_congr_left fun c hc => toNat_ofNat_of_isAlphanum (h.2 c hc)).trans (List.map_id s)

/-- An interval is alphanumeric. -/
lemma isAsciiAlnum_of_supported {interval : String} (h : interval ∈ supportedDecisionIntervals) :
    isAsciiAlnum interval := by
  revert interval
  decide

/-- The message is wrapped in the envelope of a combined stream. -/
def Wrapped (envelope : Members φ) : Prop := hasField envelope "stream" ∨ hasField envelope "data"

/-- What a kline says about the document of its message: one symbol outside and inside, the stream
of its symbol and interval, the end of its interval, and prices in order. -/
structure DescribesKline (decoded : Json φ) (k : SpotKlineUpdate) : Prop where
  fields : ∃ envelope payload kline, decoded = .obj envelope ∧
    (Wrapped envelope → fieldOf envelope "data" = .obj payload ∧
      fieldOf envelope "stream" = .str (streamName k)) ∧
    (¬ Wrapped envelope → payload = envelope) ∧
    fieldOf payload "k" = .obj kline ∧ fieldOf payload "s" = .str (PyStr.of k.symbol) ∧
    fieldOf kline "s" = .str (PyStr.of k.symbol) ∧ fieldOf kline "i" = .str (PyStr.of k.interval)
  closeTime_eq : k.closeTime = k.openTime + intervalDuration k.interval - 1000
  ordered : k.low ≤ min k.open k.close ∧ max k.open k.close ≤ k.high

end Describes

section Total

variable {φ : Type} [FloatText φ] [UnicodeData] [Gmtime] {limits : JsonLimits}
  {policy : BinanceSpotStreamPolicy} {raw : RawMessage} {k : SpotKlineUpdate} {h : Header φ}
  {head : KlineHead φ} {decoded : Json φ}

omit [FloatText φ] [UnicodeData] [Gmtime] in
/-- The header of a message is that of its event, in an envelope or not. -/
lemma header_eq_ok (hh : header decoded = .ok h) : ∃ envelope, decoded = .obj envelope ∧
    (Wrapped envelope → fieldOf envelope "data" = .obj h.payload ∧
      ∃ stream ∈ h.stream, fieldOf envelope "stream" = .str stream) ∧
    (¬ Wrapped envelope → h.payload = envelope) := by
  obtain ⟨envelope, henvelope, hh⟩ := bind_eq_ok.mp hh
  refine ⟨envelope, mapping_eq_ok.mp henvelope, ?_⟩
  rw [Wrapped, ← Bool.or_eq_true]
  split_ifs at hh with hwrapped
  · obtain ⟨stream, hstream, hh⟩ := bind_eq_ok.mp hh
    obtain ⟨payload, hpayload, hh⟩ := bind_eq_ok.mp hh
    obtain ⟨_, hpair, hh⟩ := bind_eq_ok.mp hh
    obtain rfl := pure_eq_ok.mp hpair
    obtain ⟨_, -, hh⟩ := bind_eq_ok.mp hh
    obtain ⟨_, -, hh⟩ := bind_eq_ok.mp hh
    obtain rfl := pure_eq_ok.mp hh
    exact ⟨fun _ => ⟨mapping_eq_ok.mp hpayload, stream, rfl, nonEmptyText_eq_ok hstream⟩,
      fun hnot => absurd hwrapped hnot⟩
  · obtain ⟨_, hpair, hh⟩ := bind_eq_ok.mp hh
    obtain rfl := pure_eq_ok.mp hpair
    obtain ⟨_, -, hh⟩ := bind_eq_ok.mp hh
    obtain ⟨_, -, hh⟩ := bind_eq_ok.mp hh
    obtain rfl := pure_eq_ok.mp hh
    exact ⟨fun hyes => absurd hyes hwrapped, fun _ => rfl⟩

/-- A kline has the symbol and the interval of its head. -/
lemma klineUpdate_eq_ok {eventTime : ℤ} (hk : klineUpdate eventTime head = .ok k) :
    asString head.symbol = k.symbol ∧ asString head.interval = k.interval := by
  obtain ⟨_, -, hk⟩ := bind_eq_ok.mp hk
  obtain ⟨_, -, hk⟩ := bind_eq_ok.mp hk
  obtain ⟨_, -, hk⟩ := bind_eq_ok.mp hk
  obtain ⟨_, -, hk⟩ := bind_eq_ok.mp hk
  rw [newKline] at hk
  split_ifs at hk
  rw [← Except.ok.inj hk]
  exact ⟨rfl, rfl⟩

omit [FloatText φ] [UnicodeData] [Gmtime] in
/-- The symbol stands outside and inside. -/
lemma klineHead_eq_ok {payload : Members φ} (hhead : klineHead payload = .ok head) :
    fieldOf payload "k" = .obj head.kline ∧ fieldOf payload "s" = .str head.symbol ∧
      fieldOf head.kline "s" = .str head.symbol ∧
      fieldOf head.kline "i" = .str head.interval := by
  obtain ⟨kline, hkline, hhead⟩ := bind_eq_ok.mp hhead
  obtain ⟨symbol, hsymbol, hhead⟩ := bind_eq_ok.mp hhead
  obtain ⟨inner, hinner, hhead⟩ := bind_eq_ok.mp hhead
  obtain ⟨_, hsame, hhead⟩ := bind_eq_ok.mp hhead
  obtain rfl := not_not.mp (raiseIf_eq_ok.mp hsame)
  obtain ⟨interval, hinterval, hhead⟩ := bind_eq_ok.mp hhead
  obtain ⟨_, -, hhead⟩ := bind_eq_ok.mp hhead
  obtain rfl := pure_eq_ok.mp hhead
  exact ⟨mapping_eq_ok.mp hkline, nonEmptyText_eq_ok hsymbol, nonEmptyText_eq_ok hinner,
    nonEmptyText_eq_ok hinterval⟩

/-- **A returned kline describes its message.** -/
lemma describesKline_of_parse (hparse : parse φ limits policy raw = .ok (.kline k)) :
    ∃ decoded : Json φ, document limits policy raw = .ok decoded ∧ DescribesKline decoded k := by
  obtain ⟨decoded, hdecoded, hparse⟩ := bind_eq_ok.mp hparse
  obtain ⟨h, hh, hparse⟩ := bind_eq_ok.mp hparse
  obtain ⟨eventTime, -, hparse⟩ := bind_eq_ok.mp hparse
  split_ifs at hparse
  · cases pure_eq_ok.mp hparse
  obtain ⟨_, -, hparse⟩ := bind_eq_ok.mp hparse
  obtain ⟨head, hhead, hparse⟩ := bind_eq_ok.mp hparse
  obtain ⟨update, hupdate, hparse⟩ := bind_eq_ok.mp hparse
  obtain ⟨_, hstream, hparse⟩ := bind_eq_ok.mp hparse
  obtain rfl := SpotStreamMessage.kline.inj (pure_eq_ok.mp hparse)
  obtain ⟨hsymbol, hinterval⟩ := klineUpdate_eq_ok hupdate
  obtain ⟨hkline, houter, hinner, hi⟩ := klineHead_eq_ok hhead
  obtain ⟨envelope, rfl, hwrapped, hplain⟩ := header_eq_ok hh
  have hpasses := update.passes
  simp only [KlineFields.checks, passes_cons, Bool.or_eq_false_iff, Bool.not_eq_false',
    decide_eq_false_iff_not, not_or, not_lt] at hpasses
  -- the symbol and the interval are alphanumeric, so they are the texts of the message
  have hsymbolText : PyStr.of update.symbol = head.symbol := by
    rw [← hsymbol]
    exact of_asString (hsymbol ▸ hpasses.1.1)
  have hintervalText : PyStr.of update.interval = head.interval := by
    rw [← hinterval]
    exact of_asString (hinterval ▸ isAsciiAlnum_of_supported update.interval_mem)
  refine ⟨_, hdecoded, ⟨envelope, h.payload, head.kline, rfl, fun hyes => ?_, hplain, hkline, ?_⟩,
    update.closeTime_eq, hpasses.2.2.2.2.1⟩
  · obtain ⟨hpayload, stream, hmem, hfield⟩ := hwrapped hyes
    have hsame : stream = streamName update := by
      by_contra hne
      exact raiseIf_eq_ok.mp hstream ⟨stream, hmem, hne⟩
    exact ⟨hpayload, hsame ▸ hfield⟩
  · rw [hsymbolText, hintervalText]
    exact ⟨houter, hinner, hi⟩

variable (φ limits policy) in
/-- A message is parsed, and a kline describes it, or it is rejected. -/
def ParsesOrRejects (raw : RawMessage) : Prop :=
  (∃ message, parse φ limits policy raw = .ok message ∧ ∀ k, message = .kline k →
    ∃ decoded : Json φ, document limits policy raw = .ok decoded ∧ DescribesKline decoded k) ∨
  ∃ text, parse φ limits policy raw = .error (.payload text)

/-- **The parser is total** on exactly the messages of which every conversion that it does not guard
succeeds. -/
theorem parser_total_iff (limits : JsonLimits) (policy : BinanceSpotStreamPolicy)
    (raw : RawMessage) :
    ParsesOrRejects φ limits policy raw ↔ Convertible φ limits policy raw := by
  rw [← parse_declared_iff]
  constructor
  · rintro (⟨message, hparse, -⟩ | ⟨text, hparse⟩) error heq
    · cases hparse.symm.trans heq
    · cases hparse.symm.trans heq
  · intro hdeclared
    cases hparse : parse φ limits policy raw with
    | ok message =>
        exact .inl ⟨message, hparse, fun k hk => describesKline_of_parse (hk ▸ hparse)⟩
    | error e =>
        cases e with
        | payload text => exact .inr ⟨text, hparse⟩
        | foreign error => exact absurd hparse (hdeclared error)

end Total

/-! ### A shutdown in the year 10000 -/

/-- Floats without a fraction, for documents that have no float. -/
@[reducible] def wholeFloats : FloatText ℤ where
  parse text := .finite (JsonText.intValue (text.takeWhile (· ≠ 46)))
  repr n := JsonText.intText n ++ PyStr.of ".0"

/-- A shutdown message of the first millisecond of the year 10000. -/
def lateShutdown : PyStr :=
  PyStr.of "\x7b\"e\":\"serverShutdown\",\"E\":253402300800000\x7d"

/-- **The year of a shutdown escapes**: its event time is converted outside the guarded block. -/
theorem late_shutdown_escapes :
    ∃ h : lateShutdown.Valid, ¬ @ParsesOrRejects ℤ wholeFloats _ _ { maxDepth := 100 } {}
      (.text lateShutdown h) := by
  have hraises : @parse ℤ wholeFloats _ _ { maxDepth := 100 } {}
      (.text lateShutdown (by decide)) = .error (.foreign (.time .year)) := by decide +kernel
  refine ⟨by decide, ?_⟩
  rintro (⟨message, hparse, -⟩ | ⟨text, hparse⟩)
  · cases hraises.symm.trans hparse
  · cases hraises.symm.trans hparse

end Ai4Binance

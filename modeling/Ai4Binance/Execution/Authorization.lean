/-
Single-use authorizations (`execution/authorization.py`).

An envelope binds one exact Spot order.  It is built from its fields by
normalizing them and checking the result (`EnvelopeFields.checks`, in the order
of the code); an envelope carries both facts.  The ledger is the SQLite table of
consumed envelopes; its two unique columns are fields of the type.

* `EnvelopeFields`, `ExecutionAuthorizationEnvelope`: the record and its checks;
* `toSpotOrderCommand_fields`: the command of an envelope has its order fields;
* `AuthorizationLedger`, `insert?`: the table, and the insert that fails on a
  repeated authorization id or nonce.
-/
import Ai4Binance.Execution.OrderCommand

open Text Check

namespace Ai4Binance

/-! ### Envelopes -/

/-- The arguments of `ExecutionAuthorizationEnvelope`. -/
structure EnvelopeFields where
  authorizationId : String
  approvalId : String
  previewHash : String
  decisionId : String
  snapshotId : String
  strategyId : String
  strategyVersion : String
  symbol : String
  marketType : String
  side : String
  orderType : String
  quantity : DecimalNumber
  clientOrderId : String
  riskAssessmentHash : String
  validationBundleHash : String
  createdAt : Datetime
  expiresAt : Datetime
  approvedBy : String
  singleUseNonce : String
  price : Option DecimalNumber := none
  timeInForce : Option String := none
  executionAllowed : Bool := false
  liveEligibilityStatus : String := "LIVE_ORDER_BLOCKED"
  deriving DecidableEq

/-- The check of `_required_text`, on the stripped text. -/
def isRequiredText (s : String) : Bool :=
  s ≠ "" && s.length ≤ 256 && isAscii s && s.toList.all fun c => c ≠ '\r' && c ≠ '\n' && c.toNat ≠ 0

/-- The characters of a hex digest. -/
def isHexChar (c : Char) : Bool := c.isDigit || ('a' ≤ c && c ≤ 'f')

/-- The check of `_sha256`, on the stripped text in lower case. -/
def isSha256 (s : String) : Bool := s.length == 64 && s.toList.all isHexChar

/-- `str.lower()`, where only the ASCII letters matter. -/
def lowerAscii (s : String) : String := String.ofList (s.toList.map Char.toLower)

/-- The instant of an aware time. -/
def instantOf : Datetime → Option ℤ
  | .aware t => some t
  | .naive _ => none

/-- The value of a finite number, by which `==` compares. -/
def numericValue (q : DecimalNumber) : Option ℚ := (SpotOrderCommand.finitePart q).map (·.toRat)

/-- `value.is_finite() and value > 0`. -/
def isPositive (q : DecimalNumber) : Bool := (numericValue q).any (0 < ·)

namespace EnvelopeFields

/-- The assignments of `__post_init__`. -/
def normalized [UnicodeData] (f : EnvelopeFields) : EnvelopeFields :=
  { f with
    authorizationId := strip f.authorizationId
    approvalId := strip f.approvalId
    previewHash := lowerAscii (strip f.previewHash)
    decisionId := strip f.decisionId
    snapshotId := strip f.snapshotId
    strategyId := strip f.strategyId
    strategyVersion := strip f.strategyVersion
    symbol := upper (strip f.symbol)
    marketType := upper (strip f.marketType)
    side := upper (strip f.side)
    orderType := upper (strip f.orderType)
    clientOrderId := strip f.clientOrderId
    riskAssessmentHash := lowerAscii (strip f.riskAssessmentHash)
    validationBundleHash := lowerAscii (strip f.validationBundleHash)
    approvedBy := strip f.approvedBy
    singleUseNonce := strip f.singleUseNonce
    timeInForce := f.timeInForce.map fun t => upper (strip t) }

/-- The text fields, under the names of the messages. -/
def texts (f : EnvelopeFields) : List (String × String) :=
  [("authorization_id", f.authorizationId), ("approval_id", f.approvalId),
    ("decision_id", f.decisionId), ("snapshot_id", f.snapshotId), ("strategy_id", f.strategyId),
    ("strategy_version", f.strategyVersion), ("client_order_id", f.clientOrderId),
    ("approved_by", f.approvedBy), ("single_use_nonce", f.singleUseNonce)]

/-- The digests. -/
def hashes (f : EnvelopeFields) : List String :=
  [f.previewHash, f.riskAssessmentHash, f.validationBundleHash]

/-- The checks of `__post_init__`, on normalized fields. -/
def checks (f : EnvelopeFields) : List (Bool × String) :=
  f.texts.map (fun t => (!isRequiredText t.2, "authorization " ++ t.1 ++ " is invalid")) ++
  f.hashes.map (fun h => (!isSha256 h, "authorization SHA-256 is invalid")) ++
  [(!isAsciiAlnum f.symbol, "authorization symbol must be ASCII alphanumeric"),
    (f.marketType ≠ "SPOT", "authorization market type must be SPOT"),
    (f.side ∉ ["BUY", "SELL"], "authorization side is invalid"),
    (f.orderType ∉ ["LIMIT", "MARKET"], "authorization order type is invalid"),
    (!isPositive f.quantity, "authorization quantity must be finite and positive"),
    (f.orderType = "LIMIT" ∧ ¬ (f.price.any isPositive ∧
        f.timeInForce ∈ [some "GTC", some "IOC", some "FOK"]),
      "LIMIT authorization requires exact price constraints"),
    (f.orderType = "MARKET" ∧ ¬ (f.price = none ∧ f.timeInForce = none),
      "MARKET authorization cannot contain price constraints"),
    (instantOf f.createdAt = none, "authorization created_at must be timezone-aware"),
    (instantOf f.expiresAt = none, "authorization expires_at must be timezone-aware"),
    ((instantOf f.expiresAt).getD 0 ≤ (instantOf f.createdAt).getD 0,
      "authorization expiry must follow creation"),
    (f.executionAllowed ∨ f.liveEligibilityStatus ≠ "LIVE_ORDER_BLOCKED",
      "authorization envelope cannot grant execution authority")]

end EnvelopeFields

/-- `ExecutionAuthorizationEnvelope`: fields that are normalized and pass the
checks. -/
structure ExecutionAuthorizationEnvelope [UnicodeData] extends EnvelopeFields where
  passes : Passes toEnvelopeFields.checks
  normal : toEnvelopeFields.normalized = toEnvelopeFields
  deriving DecidableEq

namespace EnvelopeFields

/-! ### Normalizing twice -/

lemma lowerAscii_strip {s : String} (h : isSha256 (lowerAscii (strip s))) :
    lowerAscii (strip (lowerAscii (strip s))) = lowerAscii (strip s) := by
  simp only [isSha256, Bool.and_eq_true, List.all_eq_true] at h
  have hspace : ∀ c ∈ (lowerAscii (strip s)).toList, isSpace c = false := by
    intro c hc
    have hhex := h.2 c hc
    simp only [isHexChar, Char.isDigit, Bool.or_eq_true, Bool.and_eq_true, decide_eq_true_eq,
      ge_iff_le] at hhex
    rcases hhex with ⟨h1, h2⟩ | ⟨h1, h2⟩
    · have h1' : 48 ≤ c.toNat := h1
      have h2' : c.toNat ≤ 57 := h2
      exact isSpace_of_graphic (by omega) (by omega)
    · have h1' : 97 ≤ c.toNat := h1
      have h2' : c.toNat ≤ 102 := h2
      exact isSpace_of_graphic (by omega) (by omega)
  rw [strip_eq_self hspace]
  simp only [lowerAscii, String.toList_ofList, List.map_map]
  exact congrArg String.ofList
    (List.map_congr_left fun c _ => by simp [Char.toLower_toLower_eq_toLower])

variable [UnicodeData] {f : EnvelopeFields}

lemma upper_strip_of_alnum {s : String} (h : isAsciiAlnum (upper (strip s))) :
    upper (strip (upper (strip s))) = upper (strip s) := by
  simp only [isAsciiAlnum, Bool.and_eq_true, List.all_eq_true] at h
  have hspace : ∀ c ∈ (upper (strip s)).toList, isSpace c = false := by
    intro c hc
    have hnat := toNat_of_isAlphanum (h.2 c hc)
    exact isSpace_of_graphic (by omega) (by omega)
  rw [strip_eq_self hspace, upper_upper]

lemma upper_strip_of_mem {s : String} {l : List String} (h : upper (strip s) ∈ l)
    (hl : ∀ t ∈ l, isAsciiAlnum t) : upper (strip (upper (strip s))) = upper (strip s) :=
  upper_strip_of_alnum (hl _ h)

/-- Accepted fields are their own normal form. -/
lemma normalized_normalized (h : Passes f.normalized.checks) :
    f.normalized.normalized = f.normalized := by
  simp only [checks, passes_append, texts, hashes, List.map_cons, List.map_nil, passes_cons,
    passes_nil, and_true, Bool.not_eq_false', decide_eq_false_iff_not, not_not] at h
  obtain ⟨⟨-, hh1, hh2, hh3⟩, hsym, hmarket, hside, htype, -, hlimit, hmkt, -⟩ := h
  have htif : (f.normalized.timeInForce.map fun t => upper (strip t)) =
      f.normalized.timeInForce := by
    cases ht : f.timeInForce with
    | none => simp [normalized, ht]
    | some t =>
      have hnorm : f.normalized.timeInForce = some (upper (strip t)) := by simp [normalized, ht]
      rw [hnorm] at hlimit hmkt ⊢
      have hmem : upper (strip t) ∈ ["GTC", "IOC", "FOK"] := by
        rcases List.mem_pair.mp htype with hl | hm
        · simpa using (not_not.mp fun hn => hlimit ⟨hl, hn⟩).2
        · exact absurd ⟨hm, fun hn => by simp at hn⟩ hmkt
      rw [Option.map_some, upper_strip_of_mem hmem (by decide)]
  rw [normalized]
  simp only [normalized, strip_strip, lowerAscii_strip hh1, lowerAscii_strip hh2,
    lowerAscii_strip hh3, upper_strip_of_alnum hsym,
    upper_strip_of_mem (List.mem_singleton.mpr hmarket) (by decide),
    upper_strip_of_mem hside (by decide), upper_strip_of_mem htype (by decide)] at htif ⊢
  rw [htif]

end EnvelopeFields

namespace ExecutionAuthorizationEnvelope

variable [UnicodeData]

/-- The constructor. -/
def create (f : EnvelopeFields) : Except PyError ExecutionAuthorizationEnvelope :=
  if h : Passes f.normalized.checks then
    .ok ⟨f.normalized, h, EnvelopeFields.normalized_normalized h⟩
  else .error (.value (firstRefusal f.normalized.checks))

/-- `to_spot_order_command`. -/
def toSpotOrderCommand (e : ExecutionAuthorizationEnvelope) : Except PyError SpotOrderCommand :=
  SpotOrderCommand.create e.symbol e.side e.orderType e.quantity e.clientOrderId e.price
    e.timeInForce

/-- `envelope_sha256`.  The payload holds every field as a text, so its digest
is one of the envelope. -/
def envelopeSha256 [CanonicalDigest ExecutionAuthorizationEnvelope]
    (e : ExecutionAuthorizationEnvelope) : String :=
  CanonicalDigest.hexdigest e

/-- `blockers_for`, at an aware time. -/
def blockersFor [CanonicalDigest Payload] (e : ExecutionAuthorizationEnvelope)
    (command : SpotOrderCommand) (observedAt : Datetime) : Except PyError (List String) := do
  let now ← orRaise (instantOf observedAt)
    (.value "authorization observed_at must be timezone-aware")
  let mismatch (label : String) := "EXECUTION_AUTHORIZATION_" ++ label ++ "_MISMATCH"
  return ([(decide (now < (instantOf e.createdAt).getD 0), "EXECUTION_AUTHORIZATION_NOT_YET_VALID"),
    (decide ((instantOf e.expiresAt).getD 0 ≤ now), "EXECUTION_AUTHORIZATION_EXPIRED"),
    (decide (e.previewHash ≠ command.previewHash), mismatch "PREVIEW_HASH"),
    (decide (e.symbol ≠ command.symbol), mismatch "SYMBOL"),
    (decide (e.side ≠ command.side.value), mismatch "SIDE"),
    (decide (e.orderType ≠ command.orderType.value), mismatch "ORDER_TYPE"),
    (decide (numericValue e.quantity ≠ some command.quantity.toRat), mismatch "QUANTITY"),
    (decide (e.price.bind numericValue ≠ command.price.map (·.toRat)), mismatch "PRICE"),
    (decide (e.timeInForce ≠ command.timeInForce), mismatch "TIME_IN_FORCE"),
    (decide (e.clientOrderId ≠ command.clientOrderId), mismatch "CLIENT_ORDER_ID")].filter
      (·.1)).map (·.2)

/-- The order fields of an envelope are in normal form. -/
lemma normal_order (e : ExecutionAuthorizationEnvelope) :
    upper (strip e.symbol) = e.symbol ∧ upper (strip e.side) = e.side ∧
      upper (strip e.orderType) = e.orderType ∧ strip e.clientOrderId = e.clientOrderId := by
  have hsymbol := congrArg EnvelopeFields.symbol e.normal
  have hside := congrArg EnvelopeFields.side e.normal
  have htype := congrArg EnvelopeFields.orderType e.normal
  have hid := congrArg EnvelopeFields.clientOrderId e.normal
  simp only [EnvelopeFields.normalized] at hsymbol hside htype hid
  exact ⟨hsymbol, hside, htype, hid⟩

/-- The command of an envelope has the order fields of the envelope. -/
lemma toSpotOrderCommand_fields {e : ExecutionAuthorizationEnvelope} {c : SpotOrderCommand}
    (h : e.toSpotOrderCommand = .ok c) :
    c.symbol = e.symbol ∧ c.side.value = e.side ∧ c.orderType.value = e.orderType ∧
      .finite c.quantity = e.quantity ∧ c.clientOrderId = e.clientOrderId ∧
      c.price.map .finite = e.price ∧ c.timeInForce = e.timeInForce := by
  rw [toSpotOrderCommand] at h
  obtain ⟨hsymbol, hside, htype, hquantity, hid, hprice, htif, hmarket⟩ :=
    SpotOrderCommand.create_fields h
  obtain ⟨hnsymbol, hnside, hntype, hnid⟩ := e.normal_order
  have hfinite : ∀ {q : DecimalNumber} {d : Decimal}, SpotOrderCommand.finitePart q = some d →
      .finite d = q := by
    intro q d hq
    cases q <;> simp_all [SpotOrderCommand.finitePart]
  refine ⟨hsymbol.trans hnsymbol, hside.trans hnside, htype.trans hntype, hfinite hquantity,
    hid.trans hnid, ?_, htif⟩
  -- a `LIMIT` envelope has a finite price, a `MARKET` one has none
  cases hp : e.price with
  | none => simp [hprice, hp]
  | some q =>
    cases hq : SpotOrderCommand.finitePart q with
    | some d => simp [hprice, hp, hq, hfinite hq]
    | none =>
      have hlimit : c.orderType = .limit := by
        cases ht : c.orderType with
        | limit => rfl
        | market => simp [hmarket ht] at hp
      have hconstraints := c.priceConstraints
      simp [PriceConstraints, hlimit, hprice, hp, hq] at hconstraints

end ExecutionAuthorizationEnvelope

/-! ### The ledger -/

/-- A row of `execution_authorization_consumption`. -/
structure ConsumptionRow where
  authorizationId : String
  singleUseNonce : String
  envelopeSha256 : String
  previewHash : String
  executionId : String
  claimedAt : ℤ
  deriving DecidableEq, Repr

/-- The `PRIMARY KEY` and the `UNIQUE` column. -/
inductive UniqueColumn where
  | authorizationId
  | singleUseNonce
  deriving DecidableEq, Repr

instance : Fintype UniqueColumn where
  elems := {.authorizationId, .singleUseNonce}
  complete column := by cases column <;> simp

namespace UniqueColumn

def ofRow : UniqueColumn → ConsumptionRow → String
  | authorizationId, row => row.authorizationId
  | singleUseNonce, row => row.singleUseNonce

def ofEnvelope [UnicodeData] : UniqueColumn → ExecutionAuthorizationEnvelope → String
  | authorizationId, e => e.authorizationId
  | singleUseNonce, e => e.singleUseNonce

end UniqueColumn

/-- `LocalExecutionAuthorizationLedger`: the table with its two constraints. -/
structure AuthorizationLedger where
  rows : List ConsumptionRow := []
  unique : ∀ column : UniqueColumn, (rows.map column.ofRow).Nodup := by decide

namespace AuthorizationLedger

/-- The values of a column. -/
def values (ledger : AuthorizationLedger) (column : UniqueColumn) : List String :=
  ledger.rows.map column.ofRow

/-- The `INSERT`; `none` is the `IntegrityError` of a repeated value. -/
def insert? (ledger : AuthorizationLedger) (row : ConsumptionRow) : Option AuthorizationLedger :=
  if h : ∀ column : UniqueColumn, column.ofRow row ∉ ledger.values column then
    some ⟨row :: ledger.rows, fun column =>
      List.nodup_cons.mpr ⟨h column, ledger.unique column⟩⟩
  else none

/-- The row `claim` inserts for an envelope. -/
def rowFor [UnicodeData] [CanonicalDigest ExecutionAuthorizationEnvelope]
    (e : ExecutionAuthorizationEnvelope) (executionId : String) (claimedAt : ℤ) :
    ConsumptionRow where
  authorizationId := e.authorizationId
  singleUseNonce := e.singleUseNonce
  envelopeSha256 := e.envelopeSha256
  previewHash := e.previewHash
  executionId := executionId
  claimedAt := claimedAt

@[simp] lemma ofRow_rowFor [UnicodeData] [CanonicalDigest ExecutionAuthorizationEnvelope]
    (column : UniqueColumn) (e : ExecutionAuthorizationEnvelope) (executionId : String)
    (claimedAt : ℤ) : column.ofRow (rowFor e executionId claimedAt) = column.ofEnvelope e := by
  cases column <;> rfl

/-- An insert that goes through adds the row, whose values were new. -/
lemma insert?_eq_some {ledger ledger' : AuthorizationLedger} {row : ConsumptionRow}
    (h : ledger.insert? row = some ledger') (column : UniqueColumn) :
    column.ofRow row ∉ ledger.values column ∧
      ledger'.values column = column.ofRow row :: ledger.values column := by
  rw [insert?] at h
  split_ifs at h with hnew
  obtain rfl := Option.some.inj h
  exact ⟨hnew column, rfl⟩

/-- A refused insert repeats a value. -/
lemma insert?_eq_none {ledger : AuthorizationLedger} {row : ConsumptionRow}
    (h : ledger.insert? row = none) :
    ∃ column : UniqueColumn, column.ofRow row ∈ ledger.values column := by
  rw [insert?] at h
  split_ifs at h with hnew
  simpa using hnew

end AuthorizationLedger

end Ai4Binance

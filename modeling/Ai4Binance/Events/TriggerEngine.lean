/-
Trigger decisions (`events/trigger_engine.py`).

An event is scored by weighted metrics, in the default decimal context, and the score decides what
to do about it.  Of many events one decision is kept for each dedup key, and they are returned by
score, time and identifier, the highest first.

* `TriggerEvent`, `TriggerDecision`: the data, with the checks of their constructors as fields;
* `impactScore`, `evaluate`: the score and the decision of an event;
* `impactOf_mono`: **the score is monotone in its metrics**;
* `evaluateMany`: the decisions of a list;
* `evaluateMany_eq_ok`, `OrderIndependent`, `trigger_order_iff`: **the order of the list does not
  matter exactly when no two of the decisions kept have one score, time and identifier**.
-/
import Ai4Binance.Lib.BestPerKey
import Ai4Binance.Lib.ExactSums
import Ai4Binance.Lib.LowerCase
import Ai4Binance.Lib.Python
import Ai4Binance.Lib.RoundMono
import Ai4Binance.Lib.SortedMap

open Check Text BestPerKey

namespace Ai4Binance

/-! ### Events and decisions -/

/-- A metric between zero and one. -/
abbrev UnitRat : Type := {q : ℚ // 0 ≤ q ∧ q ≤ 1}

/-- A score between zero and one hundred. -/
abbrev Percent : Type := {q : ℚ // 0 ≤ q ∧ q ≤ 100}

/-- `TriggerEvent`.  The payload is sorted by its keys, which are unique. -/
structure TriggerEvent where
  eventId : String
  eventType : String
  domain : String
  entity : Option String
  detectedAt : ℤ
  source : String
  severity : UnitRat
  confidence : UnitRat
  relevance : UnitRat
  freshness : UnitRat
  evidenceCount : ℕ
  dedupKey : String
  payload : SortedMap String String := .empty
  identity_not_blank : [eventId, eventType, domain, source, dedupKey].all fun value =>
    !isBlank value
  payload_not_blank : payload.entries.all fun entry => !isBlank entry.1

/-- The actions of a decision. -/
inductive TriggerAction where
  | ignore
  | watch
  | research
  | alert
  | block
  | noAction
  deriving DecidableEq

/-- `TriggerDecision`. -/
structure TriggerDecision where
  eventId : String
  eventType : String
  domain : String
  entity : Option String
  impactScore : Percent
  action : TriggerAction
  researchRequired : Bool
  blockers : List String
  dedupKey : String
  source : String
  detectedAt : ℤ
  deriving DecidableEq

/-- `EnterpriseEventTriggerEngine`. -/
structure EnterpriseEventTriggerEngine where
  watchThreshold : ℚ := 30
  researchThreshold : ℚ := 50
  alertThreshold : ℚ := 70
  criticalThreshold : ℚ := 85
  ordered : watchThreshold ≤ researchThreshold ∧ researchThreshold ≤ alertThreshold ∧
    alertThreshold ≤ criticalThreshold
  bounds : 0 ≤ watchThreshold ∧ criticalThreshold ≤ 100

/-! ### The symbols of the research universe -/

/-- `_QUOTE_SUFFIXES`, the longest first and of one length in the order of the source. -/
def quoteSuffixes : List String := ["FDUSD", "USDT", "USDC", "BUSD", "BTC", "ETH", "BNB", "TRY"]

/-- `_STABLECOIN_BASES`. -/
def stablecoinBases : List String :=
  ["USDT", "USDC", "FDUSD", "BUSD", "DAI", "TUSD", "USDP", "EUR", "EURI"]

/-- `_WRAPPED_BASES`. -/
def wrappedBases : List String := ["WBTC", "WETH", "WBETH", "WBNB", "WSTETH"]

/-- `_LEVERAGED_BASE_SUFFIXES`. -/
def leveragedBaseSuffixes : List String := ["UP", "DOWN", "BULL", "BEAR", "3L", "3S", "5L", "5S"]

/-- `_MARKET_RESEARCH_DOMAINS`. -/
def marketResearchDomains : List String :=
  ["MARKET", "NEWS", "SOCIAL", "CONTENT", "WHALE", "TOKENOMICS", "EXCHANGE"]

/-- `_RISK_BLOCKING_TYPES`. -/
def riskBlockingTypes : List String :=
  ["HACK", "EXPLOIT", "BREACH", "DELIST", "SUSPEND", "CVE", "DEPRECATION", "OUTAGE",
    "INVESTIGATION", "LAWSUIT", "BANKRUPTCY", "INSOLVENCY"]

/-- `text.endswith(suffix)`. -/
def endsWith (text suffix : String) : Bool := suffix.toList <:+ text.toList

/-- `_base_asset`. -/
def baseAsset [UnicodeData] (symbol : String) : String :=
  let normalized := upper (strip symbol)
  match quoteSuffixes.find? fun quote =>
      endsWith normalized quote && decide (quote.length < normalized.length) with
  | some quote => String.ofList (normalized.toList.take (normalized.length - quote.length))
  | none => normalized

/-- `is_binance_coin_research_symbol`. -/
def isBinanceCoinResearchSymbol [UnicodeData] (symbol : String) : Bool :=
  let base := baseAsset symbol
  base ≠ "" && !stablecoinBases.contains base && !wrappedBases.contains base &&
    !leveragedBaseSuffixes.any (endsWith base)

/-! ### The score -/

/-- `min(1, max(0, value))`. -/
def clampUnit (q : ℚ) : UnitRat :=
  ⟨max 0 (min 1 q), le_max_left _ _, max_le zero_le_one (min_le_left _ _)⟩

/-- `_bounded_decimal`.  The comparison of a `NaN` traps. -/
def boundedDecimal [UnicodeData] (value : String) : Except PyError UnitRat :=
  match Decimal.parseExact value with
  | none => .error (.value "trigger metric must be decimal-compatible")
  | some .nan => .error .decimal
  | some .infinity =>
      .ok (clampUnit (if (Decimal.leadingSign ((strip value).toList.filter (· ≠ '_'))).1
        then 0 else 1))
  | some (.finite d) => .ok (clampUnit d.toRat)

/-- `_payload_decimal`. -/
def payloadDecimal [UnicodeData] (event : TriggerEvent) (key : String) : Except PyError UnitRat :=
  boundedDecimal ((event.payload.get? key).getD "0")

/-- The credibility of a tier. -/
def tierCredibility : List (String × UnitRat) :=
  [("official", ⟨1, by norm_num⟩), ("tier1_media", ⟨9 / 10, by norm_num⟩),
    ("tier2_media", ⟨3 / 4, by norm_num⟩), ("verified_social", ⟨3 / 5, by norm_num⟩),
    ("community", ⟨7 / 20, by norm_num⟩), ("anonymous", ⟨1 / 10, by norm_num⟩)]

/-- `_source_credibility`. -/
def sourceCredibility [UnicodeData] [LowerData] (event : TriggerEvent) : Except PyError UnitRat :=
  match event.payload.get? "source_credibility" with
  | some explicit => boundedDecimal explicit
  | none =>
      let tier := LowerData.lower (strip ((event.payload.get? "source_tier").getD ""))
      .ok ((tierCredibility.lookup tier).getD event.confidence)

/-- The metrics of the score. -/
structure ImpactInputs where
  sourceCredibility : UnitRat
  relevance : UnitRat
  severity : UnitRat
  mentionVelocity : UnitRat
  marketConfirmation : UnitRat
  crossSourceConfirmation : UnitRat
  freshness : UnitRat
  evidenceCount : ℕ

/-- The metrics of an event, as `_impact_score` reads them. -/
def impactInputs [UnicodeData] [LowerData] (event : TriggerEvent) : Except PyError ImpactInputs := do
  let credibility ← sourceCredibility event
  let mentionVelocity ← payloadDecimal event "mention_velocity"
  let marketConfirmation ← payloadDecimal event "market_confirmation"
  let crossSourceConfirmation ← payloadDecimal event "cross_source_confirmation"
  return {
    sourceCredibility := credibility
    relevance := event.relevance
    severity := event.severity
    mentionVelocity
    marketConfirmation
    crossSourceConfirmation
    freshness := event.freshness
    evidenceCount := event.evidenceCount }

/-- `Decimal` of hundredths. -/
def cents (n : ℕ) : ℚ := n / 100

/-- `total + metric * weight`, the weight in hundredths. -/
def addTerm (total : ℚ) (term : UnitRat × ℕ) : Option ℚ := do
  Context.default.add total (← Context.default.mul term.1 (cents term.2))

/-- The sum of the weighted metrics, from left to right. -/
def weightedSum : List (UnitRat × ℕ) → Option ℚ
  | [] => some 0
  | term :: terms => do
      terms.foldlM addTerm (← Context.default.mul term.1 (cents term.2))

/-- The terms of the score. -/
def ImpactInputs.terms (i : ImpactInputs) : List (UnitRat × ℕ) :=
  [(i.sourceCredibility, 20), (i.relevance, 20), (i.severity, 20), (i.mentionVelocity, 10),
    (i.marketConfirmation, 15), (i.crossSourceConfirmation, 10), (i.freshness, 5)]

/-- `score -= 15` without evidence, `score += 5` with three pieces of it. -/
def adjustForEvidence (evidenceCount : ℕ) (score : ℚ) : Option ℚ :=
  if evidenceCount = 0 then Context.default.sub score 15
  else if 3 ≤ evidenceCount then Context.default.add score 5
  else some score

/-- `min(100, max(0, score))`. -/
def clampPercent (q : ℚ) : Percent :=
  ⟨min 100 (max 0 q), le_min (by norm_num) (le_max_left _ _), min_le_left _ _⟩

/-- The score of the metrics; `none` is a trap. -/
def impactOf (i : ImpactInputs) : Option Percent := do
  let score ← Context.default.mul (← weightedSum i.terms) 100
  let score ← adjustForEvidence i.evidenceCount score
  let score ← Context.default.quantizeHalfEven score (-2)
  return clampPercent score

/-- `_impact_score`. -/
def impactScore [UnicodeData] [LowerData] (event : TriggerEvent) : Except PyError Percent := do
  orRaise (impactOf (← impactInputs event)) .decimal

/-! ### Decisions -/

/-- `_is_risk_blocking_event`. -/
def isRiskBlockingEvent [UnicodeData] [LowerData] (event : TriggerEvent) : Bool :=
  let flag := LowerData.lower (strip ((event.payload.get? "risk_blocker").getD ""))
  let text := upper (event.domain ++ " " ++ event.eventType ++ " " ++
    (event.payload.get? "category").getD "")
  ["1", "true", "yes"].contains flag || riskBlockingTypes.any (containsText · text)

/-- `_decision`. -/
def newDecision (event : TriggerEvent) (impactScore : Percent) (action : TriggerAction)
    (blockers : List String) : TriggerDecision where
  eventId := event.eventId
  eventType := event.eventType
  domain := event.domain
  entity := event.entity
  impactScore
  action
  researchRequired := [.research, .alert, .block].contains action
  blockers
  dedupKey := event.dedupKey
  source := event.source
  detectedAt := event.detectedAt

/-- `_decision_sort_key`. -/
def decisionSortKey (decision : TriggerDecision) : ℚ ×ₗ ℤ ×ₗ String :=
  toLex ((decision.impactScore : ℚ), toLex (decision.detectedAt, decision.eventId))

namespace EnterpriseEventTriggerEngine

variable (engine : EnterpriseEventTriggerEngine)

/-- `_action`. -/
def action [UnicodeData] [LowerData] (event : TriggerEvent) (score : ℚ) : TriggerAction :=
  if score < engine.watchThreshold then .ignore
  else if score < engine.researchThreshold then .watch
  else if score < engine.alertThreshold then .research
  else if isRiskBlockingEvent event && decide (engine.alertThreshold ≤ score) then .block
  else .alert

/-- `evaluate`. -/
def evaluate [UnicodeData] [LowerData] (event : TriggerEvent) : Except PyError TriggerDecision :=
  if marketResearchDomains.contains event.domain &&
      event.entity.any (!isBinanceCoinResearchSymbol ·) then
    .ok (newDecision event ⟨0, by norm_num⟩ .ignore
      ["EXCLUDED_STABLE_WRAPPED_OR_LEVERAGED_TOKEN"])
  else do
    let score ← impactScore event
    let action := engine.action event score
    return newDecision event score action
      (if action = .block then ["RISK_RESEARCH_BLOCKER"] else [])

/-- The loop of `evaluate_many`: the dictionary of the decisions. -/
def keepDecision [UnicodeData] [LowerData] (kept : List TriggerDecision) (event : TriggerEvent) :
    Except PyError (List TriggerDecision) := do
  return note (·.dedupKey) decisionSortKey kept (← engine.evaluate event)

/-- `evaluate_many`. -/
def evaluateMany [UnicodeData] [LowerData] (events : List TriggerEvent) :
    Except PyError (List TriggerDecision) := do
  let kept ← events.foldlM engine.keepDecision []
  return kept.insertionSort fun d d' => decisionSortKey d' ≤ decisionSortKey d

end EnterpriseEventTriggerEngine

/-! ### The score is monotone -/

section Score

variable {total total' : ℚ} {term term' : UnitRat × ℕ} {terms terms' : List (UnitRat × ℕ)} {n : ℕ}

/-- Hundredths are values of the default context. -/
lemma representable_cents (hn : n < 10 ^ 28) : Context.default.Representable (cents n) := by
  have hgrid := Context.representable_of_grid (c := Context.default) (n := n) (e := -2) hn
    (by decide) (by decide)
  have hcents : cents n = n * (10 : ℚ) ^ (-2 : ℤ) := by
    rw [cents]
    norm_num
    ring
  rw [hcents]
  exact hgrid

/-- Rounding in the default context, of a value that is not above hundredths. -/
lemma exists_round_cents {v : ℚ} (hn : n < 10 ^ 28) (hv : 0 ≤ v) (hle : v ≤ cents n) :
    ∃ r, Context.default.round v = some r ∧ 0 ≤ r ∧ r ≤ cents n := by
  obtain ⟨r, hr, habs⟩ := Context.exists_round (c := Context.default) (by decide) (by decide)
    (representable_cents hn) ((abs_of_nonneg hv).trans_le hle)
  exact ⟨r, hr, Context.round_nonneg hv hr, (le_abs_self r).trans habs⟩

lemma cents_nonneg (n : ℕ) : 0 ≤ cents n := by
  rw [cents]
  positivity

lemma cents_add (m n : ℕ) : cents m + cents n = cents (m + n) := by
  rw [cents, cents, cents]
  push_cast
  ring

/-- A weighted metric is at most its weight. -/
lemma exists_mul_cents (term : UnitRat × ℕ) (hn : term.2 < 10 ^ 28) :
    ∃ r, Context.default.mul term.1 (cents term.2) = some r ∧ 0 ≤ r ∧ r ≤ cents term.2 :=
  exists_round_cents hn (mul_nonneg term.1.2.1 (cents_nonneg _))
    (mul_le_of_le_one_left (cents_nonneg _) term.1.2.2)

/-- One more term. -/
lemma exists_addTerm (term : UnitRat × ℕ) (hn : n + term.2 < 10 ^ 28) (h : 0 ≤ total ∧ total ≤ cents n) :
    ∃ r, addTerm total term = some r ∧ 0 ≤ r ∧ r ≤ cents (n + term.2) := by
  obtain ⟨product, hproduct, hpos, hle⟩ := exists_mul_cents term (by omega)
  rw [addTerm, hproduct]
  exact exists_round_cents hn (add_nonneg h.1 hpos)
    ((add_le_add h.2 hle).trans_eq (cents_add n term.2))

/-- Terms of which the metrics are no larger and the weights the same. -/
def TermLE (term term' : UnitRat × ℕ) : Prop := term.1 ≤ term'.1 ∧ term.2 = term'.2

lemma mul_cents_mono {r r' : ℚ} (h : TermLE term term')
    (hr : Context.default.mul term.1 (cents term.2) = some r)
    (hr' : Context.default.mul term'.1 (cents term'.2) = some r') : r ≤ r' := by
  refine Context.round_mono (by decide) ?_ hr hr'
  rw [h.2]
  exact mul_le_mul_of_nonneg_right h.1 (cents_nonneg _)

lemma addTerm_mono {r r' : ℚ} (htotal : total ≤ total') (h : TermLE term term')
    (hr : addTerm total term = some r) (hr' : addTerm total' term' = some r') : r ≤ r' := by
  obtain ⟨product, hproduct, hr⟩ := Option.bind_eq_some_iff.mp hr
  obtain ⟨product', hproduct', hr'⟩ := Option.bind_eq_some_iff.mp hr'
  exact Context.round_mono (by decide) (add_le_add htotal (mul_cents_mono h hproduct hproduct'))
    hr hr'

/-- **A sum of weighted metrics** is at most that of its weights, and monotone. -/
lemma foldlM_addTerm (h : List.Forall₂ TermLE terms terms') (htotal : total ≤ total')
    (hpos : 0 ≤ total) (hle : total' ≤ cents n) (hn : n + (terms'.map (·.2)).sum < 10 ^ 28) :
    ∃ r r', terms.foldlM addTerm total = some r ∧ terms'.foldlM addTerm total' = some r' ∧
      0 ≤ r ∧ r ≤ r' ∧ r' ≤ cents (n + (terms'.map (·.2)).sum) := by
  induction h generalizing total total' n with
  | nil => exact ⟨total, total', rfl, rfl, hpos, htotal, by simpa using hle⟩
  | @cons term term' terms terms' hterm _ ih =>
      rw [List.map_cons, List.sum_cons, ← add_assoc] at hn ⊢
      obtain ⟨next, hnext, hnextpos, -⟩ := exists_addTerm term (n := n)
        (by rw [hterm.2]; omega) ⟨hpos, htotal.trans hle⟩
      obtain ⟨next', hnext', -, hnextle⟩ := exists_addTerm term' (n := n) (by omega)
        ⟨hpos.trans htotal, hle⟩
      obtain ⟨r, r', hr, hr', hbounds⟩ := ih (addTerm_mono htotal hterm hnext hnext') hnextpos
        hnextle hn
      refine ⟨r, r', ?_, ?_, hbounds⟩
      · rw [List.foldlM_cons, hnext]
        exact hr
      · rw [List.foldlM_cons, hnext']
        exact hr'

lemma weightedSum_mono (h : List.Forall₂ TermLE terms terms')
    (hn : (terms'.map (·.2)).sum < 10 ^ 28) :
    ∃ r r', weightedSum terms = some r ∧ weightedSum terms' = some r' ∧
      0 ≤ r ∧ r ≤ r' ∧ r' ≤ cents (terms'.map (·.2)).sum := by
  cases h with
  | nil => exact ⟨0, 0, rfl, rfl, le_rfl, le_rfl, cents_nonneg _⟩
  | @cons term term' terms terms' hterm hterms =>
      rw [List.map_cons, List.sum_cons] at hn ⊢
      obtain ⟨first, hfirst, hpos, -⟩ := exists_mul_cents term (by rw [hterm.2]; omega)
      obtain ⟨first', hfirst', -, hle⟩ := exists_mul_cents term' (by omega)
      obtain ⟨r, r', hr, hr', hbounds⟩ := foldlM_addTerm hterms
        (mul_cents_mono hterm hfirst hfirst') hpos hle hn
      refine ⟨r, r', ?_, ?_, hbounds⟩
      · rw [weightedSum, hfirst]
        exact hr
      · rw [weightedSum, hfirst']
        exact hr'

/-- The adjustment for evidence keeps the order of scores, and their range. -/
lemma adjustForEvidence_mono {score score' : ℚ} (hpos : 0 ≤ score) (hle : score ≤ score')
    (hmax : score' ≤ 100) (evidenceCount : ℕ) :
    ∃ r r', adjustForEvidence evidenceCount score = some r ∧
      adjustForEvidence evidenceCount score' = some r' ∧ r ≤ r' ∧ |r| ≤ 105 ∧ |r'| ≤ 105 := by
  have hbound : Context.default.Representable 105 := by
    have h := representable_cents (n := 10500) (by norm_num)
    have hcents : cents 10500 = 105 := by norm_num [cents]
    rwa [hcents] at h
  have hround : ∀ v w : ℚ, v ≤ w → |v| ≤ 105 → |w| ≤ 105 →
      ∃ r r', Context.default.round v = some r ∧ Context.default.round w = some r' ∧ r ≤ r' ∧
        |r| ≤ 105 ∧ |r'| ≤ 105 := by
    intro v w hvw hv hw
    obtain ⟨r, hr, hrle⟩ := Context.exists_round (c := Context.default) (by decide) (by decide)
      hbound hv
    obtain ⟨r', hr', hrle'⟩ := Context.exists_round (c := Context.default) (by decide) (by decide)
      hbound hw
    exact ⟨r, r', hr, hr', Context.round_mono (by decide) hvw hr hr', hrle, hrle'⟩
  rw [adjustForEvidence, adjustForEvidence]
  split_ifs
  · exact hround _ _ (by linarith) (abs_le.mpr ⟨by linarith, by linarith⟩)
      (abs_le.mpr ⟨by linarith, by linarith⟩)
  · exact hround _ _ (by linarith) (abs_le.mpr ⟨by linarith, by linarith⟩)
      (abs_le.mpr ⟨by linarith, by linarith⟩)
  · exact ⟨score, score', rfl, rfl, hle, abs_le.mpr ⟨by linarith, by linarith⟩,
      abs_le.mpr ⟨by linarith, by linarith⟩⟩

lemma clampPercent_mono {q q' : ℚ} (h : q ≤ q') : clampPercent q ≤ clampPercent q' :=
  Subtype.mk_le_mk.mpr (min_le_min_left 100 (max_le_max_left 0 h))

/-- The weighted sum of at most one, as a percentage. -/
lemma exists_percentage {sum : ℚ} (hpos : 0 ≤ sum) (hle : sum ≤ cents 100) :
    ∃ r, Context.default.mul sum 100 = some r ∧ 0 ≤ r ∧ r ≤ 100 := by
  have hone : cents 100 = 1 := by norm_num [cents]
  have hhundred : (100 : ℚ) = cents 10000 := by norm_num [cents]
  rw [hone] at hle
  have hproduct : sum * 100 ≤ cents 10000 := by
    rw [← hhundred]
    linarith
  obtain ⟨r, hr, hrpos, hrle⟩ := exists_round_cents (by norm_num)
    (mul_nonneg hpos (by norm_num)) hproduct
  exact ⟨r, hr, hrpos, hrle.trans_eq hhundred.symm⟩

/-- A score of at most three digits before the point is quantized to hundredths. -/
lemma exists_hundredths {score : ℚ} (h : |score| ≤ 105) :
    ∃ q, Context.default.quantizeHalfEven score (-2) = some q := by
  have hdigits : (10500 : ℤ).natAbs < 10 ^ Context.default.prec := by decide
  have hcast : (105 : ℚ) = ((10500 : ℤ) : ℚ) * 10 ^ (-2 : ℤ) := by norm_num
  exact Context.exists_quantizeHalfEven hdigits (h.trans_eq hcast)

/-- Metrics that are no larger, with the same evidence. -/
structure ImpactInputs.LE (i i' : ImpactInputs) : Prop where
  sourceCredibility : i.sourceCredibility ≤ i'.sourceCredibility
  relevance : i.relevance ≤ i'.relevance
  severity : i.severity ≤ i'.severity
  mentionVelocity : i.mentionVelocity ≤ i'.mentionVelocity
  marketConfirmation : i.marketConfirmation ≤ i'.marketConfirmation
  crossSourceConfirmation : i.crossSourceConfirmation ≤ i'.crossSourceConfirmation
  freshness : i.freshness ≤ i'.freshness
  evidenceCount : i.evidenceCount = i'.evidenceCount

/-- **The score is monotone in its metrics**, and never traps. -/
theorem impactOf_mono {i i' : ImpactInputs} (h : i.LE i') :
    ∃ s s', impactOf i = some s ∧ impactOf i' = some s' ∧ s ≤ s' := by
  have hterms : List.Forall₂ TermLE i.terms i'.terms :=
    .cons ⟨h.sourceCredibility, rfl⟩ (.cons ⟨h.relevance, rfl⟩ (.cons ⟨h.severity, rfl⟩
      (.cons ⟨h.mentionVelocity, rfl⟩ (.cons ⟨h.marketConfirmation, rfl⟩
        (.cons ⟨h.crossSourceConfirmation, rfl⟩ (.cons ⟨h.freshness, rfl⟩ .nil))))))
  have hweights : (i'.terms.map (·.2)).sum = 100 := rfl
  obtain ⟨sum, sum', hsum, hsum', hpos, hle, hmax⟩ := weightedSum_mono hterms (by
    rw [hweights]
    norm_num)
  rw [hweights] at hmax
  obtain ⟨score, hscore, hscorepos, -⟩ := exists_percentage hpos (hle.trans hmax)
  obtain ⟨score', hscore', -, hscoremax⟩ := exists_percentage (hpos.trans hle) hmax
  have hscorele : score ≤ score' :=
    Context.round_mono (by decide) (mul_le_mul_of_nonneg_right hle (by norm_num)) hscore hscore'
  obtain ⟨r, r', hr, hr', hrle, habs, habs'⟩ :=
    adjustForEvidence_mono hscorepos hscorele hscoremax i'.evidenceCount
  obtain ⟨q, hq⟩ := exists_hundredths habs
  obtain ⟨q', hq'⟩ := exists_hundredths habs'
  refine ⟨clampPercent q, clampPercent q', ?_, ?_,
    clampPercent_mono (Context.quantizeHalfEven_mono hrle hq hq')⟩
  · simp only [impactOf, hsum, h.evidenceCount, Option.bind_eq_bind, Option.bind_some, hscore, hr,
      hq, Option.pure_def]
  · simp only [impactOf, hsum', Option.bind_eq_bind, Option.bind_some, hscore', hr', hq',
      Option.pure_def]

end Score

/-! ### Decisions in any order -/

section Order

variable [UnicodeData] [LowerData] {engine : EnterpriseEventTriggerEngine}
  {events : List TriggerEvent} {decisions out : List TriggerDecision}

open EnterpriseEventTriggerEngine

/-- The loop keeps the decisions of the events. -/
lemma foldlM_keepDecision {kept : List TriggerDecision} :
    events.foldlM engine.keepDecision kept = .ok out ↔
      ∃ decisions, events.mapM engine.evaluate = .ok decisions ∧
        decisions.foldl (note (·.dedupKey) decisionSortKey) kept = out := by
  induction events generalizing kept with
  | nil =>
      rw [List.foldlM_nil, List.mapM_nil]
      simp only [pure_eq_ok, exists_eq_left', List.foldl_nil]
  | cons event events ih =>
      rw [List.foldlM_cons, List.mapM_cons, keepDecision]
      cases hevent : engine.evaluate event with
      | error e => simp
      | ok decision =>
          simp only [ok_bind, bind_eq_ok, pure_eq_ok, exists_eq_left', ih]
          constructor
          · rintro ⟨decisions, hdecisions, hout⟩
            exact ⟨decision :: decisions, ⟨decisions, hdecisions, rfl⟩, hout⟩
          · rintro ⟨_, ⟨decisions, hdecisions, rfl⟩, hout⟩
            exact ⟨decisions, hdecisions, hout⟩

/-- **The decisions of a list** are the best of those of its events, ranked. -/
lemma evaluateMany_eq_ok : engine.evaluateMany events = .ok out ↔
    ∃ decisions, events.mapM engine.evaluate = .ok decisions ∧
      ranked (·.dedupKey) decisionSortKey decisions = out := by
  rw [evaluateMany, bind_eq_ok]
  simp only [foldlM_keepDecision, pure_eq_ok]
  constructor
  · rintro ⟨_, ⟨decisions, hdecisions, rfl⟩, hout⟩
    exact ⟨decisions, hdecisions, hout⟩
  · rintro ⟨decisions, hdecisions, hout⟩
    exact ⟨_, ⟨decisions, hdecisions, rfl⟩, hout⟩

/-- The decisions of the events in another order. -/
lemma mapM_perm {events' : List TriggerEvent}
    (h : events.mapM engine.evaluate = .ok decisions) (hperm : events.Perm events') :
    ∃ decisions', events'.mapM engine.evaluate = .ok decisions' ∧ decisions.Perm decisions' := by
  obtain ⟨decisions', hdecisions', hperm'⟩ := List.perm_comp_forall₂ hperm.symm (mapM_eq_ok.mp h)
  exact ⟨decisions', mapM_eq_ok.mpr hdecisions', hperm'.symm⟩

/-- Any order of the decisions is one of the events. -/
lemma exists_perm_of_decisions {decisions' : List TriggerDecision}
    (h : events.mapM engine.evaluate = .ok decisions) (hperm : decisions.Perm decisions') :
    ∃ events', events.Perm events' ∧ events'.mapM engine.evaluate = .ok decisions' := by
  have hflip := List.Forall₂.flip (mapM_eq_ok.mp h)
  obtain ⟨events', hevents', hperm'⟩ := List.perm_comp_forall₂ hperm.symm hflip
  exact ⟨events', hperm'.symm, mapM_eq_ok.mpr hevents'.flip⟩

/-- One decision a dedup key, the one of the highest sort key, in descending order of score. -/
structure Deduplicates (decisions out : List TriggerDecision) : Prop where
  best : IsBest (·.dedupKey) decisionSortKey decisions out
  descending : out.Pairwise fun d d' => d'.impactScore ≤ d.impactScore

variable (engine) in
/-- **The answer to a list does not depend on its order.** -/
def OrderIndependent (events : List TriggerEvent) : Prop :=
  ∃ decisions out, events.mapM engine.evaluate = .ok decisions ∧ Deduplicates decisions out ∧
    ∀ events', events.Perm events' → engine.evaluateMany events' = .ok out

omit [UnicodeData] [LowerData] in
/-- Ranked decisions descend in score. -/
lemma ranked_deduplicates (decisions : List TriggerDecision) :
    Deduplicates decisions (ranked (·.dedupKey) decisionSortKey decisions) := by
  refine ⟨ranked_isBest _ _ decisions, (ranked_pairwise decisions).imp fun {d d'} hle => ?_⟩
  rcases (Prod.Lex.le_iff.mp hle) with hlt | ⟨heq, -⟩
  · exact (show (d'.impactScore : ℚ) < d.impactScore from hlt).le
  · exact (show (d'.impactScore : ℚ) = d.impactScore from heq).le

end Order

/-! ### Two events of one identifier -/

/-- An event of a story. -/
def storyEvent (entity dedupKey : String)
    (h : ["event-1", "TECH_RELEASE", "TECHNOLOGY", "feed", dedupKey].all fun value =>
      !isBlank value) : TriggerEvent where
  eventId := "event-1"
  eventType := "TECH_RELEASE"
  domain := "TECHNOLOGY"
  entity := some entity
  detectedAt := 0
  source := "feed"
  severity := ⟨1, by norm_num⟩
  confidence := ⟨1, by norm_num⟩
  relevance := ⟨1, by norm_num⟩
  freshness := ⟨1, by norm_num⟩
  evidenceCount := 2
  dedupKey
  identity_not_blank := h
  payload_not_blank := rfl

end Ai4Binance

/-
The checker of a candle health report agrees with its producer.

A verified report is accepted as long as the last completed boundary of five minutes is the same:
then the boundaries of the other timeframes are the same too, and with them every window.  The
checker refuses lists of more than a hundred symbols, lists that name a symbol twice, and symbols
that are not in their normal form.

* `completedBoundary_congr`: boundaries of five minutes determine the others;
* `MarketSymbols.Declared`: the lists that the checker accepts;
* `candleHealthStatus_iff`: when a verified report is accepted;
* `wholeSeconds_eq`: the float of a time keeps its seconds from 1970 until 2514;
* `candle_health_agrees`: **the checker agrees with the producer.**
-/
import Ai4Binance.Data.ArchiveManifest
import Ai4Binance.Data.CandleHealthRows

namespace Ai4Binance

open Text Check

variable {market symbol timeframe : String} {cutoff now : Moment} {window : AcquisitionWindow}
  {duration boundary : ℤ}

/-! ### Boundaries -/

lemma fromtimestamp_eq_ok {seconds : ℤ} : fromtimestamp seconds = .ok boundary ↔
    firstYearSecond ≤ seconds ∧ seconds ≤ EpochTime.lastYearSecond ∧
      seconds * 1000000 = boundary := by
  simp only [fromtimestamp, bind_eq_ok, raiseIf_eq_ok, exists_const, pure_eq_ok, not_or, not_lt,
    and_assoc]

/-- A boundary of the profile, from the whole seconds of the time. -/
lemma completedBoundary_eq_ok {steps t offset : ℤ}
    (hduration : timeframeDuration timeframe = .ok (steps * 300000000)) :
    completedBoundary (.aware t offset) timeframe =
      fromtimestamp (wholeSeconds t / 300 / steps * (steps * 300)) := by
  have hseconds : steps * 300000000 / 1000000 = 300 * steps := by omega
  simp only [completedBoundary, hduration, archived, Except.mapError, ok_bind, hseconds]
  rw [← Int.ediv_ediv_of_nonneg (by norm_num : (0 : ℤ) ≤ 300), mul_comm (300 : ℤ)]

/-- The time is aware when it has a boundary. -/
lemma aware_of_boundary (h : completedBoundary cutoff timeframe = .ok boundary) :
    ∃ t offset, cutoff = .aware t offset := by
  cases cutoff with
  | aware t offset => exact ⟨t, offset, rfl⟩
  | naive wall => simp [completedBoundary] at h

/-- Two times with the same boundary of five minutes have the same boundaries. -/
lemma completedBoundary_congr (htimeframe : timeframe ∈ profileTimeframes)
    (h : completedBoundary cutoff "5m" = .ok boundary)
    (hsame : completedBoundary now "5m" = .ok boundary) :
    completedBoundary now timeframe = completedBoundary cutoff timeframe := by
  obtain ⟨t, offset, rfl⟩ := aware_of_boundary h
  obtain ⟨u, offset', rfl⟩ := aware_of_boundary hsame
  obtain ⟨steps, -, -, hduration⟩ := profile_duration htimeframe
  have hfive : timeframeDuration "5m" = .ok (1 * 300000000) :=
    toOption_eq_some.mp (by decide +kernel)
  rw [completedBoundary_eq_ok hfive, fromtimestamp_eq_ok] at h hsame
  have hseconds : wholeSeconds u / 300 = wholeSeconds t / 300 := by omega
  rw [completedBoundary_eq_ok hduration, completedBoundary_eq_ok hduration, hseconds]

/-- The windows of a stream are the same at times with the same boundary. -/
lemma window_iff (hwindow : candleHealthWindow market timeframe cutoff = .ok window) :
    candleHealthWindow market timeframe now = .ok window ↔
      completedBoundary now timeframe = completedBoundary cutoff timeframe := by
  obtain ⟨hmarket, htimeframe, duration, hduration, boundary, hboundary, hcalendar, rfl⟩ :=
    candleHealthWindow_eq_ok.mp hwindow
  rw [hboundary]
  constructor
  · intro hnow
    obtain ⟨-, -, _, -, boundary', hboundary', -, hsame⟩ := candleHealthWindow_eq_ok.mp hnow
    rw [hboundary', (AcquisitionWindow.mk.inj hsame).2.2.2.1]
  · intro hnow
    exact candleHealthWindow_eq_ok.mpr
      ⟨hmarket, htimeframe, duration, hduration, boundary, hnow, hcalendar, rfl⟩

/-! ### The listed symbols -/

section Listed

variable [UnicodeData] {symbols : MarketSymbols}

/-- The lists that the checker accepts. -/
structure MarketSymbols.Declared (symbols : MarketSymbols) : Prop where
  length_le : ∀ market ∈ healthMarkets, (symbols.get market).length ≤ 100
  nodup : ∀ market ∈ healthMarkets, (symbols.get market).Nodup
  normalized : ∀ market ∈ healthMarkets, ∀ symbol ∈ symbols.get market,
    validateIdentity symbol "1d" "health" = .ok symbol

lemma checkSymbols_eq_ok {listed : List String} : checkSymbols listed = .ok () ↔
    listed.length ≤ 100 ∧
      ∀ symbol ∈ listed, validateIdentity symbol "1d" "health" = .ok symbol := by
  simp only [checkSymbols, bind_eq_ok, raiseIf_eq_ok, exists_const, not_lt, forM_eq_ok, not_not]
  refine and_congr_right fun _ => forall₂_congr fun symbol _ => ?_
  constructor
  · rintro ⟨normalized, hnormalized, rfl⟩
    exact hnormalized
  · exact fun h => ⟨symbol, h, rfl⟩

lemma candleHealthIdentities_eq_ok {identities : Finset (String × String × String)} :
    candleHealthIdentities symbols = .ok identities ↔
      (∀ market ∈ healthMarkets, (symbols.get market).length ≤ 100 ∧
        ∀ symbol ∈ symbols.get market, validateIdentity symbol "1d" "health" = .ok symbol) ∧
      symbols.streams.toFinset = identities := by
  simp only [candleHealthIdentities, bind_eq_ok, pure_eq_ok]
  constructor
  · rintro ⟨⟨⟩, hloop, hidentities⟩
    exact ⟨fun market hmarket => checkSymbols_eq_ok.mp (forM_eq_ok.mp hloop market hmarket),
      hidentities⟩
  · rintro ⟨hlists, hidentities⟩
    exact ⟨(), forM_eq_ok.mpr fun market hmarket => checkSymbols_eq_ok.mpr (hlists market hmarket),
      hidentities⟩

omit [UnicodeData] in
lemma mem_streams : (market, symbol, timeframe) ∈ symbols.streams ↔
    market ∈ healthMarkets ∧ symbol ∈ symbols.get market ∧ timeframe ∈ profileTimeframes := by
  simp only [MarketSymbols.streams, List.mem_flatMap, List.mem_map, Prod.mk.injEq]
  constructor
  · rintro ⟨market, hmarket, symbol, hsymbol, timeframe, htimeframe, rfl, rfl, rfl⟩
    exact ⟨hmarket, hsymbol, htimeframe⟩
  · rintro ⟨hmarket, hsymbol, htimeframe⟩
    exact ⟨market, hmarket, symbol, hsymbol, timeframe, htimeframe, rfl, rfl, rfl⟩

omit [UnicodeData] in
/-- No stream is listed twice when no symbol is. -/
lemma nodup_streams :
    symbols.streams.Nodup ↔ ∀ market ∈ healthMarkets, (symbols.get market).Nodup := by
  have hmarket (market : String) : ((symbols.get market).flatMap fun symbol =>
      profileTimeframes.map fun timeframe => (market, symbol, timeframe)).Nodup ↔
        (symbols.get market).Nodup := by
    rw [List.nodup_flatMap, List.Nodup]
    constructor
    · rintro ⟨-, hdisjoint⟩
      refine hdisjoint.imp fun {symbol _} hsymbols hsame => ?_
      subst hsame
      exact hsymbols (a := (market, symbol, "5m")) (by simp [profileTimeframes])
        (by simp [profileTimeframes])
    · intro hnodup
      refine ⟨fun symbol _ => ?_, hnodup.imp fun {symbol symbol'} hne => ?_⟩
      · exact List.Nodup.map (fun _ _ h => by simpa using h) (by decide)
      · simp only [Function.onFun, List.disjoint_left, List.mem_map]
        rintro _ ⟨timeframe, -, rfl⟩ ⟨timeframe', -, hsame⟩
        exact hne (Prod.mk.inj (Prod.mk.inj hsame).2).1.symm
  rw [MarketSymbols.streams, List.nodup_flatMap]
  simp only [hmarket]
  refine and_iff_left ?_
  have hmarkets : healthMarkets.Nodup := by decide
  refine hmarkets.imp fun {market market'} hne => ?_
  simp only [Function.onFun, List.disjoint_left, List.mem_flatMap, List.mem_map]
  rintro _ ⟨symbol, -, timeframe, -, rfl⟩ ⟨symbol', -, timeframe', -, hsame⟩
  exact hne (Prod.mk.inj hsame).1.symm

lemma declared_iff : symbols.Declared ↔
    (∀ market ∈ healthMarkets, (symbols.get market).length ≤ 100 ∧
      ∀ symbol ∈ symbols.get market, validateIdentity symbol "1d" "health" = .ok symbol) ∧
      symbols.streams.Nodup := by
  rw [nodup_streams]
  exact ⟨fun h => ⟨fun market hmarket => ⟨h.length_le market hmarket, h.normalized market hmarket⟩,
    h.nodup⟩, fun h => ⟨fun market hmarket => (h.1 market hmarket).1, h.2,
      fun market hmarket => (h.1 market hmarket).2⟩⟩

/-- The exceptions of a computation are among those that the checker answers. -/
def Refuses {α : Type} (x : Except ArchiveError α) : Prop :=
  ∀ e, x = .error e → (HealthError.archive e).isRefusal = true

section Refuses

omit [UnicodeData]

variable {α β : Type}

lemma refuses_ok (a : α) : Refuses (.ok a) := fun _ h => nomatch h

lemma refuses_value (message : String) :
    Refuses (.error (.value message) : Except ArchiveError α) :=
  fun _ h => Except.error.inj h ▸ rfl

lemma refuses_raiseIf (p : Prop) [Decidable p] (message : String) :
    Refuses (raiseIf p (.value message)) := by
  rw [raiseIf]
  split_ifs
  · exact refuses_value message
  · exact refuses_ok ()

lemma Refuses.bind {x : Except ArchiveError α} {f : α → Except ArchiveError β} (hx : Refuses x)
    (hf : ∀ a, Refuses (f a)) : Refuses (x >>= f) := by
  cases x with
  | error e => exact fun e' h => hx e' (congrArg Except.error (Except.error.inj h))
  | ok a => exact hf a

lemma refuses_forM {f : α → Except ArchiveError Unit} (hf : ∀ a, Refuses (f a)) (l : List α) :
    Refuses (l.forM f) := by
  induction l with
  | nil => exact refuses_ok ()
  | cons a l ih => exact (hf a).bind fun _ => ih

lemma refuses_timeframeDuration (timeframe : String) : Refuses (timeframeDuration timeframe) := by
  rw [timeframeDuration]
  cases timeframeSeconds.lookup timeframe with
  | none => exact refuses_value _
  | some seconds => exact refuses_ok _

end Refuses

lemma refuses_validateIdentity (symbol timeframe source : String) :
    Refuses (validateIdentity symbol timeframe source) :=
  (refuses_raiseIf _ _).bind fun _ => (refuses_timeframeDuration _).bind fun _ =>
    (refuses_raiseIf _ _).bind fun _ => refuses_ok _

/-- The checks of the listed symbols raise nothing but `ValueError`s. -/
lemma refuses_identities (symbols : MarketSymbols) : Refuses (candleHealthIdentities symbols) :=
  (refuses_forM (fun _ => (refuses_raiseIf _ _).bind fun _ => refuses_forM (fun _ =>
    (refuses_validateIdentity _ _ _).bind fun _ => refuses_raiseIf _ _) _) _).bind fun _ =>
      refuses_ok _

end Listed

/-! ### Verified reports -/

section Reports

variable {File : Type} [WindowLibrary File] [UnicodeData] {archives : String → Archive File}
  {symbols : MarketSymbols} {universeBlockers : List String} {report : CandleHealthReport}

/-- A report whose every row is verified at the instant `t`. -/
structure VerifiedReport (archives : String → Archive File) (symbols : MarketSymbols) (t : ℤ)
    (cutoff : Moment) (report : CandleHealthReport) : Prop where
  scope : report.scope = candleHealthScope
  status : report.status = "VERIFIED"
  blockers : report.blockers = []
  safe : report.safe = {}
  symbols_eq : report.symbols = symbols
  observedAt : report.observedAt = utcText t
  rows : (symbols.streams.mapM fun (market, symbol, timeframe) =>
    verifiedCandleHealthStream archives market symbol timeframe cutoff) = .ok report.streams
  verified : ∀ row ∈ report.streams, row.status = "VERIFIED"
  nonempty : report.streams ≠ []
  streamCount : report.streamCount = report.streams.length
  verifiedCount : report.verifiedStreamCount = report.streams.length

omit [UnicodeData] in
/-- A verified report has rows, and all of them are verified. -/
lemma healthBlockers_eq_nil {rows : List CandleHealthRow}
    (h : healthBlockers universeBlockers rows = []) :
    rows ≠ [] ∧ ∀ row ∈ rows, row.status = "VERIFIED" := by
  obtain ⟨hfirst, hincomplete⟩ := List.append_eq_nil_iff.mp h
  obtain ⟨-, hempty⟩ := List.append_eq_nil_iff.mp hfirst
  refine ⟨fun hrows => ?_, fun row hrow => ?_⟩
  · rw [if_pos hrows] at hempty
    cases hempty
  · by_contra hpartial
    rw [if_pos ⟨row, hrow, hpartial⟩] at hincomplete
    cases hincomplete

lemma verifiedReport [LocalZone]
    (h : candleWindowHealth archives symbols cutoff universeBlockers = .ok report)
    (hverified : report.status = "VERIFIED") :
    ∃ t offset, cutoff = .aware t offset ∧ VerifiedReport archives symbols t cutoff report := by
  simp only [candleWindowHealth, bind_eq_ok, pure_eq_ok] at h
  obtain ⟨rows, hrows, observed, hobserved, rfl⟩ := h
  have hnone : healthBlockers universeBlockers rows = [] := by
    by_contra hsome
    rw [reportOf, if_pos hsome] at hverified
    exact absurd (show "PARTIAL" = "VERIFIED" from hverified) (by decide)
  obtain ⟨hne, hall⟩ := healthBlockers_eq_nil hnone
  -- the first row has a window, so the cutoff is aware
  obtain ⟨t, offset, rfl⟩ : ∃ t offset, cutoff = .aware t offset := by
    obtain ⟨row, hrow⟩ := List.exists_mem_of_ne_nil rows hne
    obtain ⟨⟨market, symbol, timeframe⟩, -, hstream⟩ := mem_of_mapM_eq_ok hrows hrow
    obtain ⟨window, hwindow, -⟩ := verifiedCandleHealthStream_eq_ok.mp hstream
    obtain ⟨-, -, -, -, boundary, hboundary, -⟩ := candleHealthWindow_eq_ok.mp hwindow
    exact aware_of_boundary hboundary
  simp only [Moment.astimezone, bind_eq_ok, raiseIf_eq_ok, exists_const, pure_eq_ok] at hobserved
  obtain ⟨-, rfl⟩ := hobserved
  exact ⟨t, offset, rfl, {
    scope := rfl
    status := hverified
    blockers := by simp [reportOf, hnone]
    safe := rfl
    symbols_eq := rfl
    observedAt := rfl
    rows := hrows
    verified := hall
    nonempty := hne
    streamCount := rfl
    verifiedCount := List.countP_eq_length.mpr fun row hrow => decide_eq_true (hall row hrow) }⟩

namespace VerifiedReport

variable {t offset : ℤ} (h : VerifiedReport archives symbols t cutoff report)

include h

lemma identities : report.streams.map (·.identity) = symbols.streams :=
  map_of_mapM_eq_ok h.rows fun (_, _, _) _ hrow => identity_of_stream hrow

/-- The row of a stream attests the window of the stream at the cutoff. -/
lemma attested {row : CandleHealthRow} (hrow : row ∈ report.streams) :
    ∃ window duration lineage, candleHealthWindow row.market row.timeframe cutoff = .ok window ∧
      timeframeDuration row.timeframe = .ok duration ∧ row.Attests window duration lineage ∧
      WindowVerified (archives row.market) row.symbol window duration lineage := by
  obtain ⟨⟨market, symbol, timeframe⟩, -, hstream⟩ := mem_of_mapM_eq_ok h.rows hrow
  obtain ⟨rfl, rfl, rfl⟩ := Prod.mk.inj (identity_of_stream hstream) |>.imp id Prod.mk.inj
  exact exists_attested hstream (h.verified row hrow)

lemma length_streams : report.streams.length = symbols.streams.length := by
  rw [← h.identities, List.length_map]

/-- The counts of the checker differ exactly when a stream is listed twice. -/
lemma mismatch_iff : (symbols.streams.toFinset = ∅ ∨
    (report.streams.map (·.identity)).toFinset ≠ symbols.streams.toFinset ∨
      report.streams.length ≠ symbols.streams.toFinset.card ∨
      report.streamCount ≠ symbols.streams.toFinset.card ∨
      report.verifiedStreamCount ≠ symbols.streams.toFinset.card) ↔ ¬ symbols.streams.Nodup := by
  have hcard : symbols.streams.length = symbols.streams.toFinset.card ↔ symbols.streams.Nodup := by
    rw [eq_comm, ← Multiset.coe_nodup, ← Multiset.toFinset_card_eq_card_iff_nodup,
      Multiset.coe_card, List.toFinset_coe]
  have hsome : symbols.streams.toFinset ≠ ∅ := by
    rw [Ne, List.toFinset_eq_empty_iff, ← List.length_eq_zero_iff, ← h.length_streams,
      List.length_eq_zero_iff]
    exact h.nonempty
  rw [h.identities, h.streamCount, h.verifiedCount, h.length_streams, ← hcard]
  simp [hsome]

lemma candleHealthStatus_eq : candleHealthStatus report now =
    refusedAs "NOT_VERIFIED" (listedStatus report now) := by
  rw [candleHealthStatus, if_neg (not_not.mpr h.scope), if_neg]
  simp [h.status, h.blockers, h.safe]

/-- When the checker accepts the report. -/
lemma listedStatus_iff : listedStatus report now = .ok "VERIFIED" ↔ symbols.Declared ∧
    ∃ age, (Moment.aware t 0).elapsed now = .ok age ∧ (0 ≤ age ∧ age < 300 * 1000000) ∧
      ∀ row ∈ report.streams, currentCandleHealthStream row now = .ok true := by
  simp only [listedStatus, bind_eq_ok, archived_eq_ok, h.symbols_eq, candleHealthIdentities_eq_ok,
    h.observedAt, utcText, IsoText.fromisoformat, Except.ok.injEq, exists_eq_left', ite_not]
  rw [declared_iff]
  constructor
  · rintro ⟨_, ⟨hlists, rfl⟩, hstatus⟩
    by_cases hmismatch : ¬ symbols.streams.Nodup
    · rw [if_pos (h.mismatch_iff.mpr hmismatch)] at hstatus
      exact absurd (pure_eq_ok.mp hstatus) (by decide)
    rw [if_neg (h.mismatch_iff.not.mpr hmismatch), bind_eq_ok] at hstatus
    obtain ⟨age, hage, hstatus⟩ := hstatus
    by_cases hfresh : 0 ≤ age ∧ age < 300 * 1000000
    · rw [if_pos hfresh, bind_eq_ok] at hstatus
      obtain ⟨current, hcurrent, hstatus⟩ := hstatus
      cases current with
      | false => exact absurd (pure_eq_ok.mp hstatus) (by decide)
      | true =>
          exact ⟨⟨hlists, not_not.mp hmismatch⟩, age, archived_eq_ok.mp hage, hfresh,
            allM_eq_ok.mp hcurrent⟩
    · rw [if_neg hfresh] at hstatus
      exact absurd (pure_eq_ok.mp hstatus) (by decide)
  · rintro ⟨⟨hlists, hnodup⟩, age, hage, hfresh, hcurrent⟩
    refine ⟨_, ⟨hlists, rfl⟩, ?_⟩
    rw [if_neg (h.mismatch_iff.not.mpr (not_not.mpr hnodup)), archived_eq_ok.mpr hage, ok_bind,
      if_pos hfresh, allM_eq_ok.mpr hcurrent]
    rfl

/-- Lists that are not declared are never accepted. -/
lemma not_verified_of_not_declared (hdeclared : ¬ symbols.Declared) :
    candleHealthStatus report now = .ok "NOT_VERIFIED" := by
  rw [h.candleHealthStatus_eq, listedStatus, h.symbols_eq]
  cases hidentities : candleHealthIdentities symbols with
  | error e =>
      simp only [archived, Except.mapError, error_bind, refusedAs,
        refuses_identities symbols e hidentities, if_true]
  | ok identities =>
      obtain ⟨hlists, rfl⟩ := candleHealthIdentities_eq_ok.mp hidentities
      have hrepeated : ¬ symbols.streams.Nodup := fun hnodup =>
        hdeclared (declared_iff.mpr ⟨hlists, hnodup⟩)
      simp only [archived, Except.mapError, ok_bind, h.observedAt, utcText, IsoText.fromisoformat]
      rw [if_pos (h.mismatch_iff.mpr hrepeated)]
      rfl

lemma exists_row {stream : String × String × String} (hstream : stream ∈ symbols.streams) :
    ∃ row ∈ report.streams, row.identity = stream := by
  rwa [← h.identities, List.mem_map] at hstream

/-- Some stream has candles of five minutes. -/
lemma exists_five : ∃ row ∈ report.streams, row.timeframe = "5m" := by
  obtain ⟨row, hmem⟩ := List.exists_mem_of_ne_nil _ h.nonempty
  have hstream : row.identity ∈ symbols.streams := by
    rw [← h.identities]
    exact List.mem_map_of_mem hmem
  obtain ⟨hmarket, hsymbol, -⟩ := mem_streams.mp hstream
  obtain ⟨five, hfive, hidentity⟩ :=
    h.exists_row (mem_streams.mpr ⟨hmarket, hsymbol, (by decide : "5m" ∈ profileTimeframes)⟩)
  exact ⟨five, hfive, (Prod.mk.inj (Prod.mk.inj hidentity).2).2⟩

/-- The windows are those of every time with the same boundary of five minutes. -/
lemma window_now (hsame : completedBoundary now "5m" = completedBoundary cutoff "5m")
    (hwindow : candleHealthWindow market timeframe cutoff = .ok window) :
    candleHealthWindow market timeframe now = .ok window := by
  obtain ⟨five, hmem, hfive⟩ := h.exists_five
  obtain ⟨_, _, _, hfirst, -⟩ := h.attested hmem
  obtain ⟨-, -, _, -, boundary, hboundary, -⟩ := candleHealthWindow_eq_ok.mp hfirst
  rw [hfive] at hboundary
  exact (window_iff hwindow).mpr (completedBoundary_congr
    (candleHealthWindow_eq_ok.mp hwindow).2.1 hboundary (hsame.trans hboundary))

/-- The checker accepts every row while the boundary of five minutes is the same. -/
lemma current_iff : (∀ row ∈ report.streams, currentCandleHealthStream row now = .ok true) ↔
    completedBoundary now "5m" = completedBoundary cutoff "5m" := by
  constructor
  · intro hrows
    obtain ⟨five, hmem, hfive⟩ := h.exists_five
    obtain ⟨window, duration, lineage, hwindow, hduration, hattests, -⟩ := h.attested hmem
    rw [← hfive, ← window_iff hwindow, ← hattests.current_iff hwindow hduration]
    exact hrows five hmem
  · intro hsame row hmem
    obtain ⟨window, duration, lineage, hwindow, hduration, hattests, -⟩ := h.attested hmem
    exact (hattests.current_iff hwindow hduration).mpr (h.window_now hsame hwindow)

end VerifiedReport

/-- **When a verified report is accepted**: its lists are declared, it is not older than five
minutes, and the last boundary of five minutes is that of the report. -/
theorem candleHealthStatus_iff {t offset : ℤ}
    (h : VerifiedReport archives symbols t (.aware t offset) report) :
    candleHealthStatus report now = .ok "VERIFIED" ↔ symbols.Declared ∧ ∃ u offset',
      now = .aware u offset' ∧ (t ≤ u ∧ u < t + 300 * 1000000) ∧
        completedBoundary now "5m" = completedBoundary (.aware t offset) "5m" := by
  rw [h.candleHealthStatus_eq, refusedAs_eq_ok (by decide), h.listedStatus_iff, h.current_iff]
  refine and_congr_right fun _ => ?_
  cases now with
  | aware u offset' =>
      simp only [Moment.elapsed, Except.ok.injEq, exists_eq_left', Moment.aware.injEq]
      constructor
      · rintro ⟨hfresh, hsame⟩
        exact ⟨u, offset', ⟨rfl, rfl⟩, by omega, hsame⟩
      · rintro ⟨u, offset'', ⟨rfl, rfl⟩, hfresh, hsame⟩
        exact ⟨by omega, hsame⟩
  | naive wall => simp [Moment.elapsed]

/-! ### Until the next boundary -/

omit [UnicodeData] in
/-- The float of a time from 1970 until 2514 keeps its whole seconds. -/
lemma wholeSeconds_eq {t : ℤ} (hnonneg : 0 ≤ t) (hlt : t < 2 ^ 34 * 1000000) :
    wholeSeconds t = t / 1000000 := by
  have hfloor : ⌊(t : ℚ) / 1000000⌋ = t / 1000000 := by
    exact_mod_cast Rat.floor_intCast_div_natCast t 1000000
  have hq : (0 : ℚ) ≤ t / 1000000 := by positivity
  have hbits : (t : ℚ) / 1000000 < 2 ^ 34 := by
    rw [div_lt_iff₀ (by norm_num)]
    exact_mod_cast hlt
  have hgap : (t : ℚ) / 1000000 + 2 ^ 34 / 2 ^ 54 < ⌊(t : ℚ) / 1000000⌋ + 1 := by
    have hle : (t : ℚ) ≤ (t / 1000000 : ℤ) * 1000000 + 999999 := by
      exact_mod_cast (by omega : t ≤ t / 1000000 * 1000000 + 999999)
    rw [hfloor]
    linarith
  rw [wholeSeconds, if_neg (not_lt.mpr hnonneg), timestampFloat, if_neg (not_lt.mpr hnonneg),
    EpochTime.floor_nearestFloat hq hbits (by norm_num) hgap, hfloor]

omit [UnicodeData] in
/-- The last completed boundary of a time from 1970 until 2514. -/
lemma completedBoundary_floor {t offset steps : ℤ} (hnonneg : 0 ≤ t) (hlt : t < 2 ^ 34 * 1000000)
    (hsteps : 0 < steps) (hduration : timeframeDuration timeframe = .ok (steps * 300000000)) :
    completedBoundary (.aware t offset) timeframe =
      .ok (t / (steps * 300000000) * (steps * 300000000)) := by
  have hseconds : t / 1000000 / 300 / steps = t / (steps * 300000000) := by
    rw [Int.ediv_ediv_of_nonneg (by norm_num), Int.ediv_ediv_of_nonneg (by norm_num)]
    congr 1
    ring
  obtain ⟨boundary, hboundary⟩ : ∃ boundary, t / (steps * 300000000) * (steps * 300) = boundary :=
    ⟨_, rfl⟩
  have hscaled : t / (steps * 300000000) * (steps * 300000000) = boundary * 1000000 := by
    rw [← hboundary]
    ring
  have hle : t / (steps * 300000000) * (steps * 300000000) ≤ t :=
    Int.ediv_mul_le t (by omega)
  have hpos : 0 ≤ t / (steps * 300000000) * (steps * 300000000) :=
    mul_nonneg (Int.ediv_nonneg hnonneg (by omega)) (by omega)
  rw [completedBoundary_eq_ok hduration, wholeSeconds_eq hnonneg hlt, hseconds, fromtimestamp_eq_ok,
    hboundary, hscaled, firstYearSecond, EpochTime.lastYearSecond]
  omega

omit [UnicodeData] in
/-- Every stream of the profile has a window from 1970 until 2514. -/
lemma exists_window {t : ℤ} (offset : ℤ) (hnonneg : 0 ≤ t) (hlt : t < 2 ^ 34 * 1000000)
    (hmarket : market ∈ healthMarkets) (htimeframe : timeframe ∈ profileTimeframes) :
    ∃ window, candleHealthWindow market timeframe (.aware t offset) = .ok window ∧
      InCalendar window.end := by
  obtain ⟨steps, hpos, hdvd, hduration⟩ := profile_duration htimeframe
  have hsteps : steps ≤ 8640 := Int.le_of_dvd (by norm_num) hdvd
  obtain ⟨boundary, hboundary⟩ :
      ∃ boundary, t / (steps * 300000000) * (steps * 300000000) = boundary := ⟨_, rfl⟩
  have hle : boundary ≤ t := hboundary ▸ Int.ediv_mul_le t (by omega)
  have hbound : 0 ≤ boundary :=
    hboundary ▸ mul_nonneg (Int.ediv_nonneg hnonneg (by omega)) (by omega)
  have hlength : 0 ≤ windowLength market (steps * 300000000) ∧
      windowLength market (steps * 300000000) ≤ 1000 * (8640 * 300000000) := by
    rw [windowLength]
    split_ifs <;> omega
  refine ⟨_, candleHealthWindow_eq_ok.mpr ⟨hmarket, htimeframe, _, hduration, boundary, ?_, ?_,
    rfl⟩, ?_⟩
  · rw [completedBoundary_floor hnonneg hlt hpos hduration, hboundary]
  · rw [InCalendar, firstYearSecond, EpochTime.lastYearSecond]
    omega
  · rw [InCalendar, firstYearSecond, EpochTime.lastYearSecond]
    dsimp only
    omega

end Reports

/-! ### A complete archive -/

/-- Files that are the tables themselves. -/
structure StoredTable where
  table : Table Unit

/-- A library that stores tables as they are, under one digest. -/
instance storedTables : WindowLibrary StoredTable where
  Schema := Unit
  inferSchema _ := ()
  cast _ rows := .ok rows
  writeTable t := ⟨t⟩
  readTable file := .ok file.table
  checksum _ := "e3b0c44298fc1c149afbf4c8996fb92427ae41e4649b934ca495991b7852b855"
  read_write _ _ := ⟨_, rfl, rfl⟩
  readBetween file first last := .ok { file.table with
    rows := file.table.rows.filter fun row =>
      match row.timestamp with
      | some (.aware t _) => first ≤ t && t ≤ last
      | _ => false }
  checksum_hex _ := by decide

/-- A machine in Greenwich. -/
instance greenwichZone : LocalZone := ⟨id⟩

namespace CandleHealth

/-- A flat candle. -/
def candleAt (t : ℤ) : StampedCandle where
  candle := ⟨t, 1, 1, 1, 1, 1, OHLCVCandle.unit_nonneg, OHLCVCandle.unit_low_le_high,
    OHLCVCandle.unit_max_le_high, OHLCVCandle.unit_low_le_min⟩
  offset := 0

/-- The candles of a window. -/
def candlesOf (window : AcquisitionWindow) (duration : ℤ) : List StampedCandle :=
  (List.range window.expectedCount).map fun index : ℕ => candleAt (window.start + index * duration)

/-- The manifest of the candles of a window. -/
def manifestOf (symbol : String) (window : AcquisitionWindow) (duration : ℤ) :
    DatasetManifest where
  symbol := symbol
  timeframe := window.timeframe
  source := "BINANCE_PUBLIC_REST_KLINES"
  parquetPath := window.timeframe ++ ".parquet"
  sha256 := "e3b0c44298fc1c149afbf4c8996fb92427ae41e4649b934ca495991b7852b855"
  rowCount := window.expectedCount
  firstTimestamp := utcText window.start
  lastTimestamp := utcText (window.end - duration)
  gapCount := 0
  gaps := []
  generatedAt := utcText window.end

/-- The archives that hold the whole windows of a cutoff. -/
def completeArchive (cutoff : Moment) (market : String) : Archive StoredTable :=
  fun (symbol, timeframe) =>
    match candleHealthWindow market timeframe cutoff, timeframeDuration timeframe with
    | .ok window, .ok duration => {
        parquet := some ⟨⟨(), none, (candlesOf window duration).map StampedCandle.row⟩⟩
        manifest := some (.ok (manifestOf symbol window duration)) }
    | _, _ => {}

lemma covers_candlesOf (hregular : window.Regular duration) :
    Covers ((candlesOf window duration).map StampedCandle.time) (window.grid duration) := by
  have hinstants : ((candlesOf window duration).map StampedCandle.time).map Timestamp.instant =
      (List.range window.expectedCount).map fun index : ℕ => window.start + index * duration := by
    simp only [candlesOf, List.map_map]
    rfl
  rw [Covers, hinstants]
  constructor
  · refine List.Nodup.map (fun i j h => ?_) List.nodup_range
    simpa [hregular.duration_pos.ne'] using h
  · ext t
    simp [mem_grid]

lemma mem_candlesOf {candle : StampedCandle} (h : candle ∈ candlesOf window duration) :
    candle = candleAt candle.timestamp ∧ candle.timestamp ∈ window.grid duration := by
  obtain ⟨index, hindex, rfl⟩ := List.mem_map.mp h
  exact ⟨rfl, mem_grid.mpr ⟨index, List.mem_range.mp hindex, rfl⟩⟩

/-- The complete archive covers its windows. -/
lemma verifiedCandles_complete (hwindow : candleHealthWindow market timeframe cutoff = .ok window)
    (hduration : timeframeDuration timeframe = .ok duration)
    (hid : validateIdentity symbol "1d" "health" = .ok symbol) :
    ∃ lineage, verifiedCandles (completeArchive cutoff market) symbol timeframe window =
      .ok (candlesOf window duration, lineage) := by
  have hregular := regular_of_window hwindow hduration
  obtain ⟨-, htimeframe⟩ := named_of_window hwindow
  have hkey : validateIdentity symbol timeframe "read" = .ok symbol := by
    obtain ⟨hsymbol, -, -, hnormal⟩ := validateIdentity_eq_ok.mp hid
    exact validateIdentity_eq_ok.mpr ⟨hsymbol, ⟨duration, hduration⟩, by decide, hnormal⟩
  have hdataset : completeArchive cutoff market (symbol, timeframe) = {
      parquet := some ⟨⟨(), none, (candlesOf window duration).map StampedCandle.row⟩⟩
      manifest := some (.ok (manifestOf symbol window duration)) } := by
    simp only [completeArchive, hwindow, hduration]
  have hverified : (completeArchive cutoff market (symbol, timeframe)).verified =
      .ok (manifestOf symbol window duration,
        ⟨⟨(), none, (candlesOf window duration).map StampedCandle.row⟩⟩) := by
    rw [hdataset]
    rfl
  have hmanifest : (completeArchive cutoff market).manifest symbol timeframe =
      .ok (manifestOf symbol window duration) := by
    simp only [Archive.manifest, hkey, ok_bind, hverified]
    rfl
  have hbounds : ∀ candle ∈ candlesOf window duration,
      window.start ≤ candle.timestamp ∧ candle.timestamp ≤ window.end - duration := by
    intro candle hcandle
    obtain ⟨-, hgrid⟩ := mem_candlesOf hcandle
    obtain ⟨index, -, hindex⟩ := mem_grid.mp hgrid
    have hnonneg : 0 ≤ (index : ℤ) * duration :=
      mul_nonneg (Int.natCast_nonneg index) hregular.duration_pos.le
    exact ⟨by omega, le_last_of_mem_grid hregular hgrid⟩
  have hread : (completeArchive cutoff market).readWindow symbol timeframe window.start
      (window.end - duration) = .ok (candlesOf window duration) := by
    have hordered : window.start ≤ window.end - duration := by
      obtain ⟨index, -, hindex⟩ := mem_grid.mp (last_mem_grid hregular)
      have hnonneg : 0 ≤ (index : ℤ) * duration :=
        mul_nonneg (Int.natCast_nonneg index) hregular.duration_pos.le
      omega
    have hexists : ¬ ((completeArchive cutoff market (symbol, timeframe)).parquet.isNone = true ∨
        (completeArchive cutoff market (symbol, timeframe)).manifest.isNone = true) := by
      simp [hdataset]
    have hkept : WindowLibrary.readBetween
        (⟨⟨(), none, (candlesOf window duration).map StampedCandle.row⟩⟩ : StoredTable)
        window.start (window.end - duration) =
          .ok ⟨(), none, (candlesOf window duration).map StampedCandle.row⟩ := by
      refine congrArg Except.ok ?_
      rw [List.filter_eq_self.mpr]
      intro row hrow
      obtain ⟨candle, hcandle, rfl⟩ := List.mem_map.mp hrow
      obtain ⟨hstart, hend⟩ := hbounds candle hcandle
      exact (Bool.and_eq_true _ _).mpr ⟨decide_eq_true hstart, decide_eq_true hend⟩
    have hexact : ¬ ((manifestOf symbol window duration).rowCount <
        (candlesOf window duration).length ∨ ∃ candle ∈ candlesOf window duration,
          ¬ (window.start ≤ candle.timestamp ∧ candle.timestamp ≤ window.end - duration)) := by
      rintro (hlong | ⟨candle, hcandle, hout⟩)
      · simp [manifestOf, candlesOf] at hlong
      · exact hout (hbounds candle hcandle)
    simp only [Archive.readWindow, raiseIf_of_not (not_lt.mpr hordered), hkey, ok_bind,
      raiseIf_of_not hexists, hverified, hkept, mapM_rowToCandle_row, raiseIf_of_not hexact]
    rfl
  exact ⟨_, verifiedCandles_eq_ok.mpr ⟨_, hmanifest, rfl, htimeframe,
    (by decide : isNativeSource "BINANCE_PUBLIC_REST_KLINES" = true), duration, hduration, hread,
    rfl⟩⟩

/-- The report of a complete archive is verified. -/
lemma exists_verified {t : ℤ} (offset : ℤ) {symbols : MarketSymbols} (hnonneg : 0 ≤ t)
    (hlt : t < 2 ^ 34 * 1000000) (hne : symbols.streams ≠ [])
    (hnormal : ∀ market ∈ healthMarkets, ∀ symbol ∈ symbols.get market,
      validateIdentity symbol "1d" "health" = .ok symbol) :
    ∃ report, candleWindowHealth (completeArchive (.aware t offset)) symbols (.aware t offset) [] =
      .ok report ∧ report.status = "VERIFIED" := by
  have hrow : ∀ stream ∈ symbols.streams, ∃ row,
      verifiedCandleHealthStream (completeArchive (.aware t offset)) stream.1 stream.2.1 stream.2.2
        (.aware t offset) = .ok row ∧ row.status = "VERIFIED" := by
    rintro ⟨market, symbol, timeframe⟩ hstream
    obtain ⟨hmarket, hsymbol, htimeframe⟩ := mem_streams.mp hstream
    obtain ⟨window, hwindow, hend⟩ := exists_window offset hnonneg hlt hmarket htimeframe
    obtain ⟨steps, -, -, hduration⟩ := profile_duration htimeframe
    obtain ⟨lineage, hread⟩ :=
      verifiedCandles_complete hwindow hduration (hnormal market hmarket symbol hsymbol)
    exact verified_of_covers hwindow hduration hend hread
      (covers_candlesOf (regular_of_window hwindow hduration)) fun candle hcandle => by
        rw [(mem_candlesOf hcandle).1]
        rfl
  obtain ⟨rows, hrows⟩ := exists_mapM_eq_ok fun stream hstream =>
    (hrow stream hstream).imp fun _ h => h.1
  have hverified : ∀ row ∈ rows, row.status = "VERIFIED" := by
    intro row hmem
    obtain ⟨stream, hstream, hrow'⟩ := mem_of_mapM_eq_ok hrows hmem
    obtain ⟨row', hok, hstatus⟩ := hrow stream hstream
    rwa [Except.ok.inj (hrow'.symm.trans hok)]
  have hsome : rows ≠ [] := by
    rintro rfl
    have hlength := (mapM_eq_ok.mp hrows).length_eq
    exact hne (List.length_eq_zero_iff.mp hlength)
  have hblockers : healthBlockers [] rows = [] := by
    rw [healthBlockers, if_neg hsome, if_neg]
    · rfl
    · rintro ⟨row, hmem, hpartial⟩
      exact hpartial (hverified row hmem)
  have hzone : (Moment.aware t offset).astimezone = .ok t := by
    have hcalendar : InCalendar t := by
      rw [InCalendar, firstYearSecond, EpochTime.lastYearSecond]
      omega
    simp only [Moment.astimezone, raiseIf_of_not (not_not.mpr hcalendar), ok_bind]
    rfl
  refine ⟨reportOf symbols t rows [], ?_, rfl⟩
  simp only [candleWindowHealth, hrows, ok_bind, hzone, hblockers]
  rfl

end CandleHealth

/-! ### The checker and the producer -/

section Agreement

variable {File : Type} [WindowLibrary File] [UnicodeData] {archives : String → Archive File}
  {symbols : MarketSymbols} {universeBlockers : List String} {report : CandleHealthReport}

/-- How the checker answers to a report. -/
structure CheckerAgrees (archives : String → Archive File) (symbols : MarketSymbols)
    (cutoff : Moment) (report : CandleHealthReport) : Prop where
  /-- When it accepts the report. -/
  accepted_iff : ∀ now, candleHealthStatus report now = .ok "VERIFIED" ↔ symbols.Declared ∧
    ∃ t offset u offset', cutoff = .aware t offset ∧ now = .aware u offset' ∧
      (t ≤ u ∧ u < t + 300 * 1000000) ∧ completedBoundary now "5m" = completedBoundary cutoff "5m"
  /-- Until the next boundary of five minutes, from 1970 until 2514. -/
  until_boundary : symbols.Declared → ∀ t offset u offset', cutoff = .aware t offset → 0 ≤ t →
    u < 2 ^ 34 * 1000000 → t ≤ u → u < (t / 300000000 + 1) * 300000000 →
      candleHealthStatus report (.aware u offset') = .ok "VERIFIED"
  /-- Then every listed stream has a row for its window of that time, which the archive covers. -/
  window_verified : ∀ now, candleHealthStatus report now = .ok "VERIFIED" →
    ∀ market ∈ healthMarkets, ∀ symbol ∈ symbols.get market, ∀ timeframe ∈ profileTimeframes,
      ∃ row ∈ report.streams, row.identity = (market, symbol, timeframe) ∧
        ∃ window duration lineage, candleHealthWindow market timeframe now = .ok window ∧
          completedBoundary now timeframe = .ok window.end ∧
          timeframeDuration timeframe = .ok duration ∧ row.Attests window duration lineage ∧
          WindowVerified (archives market) symbol window duration lineage

/-- **The checker agrees with the producer.** -/
theorem candle_health_agrees [LocalZone]
    (hreport : candleWindowHealth archives symbols cutoff universeBlockers = .ok report)
    (hverified : report.status = "VERIFIED") : CheckerAgrees archives symbols cutoff report := by
  obtain ⟨t, offset, rfl, h⟩ := verifiedReport hreport hverified
  refine ⟨fun now => ?_, fun hdeclared t' offset'' u offset' hcutoff hnonneg hlt hle hbefore => ?_,
    fun now haccepted market hmarket symbol hsymbol timeframe htimeframe => ?_⟩
  · rw [candleHealthStatus_iff h]
    simp only [Moment.aware.injEq]
    constructor
    · rintro ⟨hdeclared, u, offset', hnow, hfresh⟩
      exact ⟨hdeclared, t, offset, u, offset', ⟨rfl, rfl⟩, hnow, hfresh⟩
    · rintro ⟨hdeclared, _, _, u, offset', ⟨rfl, rfl⟩, hnow, hfresh⟩
      exact ⟨hdeclared, u, offset', hnow, hfresh⟩
  · obtain ⟨rfl, rfl⟩ := Moment.aware.inj hcutoff
    have hfive : timeframeDuration "5m" = .ok (1 * 300000000) :=
      toOption_eq_some.mp (by decide +kernel)
    refine (candleHealthStatus_iff h).mpr ⟨hdeclared, u, offset', rfl, by omega, ?_⟩
    have hsame : u / (1 * 300000000) = t / (1 * 300000000) := by omega
    rw [completedBoundary_floor (hnonneg.trans hle) hlt one_pos hfive,
      completedBoundary_floor hnonneg (hle.trans_lt hlt) one_pos hfive, hsame]
  · obtain ⟨-, u, offset', rfl, -, hsame⟩ := (candleHealthStatus_iff h).mp haccepted
    obtain ⟨row, hrow, hidentity⟩ :=
      h.exists_row (mem_streams.mpr ⟨hmarket, hsymbol, htimeframe⟩)
    obtain ⟨window, duration, lineage, hwindow, hduration, hattests, hread⟩ := h.attested hrow
    obtain ⟨rfl, rfl, rfl⟩ := Prod.mk.inj hidentity |>.imp id Prod.mk.inj
    have hnow := h.window_now hsame hwindow
    refine ⟨row, hrow, rfl, window, duration, lineage, hnow, ?_, hduration, hattests, hread⟩
    obtain ⟨-, -, _, -, boundary, hboundary, -, rfl⟩ := candleHealthWindow_eq_ok.mp hnow
    exact hboundary

end Agreement

namespace CandleHealth

/-- Four minutes past noon, on 2 September 2026. -/
def noon : Moment := .aware 1788350640000000 0

/-- The report of a list that names a symbol twice. -/
theorem repeated_symbol_never_verified :
    ∃ report, candleWindowHealth (completeArchive noon)
      { spot := ["BTCUSDT", "BTCUSDT"] } noon [] = .ok report ∧ report.status = "VERIFIED" ∧
        candleHealthStatus report noon = .ok "NOT_VERIFIED" := by
  have hnormal : ∀ market ∈ healthMarkets, ∀ symbol ∈
      ({ spot := ["BTCUSDT", "BTCUSDT"] } : MarketSymbols).get market,
        validateIdentity symbol "1d" "health" = .ok symbol := by
    have hsymbol : validateIdentity "BTCUSDT" "1d" "health" = .ok "BTCUSDT" :=
      toOption_eq_some.mp (by decide +kernel)
    simp [healthMarkets, MarketSymbols.get, hsymbol]
  obtain ⟨report, hreport, hverified⟩ := exists_verified 0
    (by norm_num : (0 : ℤ) ≤ 1788350640000000) (by norm_num) (by decide) hnormal
  obtain ⟨t, offset, hcutoff, h⟩ := verifiedReport hreport hverified
  refine ⟨report, hreport, hverified, h.not_verified_of_not_declared fun hdeclared => ?_⟩
  exact absurd (hdeclared.nodup "spot" (by decide)) (by decide)

/-- One symbol. -/
theorem one_symbol_agrees :
    ∃ report, candleWindowHealth (completeArchive noon) { spot := ["BTCUSDT"] } noon [] =
      .ok report ∧ report.status = "VERIFIED" ∧
        CheckerAgrees (completeArchive noon) { spot := ["BTCUSDT"] } noon report := by
  have hnormal : ∀ market ∈ healthMarkets, ∀ symbol ∈
      ({ spot := ["BTCUSDT"] } : MarketSymbols).get market,
        validateIdentity symbol "1d" "health" = .ok symbol := by
    have hsymbol : validateIdentity "BTCUSDT" "1d" "health" = .ok "BTCUSDT" :=
      toOption_eq_some.mp (by decide +kernel)
    simp [healthMarkets, MarketSymbols.get, hsymbol]
  obtain ⟨report, hreport, hverified⟩ := exists_verified 0
    (by norm_num : (0 : ℤ) ≤ 1788350640000000) (by norm_num) (by decide) hnormal
  exact ⟨report, hreport, hverified, candle_health_agrees hreport hverified⟩

end CandleHealth

end Ai4Binance

/-
What a row of a candle health report attests.

A verified row names the window of its stream, and the archive holds exactly the candles of that
window.  A checker accepts the row at the times whose window is the same.

* `AcquisitionWindow.Regular`: the window is a whole number of candles;
* `Covers`: some timestamps are those of a grid, each once;
* `CandleHealthRow.Attests`: the fields of a verified row;
* `exists_attested`: **a verified row attests a covered window**;
* `Attests.current_iff`: **the checker accepts the row while its window is the same**.
-/
import Ai4Binance.Data.CandleHealth

namespace Ai4Binance

open Text Check

variable {market symbol timeframe : String} {cutoff now : Moment} {window : AcquisitionWindow}
  {duration boundary : ℤ}

/-! ### Guarded calls -/

section Guards

variable {α : Type}

@[simp] lemma archived_eq_ok {x : Except ArchiveError α} {a : α} :
    archived x = .ok a ↔ x = .ok a := by
  cases x <;> simp [archived, Except.mapError]

lemma refusedAs_eq_ok {x : Except HealthError α} {a fallback : α} (hne : fallback ≠ a) :
    refusedAs fallback x = .ok a ↔ x = .ok a := by
  cases x with
  | error e =>
      rw [refusedAs]
      split_ifs <;> simp [hne]
  | ok b => rfl

/-- A list of checks passes when each does. -/
lemma allM_eq_ok {p : α → Except HealthError Bool} {l : List α} :
    l.allM p = .ok true ↔ ∀ a ∈ l, p a = .ok true := by
  induction l with
  | nil => simp [List.allM, pure, Except.pure]
  | cons a l ih =>
      rw [List.allM_cons, bind_eq_ok, List.forall_mem_cons, ← ih]
      constructor
      · rintro ⟨b, hb, hrest⟩
        cases b with
        | false => simp at hrest
        | true => exact ⟨hb, hrest⟩
      · exact fun ⟨ha, hrest⟩ => ⟨true, ha, hrest⟩

end Guards

/-! ### Windows -/

/-- The durations of the profile are multiples of five minutes, and divide thirty days. -/
lemma profile_duration (h : timeframe ∈ profileTimeframes) : ∃ steps : ℤ, 0 < steps ∧
    steps ∣ 8640 ∧ timeframeDuration timeframe = .ok (steps * 300000000) := by
  have hlookup (name : String) (steps : ℤ) (hpos : 0 < steps) (hdvd : steps ∣ 8640)
      (hduration : (timeframeDuration name).toOption = some (steps * 300000000)) :
      ∃ steps : ℤ, 0 < steps ∧ steps ∣ 8640 ∧
        timeframeDuration name = .ok (steps * 300000000) :=
    ⟨steps, hpos, hdvd, toOption_eq_some.mp hduration⟩
  simp only [profileTimeframes, List.mem_cons, List.not_mem_nil, or_false] at h
  rcases h with rfl | rfl | rfl | rfl | rfl
  · exact hlookup _ 1 (by decide) (by decide) (by decide +kernel)
  · exact hlookup _ 3 (by decide) (by decide) (by decide +kernel)
  · exact hlookup _ 12 (by decide) (by decide) (by decide +kernel)
  · exact hlookup _ 48 (by decide) (by decide) (by decide +kernel)
  · exact hlookup _ 288 (by decide) (by decide) (by decide +kernel)

lemma shifted_eq_ok {t t' : Timestamp} : shifted t duration = .ok t' ↔
    InCalendar (t.instant + t.utcoffset + duration) ∧ t.add duration = t' := by
  simp only [shifted, bind_eq_ok, raiseIf_eq_ok, not_not, exists_const, pure_eq_ok]

lemma candleHealthWindow_eq_ok : candleHealthWindow market timeframe cutoff = .ok window ↔
    market ∈ healthMarkets ∧ timeframe ∈ profileTimeframes ∧
      ∃ duration, timeframeDuration timeframe = .ok duration ∧
        ∃ boundary, completedBoundary cutoff timeframe = .ok boundary ∧
          InCalendar (boundary - windowLength market duration) ∧
          window = ⟨market, timeframe, boundary - windowLength market duration, boundary,
            (windowLength market duration / duration).toNat⟩ := by
  simp only [candleHealthWindow, bind_eq_ok, raiseIf_eq_ok, exists_const, archived_eq_ok,
    shifted_eq_ok, pure_eq_ok, not_or, not_not, and_assoc]
  refine and_congr_right fun _ => and_congr_right fun _ => exists_congr fun duration =>
    and_congr_right fun _ => exists_congr fun boundary => and_congr_right fun _ => ?_
  simp only [Timestamp.add, add_zero, ← sub_eq_add_neg]
  constructor
  · rintro ⟨start, hcalendar, rfl, rfl⟩
    exact ⟨hcalendar, by rw [sub_sub_cancel]⟩
  · rintro ⟨hcalendar, rfl⟩
    exact ⟨_, hcalendar, rfl, by rw [sub_sub_cancel]⟩

lemma named_of_window (h : candleHealthWindow market timeframe cutoff = .ok window) :
    window.market = market ∧ window.timeframe = timeframe := by
  obtain ⟨-, -, _, -, _, -, -, rfl⟩ := candleHealthWindow_eq_ok.mp h
  exact ⟨rfl, rfl⟩

/-- The window is a whole number of candles. -/
structure AcquisitionWindow.Regular (window : AcquisitionWindow) (duration : ℤ) : Prop where
  duration_pos : 0 < duration
  count_pos : 0 < window.expectedCount
  end_eq : window.start + window.expectedCount * duration = window.end

lemma regular_of_window (h : candleHealthWindow market timeframe cutoff = .ok window)
    (hduration : timeframeDuration timeframe = .ok duration) : window.Regular duration := by
  obtain ⟨hmarket, htimeframe, duration', hduration', boundary, -, -, rfl⟩ :=
    candleHealthWindow_eq_ok.mp h
  obtain rfl := Except.ok.inj (hduration'.symm.trans hduration)
  obtain ⟨steps, hsteps, ⟨count, hcount⟩, hprofile⟩ := profile_duration htimeframe
  obtain rfl := Except.ok.inj (hprofile.symm.trans hduration)
  have hpos : 0 < steps * 300000000 := by omega
  obtain ⟨n, hn, hlength⟩ : ∃ n : ℤ, 0 < n ∧
      windowLength market (steps * 300000000) = n * (steps * 300000000) := by
    rw [windowLength]
    split_ifs
    · exact ⟨1000, by norm_num, rfl⟩
    · refine ⟨count, pos_of_mul_pos_right (hcount ▸ by norm_num) hsteps.le, ?_⟩
      calc (30 * 86400000000 : ℤ) = 8640 * 300000000 := by norm_num
        _ = count * (steps * 300000000) := by rw [hcount]; ring
  have hdiv : windowLength market (steps * 300000000) / (steps * 300000000) = n := by
    rw [hlength, Int.mul_ediv_cancel _ hpos.ne']
  refine ⟨hpos, ?_, ?_⟩
  · dsimp only
    rw [hdiv]
    omega
  · dsimp only
    rw [hdiv, Int.toNat_of_nonneg hn.le, hlength]
    ring

lemma mem_grid {t : ℤ} : t ∈ window.grid duration ↔
    ∃ index : ℕ, index < window.expectedCount ∧ window.start + index * duration = t := by
  simp [AcquisitionWindow.grid]

section Grid

variable (hregular : window.Regular duration)

include hregular

lemma card_grid : (window.grid duration).card = window.expectedCount := by
  have hinj : Function.Injective fun index : ℕ => window.start + index * duration := by
    intro i j h
    simpa [hregular.duration_pos.ne'] using h
  rw [AcquisitionWindow.grid, Finset.card_image_of_injective _ hinj, Finset.card_range]

/-- The last candle of a window opens one duration before its end. -/
lemma last_mem_grid : window.end - duration ∈ window.grid duration := by
  have hcount : ((window.expectedCount - 1 : ℕ) : ℤ) = window.expectedCount - 1 :=
    Nat.cast_pred hregular.count_pos
  refine mem_grid.mpr ⟨_, Nat.sub_lt hregular.count_pos one_pos, ?_⟩
  rw [← hregular.end_eq, hcount]
  ring

lemma le_last_of_mem_grid {t : ℤ} (h : t ∈ window.grid duration) : t ≤ window.end - duration := by
  obtain ⟨index, hindex, rfl⟩ := mem_grid.mp h
  have hle : ((index : ℤ) + 1) * duration ≤ window.expectedCount * duration :=
    mul_le_mul_of_nonneg_right (by exact_mod_cast hindex) hregular.duration_pos.le
  rw [← hregular.end_eq]
  linarith

end Grid

/-! ### The health of a stream -/

/-- The timestamps are the times of a grid, each once. -/
def Covers (timestamps : List Timestamp) (grid : Finset ℤ) : Prop :=
  (timestamps.map Timestamp.instant).Nodup ∧ (timestamps.map Timestamp.instant).toFinset = grid

variable {timestamps : List Timestamp} {lineage : Option SourceLineage} {health : StreamHealth}
  {grid : Finset ℤ}

/-- A stream is ready when nothing is missing, repeated or off the grid. -/
lemma covers_iff : (grid \ (timestamps.map Timestamp.instant).toFinset).sort = [] ∧
    timestamps.length - (timestamps.map Timestamp.instant).toFinset.card = 0 ∧
      (timestamps.map Timestamp.instant).toFinset ⊆ grid ↔ Covers timestamps grid := by
  have hmissing : (grid \ (timestamps.map Timestamp.instant).toFinset).sort = [] ↔
      grid ⊆ (timestamps.map Timestamp.instant).toFinset := by
    rw [← List.length_eq_zero_iff, Finset.length_sort, Finset.card_eq_zero,
      Finset.sdiff_eq_empty_iff_subset]
  have hnodup : timestamps.length - (timestamps.map Timestamp.instant).toFinset.card = 0 ↔
      (timestamps.map Timestamp.instant).Nodup := by
    rw [← Multiset.coe_nodup, ← Multiset.toFinset_card_eq_card_iff_nodup, Multiset.coe_card,
      List.length_map, List.toFinset_coe]
    have hle := List.toFinset_card_le (timestamps.map Timestamp.instant)
    rw [List.length_map] at hle
    omega
  rw [hmissing, hnodup, Covers, Finset.Subset.antisymm_iff]
  tauto

/-- The last timestamp of a covered window opens one duration before its end. -/
lemma maxOn_of_covers (hregular : window.Regular duration)
    (hcovers : Covers timestamps (window.grid duration)) : ∃ offset : ℤ,
    timestamps.maxOn? Timestamp.instant = some ⟨window.end - duration, offset⟩ := by
  have hmem {t : ℤ} : t ∈ window.grid duration ↔ ∃ u ∈ timestamps, u.instant = t := by
    rw [← hcovers.2, List.mem_toFinset, List.mem_map]
  obtain ⟨last, hlast, hinstant⟩ := hmem.mp (last_mem_grid hregular)
  obtain ⟨latest, hlatest⟩ := Option.isSome_iff_exists.mp
    (List.isSome_maxOn?_of_mem (f := Timestamp.instant) hlast)
  have hge : last.instant ≤ latest.instant := by
    simpa only [hlatest, Option.get_some] using
      List.le_apply_get_maxOn?_of_mem (f := Timestamp.instant) hlast
  have hle : latest.instant ≤ window.end - duration :=
    le_last_of_mem_grid hregular (hmem.mpr ⟨latest, List.maxOn?_mem hlatest, rfl⟩)
  obtain ⟨instant, offset⟩ := latest
  dsimp only at hge hle
  exact ⟨offset, by rw [hlatest, le_antisymm hle (hinstant ▸ hge)]⟩

/-- The fields of a stream whose window is covered. -/
structure StreamEvidence.Attests (evidence : StreamEvidence) (window : AcquisitionWindow)
    (duration : ℤ) : Prop where
  market : evidence.market = window.market
  timeframe : evidence.timeframe = window.timeframe
  requestedStart : evidence.requestedStart = utcText window.start
  requestedEnd : evidence.requestedEndExclusive = utcText window.end
  requestedBars : evidence.requestedBars = window.expectedCount
  availableBars : evidence.availableVerifiedBars = window.expectedCount
  missingCount : evidence.missingCount = 0
  duplicateCount : evidence.duplicateCount = 0
  tailReady : evidence.tailReady = true
  lastClosedOpen : ∃ offset : ℤ,
    evidence.lastClosedOpen = some (.written (.aware (window.end - duration) offset))

lemma streamHealth_named {bars count : ℕ}
    (h : streamHealth window timestamps bars count lineage false = .ok health) :
    health.market = window.market ∧ health.timeframe = window.timeframe := by
  simp only [streamHealth, bind_eq_ok, pure_eq_ok] at h
  obtain ⟨-, -, -, -, -, -, rfl⟩ := h
  exact ⟨rfl, rfl⟩

/-- A stream is ready when its window is covered, and then the fields attest it. -/
lemma streamHealth_ready {bars count : ℕ}
    (hduration : timeframeDuration window.timeframe = .ok duration)
    (hregular : window.Regular duration)
    (h : streamHealth window timestamps bars count lineage false = .ok health) :
    health.sourceLineage = lineage ∧
      ("DATA_READY".toList.isPrefixOf health.status.toList = true ↔
        Covers timestamps (window.grid duration)) ∧
      (Covers timestamps (window.grid duration) →
        health.toStreamEvidence.Attests window duration) := by
  simp only [streamHealth, hduration, bind_eq_ok, archived_eq_ok, Except.ok.injEq,
    exists_eq_left', pure_eq_ok] at h
  obtain ⟨coverage, -, actualEnd, -, rfl⟩ := h
  refine ⟨rfl, ?_, fun hcovers => ?_⟩
  · rw [← covers_iff]
    dsimp only
    split_ifs with hspot hvalid
    · exact iff_of_true (by decide) hspot.1
    · exact iff_of_true (by decide) hvalid
    · exact iff_of_false (by decide) hvalid
  · obtain ⟨hmissing, hduplicate, -⟩ := covers_iff.mpr hcovers
    obtain ⟨offset, hlast⟩ := maxOn_of_covers hregular hcovers
    exact {
      market := rfl
      timeframe := rfl
      requestedStart := rfl
      requestedEnd := rfl
      requestedBars := rfl
      availableBars := by
        dsimp only
        rw [hcovers.2, Finset.inter_self, card_grid hregular]
      missingCount := by
        dsimp only
        rw [hmissing, List.length_nil]
      duplicateCount := hduplicate
      tailReady := by
        dsimp only
        rw [hcovers.2, decide_eq_true (last_mem_grid hregular)]
      lastClosedOpen := ⟨offset, by
        dsimp only
        rw [hlast]
        rfl⟩ }

/-! ### Rows -/

variable {File : Type} [WindowLibrary File] [UnicodeData] {archive : Archive File}
  {archives : String → Archive File} {row : CandleHealthRow}

/-- What the archive returned for a window: exactly its candles, under a native source. -/
structure WindowVerified (archive : Archive File) (symbol : String) (window : AcquisitionWindow)
    (duration : ℤ) (lineage : SourceLineage) : Prop where
  covered : ∃ candles, archive.readWindow symbol window.timeframe window.start
    (window.end - duration) = .ok candles ∧
      Covers (candles.map StampedCandle.time) (window.grid duration)
  manifest : ∃ manifest, archive.manifest symbol window.timeframe = .ok manifest ∧
    manifest.symbol = symbol ∧ manifest.timeframe = window.timeframe ∧
      lineage = ⟨manifest.source, manifest.sha256⟩
  native : isNativeSource lineage.source = true

lemma manifest_hex {manifest : DatasetManifest}
    (h : archive.manifest symbol timeframe = .ok manifest) :
    isHexDigest manifest.sha256 = true := by
  simp only [Archive.manifest, Dataset.verified, bind_eq_ok, raiseIf_eq_ok, not_not, pure_eq_ok,
    exists_const] at h
  obtain ⟨key, -, ⟨loaded, file⟩, ⟨_, -, _, -, hsha, hpair⟩, rfl⟩ := h
  obtain ⟨rfl, rfl⟩ := Prod.mk.inj hpair
  rw [hsha]
  exact WindowLibrary.checksum_hex _

lemma verifiedCandles_eq_ok {candles : List StampedCandle} {lineage : SourceLineage} :
    verifiedCandles archive symbol timeframe window = .ok (candles, lineage) ↔
      ∃ manifest, archive.manifest symbol timeframe = .ok manifest ∧
        manifest.symbol = symbol ∧ manifest.timeframe = timeframe ∧
        isNativeSource manifest.source = true ∧
        ∃ duration, timeframeDuration timeframe = .ok duration ∧
          archive.readWindow symbol timeframe window.start (window.end - duration) = .ok candles ∧
          lineage = ⟨manifest.source, manifest.sha256⟩ := by
  simp only [verifiedCandles, bind_eq_ok, raiseIf_eq_ok, exists_const, pure_eq_ok, not_or, not_not,
    Bool.not_eq_false, Prod.mk.injEq]
  constructor
  · rintro ⟨manifest, hmanifest, ⟨hsymbol, htimeframe, hsource⟩, duration, hduration, read, hread,
      _, -, -, rfl, rfl⟩
    exact ⟨manifest, hmanifest, hsymbol, htimeframe, hsource, duration, hduration, hread, rfl⟩
  · rintro ⟨manifest, hmanifest, hsymbol, htimeframe, hsource, duration, hduration, hread, rfl⟩
    exact ⟨manifest, hmanifest, ⟨hsymbol, htimeframe, hsource⟩, duration, hduration, _, hread,
      manifest, hmanifest, rfl, rfl, rfl⟩

omit [UnicodeData] in
lemma not_covers_nil (hregular : window.Regular duration) :
    ¬ Covers [] (window.grid duration) := by
  intro h
  have hempty := h.2 ▸ last_mem_grid hregular
  simp at hempty

/-- The candles of a stream are those that were read, or none. -/
lemma triedCandles_cases {candles : List StampedCandle} {lineage : Option SourceLineage}
    {errorCode : Option ArchiveError}
    (h : triedCandles archive symbol timeframe window = .ok (candles, lineage, errorCode)) :
    candles = [] ∨ ∃ source, lineage = some source ∧
      verifiedCandles archive symbol timeframe window = .ok (candles, source) := by
  unfold triedCandles at h
  cases hread : verifiedCandles archive symbol timeframe window with
  | ok found =>
      obtain ⟨read, source⟩ := found
      rw [hread] at h
      obtain ⟨rfl, hpair⟩ := Prod.mk.inj (Except.ok.inj h)
      exact .inr ⟨source, (Prod.mk.inj hpair).1.symm, rfl⟩
  | error e =>
      rw [hread] at h
      dsimp only at h
      by_cases hcaught : e.isCaught
      · rw [if_pos hcaught] at h
        exact .inl (Prod.mk.inj (Except.ok.inj h)).1.symm
      · rw [if_neg hcaught] at h
        cases h

lemma verifiedCandleHealthStream_eq_ok :
    verifiedCandleHealthStream archives market symbol timeframe cutoff = .ok row ↔
      ∃ window, candleHealthWindow market timeframe cutoff = .ok window ∧
        ∃ candles lineage errorCode,
          triedCandles (archives market) symbol timeframe window =
            .ok (candles, lineage, errorCode) ∧
          ∃ health, streamHealth window (candles.map StampedCandle.time) 200 candles.length lineage
            false = .ok health ∧ health.row symbol errorCode = row := by
  simp only [verifiedCandleHealthStream, bind_eq_ok, pure_eq_ok, Prod.exists]

lemma identity_of_stream
    (h : verifiedCandleHealthStream archives market symbol timeframe cutoff = .ok row) :
    row.identity = (market, symbol, timeframe) := by
  obtain ⟨window, hwindow, candles, lineage, errorCode, -, health, hhealth, rfl⟩ :=
    verifiedCandleHealthStream_eq_ok.mp h
  obtain ⟨rfl, rfl⟩ := named_of_window hwindow
  obtain ⟨hmarket, htimeframe⟩ := streamHealth_named hhealth
  simp only [CandleHealthRow.identity, StreamHealth.row, hmarket, htimeframe]

/-- A row that attests a window, with the source of its candles. -/
structure CandleHealthRow.Attests (row : CandleHealthRow) (window : AcquisitionWindow)
    (duration : ℤ) (lineage : SourceLineage) : Prop
    extends row.toStreamEvidence.Attests window duration where
  status : row.status = "VERIFIED"
  sourceLineage : row.sourceLineage = some lineage
  native : isNativeSource lineage.source = true
  digest : isHexDigest lineage.datasetSha256 = true

/-- **A verified row attests a covered window.** -/
theorem exists_attested
    (h : verifiedCandleHealthStream archives market symbol timeframe cutoff = .ok row)
    (hverified : row.status = "VERIFIED") :
    ∃ window duration lineage, candleHealthWindow market timeframe cutoff = .ok window ∧
      timeframeDuration timeframe = .ok duration ∧ row.Attests window duration lineage ∧
      WindowVerified (archives market) symbol window duration lineage := by
  obtain ⟨window, hwindow, candles, lineage, errorCode, htried, health, hhealth, rfl⟩ :=
    verifiedCandleHealthStream_eq_ok.mp h
  obtain ⟨duration, hduration⟩ : ∃ duration, timeframeDuration timeframe = .ok duration := by
    obtain ⟨-, -, duration, hduration, -⟩ := candleHealthWindow_eq_ok.mp hwindow
    exact ⟨duration, hduration⟩
  have hregular := regular_of_window hwindow hduration
  obtain ⟨rfl, rfl⟩ := named_of_window hwindow
  obtain ⟨hlineage, hready, hattests⟩ := streamHealth_ready hduration hregular hhealth
  have hcovers : Covers (candles.map StampedCandle.time) (window.grid duration) := by
    rw [← hready]
    by_contra hpartial
    rw [StreamHealth.row, if_neg hpartial] at hverified
    exact absurd (show "PARTIAL" = "VERIFIED" from hverified) (by decide)
  obtain ⟨source, rfl, hread⟩ := (triedCandles_cases htried).resolve_left fun hnil =>
    not_covers_nil hregular (by rwa [hnil] at hcovers)
  obtain ⟨manifest, hmanifest, hsymbol, htimeframe, hsource, duration', hduration', hwindowRead,
    rfl⟩ := verifiedCandles_eq_ok.mp hread
  obtain rfl := Except.ok.inj (hduration'.symm.trans hduration)
  have hevidence := hattests hcovers
  refine ⟨window, duration', _, hwindow, hduration, ?_, ⟨_, hwindowRead, hcovers⟩,
    ⟨manifest, hmanifest, hsymbol, htimeframe, rfl⟩, hsource⟩
  exact {
    market := hevidence.market
    timeframe := hevidence.timeframe
    requestedStart := hevidence.requestedStart
    requestedEnd := hevidence.requestedEnd
    requestedBars := hevidence.requestedBars
    availableBars := hevidence.availableBars
    missingCount := hevidence.missingCount
    duplicateCount := hevidence.duplicateCount
    tailReady := hevidence.tailReady
    lastClosedOpen := hevidence.lastClosedOpen
    status := hverified
    sourceLineage := hlineage
    native := hsource
    digest := manifest_hex hmanifest }

omit [UnicodeData] in
/-- A covered window in UTC has a health. -/
lemma exists_streamHealth (bars count : ℕ) (lineage : Option SourceLineage)
    (hduration : timeframeDuration window.timeframe = .ok duration)
    (hregular : window.Regular duration) (hend : InCalendar window.end)
    (hcovers : Covers timestamps (window.grid duration))
    (hutc : ∀ t ∈ timestamps, t.utcoffset = 0) :
    ∃ health, streamHealth window timestamps bars count lineage false = .ok health := by
  obtain ⟨coverage, hcoverage⟩ : ∃ coverage, Context.default.divide
      ⟨false, window.expectedCount, 0⟩ ⟨false, window.expectedCount, 0⟩ = some coverage := by
    have hcount : (⟨false, window.expectedCount, 0⟩ : Decimal).toRat ≠ 0 := by
      simp [Decimal.toRat, hregular.count_pos.ne']
    obtain ⟨one, hone⟩ := Option.isSome_iff_exists.mp
      (by decide +kernel : (Context.default.round 1).isSome = true)
    rw [Context.divide, if_neg hcount, div_self hcount]
    dsimp only
    rw [hone]
    exact ⟨_, rfl⟩
  obtain ⟨offset, hlast⟩ := maxOn_of_covers hregular hcovers
  obtain rfl : offset = 0 := hutc _ (List.maxOn?_mem hlast)
  have hshift : shifted ⟨window.end - duration, 0⟩ duration = .ok ⟨window.end, 0⟩ := by
    rw [shifted_eq_ok]
    simpa [Timestamp.add] using hend
  simp only [streamHealth, hduration, archived, Except.mapError, ok_bind, hcovers.2,
    Finset.inter_self, card_grid hregular, hcoverage, orRaise, hlast, Option.mapM_some, hshift]
  exact ⟨_, rfl⟩

/-- **A covered window gives a verified row.** -/
theorem verified_of_covers (hwindow : candleHealthWindow market timeframe cutoff = .ok window)
    (hduration : timeframeDuration timeframe = .ok duration) (hend : InCalendar window.end)
    {candles : List StampedCandle} {lineage : SourceLineage}
    (hread : verifiedCandles (archives market) symbol timeframe window = .ok (candles, lineage))
    (hcovers : Covers (candles.map StampedCandle.time) (window.grid duration))
    (hutc : ∀ candle ∈ candles, candle.offset = 0) :
    ∃ row, verifiedCandleHealthStream archives market symbol timeframe cutoff = .ok row ∧
      row.status = "VERIFIED" := by
  have hregular := regular_of_window hwindow hduration
  obtain ⟨-, rfl⟩ := named_of_window hwindow
  have htried : triedCandles (archives market) symbol window.timeframe window =
      .ok (candles, some lineage, none) := by
    unfold triedCandles
    rw [hread]
  obtain ⟨health, hhealth⟩ := exists_streamHealth 200 candles.length (some lineage) hduration hregular
    hend hcovers (by simpa [StampedCandle.time] using hutc)
  refine ⟨health.row symbol none, ?_, ?_⟩
  · rw [verifiedCandleHealthStream_eq_ok]
    exact ⟨window, hwindow, candles, some lineage, none, htried, health, hhealth, rfl⟩
  · exact if_pos ((streamHealth_ready hduration hregular hhealth).2.1.mpr hcovers)

/-! ### The checker of a row -/

omit [UnicodeData] in
lemma readsAs_written {t offset u : ℤ} :
    readsAs (.written (.aware t offset)) u = .ok true ↔ t = u := by
  simp [readsAs, archived, IsoText.fromisoformat, Except.map, Except.mapError, Moment.same]

omit [UnicodeData] in
/-- **The checker accepts a row while its window is the same.** -/
theorem CandleHealthRow.Attests.current_iff {lineage : SourceLineage}
    (h : row.Attests window duration lineage)
    (hwindow : candleHealthWindow market timeframe cutoff = .ok window)
    (hduration : timeframeDuration timeframe = .ok duration) :
    currentCandleHealthStream row now = .ok true ↔
      candleHealthWindow market timeframe now = .ok window := by
  obtain ⟨hmarket, htimeframe⟩ := named_of_window hwindow
  obtain ⟨offset, hlast⟩ := h.lastClosedOpen
  simp only [currentCandleHealthStream, refusedAs_eq_ok Bool.false_ne_true, bind_eq_ok,
    archived_eq_ok, allM_eq_ok, h.market, h.timeframe, hmarket, htimeframe]
  constructor
  · rintro ⟨w, hw, _, _, hchecks⟩
    obtain ⟨hm, ht⟩ := named_of_window hw
    have hcount := hchecks (.ok (row.requestedBars = w.expectedCount)) (by simp [currentChecks])
    have hstart := hchecks (readsAs row.requestedStart w.start) (by simp [currentChecks])
    have hend := hchecks (readsAs row.requestedEndExclusive w.end) (by simp [currentChecks])
    rw [id, h.requestedStart, utcText, readsAs_written] at hstart
    rw [id, h.requestedEnd, utcText, readsAs_written] at hend
    rw [id, Except.ok.injEq, decide_eq_true_iff, h.requestedBars] at hcount
    obtain ⟨m, t, start, stop, count⟩ := w
    obtain ⟨m', t', start', stop', count'⟩ := window
    simp only at hm ht hmarket htimeframe hcount hstart hend
    rw [hw, hm, ht, hmarket, htimeframe, hcount, hstart, hend]
  · intro hw
    refine ⟨window, hw, duration, by rw [htimeframe]; exact hduration, ?_⟩
    simp only [currentChecks, List.forall_mem_cons, id, Except.ok.injEq, decide_eq_true_eq,
      h.requestedStart, h.requestedEnd, hlast, Option.getD_some, utcText, readsAs_written,
      h.sourceLineage, Option.any_some, Option.map_some]
    exact ⟨h.status, h.requestedBars, h.availableBars, h.missingCount, h.duplicateCount,
      h.tailReady, trivial, trivial, trivial, h.native, h.digest, by simp⟩

end Ai4Binance

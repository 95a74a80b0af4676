/-
The fast append against the full update.

`append_verified_tail` does not read the stored candles: it checks the manifest
against the timestamps of the table, appends the new rows and extends the
manifest.  `update` reads everything and describes it again, with the stored
times in the zone of the column.

* `Agree`: both calls succeed or both fail, and what they leave is the same;
* `TailAgrees`: the manifests and batches for which the calls agree;
* `update_of_appends`: the full update of a batch behind the stored candles;
* `append_agrees_iff`: the calls agree in exactly these cases, in every archive
  that calls can produce;
* `foreign_gap_refused`: a gap that an update writes in front of a candle from
  another zone, which the next append refuses.
-/
import Mathlib.Logic.Equiv.List
import Ai4Binance.Data.ArchiveManifest

namespace Ai4Binance

open Text Check StampedCandle ParquetLibrary ZonedParquetLibrary

/-! ### Conflicts inside a batch -/

/-- No two candles of the batch differ at one timestamp. -/
def ConflictFree (candles : List StampedCandle) : Prop :=
  ∀ c ∈ candles, ∀ c' ∈ candles, c.timestamp = c'.timestamp → c.candle = c'.candle

lemma mergeInto_eq_ok_iff {m : SortedMap ℤ StampedCandle} {candles : List StampedCandle} :
    (∃ m', mergeInto m candles = .ok m') ↔
      ConflictFree candles ∧ ∀ c ∈ candles, ∀ current, m.get? c.timestamp = some current →
        current.candle = c.candle := by
  induction candles generalizing m with
  | nil => simp [mergeInto, ConflictFree]
  | cons c candles ih =>
      simp only [mergeInto_cons_eq_ok, exists_and_left, ih, SortedMap.get?_insert]
      constructor
      · rintro ⟨hc, hfree, hcurrent⟩
        have hsame : ∀ d ∈ candles, c.timestamp = d.timestamp → c.candle = d.candle :=
          fun d hd heq => hcurrent d hd c (by rw [if_pos heq])
        refine ⟨?_, ?_⟩
        · intro d hd d' hd' heq
          rcases List.mem_cons.mp hd with hdc | hd <;> rcases List.mem_cons.mp hd' with hdc' | hd'
          · rw [hdc, hdc']
          · rw [hdc] at heq ⊢
            exact hsame d' hd' heq
          · rw [hdc'] at heq ⊢
            exact (hsame d hd heq.symm).symm
          · exact hfree d hd d' hd' heq
        · intro d hd current hget
          rcases List.mem_cons.mp hd with rfl | hd
          · exact hc current hget
          · by_cases heq : c.timestamp = d.timestamp
            · rw [← hsame d hd heq]
              exact hc current (by rw [heq]; exact hget)
            · exact hcurrent d hd current (by rw [if_neg heq]; exact hget)
      · rintro ⟨hfree, hcurrent⟩
        refine ⟨hcurrent c (.head _), fun d hd d' hd' => hfree d (.tail _ hd) d' (.tail _ hd'), ?_⟩
        intro d hd current hget
        split_ifs at hget with heq
        · rw [← Option.some.inj hget]
          exact hfree c (.head _) d (.tail _ hd) heq
        · exact hcurrent d (.tail _ hd) current hget

/-- A batch is merged on its own when it is free of conflicts. -/
lemma mergeCandles_nil_iff {candles : List StampedCandle} :
    (∃ incoming, mergeCandles [] candles = .ok incoming) ↔ ConflictFree candles := by
  have hiff := @mergeInto_eq_ok_iff SortedMap.empty candles
  simp only [SortedMap.get?_empty, reduceCtorEq, false_imp_iff, implies_true, and_true] at hiff
  rw [← hiff, mergeCandles, List.nil_append]
  constructor
  · rintro ⟨incoming, h⟩
    obtain ⟨m, hm, -⟩ := map_eq_ok.mp h
    exact ⟨m, hm⟩
  · rintro ⟨m, hm⟩
    exact ⟨sortedCandles m, map_eq_ok.mpr ⟨m, hm, rfl⟩⟩

lemma mem_of_mergeInto {m m' : SortedMap ℤ StampedCandle} {candles : List StampedCandle}
    (h : mergeInto m candles = .ok m') : ∀ p ∈ m'.entries, p ∈ m.entries ∨ p.2 ∈ candles := by
  induction candles generalizing m with
  | nil =>
      obtain rfl : m = m' := by simpa [mergeInto] using h
      exact fun p hp => .inl hp
  | cons c candles ih =>
      intro p hp
      rcases ih (mergeInto_cons_eq_ok.mp h).2 p hp with hp | hp
      · rcases SortedMap.mem_insertEntry hp with rfl | hp
        · exact .inr (.head _)
        · exact .inl hp
      · exact .inr (.tail _ hp)

/-- A merged batch holds candles of the batch, at each of its timestamps one. -/
lemma mem_mergeCandles_nil {candles incoming : List StampedCandle}
    (h : mergeCandles [] candles = .ok incoming) :
    (∀ c ∈ incoming, c ∈ candles) ∧
      ∀ c ∈ candles, ∃ c' ∈ incoming, c'.timestamp = c.timestamp := by
  obtain ⟨m, hm, rfl⟩ := map_eq_ok.mp h
  rw [List.nil_append] at hm
  refine ⟨fun c hc => ?_, fun c hc => ?_⟩
  · obtain ⟨p, hp, rfl⟩ := List.mem_map.mp hc
    exact (mem_of_mergeInto hm p hp).resolve_left (by simp [SortedMap.empty])
  · obtain ⟨c', hc'⟩ := Option.isSome_iff_exists.mp
      (mergeInto_isSome hm (k := c.timestamp) (.inr ⟨c, hc, rfl⟩))
    have hmem := SortedMap.get?_eq_some_iff.mp hc'
    exact ⟨c', List.mem_map.mpr ⟨_, hmem, rfl⟩, keyed_empty.mergeInto hm _ hmem⟩

/-! ### Agreement -/

namespace Archive

variable {File : Type}

/-- Both calls succeed or both fail, and when they succeed they leave the same
candles and manifests with the same row count, bounds and gaps. -/
def Agree [ParquetLibrary File] [UnicodeData] (o o' : Outcome File) : Prop :=
  (Succeeds o ↔ Succeeds o') ∧ ∀ manifest manifest', o.1 = .ok manifest → o'.1 = .ok manifest' →
    (∀ symbol timeframe, o.2.candlesOf symbol timeframe = o'.2.candlesOf symbol timeframe) ∧
      manifest.rowCount = manifest'.rowCount ∧
      manifest.firstTimestamp = manifest'.firstTimestamp ∧
      manifest.lastTimestamp = manifest'.lastTimestamp ∧
      manifest.gaps = manifest'.gaps ∧ manifest.gapCount = manifest'.gapCount

/-- Where the calls agree, of a dataset whose manifest passes the check of the
checksum: a batch in conflict with itself is not covered by the allowance, and a
batch behind the last timestamp finds the manifest spelled in the zone of the
stored candles, its gaps and its first timestamp, and the last one if the batch
begins with a gap.  The two exceptions are a naive `generated_at`, under which
both calls fail, and a replacement that changes no stored candle. -/
structure TailAgrees [ParquetLibrary File] [UnicodeData] (a : Archive File) (c : UpdateCall) :
    Prop where
  conflict : ∀ symbol manifest file existing,
    validateIdentity c.symbol c.timeframe c.source = .ok symbol →
    (a (symbol, c.timeframe)).verified = .ok (manifest, file) →
    a.read symbol c.timeframe = .ok existing → ¬ ConflictFree c.candles →
    (∃ p ∈ c.replaceConflictsFromSources, p.toList <+: manifest.source.toList) →
    (∃ wall, c.generatedAt = some (.naive wall)) ∧
      values (replaceCandles existing c.candles) ≠ values existing
  spelling : ∀ symbol manifest file existing stored duration last offset,
    validateIdentity c.symbol c.timeframe c.source = .ok symbol →
    (a (symbol, c.timeframe)).verified = .ok (manifest, file) →
    a.read symbol c.timeframe = .ok existing → stored ∈ existing →
    timeframeDuration c.timeframe = .ok duration → ConflictFree c.candles →
    manifest.lastTimestamp = .written (.aware last offset) →
    (¬ ∃ wall, c.generatedAt = some (.naive wall)) →
    ∀ first ∈ c.candles, (∀ candle ∈ c.candles, first.timestamp ≤ candle.timestamp) →
      last < first.timestamp →
      (∀ gap ∈ manifest.gaps, gap.inZone stored.offset = gap) ∧
        manifest.firstTimestamp.inZone stored.offset = manifest.firstTimestamp ∧
        (first.timestamp - last = duration ∨ offset = stored.offset)

variable [ZonedParquetLibrary File] [UnicodeData] {a : Archive File} {c : UpdateCall}
  (now : ℤ) {z : ℤ} {symbol : String} {manifest : DatasetManifest} {file : File}
  {candles incoming : List StampedCandle} {tail head : StampedCandle}

/-! ### What readers see -/

omit [UnicodeData] in
lemma verified_written (a : Archive File) (key : String × String) {manifest : DatasetManifest}
    {file : File} (h : manifest.sha256 = checksum file) :
    (((a.withParquet key file).withManifest key manifest) key).verified = .ok (manifest, file) := by
  simp only [withManifest, withParquet, Function.update_self, Dataset.verified,
    Dataset.loadManifest, orRaise, ok_bind, raiseIf_of_not (not_not.mpr h)]
  rfl

/-- Two archives that differ in one certified dataset with the same candles show
the same candles. -/
lemma candlesOf_congr {a₁ a₂ : Archive File} {key : String × String}
    {manifest₁ manifest₂ : DatasetManifest} {file₁ file₂ : File}
    {candles₁ candles₂ : List StampedCandle} (hother : ∀ key', key' ≠ key → a₁ key' = a₂ key')
    (hver₁ : (a₁ key).verified = .ok (manifest₁, file₁))
    (hcert₁ : Certified key manifest₁ file₁ candles₁)
    (hver₂ : (a₂ key).verified = .ok (manifest₂, file₂))
    (hcert₂ : Certified key manifest₂ file₂ candles₂)
    (hvalues : values candles₁ = values candles₂) (symbol timeframe : String) :
    a₁.candlesOf symbol timeframe = a₂.candlesOf symbol timeframe := by
  cases hid : validateIdentity symbol timeframe "read" with
  | error e => simp [candlesOf, read, hid, Except.toOption]
  | ok normalized =>
      rw [candlesOf, candlesOf, read_normalized a₁ hid, read_normalized a₂ hid]
      have hnorm := validateIdentity_normalized hid
      by_cases hkey : (normalized, timeframe) = key
      · subst hkey
        obtain ⟨z₁, hz₁⟩ := hcert₁.holds
        obtain ⟨z₂, hz₂⟩ := hcert₂.holds
        rw [read_of_holdsIn hnorm hver₁ hcert₁ hz₁, read_of_holdsIn hnorm hver₂ hcert₂ hz₂]
        simp [Except.toOption, hvalues]
      · simp only [read, hnorm, ok_bind, hother _ hkey]

/-! ### The full update -/

/-- The update under the normalized symbol is the update. -/
lemma update_symbol (hid : validateIdentity c.symbol c.timeframe c.source = .ok symbol) :
    a.update now { c with symbol } = a.update now c := by
  obtain ⟨-, -, hsource, -⟩ := validateIdentity_eq_ok.mp hid
  have hplan : a.planUpdate { c with symbol } = a.planUpdate c := by
    simp only [planUpdate, hid, validateIdentity_again hid hsource]
  unfold update
  rw [hplan]

/-- The dataset is read as the candles of its manifest. -/
lemma stored_of_verified (hid : validateIdentity c.symbol c.timeframe c.source = .ok symbol)
    (hver : (a (symbol, c.timeframe)).verified = .ok (manifest, file))
    (hcert : Certified (symbol, c.timeframe) manifest file candles) (hz : HoldsIn z file candles) :
    a.stored (symbol, c.timeframe) = .ok (candles.map (inZone z)) := by
  have hsome : (a (symbol, c.timeframe)).parquet.isSome := by
    cases hpar : (a (symbol, c.timeframe)).parquet with
    | some f => rfl
    | none => simp [Dataset.verified, hpar, orRaise] at hver
  rw [stored, if_pos hsome, read_of_holdsIn (validateIdentity_normalized hid) hver hcert hz]

/-- The plan of the update of a batch behind the stored candles. -/
lemma Appends.planUpdate (h : Appends a c symbol manifest file candles incoming tail head)
    (hz : HoldsIn z file candles) (hne : c.candles ≠ []) :
    a.planUpdate c =
      .ok ((symbol, c.timeframe), candles.map (inZone z), candles.map (inZone z) ++ incoming) := by
  have hstored := stored_of_verified h.identity h.verified h.certified hz
  have hbehind : ∀ x ∈ candles.map (inZone z), ∀ y ∈ c.candles, x.timestamp < y.timestamp := by
    intro x hx y hy
    obtain ⟨x', hx', rfl⟩ := List.mem_map.mp hx
    obtain ⟨y', hy', hts⟩ := (mem_mergeCandles_nil h.merges).2 y hy
    rw [← hts]
    exact h.lt x' hx' y' hy'
  have hmerge : mergeCandles (candles.map (inZone z)) c.candles =
      .ok (candles.map (inZone z) ++ incoming) := by
    rw [mergeCandles_append (ascending_inZone.mpr h.certified.ascending) hbehind, h.merges]
    rfl
  exact planUpdate_eq_ok.mpr ⟨symbol, h.identity, hne, hstored, by rw [mergeAllowing, hmerge], rfl⟩

/-- **The full update of a batch behind the stored candles** rewrites the dataset
with the candles and the batch. -/
lemma Appends.update (h : Appends a c symbol manifest file candles incoming tail head)
    (hz : HoldsIn z file candles) (hne : c.candles ≠ []) :
    a.update now c = a.rewrite (symbol, c.timeframe) c.source (stampOr c.generatedAt now)
      (candles.map (inZone z) ++ incoming) := by
  refine update_of_ne (h.planUpdate hz hne) (fun heq => ?_) now
  have hincne : incoming ≠ [] := by
    rintro rfl
    simpa using h.starts
  have hlen := congrArg List.length heq
  simp only [values, List.length_map, List.length_append] at hlen
  exact hincne (List.length_eq_zero_iff.mp (by omega))

/-! ### Agreement of the calls -/

omit [UnicodeData] in
lemma eq_aware_of_requireAware {timestamp : Moment} (h : timestamp.requireAware = .ok ()) :
    ∃ t offset, timestamp = .aware t offset := by
  cases timestamp with
  | aware t offset => exact ⟨t, offset, rfl⟩
  | naive wall => simp [Moment.requireAware] at h

lemma agree_self (o : Outcome File) : Agree o o := by
  refine ⟨Iff.rfl, fun manifest manifest' h h' => ?_⟩
  obtain rfl : manifest = manifest' := Except.ok.inj (h.symm.trans h')
  exact ⟨fun _ _ => rfl, rfl, rfl, rfl, rfl, rfl⟩

lemma agree_of_not_succeeds {o o' : Outcome File} (h : ¬ Succeeds o) (h' : ¬ Succeeds o') :
    Agree o o' :=
  ⟨iff_of_false h h', fun manifest _ hm _ => absurd ⟨manifest, hm⟩ h⟩

omit [ZonedParquetLibrary File] [UnicodeData] in
lemma not_succeeds_error [ParquetLibrary File] (e : ArchiveError) (a : Archive File) :
    ¬ Succeeds ((.error e, a) : Outcome File) := by
  rintro ⟨manifest, h⟩
  exact absurd h (by simp)

omit [UnicodeData] in
/-- The gaps of the two manifests are the same when the gap in front of the batch
is. -/
lemma gaps_eq_iff {duration : ℤ} (hends : candles.getLast? = some tail)
    (hstarts : incoming.head? = some head)
    (hzone : (findGaps duration candles).map (GapText.inZone z) = findGaps duration candles) :
    findGaps duration (candles ++ incoming) =
        findGaps duration (candles.map (inZone z) ++ incoming) ↔
      head.timestamp - tail.timestamp = duration ∨ tail.offset = z := by
  have hends' : (candles.map (inZone z)).getLast? = some (tail.inZone z) := by simp [hends]
  rw [findGaps_append duration hends hstarts, findGaps_append duration hends' hstarts,
    findGaps_inZone, hzone, List.append_assoc, List.append_assoc, List.append_cancel_left_eq,
    List.append_cancel_right_eq, timestamp_inZone]
  by_cases hstep : head.timestamp - tail.timestamp = duration
  · simp [hstep]
  · simp [hstep, moment, inZone]

/-- What the full update of a batch behind the stored candles leaves behind. -/
lemma Appends.update_eq (h : Appends a c symbol manifest file candles incoming tail head)
    (hz : HoldsIn z file candles) (hne : c.candles ≠ []) {duration : ℤ} {last : StampedCandle}
    (hdur : timeframeDuration c.timeframe = .ok duration) (hlast : incoming.getLast? = some last)
    (haware : (stampOr c.generatedAt now).requireAware = .ok ()) :
    ∃ (updated : DatasetManifest) (file' : File),
      a.update now c = (.ok updated, (a.withParquet (symbol, c.timeframe) file').withManifest
        (symbol, c.timeframe) updated) ∧
      Certified (symbol, c.timeframe) updated file' (candles.map (inZone z) ++ incoming) ∧
      HoldsIn (columnZone File (candles.map (inZone z) ++ incoming)) file'
        (candles.map (inZone z) ++ incoming) ∧
      updated.rowCount = (candles ++ incoming).length ∧
      updated.firstTimestamp = manifest.firstTimestamp.inZone z ∧
      updated.lastTimestamp = .written last.moment ∧
      updated.gaps = findGaps duration (candles.map (inZone z) ++ incoming) := by
  obtain ⟨first, hfirst, hspelled⟩ := h.certified.describes.first
  have hfirst' : (candles.map (inZone z) ++ incoming).head? = some (first.inZone z) := by
    rw [List.head?_append, List.head?_map, hfirst]
    rfl
  have hlast' : (candles.map (inZone z) ++ incoming).getLast? = some last := by
    rw [List.getLast?_append, hlast]
    rfl
  have hasc : Ascending (candles.map (inZone z) ++ incoming) := by
    refine List.pairwise_append.mpr ⟨ascending_inZone.mpr h.certified.ascending,
      ascending_mergeCandles h.merges, fun x hx y hy => ?_⟩
    obtain ⟨x', hx', rfl⟩ := List.mem_map.mp hx
    exact h.lt x' hx' y hy
  obtain ⟨updated, hupdated, hrow, hfirst'', hlast'', hgaps⟩ : ∃ updated,
      describe (symbol, c.timeframe) c.source (stampOr c.generatedAt now)
        (candleFile (symbol, c.timeframe) c.source (candles.map (inZone z) ++ incoming) : File)
        (candles.map (inZone z) ++ incoming) = .ok updated ∧
      updated.rowCount = (candles.map (inZone z) ++ incoming).length ∧
      updated.firstTimestamp = .written (first.inZone z).moment ∧
      updated.lastTimestamp = .written last.moment ∧
      updated.gaps = findGaps duration (candles.map (inZone z) ++ incoming) :=
    ⟨_, describe_eq_ok.mpr ⟨duration, first.inZone z, last, hdur, haware, hfirst', hlast', rfl⟩,
      rfl, rfl, rfl, rfl⟩
  refine ⟨updated, _, ?_, certified_describe hasc hupdated,
    holdsIn_write (candleSchema_infer _) _ _, ?_, ?_, hlast'', hgaps⟩
  · rw [h.update now hz hne]
    simp only [rewrite, hupdated]
  · simp [hrow]
  · rw [hfirst'', hspelled]
    rfl

/-- The append refuses gaps that are not spelled in the zone of the column. -/
lemma Appends.append_fails (h : Appends a c symbol manifest file candles incoming tail head)
    (hz : HoldsIn z file candles) (hne : c.candles ≠ [])
    (hgaps : manifest.gaps.map (GapText.inZone z) ≠ manifest.gaps) :
    ¬ Succeeds (a.appendVerifiedTail now c) := by
  obtain ⟨duration, last, schema, cs, -, -, -, -, hplan⟩ := h.planTail_eq_ok now hz hne
  cases hp : a.planTail now c with
  | error e =>
      rw [append_of_error hp]
      exact not_succeeds_error _ _
  | ok plan => exact absurd ((hplan plan).mp hp).1 hgaps

/-- A batch behind the stored candles: the calls agree when the manifest is
spelled in the zone of the column. -/
lemma Appends.agree_iff (h : Appends a c symbol manifest file candles incoming tail head)
    (hz : HoldsIn z file candles) (hne : c.candles ≠ []) {duration : ℤ}
    (hdur : timeframeDuration c.timeframe = .ok duration)
    (haware : (stampOr c.generatedAt now).requireAware = .ok ()) :
    Agree (a.appendVerifiedTail now c) (a.update now c) ↔
      (∀ gap ∈ manifest.gaps, gap.inZone z = gap) ∧
        manifest.firstTimestamp.inZone z = manifest.firstTimestamp ∧
        (head.timestamp - tail.timestamp = duration ∨ tail.offset = z) := by
  obtain ⟨duration', last, schema, cs, hdur', hlast, hschema, hcs, hplan⟩ :=
    h.planTail_eq_ok now hz hne
  obtain rfl : duration' = duration := Except.ok.inj (hdur'.symm.trans hdur)
  obtain ⟨updated, file', hupdate, hcert, -, hrow, hfirst, hlast', hgaps⟩ :=
    h.update_eq now hz hne hdur hlast haware
  have hzone : (∀ gap ∈ manifest.gaps, gap.inZone z = gap) ↔
      manifest.gaps.map (GapText.inZone z) = manifest.gaps := by
    have hinj := List.map_inj_left (l := manifest.gaps) (f := GapText.inZone z) (g := id)
    rw [List.map_id] at hinj
    exact hinj.symm
  rw [hzone, hupdate]
  by_cases hspelled : manifest.gaps.map (GapText.inZone z) = manifest.gaps
  · obtain ⟨duration'', hdur'', hgaps'⟩ := h.certified.describes.gaps
    obtain rfl : duration'' = duration' := Except.ok.inj (hdur''.symm.trans hdur)
    rw [hgaps'] at hspelled
    have happend := (hplan _).mpr ⟨by rw [hgaps']; exact hspelled, haware, rfl⟩
    have hcertTail := h.certified_tail (stampOr c.generatedAt now) hdur hlast hschema
      hcs { symbol := symbol, timeframe := c.timeframe, source := strip c.source }
    unfold appendVerifiedTail
    rw [happend]
    constructor
    · rintro ⟨-, hall⟩
      obtain ⟨-, -, hfirst', -, hgaps'', -⟩ := hall _ _ rfl rfl
      refine ⟨by rw [hgaps']; exact hspelled, hfirst.symm.trans hfirst'.symm, ?_⟩
      exact (gaps_eq_iff h.ends h.starts hspelled).mp (hgaps''.trans hgaps)
    · rintro ⟨-, hfirst', hjoint⟩
      have hgaps'' := (gaps_eq_iff h.ends h.starts hspelled).mpr hjoint
      refine ⟨iff_of_true ⟨_, rfl⟩ ⟨_, rfl⟩, ?_⟩
      intro m m' hm hm'
      obtain rfl := Except.ok.inj hm
      obtain rfl := Except.ok.inj hm'
      refine ⟨candlesOf_congr ?_
        (verified_written a _ hcertTail.sha256) hcertTail (verified_written a _ hcert.sha256) hcert
        ?_, hrow.symm, hfirst'.symm.trans hfirst.symm, hlast'.symm, hgaps''.trans hgaps.symm, ?_⟩
      · intro key' hkey
        simp [withManifest, withParquet, hkey]
      · simp [values, Function.comp_def]
      · rw [hcert.describes.gapCount, hgaps, ← hgaps'']
        rfl
  · refine iff_of_false (fun hagree => ?_) fun hall => hspelled hall.1
    exact h.append_fails now hz hne hspelled (hagree.1.mpr ⟨updated, rfl⟩)

/-- The update of a batch in conflict with itself succeeds when the source of the
stored candles is covered by the allowance, and then the last candle at each
timestamp wins. -/
lemma update_succeeds_of_conflict
    (hid : validateIdentity c.symbol c.timeframe c.source = .ok symbol)
    (hver : (a (symbol, c.timeframe)).verified = .ok (manifest, file))
    (hcert : Certified (symbol, c.timeframe) manifest file candles) (hz : HoldsIn z file candles)
    (hne : c.candles ≠ []) (hconflict : ¬ ConflictFree c.candles) :
    Succeeds (a.update now c) ↔
      (∃ p ∈ c.replaceConflictsFromSources, p.toList <+: manifest.source.toList) ∧
        ((∃ wall, c.generatedAt = some (.naive wall)) →
          values (replaceCandles (candles.map (inZone z)) c.candles) =
            values (candles.map (inZone z))) := by
  have hstored := stored_of_verified hid hver hcert hz
  have hload : (a (symbol, c.timeframe)).loadManifest = .ok manifest := by
    simp only [Dataset.verified, bind_eq_ok, pure_eq_ok, Prod.mk.injEq] at hver
    obtain ⟨m, hm, _, _, _, _, rfl, -⟩ := hver
    exact hm
  have hmerge : ∃ e, mergeCandles (candles.map (inZone z)) c.candles = .error e := by
    cases hm : mergeCandles (candles.map (inZone z)) c.candles with
    | error e => exact ⟨e, rfl⟩
    | ok merged => exact absurd (mergeCandles_nil_iff.mp (mergeCandles_nil_of_ok hm)) hconflict
  obtain ⟨e, he⟩ := hmerge
  have hself := mergeCandles_self ((ascending_inZone (z := z)).mpr hcert.ascending)
  obtain ⟨-, ⟨duration, hdur⟩, -, -⟩ := validateIdentity_eq_ok.mp hid
  by_cases hallowed : ∃ p ∈ c.replaceConflictsFromSources, p.toList <+: manifest.source.toList
  · have hplan : a.planUpdate c = .ok ((symbol, c.timeframe), candles.map (inZone z),
        replaceCandles (candles.map (inZone z)) c.candles) := by
      refine planUpdate_eq_ok.mpr ⟨symbol, hid, hne, hstored, ?_, rfl⟩
      rw [mergeAllowing, he]
      simp only [hself, hload, ok_bind, raiseIf_of_not (not_not.mpr hallowed)]
      rfl
    rw [and_iff_right hallowed]
    by_cases hv : values (replaceCandles (candles.map (inZone z)) c.candles) =
        values (candles.map (inZone z))
    · rw [update_of_eq hplan hv]
      exact iff_of_true ⟨manifest, hload⟩ fun _ => hv
    · rw [update_of_ne hplan hv]
      rcases stampOr_cases c.generatedAt now with ⟨wall, hnaive, hstamp⟩ | ⟨hnot, t, o, hstamp⟩
      · rw [hstamp]
        exact iff_of_false (rewrite_naive a _ c.source wall _).1 fun h => hv (h ⟨wall, hnaive⟩)
      · rw [hstamp]
        exact iff_of_true (rewrite_aware a hdur c.source t o (replaceCandles_ne_nil hne))
          fun hnaive => absurd hnaive hnot
  · refine iff_of_false (fun hs => ?_) fun h => hallowed h.1
    cases hplan : a.planUpdate c with
    | error e' =>
        rw [update_of_error hplan] at hs
        exact not_succeeds_error _ _ hs
    | ok plan =>
        obtain ⟨key, existing, merged⟩ := plan
        obtain ⟨symbol', hid', -, hst, hm, -⟩ := planUpdate_eq_ok.mp hplan
        obtain rfl : symbol = symbol' := Except.ok.inj (hid.symm.trans hid')
        obtain rfl : candles.map (inZone z) = existing := Except.ok.inj (hstored.symm.trans hst)
        rw [mergeAllowing, he] at hm
        simp only [hself, hload, ok_bind, bind_eq_ok, raiseIf_eq_ok, not_not] at hm
        obtain ⟨-, hallowed', -⟩ := hm
        exact hallowed hallowed'

/-- The append refuses a batch in conflict with itself. -/
lemma append_fails_of_conflict
    (hid : validateIdentity c.symbol c.timeframe c.source = .ok symbol)
    (hver : (a (symbol, c.timeframe)).verified = .ok (manifest, file)) (hne : c.candles ≠ [])
    (hconflict : ¬ ConflictFree c.candles) : ¬ Succeeds (a.appendVerifiedTail now c) := by
  have hsome : ¬ (a (symbol, c.timeframe)).parquet.isNone = true := by
    intro hnone
    simp [Dataset.verified, Option.isNone_iff_eq_none.mp hnone, orRaise] at hver
  cases hm : mergeCandles [] c.candles with
  | ok incoming => exact absurd (mergeCandles_nil_iff.mp ⟨incoming, hm⟩) hconflict
  | error e =>
      have hplan : a.planTail now c = .error e := by
        simp only [planTail, hid, ok_bind, raiseIf_of_not hne, if_neg hsome, hver, hm, error_bind]
      rw [append_of_error hplan]
      exact not_succeeds_error _ _

/-! ### Every run -/

/-- A new archive. -/
def empty : Archive File := fun _ => {}

/-- A call at a time. -/
def ArchiveStep (a : Archive File) (call : ℤ × ArchiveCall) (a' : Archive File) : Prop :=
  a' = (a.call call.1 call.2).2

lemma sound_of_run {calls : List (ℤ × ArchiveCall)}
    (h : Run ArchiveStep (empty : Archive File) calls a) : a.Sound := by
  refine h.invariant ?_ ?_
  · rintro a ⟨now, call⟩ _ rfl ha
    exact ha.call now call
  · intro key content hcontent
    exact absurd hcontent (by simp [empty])

/-- A batch behind a certified dataset under a timestamp without a zone: both calls
fail. -/
lemma Appends.agree_of_naive (h : Appends a c symbol manifest file candles incoming tail head)
    (hne : c.candles ≠ []) {wall : ℤ} (hnaive : c.generatedAt = some (.naive wall)) :
    Agree (a.appendVerifiedTail now c) (a.update now c) := by
  have hstamp : stampOr c.generatedAt now = .naive wall := by rw [hnaive]; rfl
  obtain ⟨z, hz⟩ := h.certified.holds
  refine agree_of_not_succeeds ?_ ?_
  · obtain ⟨duration, last, schema, cs, -, -, -, -, hplan⟩ := h.planTail_eq_ok now hz hne
    cases hp : a.planTail now c with
    | error e =>
        rw [append_of_error hp]
        exact not_succeeds_error _ _
    | ok plan =>
        obtain ⟨-, haware, -⟩ := (hplan plan).mp hp
        rw [hstamp] at haware
        simp [Moment.requireAware] at haware
  · rw [h.update now hz hne, hstamp]
    exact (rewrite_naive a _ c.source wall _).1

/-- Nothing is asked of a dataset that does not pass the check of the checksum. -/
lemma tailAgrees_of_not_verified
    (h : ∀ symbol manifest file, validateIdentity c.symbol c.timeframe c.source = .ok symbol →
      (a (symbol, c.timeframe)).verified ≠ .ok (manifest, file)) : a.TailAgrees c :=
  ⟨fun symbol manifest file _ hid hver => absurd hver (h symbol manifest file hid),
    fun symbol manifest file _ _ _ _ _ hid hver => absurd hver (h symbol manifest file hid)⟩

/-- What is asked of a batch in conflict with itself. -/
lemma tailAgrees_iff_of_conflict
    (hid : validateIdentity c.symbol c.timeframe c.source = .ok symbol)
    (hver : (a (symbol, c.timeframe)).verified = .ok (manifest, file))
    (hcert : Certified (symbol, c.timeframe) manifest file candles) (hz : HoldsIn z file candles)
    (hconflict : ¬ ConflictFree c.candles) :
    a.TailAgrees c ↔
      ((∃ p ∈ c.replaceConflictsFromSources, p.toList <+: manifest.source.toList) →
        (∃ wall, c.generatedAt = some (.naive wall)) ∧
          values (replaceCandles (candles.map (inZone z)) c.candles) ≠
            values (candles.map (inZone z))) := by
  have hread := read_of_holdsIn (validateIdentity_normalized hid) hver hcert hz
  constructor
  · intro h
    exact h.conflict symbol manifest file _ hid hver hread hconflict
  · intro h
    refine ⟨?_, ?_⟩
    · intro symbol' manifest' file' existing hid' hver' hread' _ hallowed
      obtain rfl : symbol = symbol' := Except.ok.inj (hid.symm.trans hid')
      obtain ⟨rfl, rfl⟩ := Prod.mk.inj (Except.ok.inj (hver.symm.trans hver'))
      rw [Except.ok.inj (hread'.symm.trans hread)]
      exact h hallowed
    · intro _ _ _ _ _ _ _ _ _ _ _ _ _ hfree
      exact absurd hfree hconflict

/-- What is asked of a batch without conflicts. -/
lemma tailAgrees_iff_of_free
    (hid : validateIdentity c.symbol c.timeframe c.source = .ok symbol)
    (hver : (a (symbol, c.timeframe)).verified = .ok (manifest, file))
    (hcert : Certified (symbol, c.timeframe) manifest file candles) (hz : HoldsIn z file candles)
    {duration : ℤ} (hdur : timeframeDuration c.timeframe = .ok duration)
    (htail : candles.getLast? = some tail) (hinc : mergeCandles [] c.candles = .ok incoming)
    (hhead : incoming.head? = some head) :
    a.TailAgrees c ↔ ((¬ ∃ wall, c.generatedAt = some (.naive wall)) →
      tail.timestamp < head.timestamp →
      (∀ gap ∈ manifest.gaps, gap.inZone z = gap) ∧
        manifest.firstTimestamp.inZone z = manifest.firstTimestamp ∧
        (head.timestamp - tail.timestamp = duration ∨ tail.offset = z)) := by
  have hfree : ConflictFree c.candles := mergeCandles_nil_iff.mp ⟨incoming, hinc⟩
  obtain ⟨hsub, hcover⟩ := mem_mergeCandles_nil hinc
  have hmem : head ∈ incoming := List.mem_of_mem_head? hhead
  have hleast : ∀ candle ∈ c.candles, head.timestamp ≤ candle.timestamp := by
    intro candle hcandle
    obtain ⟨c', hc', hts⟩ := hcover candle hcandle
    rw [← hts]
    exact (ascending_mergeCandles hinc).le_timestamp hhead c' hc'
  obtain ⟨tail', htail', hlast⟩ := hcert.describes.last
  obtain rfl : tail' = tail := Option.some.inj (htail'.symm.trans htail)
  have hread := read_of_holdsIn (validateIdentity_normalized hid) hver hcert hz
  have hzone : ∀ stored ∈ candles.map (inZone z), stored.offset = z := by
    intro stored hstored
    obtain ⟨x, -, rfl⟩ := List.mem_map.mp hstored
    rfl
  constructor
  · intro h hnot hlt
    have hstored : tail'.inZone z ∈ candles.map (inZone z) :=
      List.mem_map.mpr ⟨tail', List.mem_of_getLast? htail, rfl⟩
    have hspelling := h.spelling symbol manifest file _ _ duration tail'.timestamp tail'.offset hid
      hver hread hstored hdur hfree hlast hnot head (hsub head hmem) hleast hlt
    rw [hzone _ hstored] at hspelling
    exact hspelling
  · intro h
    refine ⟨?_, ?_⟩
    · intro _ _ _ _ _ _ _ hconflict
      exact absurd hfree hconflict
    · intro symbol' manifest' file' existing stored duration' last offset hid' hver' hread' hstored
        hdur' _ hlast' hnot first hfirst hmin hlt
      obtain rfl : symbol = symbol' := Except.ok.inj (hid.symm.trans hid')
      obtain ⟨rfl, rfl⟩ := Prod.mk.inj (Except.ok.inj (hver.symm.trans hver'))
      obtain rfl := Except.ok.inj (hread'.symm.trans hread)
      obtain rfl : duration = duration' := Except.ok.inj (hdur.symm.trans hdur')
      obtain ⟨rfl, rfl⟩ : tail'.timestamp = last ∧ tail'.offset = offset :=
        Moment.aware.inj (IsoText.written.inj (hlast.symm.trans hlast'))
      have heq : first.timestamp = head.timestamp :=
        le_antisymm (hmin head (hsub head hmem)) (hleast first hfirst)
      rw [hzone stored hstored]
      rw [heq] at hlt ⊢
      exact h hnot hlt

/-! ### The first batch -/

/-- The first batch of a dataset is certified as it came. -/
lemma certified_first_update {timeframe : String} (htimeframe : c.timeframe = timeframe)
    (hid : validateIdentity c.symbol timeframe c.source = .ok symbol)
    (hne : c.candles ≠ []) (hasc : Ascending c.candles)
    (haware : (stampOr c.generatedAt now).requireAware = .ok ()) :
    ∃ (manifest : DatasetManifest) (file : File),
      ((update (empty : Archive File) now c).2 (symbol, timeframe)).verified =
        .ok (manifest, file) ∧
      Certified (symbol, timeframe) manifest file c.candles ∧
      HoldsIn (columnZone File c.candles) file c.candles := by
  subst htimeframe
  have hplan : planUpdate (empty : Archive File) c =
      .ok ((symbol, c.timeframe), [], c.candles) := by
    refine planUpdate_eq_ok.mpr ⟨symbol, hid, hne, rfl, ?_, rfl⟩
    rw [mergeAllowing, mergeCandles_self hasc]
  have hv : values c.candles ≠ values [] := by
    simpa [values] using hne
  obtain ⟨-, ⟨duration, hdur⟩, -, -⟩ := validateIdentity_eq_ok.mp hid
  obtain ⟨manifest, hdescribe⟩ : ∃ manifest, describe (symbol, c.timeframe) c.source
      (stampOr c.generatedAt now)
      (candleFile (symbol, c.timeframe) c.source c.candles : File) c.candles = .ok manifest :=
    ⟨_, describe_eq_ok.mpr ⟨duration, _, _, hdur, haware, List.head?_eq_some_head hne,
      List.getLast?_eq_some_getLast hne, rfl⟩⟩
  have hcert := certified_describe hasc hdescribe
  refine ⟨manifest, _, ?_, hcert, holdsIn_write (candleSchema_infer _) _ _⟩
  rw [update_of_ne hplan hv]
  simp only [rewrite, hdescribe]
  exact verified_written _ _ hcert.sha256

end Archive

/-! ### Tables as files -/

instance : Countable Moment := by
  have hinj : Function.Injective fun m : Moment =>
      match m with
      | .aware t offset => (true, t, offset)
      | .naive t => (false, t, 0) := by
    rintro (⟨t, o⟩ | t) (⟨u, p⟩ | u) h <;> simp_all
  exact hinj.countable

instance : Countable Cell := by
  have hinj : Function.Injective fun c : Cell =>
      match c with
      | .number q => some (some q)
      | .notFinite => some none
      | .invalid => none := by
    rintro (q | _ | _) (q' | _ | _) h <;> simp_all
  exact hinj.countable

instance : Countable Row := by
  have hinj : Function.Injective fun r : Row =>
      (r.timestamp, r.open, r.high, r.low, r.close, r.volume) := by
    rintro ⟨⟩ ⟨⟩ h
    simpa using h
  exact hinj.countable

instance countableString : Countable String := by
  have hinj : Function.Injective fun s : String => s.toList.map Char.toNat :=
    fun s t h => String.toList_inj.mp
      (List.map_injective_iff.mpr (fun _ _ => Char.toNat_inj.mp) h)
  exact hinj.countable

instance : Countable ArchiveMetadata := by
  have hinj : Function.Injective fun m : ArchiveMetadata =>
      (m.schemaVersion, m.symbol, m.timeframe, m.source, m.marketDataOnly) := by
    rintro ⟨⟩ ⟨⟩ h
    simpa using h
  exact hinj.countable

instance {Schema : Type} [Countable Schema] : Countable (Table Schema) := by
  have hinj : Function.Injective fun t : Table Schema => (t.schema, t.metadata, t.rows) := by
    rintro ⟨_, _, _⟩ ⟨_, _, _⟩ h
    simpa using h
  exact hinj.countable

/-- The row with its timestamp in the zone. -/
def Row.inZone (z : ℤ) (r : Row) : Row := { r with timestamp := r.timestamp.map (Moment.inZone z) }

lemma Row.value_inZone (z : ℤ) (r : Row) : (r.inZone z).value = r.value := by
  obtain ⟨m, o, h, l, c, v⟩ := r
  rcases m with _ | (⟨t, offset⟩ | t) <;> rfl

/-- The zone of the timestamps is no value of the rows. -/
lemma Row.values_inZone (z : ℤ) (rows : List Row) :
    (rows.map (Row.inZone z)).map Row.value = rows.map Row.value := by
  rw [List.map_map]
  exact List.map_congr_left fun r _ => Row.value_inZone z r

/-- The rows of candles, in a zone, are those of the candles in that zone. -/
lemma rows_inZone (z : ℤ) (candles : List StampedCandle) :
    (candles.map row).map (Row.inZone z) = (candles.map (inZone z)).map row := by
  rw [List.map_map, List.map_map]
  rfl

/-- The files are numbered, and their digests are the numbers. -/
lemma exists_injective_digest (Schema : Type) [Countable Schema] :
    ∃ digest : Table Schema → String, Function.Injective digest := by
  obtain ⟨number, hnumber⟩ := exists_injective_nat (Table Schema)
  refine ⟨fun t => String.ofList (List.replicate (number t) 'a'), fun t u h => hnumber ?_⟩
  simpa using congrArg (fun s : String => s.toList.length) h

namespace Archive

/-- A library whose files are the tables themselves, and are read in UTC. -/
noncomputable instance utcTableLibrary : UtcParquetLibrary (Table Unit) where
  Schema := Unit
  inferSchema _ := ()
  cast _ rows := .ok rows
  writeTable t := t
  readTable t := .ok { t with rows := t.rows.map (Row.inZone 0) }
  checksum := (exists_injective_digest Unit).choose
  read_write _ _ := ⟨_, rfl, Row.values_inZone 0 _⟩
  CandleSchema z _ := z = 0
  columnZone _ := 0
  candleSchema_infer _ := rfl
  read_candles hz _ candles := ⟨_, rfl, hz, hz ▸ rows_inZone 0 candles⟩
  cast_candles _ candles := ⟨candles, rfl, rfl⟩
  checksum_injective := (exists_injective_digest Unit).choose_spec
  zone_eq hz := hz

/-- The zone of the first candle. -/
def firstZone (candles : List StampedCandle) : ℤ := (candles.head?.map (·.offset)).getD 0

/-- A library whose files are the tables themselves.  A column has the zone of the
first row of the table it was made for, and rows that are cast to it take its
zone. -/
noncomputable instance zonedTableLibrary : ZonedParquetLibrary (Table ℤ) where
  Schema := ℤ
  inferSchema := firstZone
  cast z rows := .ok (rows.map (Row.inZone z))
  writeTable t := t
  readTable t := .ok { t with rows := t.rows.map (Row.inZone t.schema) }
  checksum := (exists_injective_digest ℤ).choose
  read_write _ _ := ⟨_, rfl, Row.values_inZone _ _⟩
  CandleSchema z schema := schema = z
  columnZone := firstZone
  candleSchema_infer _ := rfl
  read_candles hz _ candles := ⟨_, rfl, hz, hz ▸ rows_inZone _ candles⟩
  cast_candles {z schema} _ candles :=
    ⟨candles.map (inZone schema), congrArg Except.ok (rows_inZone schema candles), by
      simp [Function.comp_def]⟩
  checksum_injective := (exists_injective_digest ℤ).choose_spec

/-- An update of the dataset `BTCUSDT/1m` with flat candles. -/
def minuteBatch (candles : List StampedCandle) : UpdateCall where
  symbol := "BTCUSDT"
  timeframe := "1m"
  candles := candles
  source := "binance"

/-- A flat candle at a minute, two hours east of Greenwich. -/
def easternCandle (minute : ℤ) : StampedCandle := { flatCandle minute with offset := 7200000000 }

lemma validateIdentity_minute : validateIdentity "BTCUSDT" "1m" "binance" = .ok "BTCUSDT" :=
  toOption_eq_some.mp (by decide +kernel)

section Minutes

variable {File : Type} [ZonedParquetLibrary File] {candles batch : List StampedCandle}

/-- A batch behind the candles of a certified dataset of minutes. -/
lemma appends_minute {a : Archive File} {manifest : DatasetManifest} {file : File}
    {tail head : StampedCandle}
    (hver : (a ("BTCUSDT", "1m")).verified = .ok (manifest, file))
    (hcert : Certified ("BTCUSDT", "1m") manifest file candles) (hbatch : Ascending batch)
    (htail : candles.getLast? = some tail) (hhead : batch.head? = some head)
    (hlt : tail.timestamp < head.timestamp) :
    Appends a (minuteBatch batch) "BTCUSDT" manifest file candles batch tail head :=
  ⟨validateIdentity_minute, hver, hcert, htail, mergeCandles_self hbatch, hhead, hlt⟩

variable (File) in
/-- The dataset that a first batch of minutes leaves behind. -/
lemma certified_minute (hne : candles ≠ []) (hasc : Ascending candles) :
    ∃ (manifest : DatasetManifest) (file : File),
      ((update (empty : Archive File) 0 (minuteBatch candles)).2
        ("BTCUSDT", "1m")).verified = .ok (manifest, file) ∧
      Certified ("BTCUSDT", "1m") manifest file candles ∧
      HoldsIn (columnZone File candles) file candles :=
  certified_first_update 0 rfl validateIdentity_minute hne hasc rfl

/-- The duration of the timeframe `1m`. -/
lemma timeframeDuration_minute : timeframeDuration "1m" = .ok 60000000 :=
  toOption_eq_some.mp (by decide +kernel)

end Minutes

end Archive

end Ai4Binance

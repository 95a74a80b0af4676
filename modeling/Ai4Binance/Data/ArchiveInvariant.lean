/-
The representation invariant of the archive.

After every run of successful calls a dataset stands for the series that the
calls made: each batch put over it, each truncation cut off.  The manifest
describes the stored candles, and spells their times as the batches did; they
are the texts of the stored candles when no batch brings a time in another zone
to an end of the dataset or beside a gap.

* `ArchiveCall.effect`: a call on the series of a dataset;
* `Dataset.Shows`: a dataset with a certified manifest, or none;
* `Shows.call`: every successful call refines its effect;
* `SpelledInUtc`, `InUtc`: the calls that keep the manifest in UTC, and what
  they keep;
* `Represents`, `archive_represents`: the invariant, over every run.
-/
import Ai4Binance.Data.ArchiveSeries

namespace Ai4Binance

open Text Check StampedCandle ParquetLibrary

/-! ### Calls on a series -/

namespace ArchiveCall

variable [UnicodeData]

/-- The dataset a call is about, under the normalized symbol. -/
def dataset : ArchiveCall → Option (String × String)
  | update c | appendVerifiedTail c =>
    (validateIdentity c.symbol c.timeframe c.source).toOption.map fun s => (s, c.timeframe)
  | truncateFrom c =>
    (validateIdentity c.symbol c.timeframe c.source).toOption.map fun s => (s, c.timeframe)

/-- What the call makes of a series. -/
def act : ArchiveCall → Series → Series
  | update c, s | appendVerifiedTail c, s => s.put c.candles
  | truncateFrom c, s =>
    match c.startAt with
    | .aware boundary _ => s.cut boundary
    | .naive _ => s

/-- What the call makes of the series of a dataset. -/
def effect (c : ArchiveCall) (key : String × String) (s : Series) : Series :=
  if c.dataset = some key then c.act s else s

end ArchiveCall

/-! ### Times in UTC -/

/-- The times of the candles. -/
def timesOf (candles : List StampedCandle) : Set ℤ := {t | ∃ c ∈ candles, c.timestamp = t}

/-- The neighbours of a time are one step away on either side. -/
def Embedded (duration : ℤ) (times : Set ℤ) (t : ℤ) : Prop :=
  t - duration ∈ times ∧ t + duration ∈ times ∧
    ∀ u ∈ times, u ≤ t - duration ∨ u = t ∨ t + duration ≤ u

/-- The candles in another zone stand inside an unbroken stretch. -/
def InUtc (duration : ℤ) (candles : List StampedCandle) : Prop :=
  ∀ c ∈ candles, c.offset = 0 ∨ Embedded duration (timesOf candles) c.timestamp

/-- A batch that is written brings times in another zone only into an unbroken
stretch of the stored candles and the batch. -/
def Spells (duration : ℤ) (existing batch : List StampedCandle) : Prop :=
  (∀ c, latest batch c.timestamp = some c → c.candle ∈ values existing) ∨
    ∀ c, latest batch c.timestamp = some c →
      c.offset = 0 ∨ Embedded duration (timesOf (existing ++ batch)) c.timestamp

section Times

variable {candles existing batch merged : List StampedCandle} {duration t : ℤ}

lemma timesOf_eq_of_latest (h : ∀ t, (latest candles t).isSome = (latest merged t).isSome) :
    timesOf candles = timesOf merged := by
  have hmem : ∀ (l : List StampedCandle) (t : ℤ), t ∈ timesOf l ↔ (latest l t).isSome = true := by
    intro l t
    rw [Option.isSome_iff_ne_none, Ne, latest_eq_none_iff]
    simp [timesOf]
  ext t
  rw [hmem, hmem, h]

@[simp] lemma timesOf_utc (candles : List StampedCandle) :
    timesOf (candles.map utc) = timesOf candles := by
  simp [timesOf]

lemma mem_timesOf_append : t ∈ timesOf (existing ++ batch) ↔ t ∈ timesOf existing ∨ t ∈ timesOf batch := by
  simp [timesOf, or_and_right, exists_or]

/-- A time between stored neighbours stays there when candles follow. -/
lemma Embedded.append_behind (h : Embedded duration (timesOf existing) t)
    (hlt : ∀ x ∈ existing, ∀ y ∈ batch, x.timestamp < y.timestamp) :
    Embedded duration (timesOf (existing ++ batch)) t := by
  obtain ⟨hleft, hright, hbetween⟩ := h
  refine ⟨mem_timesOf_append.mpr (.inl hleft), mem_timesOf_append.mpr (.inl hright), ?_⟩
  intro u hu
  rcases mem_timesOf_append.mp hu with hu | hu
  · exact hbetween u hu
  · obtain ⟨x, hx, hxt⟩ := hright
    obtain ⟨y, hy, rfl⟩ := hu
    have hxy := hlt x hx y hy
    exact .inr (.inr (by omega))

/-- A gap stands between adjoining candles. -/
lemma mem_findGaps {gap : GapText} (h : gap ∈ findGaps duration candles) :
    ∃ front current following rest, candles = front ++ current :: following :: rest ∧
      gap = .written current.moment following.moment ∧
      following.timestamp - current.timestamp ≠ duration := by
  induction candles with
  | nil => simp [findGaps] at h
  | cons c candles ih =>
      cases candles with
      | nil => simp [findGaps] at h
      | cons d candles =>
          have hrest : gap ∈ findGaps duration (d :: candles) →
              ∃ front current following rest, c :: d :: candles = front ++ current :: following :: rest ∧
                gap = .written current.moment following.moment ∧
                following.timestamp - current.timestamp ≠ duration := by
            intro hmem
            obtain ⟨front, current, following, rest, hsplit, hgap, hstep⟩ := ih hmem
            exact ⟨c :: front, current, following, rest, by rw [hsplit]; rfl, hgap, hstep⟩
          rw [findGaps] at h
          split_ifs at h with hstep
          · rcases List.mem_cons.mp h with rfl | hmem
            · exact ⟨[], c, d, candles, rfl, rfl, hstep⟩
            · exact hrest hmem
          · exact hrest h

lemma moment_utc_of_offset {c : StampedCandle} (h : c.offset = 0) : c.moment.utc = c.moment := by
  rw [moment, Moment.utc, h, Moment.inZone]

/-- The first candle is in UTC. -/
lemma InUtc.head (h : InUtc duration candles) (hpos : 0 < duration) (hasc : Ascending candles)
    {head : StampedCandle} (hhead : candles.head? = some head) : head.offset = 0 := by
  rcases h head (List.mem_of_head? hhead) with hzero | ⟨⟨y, hy, hleft⟩, -⟩
  · exact hzero
  · have hle := hasc.le_timestamp hhead y hy
    omega

/-- The last candle is in UTC. -/
lemma InUtc.last (h : InUtc duration candles) (hpos : 0 < duration) (hasc : Ascending candles)
    {tail : StampedCandle} (htail : candles.getLast? = some tail) : tail.offset = 0 := by
  rcases h tail (List.mem_of_getLast? htail) with hzero | ⟨-, ⟨y, hy, hright⟩, -⟩
  · exact hzero
  · have hle := hasc.timestamp_le htail y hy
    omega

/-- The gaps are spelled in UTC. -/
lemma InUtc.gaps (h : InUtc duration candles) (hpos : 0 < duration) (hasc : Ascending candles) :
    (findGaps duration candles).map GapText.utc = findGaps duration candles := by
  refine (List.map_congr_left fun gap hgap => ?_).trans (List.map_id _)
  obtain ⟨front, current, following, rest, rfl, rfl, hstep⟩ := mem_findGaps hgap
  obtain ⟨-, htail, hfront⟩ := List.pairwise_append.mp hasc
  obtain ⟨hcurrent, hrest⟩ := List.pairwise_cons.mp htail
  obtain ⟨hfollowing, -⟩ := List.pairwise_cons.mp hrest
  have hlt := hcurrent following (.head _)
  have hsplit : ∀ y ∈ front ++ current :: following :: rest,
      y.timestamp ≤ current.timestamp ∨ following.timestamp ≤ y.timestamp := by
    intro y hy
    rcases List.mem_append.mp hy with hy | hy
    · exact .inl (hfront y hy current (.head _)).le
    · rcases List.mem_cons.mp hy with rfl | hy
      · exact .inl le_rfl
      · rcases List.mem_cons.mp hy with rfl | hy
        · exact .inr le_rfl
        · exact .inr (hfollowing y hy).le
  have hcurrentMem : current ∈ front ++ current :: following :: rest := by simp
  have hfollowingMem : following ∈ front ++ current :: following :: rest := by simp
  have hzero : current.offset = 0 := by
    rcases h current hcurrentMem with hzero | ⟨-, ⟨y, hy, hright⟩, hbetween⟩
    · exact hzero
    · have hy' := hsplit y hy
      have hf := hbetween following.timestamp ⟨following, hfollowingMem, rfl⟩
      omega
  have hzero' : following.offset = 0 := by
    rcases h following hfollowingMem with hzero' | ⟨⟨y, hy, hleft⟩, -, hbetween⟩
    · exact hzero'
    · have hy' := hsplit y hy
      have hc := hbetween current.timestamp ⟨current, hcurrentMem, rfl⟩
      omega
  rw [GapText.utc_written, moment_utc_of_offset hzero, moment_utc_of_offset hzero', id]

/-- **A manifest that describes candles in UTC describes the stored ones.** -/
lemma Describes.of_inUtc {key : String × String} {manifest : DatasetManifest}
    (h : Describes key manifest candles) (hdur : timeframeDuration key.2 = .ok duration)
    (hpos : 0 < duration) (hasc : Ascending candles) (hutc : InUtc duration candles) :
    Describes key manifest (candles.map utc) := by
  obtain ⟨head, hhead, hfirst⟩ := h.first
  obtain ⟨tail, htail, hlast⟩ := h.last
  obtain ⟨duration', hdur', hgaps⟩ := h.gaps
  obtain rfl : duration' = duration := Except.ok.inj (hdur'.symm.trans hdur)
  refine ⟨by rw [h.rowCount, List.length_map], ⟨head.utc, by rw [List.head?_map, hhead]; rfl, ?_⟩,
    ⟨tail.utc, by rw [List.getLast?_map, htail]; rfl, ?_⟩, ⟨duration', hdur', ?_⟩, h.gapCount⟩
  · rw [hfirst, moment_utc, moment_utc_of_offset (hutc.head hpos hasc hhead)]
  · rw [hlast, moment_utc, moment_utc_of_offset (hutc.last hpos hasc htail)]
  · rw [hgaps, findGaps_utc, hutc.gaps hpos hasc]

/-- What is written is in UTC when the batch is. -/
lemma inUtc_of_latest {candles : List StampedCandle}
    (hlatest : ∀ t, latest merged t = (latest batch t).or (latest (candles.map utc) t))
    (hasc : Ascending merged) (hbatch : ∀ c, latest batch c.timestamp = some c →
      c.offset = 0 ∨ Embedded duration (timesOf (candles.map utc ++ batch)) c.timestamp) :
    InUtc duration merged := by
  have htimes : timesOf (candles.map utc ++ batch) = timesOf merged :=
    timesOf_eq_of_latest fun t => by rw [latest_append, hlatest]
  intro c hc
  have hat := hasc.latest_eq_some_iff.mpr ⟨hc, rfl⟩
  rw [hlatest] at hat
  cases hnew : latest batch c.timestamp with
  | some c' =>
      rw [hnew] at hat
      obtain rfl : c' = c := Option.some.inj hat
      rw [← htimes]
      exact hbatch c' hnew
  | none =>
      rw [hnew, Option.none_or] at hat
      obtain ⟨d, -, rfl⟩ := List.mem_map.mp (mem_of_latest hat).1
      exact .inl rfl

/-- The duration of a timeframe is positive. -/
lemma timeframeDuration_pos {timeframe : String} (h : timeframeDuration timeframe = .ok duration) :
    0 < duration := by
  obtain ⟨seconds, hseconds, rfl⟩ := map_eq_ok.mp h
  have hlookup := orRaise_eq_ok.mp hseconds
  have hmem : ∃ p ∈ timeframeSeconds, p.2 = seconds := by
    obtain ⟨front, rest, heq, -⟩ := List.lookup_eq_some_iff.mp hlookup
    exact ⟨(timeframe, seconds), by rw [heq]; simp, rfl⟩
  obtain ⟨p, hp, rfl⟩ := hmem
  have hall : ∀ p ∈ timeframeSeconds, 0 < p.2 := by decide
  have := hall p hp
  omega

end Times

/-! ### Datasets -/

section Runs

variable {File : Type} [UtcParquetLibrary File] [UnicodeData]

/-- The dataset does not exist, or its manifest is certified for the candles. -/
def Dataset.Shows (d : Dataset File) (key : String × String) (candles : List StampedCandle) : Prop :=
  (d = {} ∧ candles = []) ∨
    ∃ manifest file, d.verified = .ok (manifest, file) ∧ Certified key manifest file candles

namespace Archive

variable {a : Archive File} {key : String × String} {candles existing merged : List StampedCandle}
  {symbol : String} {now : ℤ}

/-- The batch of the call keeps the manifest in UTC. -/
def SpelledInUtc (a : Archive File) : ArchiveCall → Prop
  | .update c | .appendVerifiedTail c => ∀ symbol duration existing,
    validateIdentity c.symbol c.timeframe c.source = .ok symbol →
    timeframeDuration c.timeframe = .ok duration → a.stored (symbol, c.timeframe) = .ok existing →
    Spells duration existing c.candles
  | .truncateFrom _ => True

omit [UnicodeData] in
lemma shows_ascending (h : (a key).Shows key candles) : Ascending candles := by
  rcases h with ⟨-, rfl⟩ | ⟨manifest, file, -, hcert⟩
  · exact List.Pairwise.nil
  · exact hcert.ascending

/-- The stored candles are those shown, in UTC. -/
lemma stored_of_shows {source : String} (h : (a key).Shows key candles)
    (hid : validateIdentity symbol key.2 source = .ok key.1) :
    a.stored key = .ok (candles.map utc) := by
  rcases h with ⟨hempty, rfl⟩ | ⟨manifest, file, hver, hcert⟩
  · rw [stored, hempty]
    rfl
  · have hsome : (a key).parquet.isSome := by
      cases hpar : (a key).parquet with
      | some f => rfl
      | none => simp [Dataset.verified, hpar, orRaise] at hver
    rw [stored, if_pos hsome]
    exact read_of_certified (validateIdentity_normalized hid) hver hcert

omit [UnicodeData] in
/-- A rewrite that succeeds shows the candles it wrote. -/
lemma shows_rewrite {source : String} {timestamp : Moment} (hasc : Ascending candles)
    (hs : Succeeds (a.rewrite key source timestamp candles)) :
    ((a.rewrite key source timestamp candles).2 key).Shows key candles := by
  unfold rewrite at hs ⊢
  dsimp only at hs ⊢
  split at hs
  · exact absurd hs (not_succeeds_error _ _)
  · rename_i manifest hdescribe
    have hcert := certified_describe hasc hdescribe
    exact .inr ⟨manifest, _, verified_written a key hcert.sha256, hcert⟩

omit [UtcParquetLibrary File] [UnicodeData] in
/-- A rewrite leaves the other datasets alone. -/
lemma rewrite_other [ParquetLibrary File] {source : String} {timestamp : Moment}
    {key' : String × String} (hkey : key' ≠ key) :
    (a.rewrite key source timestamp candles).2 key' = a key' := by
  unfold rewrite
  dsimp only
  split
  · simp [withParquet, hkey]
  · simp [withManifest, withParquet, hkey]

/-! ### Updates -/

lemma dataset_update {c : UpdateCall} :
    (ArchiveCall.update c).dataset = some key ↔
      validateIdentity c.symbol c.timeframe c.source = .ok key.1 ∧ c.timeframe = key.2 := by
  obtain ⟨symbol, timeframe⟩ := key
  rw [ArchiveCall.dataset, Option.map_eq_some_iff]
  constructor
  · rintro ⟨s, hs, heq⟩
    obtain ⟨rfl, rfl⟩ := Prod.mk.inj heq
    exact ⟨toOption_eq_some.mp hs, rfl⟩
  · rintro ⟨hid, rfl⟩
    exact ⟨symbol, toOption_eq_some.mpr hid, rfl⟩

lemma dataset_append (c : UpdateCall) :
    (ArchiveCall.appendVerifiedTail c).dataset = (ArchiveCall.update c).dataset := rfl

/-- The plan of an update of a dataset that shows some candles. -/
lemma planUpdate_of_shows {c : UpdateCall} (h : (a key).Shows key candles)
    (hon : (ArchiveCall.update c).dataset = some key) :
    a.planUpdate c = .ok (key, existing, merged) ↔
      c.candles ≠ [] ∧ candles.map utc = existing ∧
        mergeAllowing (a key) existing c.candles c.replaceConflictsFromSources = .ok merged := by
  obtain ⟨hid, htime⟩ := dataset_update.mp hon
  obtain ⟨symbol, timeframe⟩ := key
  subst htime
  have hstored := stored_of_shows h hid
  rw [planUpdate_eq_ok]
  constructor
  · rintro ⟨symbol', hid', hne, hst, hm, hkey⟩
    obtain ⟨rfl, -⟩ := Prod.mk.inj hkey
    exact ⟨hne, Except.ok.inj (hstored.symm.trans hst), hm⟩
  · rintro ⟨hne, rfl, hm⟩
    exact ⟨symbol, hid, hne, hstored, hm, rfl⟩

/-- **A successful update puts its batch over the series.** -/
lemma shows_update {c : UpdateCall} (h : (a key).Shows key candles)
    (hon : (ArchiveCall.update c).dataset = some key) (hs : Succeeds (a.update now c)) :
    ∃ candles', ((a.update now c).2 key).Shows key candles' ∧
      seriesOf candles' = (seriesOf candles).put c.candles ∧
      ∀ duration, Spells duration (candles.map utc) c.candles → InUtc duration candles →
        InUtc duration candles' := by
  cases hplan : a.planUpdate c with
  | error e =>
      rw [update_of_error hplan] at hs
      exact absurd hs (not_succeeds_error _ _)
  | ok plan =>
      obtain ⟨key', existing, merged⟩ := plan
      obtain rfl : key' = key := by
        obtain ⟨symbol, hid, -, -, -, hkey⟩ := planUpdate_eq_ok.mp hplan
        obtain ⟨hid', htime⟩ := dataset_update.mp hon
        rw [← hkey, Except.ok.inj (hid.symm.trans hid'), htime]
      obtain ⟨-, rfl, hm⟩ := (planUpdate_of_shows h hon).mp hplan
      have hseries := seriesOf_mergeAllowing hm
      rw [seriesOf_utc] at hseries
      by_cases hv : values merged = values (candles.map utc)
      · rw [update_of_eq hplan hv]
        refine ⟨candles, h, ?_, fun _ _ hutc => hutc⟩
        rw [← hseries, seriesOf_congr hv, seriesOf_utc]
      · rw [update_of_ne hplan hv] at hs ⊢
        have hasc := ascending_mergeAllowing hm
        refine ⟨merged, shows_rewrite hasc hs, hseries, ?_⟩
        rintro duration (hold | hnew) -
        · -- a batch that brings nothing new is not written
          have hstored := ascending_utc.mpr (shows_ascending h)
          refine absurd (values_eq_of_series_eq hasc hstored ?_) hv
          rw [hseries, ← seriesOf_utc, put_eq_self hstored hold]
        · exact inUtc_of_latest (latest_mergeAllowing hm) hasc hnew

lemma update_other {c : UpdateCall} {key : String × String}
    (hon : (ArchiveCall.update c).dataset ≠ some key) : (a.update now c).2 key = a key := by
  cases hplan : a.planUpdate c with
  | error e => rw [update_of_error hplan]
  | ok plan =>
      obtain ⟨key', existing, merged⟩ := plan
      have hkey : key ≠ key' := by
        rintro rfl
        obtain ⟨symbol, hid, -, -, -, rfl⟩ := planUpdate_eq_ok.mp hplan
        exact hon (dataset_update.mpr ⟨hid, rfl⟩)
      by_cases hv : values merged = values existing
      · rw [update_of_eq hplan hv]
      · rw [update_of_ne hplan hv, rewrite_other hkey]

/-! ### Truncations -/

lemma dataset_truncate {c : TruncateCall} :
    (ArchiveCall.truncateFrom c).dataset = some key ↔
      validateIdentity c.symbol c.timeframe c.source = .ok key.1 ∧ c.timeframe = key.2 :=
  @dataset_update _ key { symbol := c.symbol, timeframe := c.timeframe, source := c.source, candles := [] }

/-- **A successful truncation cuts the series off, and leaves it in UTC.** -/
lemma shows_truncate {c : TruncateCall} (h : (a key).Shows key candles)
    (hon : (ArchiveCall.truncateFrom c).dataset = some key) (hs : Succeeds (a.truncateFrom now c)) :
    ∃ candles', ((a.truncateFrom now c).2 key).Shows key candles' ∧
      seriesOf candles' = (ArchiveCall.truncateFrom c).act (seriesOf candles) ∧
      ∀ duration, InUtc duration candles → InUtc duration candles' := by
  cases hplan : a.planTruncate c with
  | error e =>
      rw [truncate_of_error hplan] at hs
      exact absurd hs (not_succeeds_error _ _)
  | ok plan =>
      obtain ⟨key', existing, retained⟩ := plan
      obtain ⟨symbol, haware, hid, hread, -, rfl, rfl⟩ := planTruncate_eq_ok.mp hplan
      obtain ⟨hid', htime⟩ := dataset_truncate.mp hon
      obtain rfl : (symbol, c.timeframe) = key := by
        rw [Except.ok.inj (hid.symm.trans hid'), htime]
      obtain ⟨file, -, hfile, -⟩ := read_file (validateIdentity_normalized hid) hread
      have hstored : a.stored (symbol, c.timeframe) = .ok existing := by
        rw [stored, hfile, Option.isSome_some, if_pos rfl, hread]
      obtain rfl : candles.map utc = existing :=
        Except.ok.inj ((stored_of_shows h hid).symm.trans hstored)
      obtain ⟨boundary, offset, hstart⟩ := eq_aware_of_requireAware haware
      have hasc := ascending_utc.mpr (shows_ascending h)
      have hseries : seriesOf ((candles.map utc).filter (isBefore c.startAt)) =
          (ArchiveCall.truncateFrom c).act (seriesOf candles) := by
        rw [hstart, seriesOf_filter hasc, seriesOf_utc, ArchiveCall.act, hstart]
      by_cases hv : values ((candles.map utc).filter (isBefore c.startAt)) =
          values (candles.map utc)
      · rw [truncate_of_eq hplan hv]
        refine ⟨candles, h, ?_, fun _ hutc => hutc⟩
        rw [← hseries, seriesOf_congr hv, seriesOf_utc]
      · rw [truncate_of_ne hplan hv] at hs ⊢
        refine ⟨_, shows_rewrite (List.Pairwise.filter _ hasc) hs, hseries, ?_⟩
        intro duration _ x hx
        obtain ⟨y, -, rfl⟩ := List.mem_map.mp (List.mem_filter.mp hx).1
        exact .inl rfl

lemma truncate_other {c : TruncateCall} {key : String × String}
    (hon : (ArchiveCall.truncateFrom c).dataset ≠ some key) :
    (a.truncateFrom now c).2 key = a key := by
  cases hplan : a.planTruncate c with
  | error e => rw [truncate_of_error hplan]
  | ok plan =>
      obtain ⟨key', existing, retained⟩ := plan
      have hkey : key ≠ key' := by
        rintro rfl
        obtain ⟨symbol, -, hid, -, -, rfl, -⟩ := planTruncate_eq_ok.mp hplan
        exact hon (dataset_truncate.mpr ⟨hid, rfl⟩)
      by_cases hv : values retained = values existing
      · rw [truncate_of_eq hplan hv]
      · rw [truncate_of_ne hplan hv, rewrite_other hkey]

/-! ### Appends -/

/-- An append may be told by any candles that the manifest is certified for. -/
lemma Appends.recertify {c : UpdateCall} {manifest : DatasetManifest} {file : File}
    {incoming : List StampedCandle} {tail head : StampedCandle}
    (h : Appends a c symbol manifest file existing incoming tail head)
    (hcert : Certified (symbol, c.timeframe) manifest file candles) :
    ∃ tail', Appends a c symbol manifest file candles incoming tail' head := by
  obtain ⟨tail', htail', hlast'⟩ := hcert.describes.last
  obtain ⟨tail'', htail'', hlast⟩ := h.certified.describes.last
  obtain rfl : tail'' = tail := Option.some.inj (htail''.symm.trans h.ends)
  have hat : tail'.timestamp = tail''.timestamp :=
    (Moment.aware.inj (IsoText.written.inj (hlast'.symm.trans hlast))).1
  exact ⟨tail', h.identity, h.verified, hcert, htail', h.merges, h.starts, by
    rw [hat]
    exact h.behind⟩

/-- **A successful append puts its batch over the series.** -/
lemma shows_append {c : UpdateCall} (hsound : a.Sound) (h : (a key).Shows key candles)
    (hon : (ArchiveCall.update c).dataset = some key) (hs : Succeeds (a.appendVerifiedTail now c)) :
    ∃ candles', ((a.appendVerifiedTail now c).2 key).Shows key candles' ∧
      seriesOf candles' = (seriesOf candles).put c.candles ∧
      ∀ duration, Spells duration (candles.map utc) c.candles → InUtc duration candles →
        InUtc duration candles' := by
  obtain ⟨hid, htime⟩ := dataset_update.mp hon
  cases hplan : a.planTail now c with
  | error e =>
      rw [append_of_error hplan] at hs
      exact absurd hs (not_succeeds_error _ _)
  | ok plan =>
      cases plan with
      | delegate symbol =>
          obtain ⟨hid', -, -⟩ := planTail_eq_delegate.mp hplan
          rw [append_of_delegate hplan, update_symbol now hid'] at hs ⊢
          exact shows_update h hon hs
      | append key' table draft =>
          obtain ⟨hne, symbol, manifest, file, existing, incoming, tail, head, happ⟩ :=
            hsound.appends_of_planTail now hplan
          obtain rfl : (symbol, c.timeframe) = key := by
            rw [Except.ok.inj (happ.identity.symm.trans hid), htime]
          rcases h with ⟨hempty, -⟩ | ⟨manifest', file', hver, hcert⟩
          · have hver := happ.verified
            rw [hempty] at hver
            simp [Dataset.verified, Dataset.loadManifest] at hver
          obtain ⟨rfl, rfl⟩ := Prod.mk.inj (Except.ok.inj (hver.symm.trans happ.verified))
          obtain ⟨tail', happ'⟩ := happ.recertify hcert
          obtain ⟨duration, last, schema, cs, hdur, hlast, hschema, hcs, hiff⟩ :=
            happ'.planTail_eq_ok now hcert.holds.inUtc hne
          obtain ⟨-, -, heq⟩ := (hiff _).mp hplan
          obtain ⟨rfl, rfl, rfl⟩ := TailPlan.append.inj heq
          have hcertTail := happ'.certified_tail (stampOr c.generatedAt now) hdur hlast hschema hcs
            { symbol := symbol, timeframe := c.timeframe, source := strip c.source }
          have hlt := happ'.lt
          refine ⟨candles ++ incoming, ?_, seriesOf_append_merged happ'.merges, ?_⟩
          · unfold appendVerifiedTail
            rw [hplan]
            exact .inr ⟨_, _, verified_written a _ hcertTail.sha256, hcertTail⟩
          · intro duration' hspells hutc
            have hlatest : ∀ t, latest incoming t = latest c.candles t := by
              intro t
              rw [latest_mergeCandles happ'.merges, latest_nil, Option.or_none]
            have htimes : timesOf (candles.map utc ++ c.candles) = timesOf (candles ++ incoming) :=
              timesOf_eq_of_latest fun t => by
                rw [latest_append, latest_append, latest_utc, hlatest]
                cases latest c.candles t with
                | some d => rfl
                | none => simp
            intro x hx
            rcases List.mem_append.mp hx with hx | hx
            · exact (hutc x hx).imp_right fun hemb => hemb.append_behind hlt
            · have hat : latest c.candles x.timestamp = some x := by
                rw [← hlatest]
                exact (ascending_mergeCandles happ'.merges).latest_eq_some_iff.mpr ⟨hx, rfl⟩
              rcases hspells with hold | hnew
              · obtain ⟨y, hy, hyx⟩ := List.mem_map.mp (hold x hat)
                obtain ⟨z, hz, rfl⟩ := List.mem_map.mp hy
                have hzx := hlt z hz x hx
                have hzt : z.timestamp = x.timestamp := congrArg OHLCVCandle.timestamp hyx
                omega
              · rw [← htimes]
                exact hnew x hat

lemma append_other {c : UpdateCall} {key : String × String} (hsound : a.Sound)
    (hon : (ArchiveCall.update c).dataset ≠ some key) :
    (a.appendVerifiedTail now c).2 key = a key := by
  cases hplan : a.planTail now c with
  | error e => rw [append_of_error hplan]
  | ok plan =>
      cases plan with
      | delegate symbol =>
          obtain ⟨hid, -, -⟩ := planTail_eq_delegate.mp hplan
          rw [append_of_delegate hplan, update_symbol now hid, update_other hon]
      | append key' table draft =>
          have hkey : key ≠ key' := by
            rintro rfl
            obtain ⟨hne, symbol, manifest, file, existing, incoming, tail, head, happ⟩ :=
              hsound.appends_of_planTail now hplan
            obtain ⟨duration, last, schema, cs, -, -, -, -, hiff⟩ :=
              happ.planTail_eq_ok now happ.certified.holds.inUtc hne
            obtain ⟨-, -, heq⟩ := (hiff _).mp hplan
            obtain ⟨rfl, -, -⟩ := TailPlan.append.inj heq
            exact hon (dataset_update.mpr ⟨happ.identity, rfl⟩)
          unfold appendVerifiedTail
          rw [hplan]
          simp [withManifest, withParquet, hkey]

/-! ### Runs -/

/-- A call that returns. -/
def SuccessfulCall (a : Archive File) (call : ℤ × ArchiveCall) (a' : Archive File) : Prop :=
  Succeeds (a.call call.1 call.2) ∧ a' = (a.call call.1 call.2).2

/-- A call that returns, and keeps the manifest in UTC. -/
def UtcCall (a : Archive File) (call : ℤ × ArchiveCall) (a' : Archive File) : Prop :=
  SuccessfulCall a call a' ∧ a.SpelledInUtc call.2

/-- The series of a dataset after the calls. -/
def seriesAfter (key : String × String) (calls : List (ℤ × ArchiveCall)) : Series :=
  calls.foldl (fun s call => call.2.effect key s) fun _ => none

omit [UtcParquetLibrary File] in
@[simp] lemma call_update [ParquetLibrary File] (a : Archive File) (now : ℤ) (c : UpdateCall) :
    a.call now (.update c) = a.update now c := rfl

omit [UtcParquetLibrary File] in
@[simp] lemma call_append [ParquetLibrary File] (a : Archive File) (now : ℤ) (c : UpdateCall) :
    a.call now (.appendVerifiedTail c) = a.appendVerifiedTail now c := rfl

omit [UtcParquetLibrary File] in
@[simp] lemma call_truncate [ParquetLibrary File] (a : Archive File) (now : ℤ) (c : TruncateCall) :
    a.call now (.truncateFrom c) = a.truncateFrom now c := rfl

/-- A call leaves the other datasets alone. -/
lemma call_other (hsound : a.Sound) (now : ℤ) {c : ArchiveCall} (hon : c.dataset ≠ some key) :
    (a.call now c).2 key = a key := by
  cases c with
  | update c =>
      rw [call_update]
      exact update_other hon
  | appendVerifiedTail c =>
      rw [call_append]
      rw [dataset_append] at hon
      exact append_other hsound hon
  | truncateFrom c =>
      rw [call_truncate]
      exact truncate_other hon

/-- **Every successful call refines its effect on the series.** -/
lemma shows_call (hsound : a.Sound) (h : (a key).Shows key candles) (c : ArchiveCall)
    (hs : Succeeds (a.call now c)) :
    ∃ candles', ((a.call now c).2 key).Shows key candles' ∧
      seriesOf candles' = c.effect key (seriesOf candles) ∧
      ∀ duration, timeframeDuration key.2 = .ok duration → a.SpelledInUtc c →
        InUtc duration candles → InUtc duration candles' := by
  by_cases hon : c.dataset = some key
  swap
  · refine ⟨candles, ?_, ?_, fun _ _ _ hutc => hutc⟩
    · rw [call_other hsound now hon]
      exact h
    · rw [ArchiveCall.effect, if_neg hon]
  rw [ArchiveCall.effect, if_pos hon]
  have hspells : ∀ c : UpdateCall, (ArchiveCall.update c).dataset = some key → ∀ duration,
      timeframeDuration key.2 = .ok duration → a.SpelledInUtc (.update c) →
        Spells duration (candles.map utc) c.candles := by
    intro c hon duration hdur hspelled
    obtain ⟨hid, htime⟩ := dataset_update.mp hon
    obtain ⟨symbol, timeframe⟩ := key
    subst htime
    exact hspelled symbol duration _ hid hdur (stored_of_shows h hid)
  cases c with
  | update c =>
      rw [call_update] at hs ⊢
      obtain ⟨candles', hshows, hseries, hutc⟩ := shows_update h hon hs
      exact ⟨candles', hshows, hseries, fun duration hdur hspelled =>
        hutc duration (hspells c hon duration hdur hspelled)⟩
  | appendVerifiedTail c =>
      rw [dataset_append] at hon
      rw [call_append] at hs ⊢
      obtain ⟨candles', hshows, hseries, hutc⟩ := shows_append hsound h hon hs
      exact ⟨candles', hshows, hseries, fun duration hdur hspelled =>
        hutc duration (hspells c hon duration hdur hspelled)⟩
  | truncateFrom c =>
      rw [call_truncate] at hs ⊢
      obtain ⟨candles', hshows, hseries, hutc⟩ := shows_truncate h hon hs
      exact ⟨candles', hshows, hseries, fun duration _ _ => hutc duration⟩

/-- **Every dataset stands for the series that the calls made.** -/
theorem shows_of_run {calls : List (ℤ × ArchiveCall)}
    (hrun : Run SuccessfulCall (empty : Archive File) calls a) (key : String × String) :
    ∃ candles, (a key).Shows key candles ∧ seriesOf candles = seriesAfter key calls ∧
      ∀ duration, timeframeDuration key.2 = .ok duration → Run UtcCall empty calls a →
        InUtc duration candles := by
  have hgen : ∀ {a₀ : Archive File} {calls : List (ℤ × ArchiveCall)} {a : Archive File},
      Run SuccessfulCall a₀ calls a → a₀.Sound → ∀ candles₀, (a₀ key).Shows key candles₀ →
      ∃ candles, (a key).Shows key candles ∧
        seriesOf candles = calls.foldl (fun s call => call.2.effect key s) (seriesOf candles₀) ∧
        ∀ duration, timeframeDuration key.2 = .ok duration → Run UtcCall a₀ calls a →
          InUtc duration candles₀ → InUtc duration candles := by
    intro a₀ calls a hrun
    induction hrun with
    | nil a => exact fun _ candles₀ h => ⟨candles₀, h, rfl, fun _ _ _ hutc => hutc⟩
    | @cons a₀ a₁ a call calls hcall _ ih =>
        intro hsound candles₀ h
        obtain ⟨hs, rfl⟩ := hcall
        obtain ⟨candles₁, h₁, hseries₁, hutc₁⟩ := shows_call hsound h call.2 hs
        obtain ⟨candles, h', hseries, hutc⟩ := ih (hsound.call call.1 call.2) candles₁ h₁
        refine ⟨candles, h', by rw [hseries, hseries₁]; rfl, ?_⟩
        intro duration hdur hrun' hzero
        obtain ⟨a₁', ⟨⟨-, rfl⟩, hspelled⟩, hrest⟩ := run_cons_iff.mp hrun'
        exact hutc duration hdur hrest (hutc₁ duration hdur hspelled hzero)
  have hsound : (empty : Archive File).Sound := sound_of_run (.nil _)
  obtain ⟨candles, h, hseries, hutc⟩ := hgen hrun hsound [] (.inl ⟨rfl, rfl⟩)
  exact ⟨candles, h, hseries, fun duration hdur hrun' =>
    hutc duration hdur hrun' fun _ hc => absurd hc List.not_mem_nil⟩

/-- A call is about a dataset under a normalized symbol. -/
lemma dataset_normalized {c : ArchiveCall} (hon : c.dataset = some key) :
    validateIdentity key.1 key.2 "read" = .ok key.1 := by
  obtain ⟨symbol, timeframe⟩ := key
  cases c with
  | update c =>
      obtain ⟨hid, rfl⟩ := dataset_update.mp hon
      exact validateIdentity_normalized hid
  | appendVerifiedTail c =>
      rw [dataset_append] at hon
      obtain ⟨hid, rfl⟩ := dataset_update.mp hon
      exact validateIdentity_normalized hid
  | truncateFrom c =>
      obtain ⟨hid, rfl⟩ := dataset_truncate.mp hon
      exact validateIdentity_normalized hid

/-- A dataset that exists is under a normalized symbol. -/
lemma normalized_of_run {calls : List (ℤ × ArchiveCall)}
    (hrun : Run SuccessfulCall (empty : Archive File) calls a) (key : String × String)
    (hne : a key ≠ {}) : validateIdentity key.1 key.2 "read" = .ok key.1 := by
  by_contra hnot
  have hstep : ∀ {a : Archive File} {call : ℤ × ArchiveCall} {a' : Archive File},
      SuccessfulCall a call a' → a.Sound ∧ a key = {} → a'.Sound ∧ a' key = {} := by
    rintro a call a' ⟨-, hleft⟩ ⟨hsound, hempty⟩
    have hon : call.2.dataset ≠ some key := fun hon => hnot (dataset_normalized hon)
    rw [hleft]
    exact ⟨hsound.call call.1 call.2, by rw [call_other hsound call.1 hon, hempty]⟩
  have hsound : (empty : Archive File).Sound := sound_of_run (.nil _)
  exact hne (hrun.invariant (P := fun a => a.Sound ∧ a key = {}) hstep ⟨hsound, rfl⟩).2

/-- A dataset under a normalized symbol is read as the candles it shows. -/
lemma read_of_shows (h : (a key).Shows key candles) (hne : candles ≠ [])
    (hid : validateIdentity key.1 key.2 "read" = .ok key.1) :
    a.read key.1 key.2 = .ok (candles.map utc) := by
  rcases h with ⟨-, rfl⟩ | ⟨manifest, file, hver, hcert⟩
  · exact absurd rfl hne
  · exact read_of_certified hid hver hcert

end Archive

end Runs

end Ai4Binance

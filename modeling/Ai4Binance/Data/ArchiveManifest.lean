/-
The manifests of the archive.

A parquet library reads the candles of a table back in the zone of its column.
Every manifest that a call writes describes the file with its checksum: the file
shows the candles of the manifest in that zone, and the manifest spells their
times as the batches did.

* `ZonedParquetLibrary`: the parquet library and the digest; under
  `UtcParquetLibrary` every column is in UTC;
* `mergeCandles_append`: behind the stored candles, a batch is merged on its own;
* `findGaps_append`, `findGaps_inZone`, `storedGaps_row`: the gaps of adjoining
  stretches, in another zone, and as the loop over a table finds them;
* `Certified`: a manifest that describes the file with its checksum;
* `Appends`, `planTail_eq_ok`: the batches that are appended, and the plan for
  one;
* `Sound.call`: every call keeps all manifests certified.
-/
import Ai4Binance.Data.ArchiveAtomicity
import Ai4Binance.Lib.Run

namespace Ai4Binance

open Text Check StampedCandle ParquetLibrary

/-! ### Zones -/

/-- `astimezone` of an aware time, into the zone of an offset. -/
def Moment.inZone (z : ℤ) : Moment → Moment
  | .aware t _ => .aware t z
  | .naive t => .naive t

/-- The text with its time in the zone. -/
def IsoText.inZone (z : ℤ) : IsoText → IsoText
  | .written m => .written (m.inZone z)
  | text => text

/-- The entry with both times in the zone. -/
def GapText.inZone (z : ℤ) : GapText → GapText
  | .written left right => .written (left.inZone z) (right.inZone z)
  | text => text

/-- `astimezone(UTC)` of an aware time. -/
def Moment.utc (m : Moment) : Moment := m.inZone 0

/-- The entry with both times in UTC. -/
def GapText.utc (gap : GapText) : GapText := gap.inZone 0

@[simp] lemma GapText.utc_written (left right : Moment) :
    (written left right).utc = written left.utc right.utc := rfl

namespace StampedCandle

/-- The candle with its timestamp in the zone. -/
def inZone (z : ℤ) (c : StampedCandle) : StampedCandle := { c with offset := z }

/-- The candle with its timestamp in UTC. -/
def utc (c : StampedCandle) : StampedCandle := c.inZone 0

variable {z : ℤ}

@[simp] lemma candle_inZone (c : StampedCandle) : (c.inZone z).candle = c.candle := rfl

@[simp] lemma timestamp_inZone (c : StampedCandle) : (c.inZone z).timestamp = c.timestamp := rfl

@[simp] lemma moment_inZone (c : StampedCandle) : (c.inZone z).moment = c.moment.inZone z := rfl

@[simp] lemma inZone_utc (c : StampedCandle) : c.utc.inZone z = c.inZone z := rfl

@[simp] lemma utc_inZone (c : StampedCandle) : (c.inZone z).utc = c.utc := rfl

@[simp] lemma values_inZone (candles : List StampedCandle) :
    values (candles.map (inZone z)) = values candles := by
  simp [values]

@[simp] lemma timestamp_utc (c : StampedCandle) : c.utc.timestamp = c.timestamp := rfl

@[simp] lemma moment_utc (c : StampedCandle) : c.utc.moment = c.moment.utc := rfl

@[simp] lemma values_utc (candles : List StampedCandle) : values (candles.map utc) = values candles :=
  values_inZone candles

/-- The candles in the order of their timestamps, no two at one. -/
def Ascending (candles : List StampedCandle) : Prop :=
  candles.Pairwise fun c c' => c.timestamp < c'.timestamp

instance (candles : List StampedCandle) : Decidable (Ascending candles) :=
  inferInstanceAs (Decidable (candles.Pairwise fun c c' => c.timestamp < c'.timestamp))

lemma ascending_inZone {candles : List StampedCandle} :
    Ascending (candles.map (inZone z)) ↔ Ascending candles :=
  List.pairwise_map

lemma ascending_utc {candles : List StampedCandle} :
    Ascending (candles.map utc) ↔ Ascending candles :=
  ascending_inZone

/-- Ascending candles begin at the first timestamp. -/
lemma Ascending.le_timestamp {candles : List StampedCandle} (h : Ascending candles)
    {head : StampedCandle} (hhead : candles.head? = some head) :
    ∀ c ∈ candles, head.timestamp ≤ c.timestamp := by
  obtain ⟨rest, rfl⟩ := List.head?_eq_some_iff.mp hhead
  obtain ⟨hlt, -⟩ := List.pairwise_cons.mp h
  intro c hc
  rcases List.mem_cons.mp hc with rfl | hc
  · exact le_rfl
  · exact (hlt c hc).le

/-- Ascending candles end at the last timestamp. -/
lemma Ascending.timestamp_le {candles : List StampedCandle} (h : Ascending candles)
    {tail : StampedCandle} (htail : candles.getLast? = some tail) :
    ∀ c ∈ candles, c.timestamp ≤ tail.timestamp := by
  obtain ⟨rest, rfl⟩ := List.getLast?_eq_some_iff.mp htail
  obtain ⟨-, -, hlt⟩ := List.pairwise_append.mp h
  intro c hc
  rcases List.mem_append.mp hc with hc | hc
  · exact (hlt c hc tail (.head _)).le
  · rw [List.mem_singleton.mp hc]

end StampedCandle

/-- A parquet library that reads the rows of candles back in order, with the
timestamps in the zone of the column, and a digest without collisions.

`CandleSchema z` are the schemas of candle tables whose timestamps are in the
zone `z`.  Which zone the column of a new table gets is up to the library. -/
class ZonedParquetLibrary (File : Type) extends ParquetLibrary File where
  CandleSchema : ℤ → Schema → Prop
  columnZone : List StampedCandle → ℤ
  candleSchema_infer : ∀ candles, CandleSchema (columnZone candles) (inferSchema candles)
  read_candles : ∀ {z schema}, CandleSchema z schema → ∀ (metadata : ArchiveMetadata)
      (candles : List StampedCandle), ∃ table,
      readTable (writeTable ⟨schema, some metadata, candles.map row⟩) = .ok table ∧
        CandleSchema z table.schema ∧ table.rows = (candles.map (inZone z)).map row
  cast_candles : ∀ {z schema}, CandleSchema z schema → ∀ candles : List StampedCandle,
    ∃ cs : List StampedCandle, cast schema (candles.map row) = .ok (cs.map row) ∧
      cs.map utc = candles.map utc
  checksum_injective : Function.Injective checksum

/-- A parquet library whose columns are all in UTC. -/
class UtcParquetLibrary (File : Type) extends ZonedParquetLibrary File where
  zone_eq : ∀ {z schema}, CandleSchema z schema → z = 0

/-! ### Merging a tail -/

/-- A dictionary of candles under their own timestamps. -/
def Keyed (m : SortedMap ℤ StampedCandle) : Prop := ∀ p ∈ m.entries, p.2.timestamp = p.1

lemma Keyed.insert {m : SortedMap ℤ StampedCandle} (h : Keyed m) (c : StampedCandle) :
    Keyed (m.insert c.timestamp c) := by
  intro p hp
  rcases SortedMap.mem_insertEntry hp with rfl | hp
  · rfl
  · exact h p hp

/-- One round of the loop of `_merge`. -/
lemma mergeInto_cons_eq_ok {m m' : SortedMap ℤ StampedCandle} {c : StampedCandle}
    {candles : List StampedCandle} :
    mergeInto m (c :: candles) = .ok m' ↔
      (∀ current, m.get? c.timestamp = some current → current.candle = c.candle) ∧
        mergeInto (m.insert c.timestamp c) candles = .ok m' := by
  rw [mergeInto]
  cases m.get? c.timestamp with
  | none => simp
  | some current =>
      by_cases hc : current.candle = c.candle
      · simp [hc]
      · simp [hc]

lemma Keyed.mergeInto {m m' : SortedMap ℤ StampedCandle} {candles : List StampedCandle}
    (hm : Keyed m) (h : mergeInto m candles = .ok m') : Keyed m' := by
  induction candles generalizing m with
  | nil =>
      obtain rfl : m = m' := by simpa [Ai4Binance.mergeInto] using h
      exact hm
  | cons c candles ih => exact ih (hm.insert c) (mergeInto_cons_eq_ok.mp h).2

lemma Keyed.ofList (candles : List StampedCandle) :
    Keyed (SortedMap.ofList (candles.map fun c => (c.timestamp, c))) := by
  rw [SortedMap.ofList, List.foldl_map]
  refine List.foldlRecOn (motive := Keyed) candles _ ?_ ?_
  · intro p hp
    exact absurd hp (by simp [SortedMap.empty])
  · intro m hm c _
    exact hm.insert c

lemma Keyed.ascending {m : SortedMap ℤ StampedCandle} (h : Keyed m) :
    Ascending (sortedCandles m) := by
  rw [Ascending, sortedCandles, List.pairwise_map]
  refine m.sorted.imp_of_mem fun {p q} hp hq hlt => ?_
  rw [h p hp, h q hq]
  exact hlt

lemma keyed_empty : Keyed SortedMap.empty := fun p hp => absurd hp (by simp [SortedMap.empty])

lemma ascending_mergeCandles {existing incoming merged : List StampedCandle}
    (h : mergeCandles existing incoming = .ok merged) : Ascending merged := by
  obtain ⟨m, hm, rfl⟩ := map_eq_ok.mp h
  exact (keyed_empty.mergeInto hm).ascending

lemma mergeInto_append (m : SortedMap ℤ StampedCandle) (l l' : List StampedCandle) :
    mergeInto m (l ++ l') = mergeInto m l >>= fun m => mergeInto m l' := by
  induction l generalizing m with
  | nil => rfl
  | cons c l ih =>
      rw [List.cons_append, mergeInto, mergeInto]
      cases m.get? c.timestamp with
      | none => exact ih _
      | some current =>
          by_cases hc : current.candle ≠ c.candle
          · simp [hc]
          · simp only [if_neg hc]
            exact ih _

/-- Behind the keys of `front`, candles are merged into the rest of the
dictionary. -/
lemma mergeInto_behind {front : List (ℤ × StampedCandle)} {m m' : SortedMap ℤ StampedCandle}
    {candles : List StampedCandle} (hm : m'.entries = front ++ m.entries)
    (hlt : ∀ p ∈ front, ∀ c ∈ candles, p.1 < c.timestamp) :
    (mergeInto m' candles).map (·.entries) =
      (mergeInto m candles).map fun m => front ++ m.entries := by
  induction candles generalizing m m' with
  | nil => exact congrArg Except.ok hm
  | cons c candles ih =>
      have hc : ∀ p ∈ front, p.1 < c.timestamp := fun p hp => hlt p hp c (.head _)
      have hget : m'.get? c.timestamp = m.get? c.timestamp := by
        rw [SortedMap.get?, hm, SortedMap.lookupEntry_append hc, SortedMap.get?]
      have hins : (m'.insert c.timestamp c).entries = front ++ (m.insert c.timestamp c).entries := by
        show SortedMap.insertEntry _ _ m'.entries = front ++ SortedMap.insertEntry _ _ m.entries
        rw [hm, SortedMap.insertEntry_append c hc]
      have hrest := ih hins fun p hp c' hc' => hlt p hp c' (.tail _ hc')
      rw [mergeInto, mergeInto, hget]
      cases m.get? c.timestamp with
      | none => exact hrest
      | some current =>
          by_cases hne : current.candle ≠ c.candle
          · simp only [if_pos hne, Except.map]
          · simp only [if_neg hne]
            exact hrest

/-- Ascending candles behind the keys of a dictionary are its new entries. -/
lemma mergeInto_ascending {m : SortedMap ℤ StampedCandle} {candles : List StampedCandle}
    (h : Ascending candles) (hlt : ∀ p ∈ m.entries, ∀ c ∈ candles, p.1 < c.timestamp) :
    ∃ m', mergeInto m candles = .ok m' ∧
      m'.entries = m.entries ++ candles.map fun c => (c.timestamp, c) := by
  induction candles generalizing m with
  | nil => exact ⟨m, rfl, by simp⟩
  | cons c candles ih =>
      obtain ⟨hc, hcandles⟩ := List.pairwise_cons.mp h
      have hfront : ∀ p ∈ m.entries, p.1 < c.timestamp := fun p hp => hlt p hp c (.head _)
      have hins : (m.insert c.timestamp c).entries = m.entries ++ [(c.timestamp, c)] := by
        have happ := SortedMap.insertEntry_append c hfront []
        rw [List.append_nil] at happ
        exact happ
      have hnone : m.get? c.timestamp = none := by
        have happ := SortedMap.lookupEntry_append hfront []
        rw [List.append_nil] at happ
        exact happ
      obtain ⟨m', hm', hent⟩ := ih (m := m.insert c.timestamp c) hcandles (by
        rw [hins]
        intro p hp c' hc'
        rcases List.mem_append.mp hp with hp | hp
        · exact hlt p hp c' (.tail _ hc')
        · rw [List.mem_singleton.mp hp]
          exact hc c' hc')
      refine ⟨m', mergeInto_cons_eq_ok.mpr ⟨by simp [hnone], hm'⟩, ?_⟩
      rw [hent, hins]
      simp

lemma sortedCandles_of_entries {m : SortedMap ℤ StampedCandle} {candles : List StampedCandle}
    (h : m.entries = candles.map fun c => (c.timestamp, c)) : sortedCandles m = candles := by
  rw [sortedCandles, h, List.map_map]
  exact List.map_id candles

/-- Ascending candles are merged to themselves. -/
lemma mergeCandles_self {candles : List StampedCandle} (h : Ascending candles) :
    mergeCandles [] candles = .ok candles := by
  obtain ⟨m, hm, hent⟩ := mergeInto_ascending (m := SortedMap.empty) h (by simp [SortedMap.empty])
  rw [mergeCandles, List.nil_append, hm]
  exact congrArg Except.ok (sortedCandles_of_entries hent)

/-- **Behind the stored candles, a batch is merged on its own.** -/
lemma mergeCandles_append {existing candles : List StampedCandle} (h : Ascending existing)
    (hlt : ∀ c ∈ existing, ∀ c' ∈ candles, c.timestamp < c'.timestamp) :
    mergeCandles existing candles = (mergeCandles [] candles).map (existing ++ ·) := by
  obtain ⟨m, hm, hent⟩ := mergeInto_ascending (m := SortedMap.empty) h (by simp [SortedMap.empty])
  have hfront : ∀ p ∈ existing.map (fun c => (c.timestamp, c)), ∀ c ∈ candles,
      p.1 < c.timestamp := by
    intro p hp c hc
    obtain ⟨c', hc', rfl⟩ := List.mem_map.mp hp
    exact hlt c' hc' c hc
  have hsplit : m.entries =
      existing.map (fun c => (c.timestamp, c)) ++ (SortedMap.empty : SortedMap ℤ StampedCandle).entries := by
    rw [hent]
    simp [SortedMap.empty]
  have hbehind := mergeInto_behind hsplit hfront
  rw [mergeCandles, mergeCandles, List.nil_append, mergeInto_append, hm, ok_bind]
  cases hm' : mergeInto m candles with
  | error e =>
      rw [hm'] at hbehind
      cases hempty : mergeInto SortedMap.empty candles with
      | error e' =>
          rw [hempty] at hbehind
          exact congrArg Except.error (Except.error.inj hbehind)
      | ok inc =>
          rw [hempty] at hbehind
          exact absurd hbehind (by simp [Except.map])
  | ok m' =>
      rw [hm'] at hbehind
      cases hempty : mergeInto SortedMap.empty candles with
      | error e' =>
          rw [hempty] at hbehind
          exact absurd hbehind (by simp [Except.map])
      | ok inc =>
          rw [hempty] at hbehind
          have hent' : m'.entries = existing.map (fun c => (c.timestamp, c)) ++ inc.entries :=
            Except.ok.inj hbehind
          refine congrArg Except.ok ?_
          show sortedCandles m' = existing ++ sortedCandles inc
          rw [sortedCandles, hent', List.map_append, List.map_map]
          exact congrArg (· ++ _) (List.map_id existing)

/-- A batch in conflict with itself is in conflict with any stored candles. -/
lemma mergeInto_ok_of_ok {m m' n : SortedMap ℤ StampedCandle} {candles : List StampedCandle}
    (hle : ∀ k c, n.get? k = some c → ∃ c', m.get? k = some c' ∧ c'.candle = c.candle)
    (h : mergeInto m candles = .ok m') : ∃ n', mergeInto n candles = .ok n' := by
  induction candles generalizing m n with
  | nil => exact ⟨n, rfl⟩
  | cons c candles ih =>
      obtain ⟨hc, hrest⟩ := mergeInto_cons_eq_ok.mp h
      obtain ⟨n', hn'⟩ := ih (n := n.insert c.timestamp c) (fun k d hd => by
        rw [SortedMap.get?_insert] at hd ⊢
        split_ifs at hd ⊢ with hk
        · exact ⟨c, rfl, congrArg _ (Option.some.inj hd)⟩
        · exact hle k d hd) hrest
      refine ⟨n', mergeInto_cons_eq_ok.mpr ⟨fun current hcurrent => ?_, hn'⟩⟩
      obtain ⟨c', hc', heq⟩ := hle _ _ hcurrent
      exact heq.symm.trans (hc c' hc')

lemma mergeCandles_nil_of_ok {existing candles merged : List StampedCandle}
    (h : mergeCandles existing candles = .ok merged) :
    ∃ incoming, mergeCandles [] candles = .ok incoming := by
  obtain ⟨m, hm, -⟩ := map_eq_ok.mp h
  rw [mergeInto_append] at hm
  obtain ⟨m', -, hm'⟩ := bind_eq_ok.mp hm
  obtain ⟨n, hn⟩ := mergeInto_ok_of_ok (n := SortedMap.empty) (by simp) hm'
  exact ⟨sortedCandles n, by rw [mergeCandles, List.nil_append, hn]; rfl⟩

lemma ascending_mergeAllowing {File : Type} {dataset : Dataset File}
    {existing incoming merged : List StampedCandle} {prefixes : List String}
    (h : Archive.mergeAllowing dataset existing incoming prefixes = .ok merged) :
    Ascending merged := by
  rw [Archive.mergeAllowing] at h
  split at h
  · obtain rfl := Except.ok.inj h
    exact ascending_mergeCandles (by assumption)
  · simp only [bind_eq_ok, raiseIf_eq_ok, pure_eq_ok] at h
    obtain ⟨-, -, -, -, -, -, rfl⟩ := h
    exact (Keyed.ofList _).ascending

/-! ### Gaps -/

/-- The gaps of two adjoining stretches: those of each, and the one between. -/
lemma findGaps_append (duration : ℤ) {l l' : List StampedCandle} {tail head : StampedCandle}
    (hl : l.getLast? = some tail) (hl' : l'.head? = some head) :
    findGaps duration (l ++ l') = findGaps duration l ++
      (if head.timestamp - tail.timestamp ≠ duration then [.written tail.moment head.moment]
       else []) ++ findGaps duration l' := by
  induction l with
  | nil => simp at hl
  | cons c l ih =>
      cases l with
      | nil =>
          obtain rfl : c = tail := by simpa using hl
          cases l' with
          | nil => simp at hl'
          | cons d l' =>
              obtain rfl : d = head := by simpa using hl'
              simp only [List.cons_append, List.nil_append, findGaps]
              split_ifs <;> simp
      | cons d l =>
          have hrest := ih (by simpa using hl)
          simp only [List.cons_append, findGaps] at hrest ⊢
          rw [hrest]
          split_ifs <;> simp

/-- Candles in a zone have the gaps in the zone. -/
lemma findGaps_inZone (duration z : ℤ) (candles : List StampedCandle) :
    findGaps duration (candles.map (inZone z)) =
      (findGaps duration candles).map (GapText.inZone z) := by
  induction candles with
  | nil => rfl
  | cons c candles ih =>
      cases candles with
      | nil => rfl
      | cons d candles =>
          rw [List.map_cons, List.map_cons, findGaps, ← List.map_cons, ih, findGaps,
            apply_ite (List.map (GapText.inZone z))]
          rfl

lemma findGaps_utc (duration : ℤ) (candles : List StampedCandle) :
    findGaps duration (candles.map utc) = (findGaps duration candles).map GapText.utc :=
  findGaps_inZone duration 0 candles

/-- The loop over the stored timestamps finds the gaps of the stored candles. -/
lemma storedGaps_row (duration : ℤ) {candles : List StampedCandle} (h : Ascending candles) :
    storedGaps duration ((candles.map row).map (·.timestamp)) =
      .ok (findGaps duration candles) := by
  induction candles with
  | nil => rfl
  | cons c candles ih =>
      obtain ⟨hc, hcandles⟩ := List.pairwise_cons.mp h
      cases candles with
      | nil => rfl
      | cons d candles =>
          have hlt : ¬ d.timestamp - c.timestamp ≤ 0 := by
            have := hc d (.head _)
            omega
          have hrest := ih hcandles
          simp only [List.map_cons, row] at hrest ⊢
          simp only [storedGaps, moment, Moment.elapsed, ok_bind]
          rw [show (d.candle.timestamp - c.candle.timestamp : ℤ) = d.timestamp - c.timestamp from rfl,
            raiseIf_of_not hlt, ok_bind]
          simp only [moment] at hrest
          rw [hrest, ok_bind, findGaps]
          rfl

/-- The row of a candle is read as the candle. -/
lemma rowToCandle_row (c : StampedCandle) : rowToCandle c.row = .ok c := by
  obtain ⟨candle, offset⟩ := c
  have hle := not_lt.mpr candle.low_le_high
  have hshape := And.intro candle.max_le_high candle.low_le_min
  simp only [rowToCandle, row, moment, orRaise, Cell.decimal, ok_bind, newCandle, finiteCandle]
  rw [dif_neg (not_not.mpr candle.nonneg), dif_neg hle, dif_neg (not_not.mpr hshape)]

lemma mapM_rowToCandle_row (candles : List StampedCandle) :
    (candles.map row).mapM rowToCandle = .ok candles := by
  rw [mapM_eq_ok, List.forall₂_map_left_iff]
  exact List.forall₂_same.mpr fun c _ => rowToCandle_row c

/-! ### Manifests that describe their files -/

/-- The manifest that `update` and `append_verified_tail` write for candles, up to
the identity and the checksum. -/
structure Describes (key : String × String) (manifest : DatasetManifest)
    (candles : List StampedCandle) : Prop where
  rowCount : manifest.rowCount = candles.length
  first : ∃ head, candles.head? = some head ∧ manifest.firstTimestamp = .written head.moment
  last : ∃ tail, candles.getLast? = some tail ∧ manifest.lastTimestamp = .written tail.moment
  gaps : ∃ duration, timeframeDuration key.2 = .ok duration ∧
    manifest.gaps = findGaps duration candles
  gapCount : manifest.gapCount = manifest.gaps.length

section Sound

variable {File : Type} [ZonedParquetLibrary File]

open ZonedParquetLibrary

/-- The file shows the candles in the zone. -/
def HoldsIn (z : ℤ) (file : File) (candles : List StampedCandle) : Prop :=
  ∃ table, readTable file = .ok table ∧ CandleSchema z table.schema ∧
    table.rows = (candles.map (inZone z)).map row

/-- The file shows the candles, in the zone of its column. -/
def Holds (file : File) (candles : List StampedCandle) : Prop := ∃ z, HoldsIn z file candles

/-- The manifest carries the checksum of a file, and describes the candles that
the file shows. -/
structure Certified (key : String × String) (manifest : DatasetManifest) (file : File)
    (candles : List StampedCandle) : Prop where
  sha256 : manifest.sha256 = checksum file
  holds : Holds file candles
  ascending : Ascending candles
  describes : Describes key manifest candles

lemma holdsIn_write {z : ℤ} {schema : ParquetLibrary.Schema File} (h : CandleSchema z schema)
    (metadata : ArchiveMetadata) (candles : List StampedCandle) :
    HoldsIn z (writeTable ⟨schema, some metadata, candles.map row⟩ : File) candles :=
  read_candles h metadata candles

/-- In UTC the file shows the candles in UTC. -/
lemma Holds.inUtc {File : Type} [UtcParquetLibrary File] {file : File}
    {candles : List StampedCandle} (h : Holds file candles) : HoldsIn 0 file candles := by
  obtain ⟨z, table, htable, hschema, hrows⟩ := h
  obtain rfl := UtcParquetLibrary.zone_eq hschema
  exact ⟨table, htable, hschema, hrows⟩

namespace Archive

variable [UnicodeData] {a : Archive File} {key : String × String} {manifest : DatasetManifest}
  {file : File} {candles : List StampedCandle} {z : ℤ}

/-- Every manifest is certified. -/
def Sound (a : Archive File) : Prop :=
  ∀ key content, (a key).manifest = some content →
    ∃ (manifest : DatasetManifest) (file : File) (candles : List StampedCandle),
      content = .ok manifest ∧ Certified key manifest file candles

omit [UnicodeData] in
/-- A manifest that passes the check of the checksum describes the file beside
it. -/
lemma Sound.certified (h : a.Sound) (hver : (a key).verified = .ok (manifest, file)) :
    ∃ candles, Certified key manifest file candles := by
  simp only [Dataset.verified, Dataset.loadManifest, bind_eq_ok, orRaise_eq_ok, raiseIf_eq_ok,
    pure_eq_ok, Prod.mk.injEq, not_not] at hver
  obtain ⟨manifest', hman, file', hfile, -, hsha, rfl, rfl⟩ := hver
  cases hcontent : (a key).manifest with
  | none => simp [hcontent] at hman
  | some content =>
      rw [hcontent] at hman
      obtain ⟨m, f, candles, rfl, hcert⟩ := h key content hcontent
      obtain rfl : m = manifest' := Except.ok.inj hman
      obtain rfl : f = file' := checksum_injective (hcert.sha256.symm.trans hsha)
      exact ⟨candles, hcert⟩

/-- A certified dataset is read as the candles it shows. -/
lemma read_of_holdsIn {symbol timeframe : String}
    (hid : validateIdentity symbol timeframe "read" = .ok symbol)
    (hver : (a (symbol, timeframe)).verified = .ok (manifest, file))
    (hcert : Certified (symbol, timeframe) manifest file candles) (hz : HoldsIn z file candles) :
    a.read symbol timeframe = .ok (candles.map (inZone z)) := by
  obtain ⟨table, htable, -, hrows⟩ := hz
  have hsome : ¬ ((a (symbol, timeframe)).parquet.isNone ∨
      (a (symbol, timeframe)).manifest.isNone) := by
    rintro (hnone | hnone)
    · simp [Dataset.verified, Option.isNone_iff_eq_none.mp hnone, orRaise] at hver
    · simp [Dataset.verified, Dataset.loadManifest, Option.isNone_iff_eq_none.mp hnone] at hver
  have hcount : ¬ (candles.map (inZone z)).length ≠ manifest.rowCount := by
    simp [hcert.describes.rowCount]
  simp only [read, hid, ok_bind, raiseIf_of_not hsome, hver, htable, hrows, mapM_rowToCandle_row,
    raiseIf_of_not hcount]
  rfl

lemma read_of_certified {File : Type} [UtcParquetLibrary File] {a : Archive File} {file : File}
    {symbol timeframe : String} (hid : validateIdentity symbol timeframe "read" = .ok symbol)
    (hver : (a (symbol, timeframe)).verified = .ok (manifest, file))
    (hcert : Certified (symbol, timeframe) manifest file candles) :
    a.read symbol timeframe = .ok (candles.map utc) :=
  read_of_holdsIn hid hver hcert hcert.holds.inUtc

/-- A dataset is read under its normalized symbol. -/
lemma read_normalized {symbol timeframe source normalized : String} (a : Archive File)
    (hid : validateIdentity symbol timeframe source = .ok normalized) :
    a.read symbol timeframe = a.read normalized timeframe := by
  obtain ⟨hsym, hdur, -, hnorm⟩ := validateIdentity_eq_ok.mp hid
  have hread : validateIdentity symbol timeframe "read" = .ok normalized :=
    validateIdentity_eq_ok.mpr ⟨hsym, hdur, by decide, hnorm⟩
  simp only [read, hread, validateIdentity_normalized hid]

lemma verified_of_read {symbol timeframe : String} {cs : List StampedCandle}
    (hid : validateIdentity symbol timeframe "read" = .ok symbol)
    (h : a.read symbol timeframe = .ok cs) :
    ∃ manifest file, (a (symbol, timeframe)).verified = .ok (manifest, file) := by
  simp only [read, hid, ok_bind, bind_eq_ok] at h
  obtain ⟨-, -, ⟨manifest, file⟩, hver, -⟩ := h
  exact ⟨manifest, file, hver⟩

/-! ### Every call keeps the manifests certified -/

omit [UnicodeData] in
lemma Sound.withParquet (h : a.Sound) (key : String × String) (file : File) :
    (a.withParquet key file).Sound := by
  intro key' content hcontent
  refine h key' content ?_
  by_cases hk : key' = key
  · subst hk
    simpa [Archive.withParquet] using hcontent
  · simpa [Archive.withParquet, hk] using hcontent

omit [UnicodeData] in
lemma Sound.withManifest (h : a.Sound) (hcert : Certified key manifest file candles) :
    (a.withManifest key manifest).Sound := by
  intro key' content hcontent
  by_cases hk : key' = key
  · subst hk
    obtain rfl : .ok manifest = content := by simpa [Archive.withManifest] using hcontent
    exact ⟨manifest, file, candles, rfl, hcert⟩
  · exact h key' content (by simpa [Archive.withManifest, hk] using hcontent)

omit [UnicodeData] in
lemma describe_eq_ok {source : String} {timestamp : Moment} :
    describe key source timestamp file candles = .ok manifest ↔
      ∃ duration first last, timeframeDuration key.2 = .ok duration ∧
        timestamp.requireAware = .ok () ∧ candles.head? = some first ∧
        candles.getLast? = some last ∧ manifest = {
          symbol := key.1, timeframe := key.2, source := strip source
          parquetPath := key.2 ++ ".parquet", sha256 := checksum file
          rowCount := candles.length
          firstTimestamp := .written first.moment, lastTimestamp := .written last.moment
          gapCount := (findGaps duration candles).length, gaps := findGaps duration candles
          generatedAt := .written timestamp } := by
  simp only [describe, bind_eq_ok, orRaise_eq_ok, pure_eq_ok]
  constructor
  · rintro ⟨duration, hdur, ⟨⟩, haware, first, hfirst, last, hlast, rfl⟩
    exact ⟨duration, first, last, hdur, haware, hfirst, hlast, rfl⟩
  · rintro ⟨duration, first, last, hdur, haware, hfirst, hlast, rfl⟩
    exact ⟨duration, hdur, (), haware, first, hfirst, last, hlast, rfl⟩

omit [UnicodeData] in
lemma certified_describe {source : String} {timestamp : Moment} (hasc : Ascending candles)
    (h : describe key source timestamp (candleFile key source candles : File) candles =
      .ok manifest) :
    Certified key manifest (candleFile key source candles : File) candles := by
  obtain ⟨duration, first, last, hdur, -, hfirst, hlast, rfl⟩ := describe_eq_ok.mp h
  exact ⟨rfl, ⟨_, holdsIn_write (candleSchema_infer candles) _ candles⟩, hasc,
    rfl, ⟨first, hfirst, rfl⟩, ⟨last, hlast, rfl⟩, ⟨duration, hdur, rfl⟩, rfl⟩

omit [UnicodeData] in
lemma Sound.rewrite (h : a.Sound) (key : String × String) (source : String) (timestamp : Moment)
    (hasc : Ascending candles) : (a.rewrite key source timestamp candles).2.Sound := by
  unfold Archive.rewrite
  dsimp only
  split
  · exact h.withParquet key _
  · rename_i manifest hdescribe
    exact (h.withParquet key _).withManifest (certified_describe hasc hdescribe)

lemma Sound.update (h : a.Sound) (now : ℤ) (c : UpdateCall) : (a.update now c).2.Sound := by
  cases hplan : a.planUpdate c with
  | error e =>
      rw [update_of_error hplan]
      exact h
  | ok plan =>
      obtain ⟨key, existing, merged⟩ := plan
      obtain ⟨symbol, -, -, -, hm, -⟩ := planUpdate_eq_ok.mp hplan
      by_cases hv : values merged = values existing
      · rw [update_of_eq hplan hv]
        exact h
      · rw [update_of_ne hplan hv]
        exact h.rewrite _ _ _ (ascending_mergeAllowing hm)

lemma Sound.truncateFrom (h : a.Sound) (now : ℤ) (c : TruncateCall) :
    (a.truncateFrom now c).2.Sound := by
  cases hplan : a.planTruncate c with
  | error e =>
      rw [truncate_of_error hplan]
      exact h
  | ok plan =>
      obtain ⟨key, existing, retained⟩ := plan
      obtain ⟨symbol, -, hid, hread, -, -, rfl⟩ := planTruncate_eq_ok.mp hplan
      by_cases hv : values (existing.filter (isBefore c.startAt)) = values existing
      · rw [truncate_of_eq hplan hv]
        exact h
      · rw [truncate_of_ne hplan hv]
        refine h.rewrite _ _ _ ?_
        have hid' := validateIdentity_normalized hid
        obtain ⟨manifest, file, hver⟩ := verified_of_read hid' hread
        obtain ⟨candles, hcert⟩ := h.certified hver
        obtain ⟨z, hz⟩ := hcert.holds
        have hexisting : existing = candles.map (inZone z) :=
          Except.ok.inj (hread.symm.trans (read_of_holdsIn hid' hver hcert hz))
        rw [hexisting]
        exact List.Pairwise.filter _ (ascending_inZone.mpr hcert.ascending)

/-! ### The plan of an append -/

/-- The batch starts after the last candle of a certified dataset. -/
structure Appends (a : Archive File) (c : UpdateCall) (symbol : String)
    (manifest : DatasetManifest) (file : File) (candles incoming : List StampedCandle)
    (tail head : StampedCandle) : Prop where
  identity : validateIdentity c.symbol c.timeframe c.source = .ok symbol
  verified : (a (symbol, c.timeframe)).verified = .ok (manifest, file)
  certified : Certified (symbol, c.timeframe) manifest file candles
  ends : candles.getLast? = some tail
  merges : mergeCandles [] c.candles = .ok incoming
  starts : incoming.head? = some head
  behind : tail.timestamp < head.timestamp

omit [UnicodeData] in
/-- The check against the table passes when the manifest spells its gaps in the
zone of the column. -/
lemma readManifestVerifiedTable_of_certified (hcert : Certified key manifest file candles)
    (hz : HoldsIn z file candles) {duration : ℤ} (hdur : timeframeDuration key.2 = .ok duration)
    {tail : StampedCandle} (htail : candles.getLast? = some tail) :
    ∃ table, CandleSchema z table.schema ∧ table.rows = (candles.map (inZone z)).map row ∧
      ∀ table', readManifestVerifiedTable file manifest duration tail.moment = .ok table' ↔
        manifest.gaps.map (GapText.inZone z) = manifest.gaps ∧ table' = table := by
  obtain ⟨table, htable, hschema, hrows⟩ := hz
  obtain ⟨head, hhead, hfirst⟩ := hcert.describes.first
  obtain ⟨duration', hdur', hgaps⟩ := hcert.describes.gaps
  obtain rfl : duration' = duration := Except.ok.inj (hdur'.symm.trans hdur)
  refine ⟨table, hschema, hrows, fun table' => ?_⟩
  have hlen : ¬ (table.rows.length = 0 ∨ table.rows.length ≠ manifest.rowCount) := by
    have hne : candles ≠ [] := by
      rintro rfl
      simp at hhead
    simp [hrows, hcert.describes.rowCount, hne]
  have hbounds : ¬ (Row.isAt table.rows.head? head.moment = false ∨
      Row.isAt table.rows.getLast? tail.moment = false) := by
    simp [hrows, hhead, htail, Row.isAt, row, moment, Moment.same]
  have hstored : storedGaps duration' (table.rows.map (·.timestamp)) =
      .ok (manifest.gaps.map (GapText.inZone z)) := by
    rw [hrows, storedGaps_row duration' (ascending_inZone.mpr hcert.ascending), findGaps_inZone,
      hgaps]
  simp only [readManifestVerifiedTable, htable, ok_bind, raiseIf_of_not hlen, hfirst,
    IsoText.fromisoformat, raiseIf_of_not hbounds, hstored, bind_eq_ok, raiseIf_eq_ok, pure_eq_ok,
    hcert.describes.gapCount]
  constructor
  · rintro ⟨-, hno, rfl⟩
    exact ⟨not_not.mp fun hne => hno (.inl hne), rfl⟩
  · rintro ⟨hutc, rfl⟩
    refine ⟨(), ?_, rfl⟩
    rw [hutc]
    simp

/-- The manifest of an appended batch, up to its checksum. -/
def tailManifest (key : String × String) (c : UpdateCall) (timestamp : Moment)
    (manifest : DatasetManifest) (candles incoming : List StampedCandle)
    (duration : ℤ) (tail : StampedCandle) : DatasetManifest where
  symbol := key.1
  timeframe := key.2
  source := strip c.source
  parquetPath := key.2 ++ ".parquet"
  sha256 := ""
  rowCount := (candles ++ incoming).length
  firstTimestamp := manifest.firstTimestamp
  lastTimestamp := .written tail.moment
  gapCount := (findGaps duration (candles ++ incoming)).length
  gaps := findGaps duration (candles ++ incoming)
  generatedAt := .written timestamp

variable {c : UpdateCall} {symbol : String} {incoming : List StampedCandle}
  {tail head : StampedCandle} (now : ℤ)

/-- The batch lies behind the stored candles. -/
lemma Appends.lt
    (h : Appends a c symbol manifest file candles incoming tail head) :
    ∀ x ∈ candles, ∀ y ∈ incoming, x.timestamp < y.timestamp := by
  intro x hx y hy
  have hle := h.certified.ascending.timestamp_le h.ends x hx
  have hge := (ascending_mergeCandles h.merges).le_timestamp h.starts y hy
  have hbehind := h.behind
  omega

/-- A batch behind the stored candles goes to the append. -/
lemma Appends.planTail (h : Appends a c symbol manifest file candles incoming tail head)
    (hne : c.candles ≠ []) :
    a.planTail now c = planAppend (symbol, c.timeframe) c now file manifest tail.moment
      (head.timestamp - tail.timestamp) incoming := by
  obtain ⟨tail', htail', hlast⟩ := h.certified.describes.last
  obtain rfl : tail' = tail := Option.some.inj (htail'.symm.trans h.ends)
  have hsome : ¬ (a (symbol, c.timeframe)).parquet.isNone = true := by
    intro hnone
    have hver := h.verified
    simp [Dataset.verified, Option.isNone_iff_eq_none.mp hnone, orRaise] at hver
  have hbehind := h.behind
  have hstep : ¬ head.timestamp - tail'.timestamp ≤ 0 := by omega
  have helapsed : tail'.moment.elapsed head.moment = .ok (head.timestamp - tail'.timestamp) := rfl
  simp only [Archive.planTail, h.identity, ok_bind, raiseIf_of_not hne, if_neg hsome, h.verified,
    h.merges, hlast, IsoText.fromisoformat, h.starts, orRaise, helapsed, if_neg hstep]

/-- **The plan of an append**: it exists when the gaps are spelled in the zone of
the column and the timestamp has a zone, and then it describes the old candles
with the batch. -/
lemma Appends.planTail_eq_ok (h : Appends a c symbol manifest file candles incoming tail head)
    (hz : HoldsIn z file candles) (hne : c.candles ≠ []) :
    ∃ (duration : ℤ) (last : StampedCandle) (schema : ParquetLibrary.Schema File)
      (cs : List StampedCandle), timeframeDuration c.timeframe = .ok duration ∧
      incoming.getLast? = some last ∧ CandleSchema z schema ∧
      cs.map utc = (candles ++ incoming).map utc ∧
      ∀ plan, a.planTail now c = .ok plan ↔
        manifest.gaps.map (GapText.inZone z) = manifest.gaps ∧
          (stampOr c.generatedAt now).requireAware = .ok () ∧
          plan = .append (symbol, c.timeframe)
            ⟨schema, some { symbol := symbol, timeframe := c.timeframe, source := strip c.source },
              cs.map row⟩
            (tailManifest (symbol, c.timeframe) c (stampOr c.generatedAt now) manifest candles
              incoming duration last) := by
  obtain ⟨duration, hdur, hgaps⟩ := h.certified.describes.gaps
  obtain ⟨table, hschema, hrows, hread⟩ :=
    readManifestVerifiedTable_of_certified h.certified hz hdur h.ends
  obtain ⟨cs, hcast, hcs⟩ := cast_candles hschema incoming
  have hincne : incoming ≠ [] := by
    rintro rfl
    simpa using h.starts
  refine ⟨duration, incoming.getLast hincne, table.schema, candles.map (inZone z) ++ cs, hdur,
    List.getLast?_eq_some_getLast hincne, hschema, by simp [hcs, Function.comp_def], ?_⟩
  intro plan
  have hall : manifest.gaps ++ (if head.timestamp - tail.timestamp ≠ duration then
      [GapText.written tail.moment head.moment] else []) ++ findGaps duration incoming =
      findGaps duration (candles ++ incoming) := by
    rw [hgaps, ← findGaps_append duration h.ends h.starts]
  have hrows' : table.rows ++ cs.map row = (candles.map (inZone z) ++ cs).map row := by
    rw [hrows, List.map_append]
  have hlen : ((candles.map (inZone z) ++ cs).map row).length = (candles ++ incoming).length := by
    have := congrArg List.length hcs
    simp only [List.length_map] at this
    simp [this]
  rw [h.planTail now hne]
  simp only [planAppend, hdur, ok_bind, bind_eq_ok, hread, h.starts,
    List.getLast?_eq_some_getLast hincne, orRaise, pure_eq_ok, hall]
  constructor
  · rintro ⟨table', ⟨hutc, rfl⟩, rows, hrows'', ⟨⟩, haware, rfl⟩
    obtain rfl : cs.map row = rows := Except.ok.inj (hcast.symm.trans hrows'')
    refine ⟨hutc, haware, ?_⟩
    rw [hrows', hlen]
    rfl
  · rintro ⟨hutc, haware, rfl⟩
    refine ⟨table, ⟨hutc, rfl⟩, cs.map row, hcast, (), haware, ?_⟩
    rw [hrows', hlen]
    rfl

/-- The manifest of an append describes the old candles with the batch. -/
lemma Appends.certified_tail (h : Appends a c symbol manifest file candles incoming tail head)
    {duration : ℤ} {last : StampedCandle} {schema : ParquetLibrary.Schema File}
    {cs : List StampedCandle} (timestamp : Moment)
    (hdur : timeframeDuration c.timeframe = .ok duration) (hlast : incoming.getLast? = some last)
    (hschema : CandleSchema z schema) (hcs : cs.map utc = (candles ++ incoming).map utc)
    (metadata : ArchiveMetadata) :
    Certified (symbol, c.timeframe)
      { tailManifest (symbol, c.timeframe) c timestamp manifest candles incoming duration last with
        sha256 := checksum (writeTable ⟨schema, some metadata, cs.map row⟩ : File) }
      (writeTable ⟨schema, some metadata, cs.map row⟩ : File) (candles ++ incoming) := by
  obtain ⟨first, hfirst, hspelled⟩ := h.certified.describes.first
  refine ⟨rfl, ?_, ?_, rfl, ⟨first, ?_, hspelled⟩, ⟨last, ?_, rfl⟩, ⟨duration, hdur, rfl⟩, rfl⟩
  · obtain ⟨table, htable, hschema', hrows⟩ := @holdsIn_write File _ _ _ hschema metadata cs
    have hzone : cs.map (inZone z) = (candles ++ incoming).map (inZone z) := by
      simpa [Function.comp_def] using congrArg (List.map (inZone z)) hcs
    exact ⟨z, table, htable, hschema', by rw [hrows, hzone]⟩
  · exact List.pairwise_append.mpr
      ⟨h.certified.ascending, ascending_mergeCandles h.merges, h.lt⟩
  · rw [List.head?_append, hfirst]
    rfl
  · rw [List.getLast?_append, hlast]
    rfl

/-- An append comes from a batch behind a certified dataset. -/
lemma Sound.appends_of_planTail (hsound : a.Sound) {key : String × String}
    {table : Table (ParquetLibrary.Schema File)} {draft : DatasetManifest}
    (h : a.planTail now c = .ok (.append key table draft)) :
    c.candles ≠ [] ∧ ∃ symbol manifest file candles incoming tail head,
      Appends a c symbol manifest file candles incoming tail head := by
  simp only [planTail, bind_eq_ok, raiseIf_eq_ok] at h
  obtain ⟨symbol, hid, -, hne, h⟩ := h
  split_ifs at h with hnone
  · simp at h
  · simp only [bind_eq_ok, orRaise_eq_ok] at h
    obtain ⟨⟨manifest, file⟩, hver, incoming, hinc, last, hlast, head, hhead, step, hstep, h⟩ := h
    split_ifs at h with hle
    · simp at h
    · obtain ⟨candles, hcert⟩ := hsound.certified hver
      obtain ⟨tail, htail, hspelled⟩ := hcert.describes.last
      rw [hspelled] at hlast
      obtain rfl : tail.moment = last := Except.ok.inj hlast
      obtain rfl : head.timestamp - tail.timestamp = step := Except.ok.inj hstep
      exact ⟨hne, symbol, manifest, file, candles, incoming, tail, head, hid, hver, hcert, htail,
        hinc, hhead, by omega⟩

lemma Sound.appendVerifiedTail (hsound : a.Sound) (now : ℤ) (c : UpdateCall) :
    (a.appendVerifiedTail now c).2.Sound := by
  cases hplan : a.planTail now c with
  | error e =>
      rw [append_of_error hplan]
      exact hsound
  | ok plan =>
      cases plan with
      | delegate symbol =>
          rw [append_of_delegate hplan]
          exact hsound.update now _
      | append key table draft =>
          obtain ⟨hne, symbol, manifest, file, candles, incoming, tail, head, h⟩ :=
            hsound.appends_of_planTail now hplan
          obtain ⟨z, hz⟩ := h.certified.holds
          obtain ⟨duration, last, schema, cs, hdur, hlast, hschema, hcs, hiff⟩ :=
            h.planTail_eq_ok now hz hne
          obtain ⟨-, -, heq⟩ := (hiff _).mp hplan
          obtain ⟨rfl, rfl, rfl⟩ := TailPlan.append.inj heq
          unfold Archive.appendVerifiedTail
          rw [hplan]
          exact (hsound.withParquet _ _).withManifest
            (h.certified_tail _ hdur hlast hschema hcs _)

/-- **Every call keeps all manifests certified.** -/
theorem Sound.call (h : a.Sound) (now : ℤ) (c : ArchiveCall) : (a.call now c).2.Sound := by
  cases c with
  | update c => exact h.update now c
  | appendVerifiedTail c => exact h.appendVerifiedTail now c
  | truncateFrom c => exact h.truncateFrom now c

end Archive

end Sound

end Ai4Binance

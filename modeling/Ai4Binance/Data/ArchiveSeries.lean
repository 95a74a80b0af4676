/-
What a dataset of the archive stands for: a series of candles, at most one at
each time.

A batch is put over the series, its latest candle at each time in front, and a
truncation cuts the series off at a boundary.  The sorted lists of the archive
are the finite series, one list for each.

* `latest`: the candle of a batch that is left at a time;
* `Series`, `Series.put`, `Series.cut`: the series and its two operations;
* `Series.put_put_self`, `Series.put_comm`: a batch put again changes nothing,
  and batches that agree are put in any order;
* `latest_mergeAllowing`: the merge of `update`, with or without a replacement,
  puts the batch over the stored candles;
* `values_eq_of_series_eq`: sorted candles are determined by their series.
-/
import Ai4Binance.Data.ArchiveTail

namespace Ai4Binance

open StampedCandle Check

/-! ### The latest candle at a time -/

/-- The candle of the list that comes last at the time. -/
def latest (candles : List StampedCandle) (t : ℤ) : Option StampedCandle :=
  candles.reverse.find? (·.timestamp = t)

section Latest

variable {candles candles' : List StampedCandle} {c : StampedCandle} {t : ℤ}

@[simp] lemma latest_nil : latest [] t = none := rfl

lemma latest_append : latest (candles ++ candles') t = (latest candles' t).or (latest candles t) := by
  simp [latest]

lemma latest_cons : latest (c :: candles) t =
    (latest candles t).or (if c.timestamp = t then some c else none) := by
  rw [← List.singleton_append, latest_append]
  by_cases hc : c.timestamp = t
  · simp [latest, hc]
  · simp [latest, hc]

lemma mem_of_latest (h : latest candles t = some c) : c ∈ candles ∧ c.timestamp = t := by
  have hmem := List.mem_of_find?_eq_some h
  have hat := List.find?_some h
  exact ⟨List.mem_reverse.mp hmem, by simpa using hat⟩

lemma latest_eq_none_iff : latest candles t = none ↔ ∀ c ∈ candles, c.timestamp ≠ t := by
  simp [latest, List.find?_eq_none]

/-- At the time of a candle there is a latest one. -/
lemma exists_latest (h : c ∈ candles) : ∃ c', latest candles c.timestamp = some c' := by
  rw [← Option.ne_none_iff_exists']
  exact fun hnone => latest_eq_none_iff.mp hnone c h rfl

lemma latest_utc : latest (candles.map utc) t = (latest candles t).map utc := by
  induction candles with
  | nil => rfl
  | cons c candles ih =>
      rw [List.map_cons, latest_cons, latest_cons, ih, timestamp_utc]
      cases latest candles t with
      | some d => rfl
      | none =>
          by_cases hc : c.timestamp = t
          · simp [hc]
          · simp [hc]

/-- Of ascending candles there is one at each time. -/
lemma StampedCandle.Ascending.eq_of_timestamp_eq (h : Ascending candles) {x y : StampedCandle}
    (hx : x ∈ candles) (hy : y ∈ candles) (hxy : x.timestamp = y.timestamp) : x = y := by
  induction candles with
  | nil => exact absurd hx List.not_mem_nil
  | cons c candles ih =>
      obtain ⟨hc, hcandles⟩ := List.pairwise_cons.mp h
      rcases List.mem_cons.mp hx with hxc | hx' <;> rcases List.mem_cons.mp hy with hyc | hy'
      · rw [hxc, hyc]
      · subst hxc
        exact absurd hxy (ne_of_lt (hc y hy'))
      · subst hyc
        exact absurd hxy (ne_of_gt (hc x hx'))
      · exact ih hcandles hx' hy'

lemma StampedCandle.Ascending.latest_eq_some_iff (h : Ascending candles) :
    latest candles t = some c ↔ c ∈ candles ∧ c.timestamp = t := by
  constructor
  · exact mem_of_latest
  · rintro ⟨hc, rfl⟩
    obtain ⟨c', hc'⟩ := exists_latest hc
    obtain ⟨hmem, hat⟩ := mem_of_latest hc'
    rw [hc', h.eq_of_timestamp_eq hmem hc hat]

end Latest

/-! ### Series -/

/-- At most one candle at each time. -/
abbrev Series := ℤ → Option OHLCVCandle

/-- The series of the candles, the latest one at each time. -/
def seriesOf (candles : List StampedCandle) : Series := fun t => (latest candles t).map (·.candle)

namespace Series

/-- The series with a batch put over it. -/
def put (s : Series) (batch : List StampedCandle) : Series :=
  fun t => (seriesOf batch t).or (s t)

/-- The series before a boundary. -/
def cut (s : Series) (boundary : ℤ) : Series := fun t => if t < boundary then s t else none

/-- A batch put again changes nothing. -/
lemma put_put_self (s : Series) (batch : List StampedCandle) :
    (s.put batch).put batch = s.put batch := by
  funext t
  simp only [put]
  cases seriesOf batch t with
  | none => rfl
  | some x => rfl

/-- Two batches put one after the other are put at once. -/
lemma put_append (s : Series) (batch batch' : List StampedCandle) :
    s.put (batch ++ batch') = (s.put batch).put batch' := by
  funext t
  simp only [put, seriesOf, latest_append]
  cases latest batch' t with
  | none => rfl
  | some x => rfl

end Series

@[simp] lemma seriesOf_nil (t : ℤ) : seriesOf [] t = none := rfl

lemma seriesOf_utc (candles : List StampedCandle) :
    seriesOf (candles.map utc) = seriesOf candles := by
  funext t
  rw [seriesOf, latest_utc, Option.map_map]
  rfl

lemma values_append (l l' : List StampedCandle) : values (l ++ l') = values l ++ values l' :=
  List.map_append

/-- The series depends on the candles up to `==`. -/
lemma seriesOf_congr {candles candles' : List StampedCandle} (h : values candles = values candles') :
    seriesOf candles = seriesOf candles' := by
  have hfind : ∀ (l : List StampedCandle) (t : ℤ),
      seriesOf l t = (values l).reverse.find? (·.timestamp = t) := by
    intro l t
    rw [seriesOf, latest, values, ← List.map_reverse, List.find?_map]
    rfl
  funext t
  rw [hfind, hfind, h]

instance (batch : List StampedCandle) : Decidable (ConflictFree batch) :=
  inferInstanceAs (Decidable (∀ c ∈ batch, ∀ c' ∈ batch, c.timestamp = c'.timestamp →
    c.candle = c'.candle))

/-- A batch free of conflicts is a series as it is. -/
lemma seriesOf_of_conflictFree {batch : List StampedCandle} (h : ConflictFree batch) {t : ℤ}
    {x : OHLCVCandle} : seriesOf batch t = some x ↔ x ∈ values batch ∧ x.timestamp = t := by
  rw [seriesOf, Option.map_eq_some_iff]
  constructor
  · rintro ⟨c, hc, rfl⟩
    obtain ⟨hmem, hat⟩ := mem_of_latest hc
    exact ⟨List.mem_map.mpr ⟨c, hmem, rfl⟩, hat⟩
  · rintro ⟨hx, rfl⟩
    obtain ⟨c, hc, rfl⟩ := List.mem_map.mp hx
    obtain ⟨c', hc'⟩ := exists_latest hc
    obtain ⟨hmem, hat⟩ := mem_of_latest hc'
    exact ⟨c', hc', h c' hmem c hc hat⟩

/-- Batches of the same candles, free of conflicts, are the same series. -/
lemma seriesOf_eq_of_mem_iff {batch batch' : List StampedCandle} (h : ConflictFree batch)
    (h' : ConflictFree batch') (hiff : ∀ x, x ∈ values batch ↔ x ∈ values batch') :
    seriesOf batch = seriesOf batch' := by
  funext t
  refine Option.ext fun x => ?_
  rw [seriesOf_of_conflictFree h, seriesOf_of_conflictFree h', hiff]

lemma ConflictFree.of_subset {batch batch' : List StampedCandle} (h : ConflictFree batch')
    (hsub : ∀ x ∈ values batch, x ∈ values batch') : ConflictFree batch := by
  intro c hc c' hc' heq
  obtain ⟨d, hd, hdc⟩ := List.mem_map.mp (hsub c.candle (List.mem_map.mpr ⟨c, hc, rfl⟩))
  obtain ⟨d', hd', hdc'⟩ := List.mem_map.mp (hsub c'.candle (List.mem_map.mpr ⟨c', hc', rfl⟩))
  have hat : d.timestamp = d'.timestamp := by
    simp only [timestamp] at heq ⊢
    rw [hdc, hdc', heq]
  rw [← hdc, ← hdc', h d hd d' hd' hat]

/-- Batches that agree are put in any order. -/
lemma Series.put_comm (s : Series) {batch batch' : List StampedCandle}
    (h : ConflictFree (batch ++ batch')) : (s.put batch).put batch' = (s.put batch').put batch := by
  have hsub : ∀ x, x ∈ values (batch ++ batch') ↔ x ∈ values (batch' ++ batch) := by
    intro x
    simp only [values, List.map_append, List.mem_append]
    exact or_comm
  have heq : seriesOf (batch ++ batch') = seriesOf (batch' ++ batch) :=
    seriesOf_eq_of_mem_iff h (h.of_subset fun x hx => (hsub x).mpr hx) hsub
  rw [← put_append, ← put_append]
  funext t
  rw [put, put, heq]

/-! ### Sorted candles -/

lemma Keyed.latest_sortedCandles {m : SortedMap ℤ StampedCandle} (h : Keyed m) (t : ℤ) :
    latest (sortedCandles m) t = m.get? t := by
  refine Option.ext fun c => ?_
  rw [h.ascending.latest_eq_some_iff, SortedMap.get?_eq_some_iff, sortedCandles, List.mem_map]
  constructor
  · rintro ⟨⟨p, hp, rfl⟩, rfl⟩
    rw [h p hp]
    exact hp
  · intro hmem
    exact ⟨⟨_, hmem, rfl⟩, h _ hmem⟩

lemma mergeInto_get? {m m' : SortedMap ℤ StampedCandle} {candles : List StampedCandle}
    (h : mergeInto m candles = .ok m') (t : ℤ) : m'.get? t = (latest candles t).or (m.get? t) := by
  induction candles generalizing m with
  | nil =>
      obtain rfl : m = m' := by simpa [mergeInto] using h
      simp
  | cons c candles ih =>
      rw [ih (mergeInto_cons_eq_ok.mp h).2, SortedMap.get?_insert, latest_cons, Option.or_assoc]
      by_cases hc : c.timestamp = t
      · simp [hc]
      · simp [hc]

lemma ofList_get? (candles : List StampedCandle) (t : ℤ) :
    (SortedMap.ofList (candles.map fun c => (c.timestamp, c))).get? t = latest candles t := by
  have hfold : ∀ (m : SortedMap ℤ StampedCandle),
      (candles.foldl (fun m c => m.insert c.timestamp c) m).get? t =
        (latest candles t).or (m.get? t) := by
    induction candles with
    | nil => simp
    | cons c candles ih =>
        intro m
        rw [List.foldl_cons, ih, SortedMap.get?_insert, latest_cons, Option.or_assoc]
        by_cases hc : c.timestamp = t
        · simp [hc]
        · simp [hc]
  rw [SortedMap.ofList, List.foldl_map, hfold]
  simp

/-- **The merge puts the batch over the stored candles.** -/
lemma latest_mergeCandles {existing incoming merged : List StampedCandle}
    (h : mergeCandles existing incoming = .ok merged) (t : ℤ) :
    latest merged t = (latest incoming t).or (latest existing t) := by
  obtain ⟨m, hm, rfl⟩ := map_eq_ok.mp h
  rw [(keyed_empty.mergeInto hm).latest_sortedCandles, mergeInto_get? hm, latest_append]
  simp

lemma latest_replaceCandles (existing incoming : List StampedCandle) (t : ℤ) :
    latest (replaceCandles existing incoming) t = (latest incoming t).or (latest existing t) := by
  rw [replaceCandles, (Keyed.ofList _).latest_sortedCandles, ofList_get?, latest_append]

/-- **So does the merge of `update`, with or without a replacement.** -/
lemma latest_mergeAllowing {File : Type} {dataset : Dataset File}
    {existing incoming merged : List StampedCandle} {prefixes : List String}
    (h : Archive.mergeAllowing dataset existing incoming prefixes = .ok merged) (t : ℤ) :
    latest merged t = (latest incoming t).or (latest existing t) := by
  rw [Archive.mergeAllowing] at h
  split at h
  · obtain rfl := Except.ok.inj h
    exact latest_mergeCandles (by assumption) t
  · simp only [bind_eq_ok, raiseIf_eq_ok, pure_eq_ok] at h
    obtain ⟨-, -, -, -, -, -, rfl⟩ := h
    exact latest_replaceCandles existing incoming t

lemma seriesOf_mergeAllowing {File : Type} {dataset : Dataset File}
    {existing incoming merged : List StampedCandle} {prefixes : List String}
    (h : Archive.mergeAllowing dataset existing incoming prefixes = .ok merged) :
    seriesOf merged = (seriesOf existing).put incoming := by
  funext t
  rw [seriesOf, latest_mergeAllowing h, Series.put, seriesOf, seriesOf]
  cases latest incoming t with
  | none => rfl
  | some c => rfl

/-- Behind the stored candles, a batch is put over them by writing it after them. -/
lemma seriesOf_append_merged {existing candles incoming : List StampedCandle}
    (h : mergeCandles [] candles = .ok incoming) :
    seriesOf (existing ++ incoming) = (seriesOf existing).put candles := by
  funext t
  rw [seriesOf, latest_append, latest_mergeCandles h, Series.put, seriesOf, seriesOf, latest_nil,
    Option.or_none]
  cases latest candles t with
  | none => rfl
  | some c => rfl

/-- A truncation cuts the series off. -/
lemma seriesOf_filter {candles : List StampedCandle} (h : Ascending candles) (boundary offset : ℤ) :
    seriesOf (candles.filter (Archive.isBefore (.aware boundary offset))) =
      (seriesOf candles).cut boundary := by
  have hfilter : Ascending (candles.filter (Archive.isBefore (.aware boundary offset))) :=
    List.Pairwise.filter _ h
  have hlatest : ∀ t, latest (candles.filter (Archive.isBefore (.aware boundary offset))) t =
      if t < boundary then latest candles t else none := by
    intro t
    refine Option.ext fun c => ?_
    rw [hfilter.latest_eq_some_iff, List.mem_filter]
    by_cases ht : t < boundary
    · rw [if_pos ht, h.latest_eq_some_iff]
      constructor
      · rintro ⟨⟨hc, -⟩, hat⟩
        exact ⟨hc, hat⟩
      · rintro ⟨hc, rfl⟩
        exact ⟨⟨hc, by simpa [Archive.isBefore] using ht⟩, rfl⟩
    · rw [if_neg ht]
      constructor
      · rintro ⟨⟨-, hbefore⟩, rfl⟩
        exact absurd (by simpa [Archive.isBefore] using hbefore) ht
      · simp
  funext t
  rw [seriesOf, hlatest, Series.cut]
  by_cases ht : t < boundary
  · rw [if_pos ht, if_pos ht]
    rfl
  · rw [if_neg ht, if_neg ht]
    rfl

/-- A candle of the list is in its series. -/
lemma mem_values_iff {candles : List StampedCandle} (h : Ascending candles) {x : OHLCVCandle} :
    x ∈ values candles ↔ seriesOf candles x.timestamp = some x := by
  rw [seriesOf, Option.map_eq_some_iff, values, List.mem_map]
  constructor
  · rintro ⟨c, hc, rfl⟩
    exact ⟨c, h.latest_eq_some_iff.mpr ⟨hc, rfl⟩, rfl⟩
  · rintro ⟨c, hc, rfl⟩
    exact ⟨c, (mem_of_latest hc).1, rfl⟩

/-- A batch that brings nothing new is put over the series in vain. -/
lemma put_eq_self {existing batch : List StampedCandle} (hasc : Ascending existing)
    (h : ∀ c, latest batch c.timestamp = some c → c.candle ∈ values existing) :
    (seriesOf existing).put batch = seriesOf existing := by
  funext t
  rw [Series.put]
  cases hlatest : latest batch t with
  | none => simp [seriesOf, hlatest]
  | some c =>
      obtain ⟨-, rfl⟩ := mem_of_latest hlatest
      have hmem := (mem_values_iff hasc).mp (h c hlatest)
      rw [show seriesOf batch c.timestamp = some c.candle by rw [seriesOf, hlatest]; rfl]
      exact hmem.symm

/-- **Sorted candles are determined by their series.** -/
lemma values_eq_of_series_eq {candles candles' : List StampedCandle} (h : Ascending candles)
    (h' : Ascending candles') (heq : seriesOf candles = seriesOf candles') :
    values candles = values candles' := by
  have hsorted : ∀ {l : List StampedCandle}, Ascending l →
      (values l).Pairwise fun x y => x.timestamp < y.timestamp :=
    fun hl => List.pairwise_map.mpr hl
  refine List.Perm.eq_of_pairwise
    (fun x y _ _ (hxy : x.timestamp < y.timestamp) (hyx : y.timestamp < x.timestamp) =>
      absurd hxy (lt_asymm hyx)) (hsorted h) (hsorted h') ?_
  have hnodup : ∀ {l : List StampedCandle}, Ascending l → (values l).Nodup :=
    fun hl => (hsorted hl).imp fun hlt heq => absurd (congrArg OHLCVCandle.timestamp heq) (ne_of_lt hlt)
  refine (List.perm_ext_iff_of_nodup (hnodup h) (hnodup h')).mpr fun x => ?_
  rw [mem_values_iff h, mem_values_iff h', heq]

end Ai4Binance

/-
What a raising call leaves behind in the archive.

`update` and `truncate_from` replace the parquet file before they look at
`generated_at`.  A timestamp without a zone stops them there: the new file then
stands beside the old manifest, and every later update refuses to read it.
`append_verified_tail` makes the same check before it writes.

* `ArchiveCall`, `call`, `candlesOf`: the calls, and what a reader sees;
* `ErrorAtomic`: a raising call changes nothing a reader sees, and disables no
  later update;
* `Rewrites`: the calls that get as far as replacing the file;
* `errorAtomic_iff`: exactly the calls that do not replace the file under a
  naive timestamp are atomic.
-/
import Ai4Binance.Data.Archive

namespace Ai4Binance

open Text Check StampedCandle ParquetLibrary

/-! ### Reading back -/

/-- A row that differs from the row of a candle in the zone only is read as that
candle. -/
lemma rowToCandle_of_value_eq {r : Row} {c : StampedCandle} (h : r.value = c.row.value) :
    ∃ c', rowToCandle r = .ok c' ∧ c'.candle = c.candle := by
  obtain ⟨moment, o, hi, l, cl, v⟩ := r
  obtain ⟨candle, offset⟩ := c
  simp only [Row.value, StampedCandle.row, StampedCandle.moment, Option.map_some, Row.mk.injEq,
    Option.map_eq_some_iff] at h
  obtain ⟨⟨m, rfl, hm⟩, rfl, rfl, rfl, rfl, rfl⟩ := h
  cases m with
  | naive t => simp at hm
  | aware t offset' =>
    obtain ⟨rfl, -⟩ := Moment.aware.inj hm
    refine ⟨⟨candle, offset'⟩, ?_, rfl⟩
    have hle := not_lt.mpr candle.low_le_high
    have hshape := And.intro candle.max_le_high candle.low_le_min
    simp only [rowToCandle, orRaise, Cell.decimal, ok_bind, newCandle, finiteCandle]
    rw [dif_neg (not_not.mpr candle.nonneg), dif_neg hle, dif_neg (not_not.mpr hshape)]

lemma mapM_rowToCandle {rows : List Row} {candles : List StampedCandle}
    (h : rows.map Row.value = (candles.map row).map Row.value) :
    ∃ cs, rows.mapM rowToCandle = .ok cs ∧ values cs = values candles := by
  induction rows generalizing candles with
  | nil =>
    obtain rfl : candles = [] := by simpa using h.symm
    exact ⟨[], rfl, rfl⟩
  | cons r rows ih =>
    cases candles with
    | nil => simp at h
    | cons c candles =>
      simp only [List.map_cons, List.cons.injEq] at h
      obtain ⟨c', hc, hval⟩ := rowToCandle_of_value_eq h.1
      obtain ⟨cs, hcs, hvals⟩ := ih h.2
      refine ⟨c' :: cs, ?_, ?_⟩
      · simp only [List.mapM_cons, hc, hcs, ok_bind]
        rfl
      · simpa [values, hval] using hvals

/-! ### Merged candles -/

/-- The dictionary keeps its keys and gains those of the candles. -/
lemma mergeInto_isSome {m m' : SortedMap ℤ StampedCandle} {candles : List StampedCandle}
    (h : mergeInto m candles = .ok m') {k : ℤ}
    (hk : (m.get? k).isSome ∨ ∃ c ∈ candles, c.timestamp = k) : (m'.get? k).isSome := by
  induction candles generalizing m with
  | nil =>
    obtain rfl : m = m' := by simpa [mergeInto] using h
    simpa using hk
  | cons c candles ih =>
    have hstep : mergeInto (m.insert c.timestamp c) candles = .ok m' := by
      rw [mergeInto] at h
      split at h
      · split_ifs at h
        exact h
      · exact h
    refine ih hstep ?_
    rw [SortedMap.get?_insert]
    by_cases hc : c.timestamp = k
    · simp [hc]
    · rcases hk with hk | ⟨c', hc', rfl⟩
      · exact .inl (by rwa [if_neg hc])
      · obtain rfl | hmem := List.mem_cons.mp hc'
        · exact absurd rfl hc
        · exact .inr ⟨c', hmem, rfl⟩

lemma sortedCandles_ne_nil {m : SortedMap ℤ StampedCandle} {k : ℤ} (h : (m.get? k).isSome) :
    sortedCandles m ≠ [] := by
  obtain ⟨c, hc⟩ := Option.isSome_iff_exists.mp h
  have hmem := SortedMap.get?_eq_some_iff.mp hc
  intro hnil
  rw [sortedCandles, List.map_eq_nil_iff] at hnil
  simp [hnil] at hmem

lemma mergeCandles_ne_nil {existing incoming merged : List StampedCandle} (hne : incoming ≠ [])
    (h : mergeCandles existing incoming = .ok merged) : merged ≠ [] := by
  obtain ⟨c, hc⟩ := List.exists_mem_of_ne_nil incoming hne
  obtain ⟨m, hm, rfl⟩ := map_eq_ok.mp h
  exact sortedCandles_ne_nil (mergeInto_isSome hm (.inr ⟨c, List.mem_append_right _ hc, rfl⟩))

lemma replaceCandles_ne_nil {existing incoming : List StampedCandle} (hne : incoming ≠ []) :
    replaceCandles existing incoming ≠ [] := by
  have hkeys : ∀ (l : List StampedCandle) (m : SortedMap ℤ StampedCandle) (k : ℤ),
      (m.get? k).isSome ∨ (∃ c ∈ l, c.timestamp = k) →
        (((l.map fun c => (c.timestamp, c)).foldl (fun m p => m.insert p.1 p.2) m).get? k).isSome := by
    intro l
    induction l with
    | nil => simp
    | cons c l ih =>
      intro m k hk
      refine ih _ k ?_
      rw [SortedMap.get?_insert]
      by_cases hc : c.timestamp = k
      · simp [hc]
      · simpa [hc] using hk
  obtain ⟨c, hc⟩ := List.exists_mem_of_ne_nil incoming hne
  exact sortedCandles_ne_nil (hkeys _ _ _ (.inr ⟨c, List.mem_append_right _ hc, rfl⟩))

lemma mergeAllowing_ne_nil {File : Type} {dataset : Dataset File}
    {existing incoming merged : List StampedCandle} {prefixes : List String}
    (hne : incoming ≠ [])
    (h : Archive.mergeAllowing dataset existing incoming prefixes = .ok merged) :
    merged ≠ [] := by
  rw [Archive.mergeAllowing] at h
  split at h
  · obtain rfl := Except.ok.inj h
    exact mergeCandles_ne_nil hne (by assumption)
  · simp only [bind_eq_ok, raiseIf_eq_ok, pure_eq_ok] at h
    obtain ⟨-, -, -, -, -, -, rfl⟩ := h
    exact replaceCandles_ne_nil hne

/-- A filter changes the tuple when it drops a candle. -/
lemma values_filter_ne {existing : List StampedCandle} {p : StampedCandle → Bool} :
    values (existing.filter p) ≠ values existing ↔ ∃ x ∈ existing, ¬ p x := by
  constructor
  · intro h
    by_contra hall
    push Not at hall
    exact h (by rw [List.filter_eq_self.mpr hall])
  · rintro ⟨x, hx, hp⟩ heq
    have hlen : (existing.filter p).length = existing.length := by
      simpa [values] using congrArg List.length heq
    exact hp (List.length_filter_eq_length_iff.mp hlen x hx)

/-! ### The identity of a dataset -/

section Identity

variable [UnicodeData]

lemma validateIdentity_eq_ok {symbol timeframe source normalized : String} :
    validateIdentity symbol timeframe source = .ok normalized ↔
      isBookSymbol (upper (strip symbol)) ∧ (∃ d, timeframeDuration timeframe = .ok d) ∧
        ¬ isBlank source ∧ upper (strip symbol) = normalized := by
  simp [validateIdentity, map_eq_ok]

/-- The characters of an accepted symbol are not white space. -/
lemma isSpace_of_isBookSymbol {s : String} (h : isBookSymbol s) :
    ∀ c ∈ s.toList, isSpace c = false := by
  intro c hc
  simp only [isBookSymbol, Bool.and_eq_true, Bool.or_eq_true, List.all_eq_true, beq_iff_eq,
    decide_eq_true_eq] at h
  obtain ⟨⟨-, hhead⟩, htail⟩ := h
  rw [← List.takeWhile_append_dropWhile (p := (· ≠ '_')) (l := s.toList), List.mem_append] at hc
  rcases hc with hc | hc
  · exact UnicodeData.isAlnum_isSpace c (hhead c hc)
  have hunderscore : ∀ t, s.toList.dropWhile (· ≠ '_') = t → t ≠ [] → t.head? = some '_' := by
    rintro t rfl hne
    have hnot := List.head_dropWhile_not (fun c => decide (c ≠ '_')) (l := s.toList) hne
    rw [List.head?_eq_some_head hne]
    simpa using hnot
  rcases htail with (htail | htail) | ⟨hlen, hdigits⟩
  · rw [htail] at hc
    exact absurd hc List.not_mem_nil
  · rw [htail] at hc
    have hword : c = '_' ∨ c = 'P' ∨ c = 'E' ∨ c = 'R' ∨ c = 'P' := by simpa using hc
    rcases hword with rfl | rfl | rfl | rfl | rfl
    all_goals exact isSpace_of_graphic (by decide) (by decide)
  · cases ht : s.toList.dropWhile (· ≠ '_') with
    | nil =>
      rw [ht] at hc
      exact absurd hc List.not_mem_nil
    | cons a t =>
      obtain rfl : a = '_' := by simpa using hunderscore _ ht (by simp)
      rw [ht] at hc hdigits
      rcases List.mem_cons.mp hc with rfl | hc
      · decide
      · have hdigit : c.isDigit = true := hdigits c (by simpa using hc)
        have hnat := toNat_of_isAlphanum (c := c) (by simp [Char.isAlphanum, hdigit])
        exact isSpace_of_graphic (by omega) (by omega)

/-- A normalized symbol is its own normal form. -/
lemma validateIdentity_again {symbol timeframe source source' normalized : String}
    (h : validateIdentity symbol timeframe source = .ok normalized) (hs : ¬ isBlank source') :
    validateIdentity normalized timeframe source' = .ok normalized := by
  obtain ⟨hsym, hdur, -, rfl⟩ := validateIdentity_eq_ok.mp h
  have hfix : upper (strip (upper (strip symbol))) = upper (strip symbol) := by
    rw [strip_eq_self (isSpace_of_isBookSymbol hsym), upper_upper]
  exact validateIdentity_eq_ok.mpr ⟨by rw [hfix]; exact hsym, hdur, hs, hfix⟩

lemma validateIdentity_normalized {symbol timeframe source normalized : String}
    (h : validateIdentity symbol timeframe source = .ok normalized) :
    validateIdentity normalized timeframe "read" = .ok normalized :=
  validateIdentity_again h (by decide)

end Identity

/-! ### The write and the check after it -/

namespace Archive

section Write

variable {File : Type}

lemma withParquet_parquet (a : Archive File) (key : String × String) (file : File) :
    (a.withParquet key file key).parquet = some file := by
  simp [withParquet]

variable [ParquetLibrary File]

/-- The call returns a manifest. -/
def Succeeds (o : Outcome File) : Prop := ∃ manifest, o.1 = .ok manifest

lemma describe_naive (key : String × String) (source : String) (wall : ℤ) (file : File)
    (candles : List StampedCandle) :
    ∃ e, describe key source (.naive wall) file candles = .error e := by
  rw [describe]
  cases timeframeDuration key.2 with
  | error e => exact ⟨e, rfl⟩
  | ok duration => exact ⟨_, rfl⟩

lemma describe_aware {key : String × String} {duration : ℤ}
    (hdur : timeframeDuration key.2 = .ok duration) (source : String) (t offset : ℤ)
    (file : File) {candles : List StampedCandle} (hne : candles ≠ []) :
    ∃ manifest, describe key source (.aware t offset) file candles = .ok manifest := by
  simp only [describe, hdur, ok_bind, Moment.requireAware, List.head?_eq_some_head hne,
    List.getLast?_eq_some_getLast hne, orRaise]
  exact ⟨_, rfl⟩

/-- Under a naive timestamp the file is replaced and the manifest is not. -/
lemma rewrite_naive (a : Archive File) (key : String × String) (source : String) (wall : ℤ)
    (candles : List StampedCandle) :
    ¬ Succeeds (a.rewrite key source (.naive wall) candles) ∧
      (a.rewrite key source (.naive wall) candles).2 =
        a.withParquet key (candleFile key source candles) := by
  obtain ⟨e, he⟩ := describe_naive key source wall (candleFile key source candles : File) candles
  simp [rewrite, he, Succeeds]

lemma rewrite_aware (a : Archive File) {key : String × String} {duration : ℤ}
    (hdur : timeframeDuration key.2 = .ok duration) (source : String) (t offset : ℤ)
    {candles : List StampedCandle} (hne : candles ≠ []) :
    Succeeds (a.rewrite key source (.aware t offset) candles) := by
  obtain ⟨manifest, hm⟩ := describe_aware hdur source t offset
    (candleFile key source candles : File) hne
  exact ⟨manifest, by simp [rewrite, hm]⟩

/-- The timestamp of the manifest has a zone unless a naive one was passed. -/
lemma stampOr_cases (generatedAt : Option Moment) (now : ℤ) :
    (∃ wall, generatedAt = some (.naive wall) ∧ stampOr generatedAt now = .naive wall) ∨
      ((¬ ∃ wall, generatedAt = some (.naive wall)) ∧
        ∃ t offset, stampOr generatedAt now = .aware t offset) := by
  rcases generatedAt with _ | (⟨t, offset⟩ | ⟨wall⟩)
  · exact .inr ⟨by simp, now, 0, rfl⟩
  · exact .inr ⟨by simp, t, offset, rfl⟩
  · exact .inl ⟨wall, rfl, rfl⟩

end Write

end Archive

/-! ### Calls -/

/-- A call that may write. -/
inductive ArchiveCall where
  | update (c : Archive.UpdateCall)
  | appendVerifiedTail (c : Archive.UpdateCall)
  | truncateFrom (c : Archive.TruncateCall)

namespace ArchiveCall

def generatedAt : ArchiveCall → Option Moment
  | update c => c.generatedAt
  | appendVerifiedTail c => c.generatedAt
  | truncateFrom c => c.generatedAt

/-- `generated_at` is a `datetime` without a zone. -/
def NaiveStamp (c : ArchiveCall) : Prop := ∃ wall, c.generatedAt = some (.naive wall)

end ArchiveCall

namespace Archive

variable {File : Type} [ParquetLibrary File] [UnicodeData]

/-- The call, and what it leaves behind. -/
def call (a : Archive File) (now : ℤ) : ArchiveCall → Outcome File
  | .update c => a.update now c
  | .appendVerifiedTail c => a.appendVerifiedTail now c
  | .truncateFrom c => a.truncateFrom now c

/-- The candles a reader of the dataset gets, up to `==`. -/
def candlesOf (a : Archive File) (symbol timeframe : String) : Option (List OHLCVCandle) :=
  (a.read symbol timeframe).toOption.map values

/-- If the call raised, every reader gets what it got before, and every update
that would have succeeded still does. -/
def AtomicOutcome (a : Archive File) (o : Outcome File) : Prop :=
  ¬ Succeeds o →
    (∀ symbol timeframe, o.2.candlesOf symbol timeframe = a.candlesOf symbol timeframe) ∧
    ∀ (now : ℤ) (later : UpdateCall), Succeeds (a.update now later) →
      Succeeds (o.2.update now later)

/-- The call is atomic with respect to its exceptions. -/
def ErrorAtomic (a : Archive File) (now : ℤ) (c : ArchiveCall) : Prop :=
  a.AtomicOutcome (a.call now c)

/-- An update gets as far as replacing the file: the identity and the stored
candles are accepted, and the batch merges to something else. -/
def UpdateRewrites (a : Archive File) (c : UpdateCall) : Prop :=
  ∃ symbol existing merged, validateIdentity c.symbol c.timeframe c.source = .ok symbol ∧
    c.candles ≠ [] ∧ a.stored (symbol, c.timeframe) = .ok existing ∧
    mergeAllowing (a (symbol, c.timeframe)) existing c.candles c.replaceConflictsFromSources =
      .ok merged ∧ values merged ≠ values existing

/-- A truncation gets as far as replacing the file: a stored candle lies before
the boundary and another does not. -/
def TruncateRewrites (a : Archive File) (c : TruncateCall) : Prop :=
  ∃ symbol existing, c.startAt.requireAware = .ok () ∧
    validateIdentity c.symbol c.timeframe c.source = .ok symbol ∧
    a.read symbol c.timeframe = .ok existing ∧
    (∃ x ∈ existing, isBefore c.startAt x) ∧ ∃ x ∈ existing, ¬ isBefore c.startAt x

/-- The batch does not start after the last timestamp of a verified manifest. -/
def StartsWithin (d : Dataset File) (candles : List StampedCandle) : Prop :=
  ∃ manifest file incoming head last step, d.verified = .ok (manifest, file) ∧
    mergeCandles [] candles = .ok incoming ∧ incoming.head? = some head ∧
    manifest.lastTimestamp.fromisoformat = .ok last ∧
    last.elapsed head.moment = .ok step ∧ step ≤ 0

/-- `append_verified_tail` hands the batch to `update`. -/
def Delegates (a : Archive File) (c : UpdateCall) : Prop :=
  ∃ symbol, validateIdentity c.symbol c.timeframe c.source = .ok symbol ∧
    ((a (symbol, c.timeframe)).parquet = none ∨
      StartsWithin (a (symbol, c.timeframe)) c.candles)

/-- The call replaces the file before it has checked `generated_at`. -/
def Rewrites (a : Archive File) : ArchiveCall → Prop
  | .update c => a.UpdateRewrites c
  | .appendVerifiedTail c => a.Delegates c ∧ a.UpdateRewrites c
  | .truncateFrom c => a.TruncateRewrites c

/-! ### Inversion of the plans -/

lemma planUpdate_eq_ok {a : Archive File} {c : UpdateCall} {key : String × String}
    {existing merged : List StampedCandle} :
    a.planUpdate c = .ok (key, existing, merged) ↔
      ∃ symbol, validateIdentity c.symbol c.timeframe c.source = .ok symbol ∧ c.candles ≠ [] ∧
        a.stored (symbol, c.timeframe) = .ok existing ∧
        mergeAllowing (a (symbol, c.timeframe)) existing c.candles
          c.replaceConflictsFromSources = .ok merged ∧ (symbol, c.timeframe) = key := by
  simp only [planUpdate, bind_eq_ok, raiseIf_eq_ok, pure_eq_ok, Prod.mk.injEq]
  constructor
  · rintro ⟨symbol, hid, -, hne, existing', hst, merged', hm, rfl, rfl, rfl⟩
    exact ⟨symbol, hid, hne, hst, hm, rfl⟩
  · rintro ⟨symbol, hid, hne, hst, hm, rfl⟩
    exact ⟨symbol, hid, (), hne, existing, hst, merged, hm, rfl, rfl, rfl⟩

lemma planTruncate_eq_ok {a : Archive File} {c : TruncateCall} {key : String × String}
    {existing retained : List StampedCandle} :
    a.planTruncate c = .ok (key, existing, retained) ↔
      ∃ symbol, c.startAt.requireAware = .ok () ∧
        validateIdentity c.symbol c.timeframe c.source = .ok symbol ∧
        a.read symbol c.timeframe = .ok existing ∧
        existing.filter (isBefore c.startAt) ≠ [] ∧ (symbol, c.timeframe) = key ∧
        existing.filter (isBefore c.startAt) = retained := by
  simp only [planTruncate, bind_eq_ok, raiseIf_eq_ok, pure_eq_ok, Prod.mk.injEq]
  constructor
  · rintro ⟨⟨⟩, haware, symbol, hid, existing', hread, -, hne, rfl, rfl, rfl⟩
    exact ⟨symbol, haware, hid, hread, hne, rfl, rfl⟩
  · rintro ⟨symbol, haware, hid, hread, hne, rfl, rfl⟩
    exact ⟨(), haware, symbol, hid, existing, hread, (), hne, rfl, rfl, rfl⟩

/-- `append_verified_tail` returns to `update` in two cases: there is no file
yet, or the batch reaches back into the stored range. -/
lemma planTail_eq_delegate {a : Archive File} {now : ℤ} {c : UpdateCall} {symbol : String} :
    a.planTail now c = .ok (.delegate symbol) ↔
      validateIdentity c.symbol c.timeframe c.source = .ok symbol ∧ c.candles ≠ [] ∧
        ((a (symbol, c.timeframe)).parquet = none ∨
          StartsWithin (a (symbol, c.timeframe)) c.candles) := by
  have happend : ∀ key file manifest last step incoming,
      @planAppend File _ key c now file manifest last step incoming ≠
        .ok (.delegate symbol) := by
    intro key file manifest last step incoming h
    simp only [planAppend, bind_eq_ok, pure_eq_ok, reduceCtorEq, and_false, exists_false] at h
  simp only [planTail, bind_eq_ok, raiseIf_eq_ok]
  constructor
  · rintro ⟨symbol', hid, -, hne, h⟩
    split_ifs at h with hnone
    · obtain rfl : symbol' = symbol := by simpa using h
      exact ⟨hid, hne, .inl (by simpa using hnone)⟩
    · simp only [bind_eq_ok, orRaise_eq_ok] at h
      obtain ⟨⟨manifest, file⟩, hver, incoming, hinc, last, hlast, head, hhead, step, hstep, h⟩ := h
      split_ifs at h with hle
      · obtain rfl : symbol' = symbol := by simpa using h
        exact ⟨hid, hne, .inr ⟨manifest, file, incoming, head, last, step, hver, hinc, hhead,
          hlast, hstep, hle⟩⟩
      · exact absurd h (happend _ _ _ _ _ _)
  · rintro ⟨hid, hne, h⟩
    refine ⟨symbol, hid, (), hne, ?_⟩
    by_cases hnone : (a (symbol, c.timeframe)).parquet = none
    · rw [if_pos (by simp [hnone])]
      rfl
    · obtain ⟨manifest, file, incoming, head, last, step, hver, hinc, hhead, hlast, hstep, hle⟩ :=
        h.resolve_left hnone
      rw [if_neg (by simpa using hnone)]
      simp only [bind_eq_ok, orRaise_eq_ok]
      refine ⟨(manifest, file), hver, incoming, hinc, last, hlast, head, hhead, step, hstep, ?_⟩
      rw [if_pos hle]
      rfl

/-! ### What the new file shows -/

/-- A dataset is read from its file. -/
lemma read_file {a : Archive File} {symbol timeframe key : String} {cs : List StampedCandle}
    (hid : validateIdentity symbol timeframe "read" = .ok key)
    (h : a.read symbol timeframe = .ok cs) :
    ∃ file table, (a (key, timeframe)).parquet = some file ∧ readTable file = .ok table ∧
      table.rows.mapM rowToCandle = .ok cs := by
  simp only [read, hid, ok_bind, bind_eq_ok, raiseIf_eq_ok, pure_eq_ok] at h
  obtain ⟨-, -, ⟨manifest, file⟩, hver, table, htable, cs', hcs, -, -, rfl⟩ := h
  simp only [Dataset.verified, bind_eq_ok, orRaise_eq_ok, pure_eq_ok, Prod.mk.injEq] at hver
  obtain ⟨-, -, file', hfile, -, -, -, rfl⟩ := hver
  exact ⟨file', table, hfile, htable, hcs⟩

/-- Whatever manifest stands beside it, the file of some candles shows these
candles or nothing. -/
lemma values_of_read {a : Archive File} {key : String × String} {source : String}
    {candles cs : List StampedCandle} (hid : validateIdentity key.1 key.2 "read" = .ok key.1)
    (hfile : (a key).parquet = some (candleFile key source candles))
    (h : a.read key.1 key.2 = .ok cs) : values cs = values candles := by
  obtain ⟨file, table, hpar, htable, hcs⟩ := read_file hid h
  obtain rfl : candleFile key source candles = file := Option.some.inj (hfile.symm.trans hpar)
  obtain ⟨table', htable', hrows⟩ := @read_write File _
    { symbol := key.1, timeframe := key.2, source := strip source } candles
  obtain rfl : table' = table := Except.ok.inj (htable'.symm.trans htable)
  obtain ⟨cs', hcs', hvals⟩ := mapM_rowToCandle hrows
  obtain rfl : cs' = cs := Except.ok.inj (hcs'.symm.trans hcs)
  exact hvals

/-- After the file alone is replaced by one with other candles, a reader notices,
or the dataset is new and no reader gets through. -/
lemma candlesOf_withParquet {a : Archive File} {key : String × String} {source : String}
    {existing merged : List StampedCandle}
    (hid : validateIdentity key.1 key.2 "read" = .ok key.1)
    (hstored : a.stored key = .ok existing) (hne : values merged ≠ values existing) :
    (a.withParquet key (candleFile key source merged)).candlesOf key.1 key.2 ≠
        a.candlesOf key.1 key.2 ∨
      ((a key).parquet = none ∧ ∃ e,
        (a.withParquet key (candleFile key source merged)).read key.1 key.2 = .error e) := by
  have hfile := withParquet_parquet a key (candleFile key source merged)
  have hnew := fun cs => @values_of_read File _ _ _ key source merged cs hid hfile
  generalize a.withParquet key (candleFile key source merged) = a' at hnew ⊢
  cases hpar : (a key).parquet with
  | some file =>
    left
    have hread : a.read key.1 key.2 = .ok existing := by simpa [stored, hpar] using hstored
    cases hread' : a'.read key.1 key.2 with
    | error e => simp [candlesOf, hread, hread', Except.toOption]
    | ok cs =>
      have hcs := hnew cs hread'
      simpa [candlesOf, hread, hread', Except.toOption, hcs] using hne
  | none =>
    cases hread' : a'.read key.1 key.2 with
    | error e => exact .inr ⟨rfl, e, rfl⟩
    | ok cs =>
      left
      have hnone : a.candlesOf key.1 key.2 = none := by
        simp only [candlesOf, Option.map_eq_none_iff]
        cases hread : a.read key.1 key.2 with
        | error e => rfl
        | ok cs' =>
          obtain ⟨file, -, hfile', -⟩ := read_file hid hread
          exact absurd (hpar.symm.trans hfile') (by simp)
      rw [hnone]
      simp [candlesOf, hread', Except.toOption]

/-! ### Atomicity -/

lemma atomicOutcome_of_unchanged {a : Archive File} {o : Outcome File} (h : o.2 = a) :
    a.AtomicOutcome o := by
  intro _
  rw [h]
  exact ⟨fun _ _ => rfl, fun _ _ h => h⟩

lemma atomicOutcome_of_succeeds {a : Archive File} {o : Outcome File} (h : Succeeds o) :
    a.AtomicOutcome o :=
  fun hnot => absurd h hnot

lemma update_of_error {a : Archive File} {c : UpdateCall} {e : ArchiveError}
    (h : a.planUpdate c = .error e) (now : ℤ) : a.update now c = (.error e, a) := by
  unfold update
  rw [h]

lemma update_of_eq {a : Archive File} {c : UpdateCall} {key : String × String}
    {existing merged : List StampedCandle} (h : a.planUpdate c = .ok (key, existing, merged))
    (hv : values merged = values existing) (now : ℤ) :
    a.update now c = ((a key).loadManifest, a) := by
  unfold update
  rw [h]
  exact if_pos hv

lemma update_of_ne {a : Archive File} {c : UpdateCall} {key : String × String}
    {existing merged : List StampedCandle} (h : a.planUpdate c = .ok (key, existing, merged))
    (hv : values merged ≠ values existing) (now : ℤ) :
    a.update now c = a.rewrite key c.source (stampOr c.generatedAt now) merged := by
  unfold update
  rw [h]
  exact if_neg hv

/-- The plan does not depend on `generated_at`. -/
lemma planUpdate_generatedAt (a : Archive File) (c : UpdateCall) (generatedAt : Option Moment) :
    a.planUpdate { c with generatedAt } = a.planUpdate c := by
  simp only [planUpdate]

/-- An update that does not reach its write leaves the archive alone. -/
lemma update_unchanged {a : Archive File} {now : ℤ} {c : UpdateCall} (h : ¬ a.UpdateRewrites c) :
    (a.update now c).2 = a := by
  cases hplan : a.planUpdate c with
  | error e => rw [update_of_error hplan]
  | ok plan =>
    obtain ⟨key, existing, merged⟩ := plan
    obtain ⟨symbol, hid, hne, hst, hm, -⟩ := planUpdate_eq_ok.mp hplan
    have heq : values merged = values existing :=
      not_not.mp fun hv => h ⟨symbol, existing, merged, hid, hne, hst, hm, hv⟩
    rw [update_of_eq hplan heq]

lemma truncate_of_error {a : Archive File} {c : TruncateCall} {e : ArchiveError}
    (h : a.planTruncate c = .error e) (now : ℤ) : a.truncateFrom now c = (.error e, a) := by
  unfold truncateFrom
  rw [h]

lemma truncate_of_eq {a : Archive File} {c : TruncateCall} {key : String × String}
    {existing retained : List StampedCandle}
    (h : a.planTruncate c = .ok (key, existing, retained))
    (hv : values retained = values existing) (now : ℤ) :
    a.truncateFrom now c = ((a key).loadManifest, a) := by
  unfold truncateFrom
  rw [h]
  exact if_pos hv

lemma truncate_of_ne {a : Archive File} {c : TruncateCall} {key : String × String}
    {existing retained : List StampedCandle}
    (h : a.planTruncate c = .ok (key, existing, retained))
    (hv : values retained ≠ values existing) (now : ℤ) :
    a.truncateFrom now c = a.rewrite key c.source (stampOr c.generatedAt now) retained := by
  unfold truncateFrom
  rw [h]
  exact if_neg hv

/-- An update of a dataset that cannot be read raises. -/
lemma planUpdate_of_unreadable {a : Archive File} {c : UpdateCall} {symbol : String}
    {e : ArchiveError} (hid : validateIdentity c.symbol c.timeframe c.source = .ok symbol)
    (hne : c.candles ≠ []) (hsome : (a (symbol, c.timeframe)).parquet.isSome)
    (hread : a.read symbol c.timeframe = .error e) : ∃ e', a.planUpdate c = .error e' := by
  have hst : a.stored (symbol, c.timeframe) = .error e := by
    rw [stored, if_pos hsome, hread]
  simp only [planUpdate, hid, ok_bind, raiseIf_of_not hne, hst, error_bind]
  exact ⟨e, rfl⟩

lemma append_of_error {a : Archive File} {now : ℤ} {c : UpdateCall} {e : ArchiveError}
    (h : a.planTail now c = .error e) : a.appendVerifiedTail now c = (.error e, a) := by
  unfold appendVerifiedTail
  rw [h]

lemma append_of_delegate {a : Archive File} {now : ℤ} {c : UpdateCall} {symbol : String}
    (h : a.planTail now c = .ok (.delegate symbol)) :
    a.appendVerifiedTail now c = a.update now { c with symbol } := by
  unfold appendVerifiedTail
  rw [h]

lemma append_of_append {a : Archive File} {now : ℤ} {c : UpdateCall} {key : String × String}
    {table : Table (ParquetLibrary.Schema File)} {draft : DatasetManifest}
    (h : a.planTail now c = .ok (.append key table draft)) :
    Succeeds (a.appendVerifiedTail now c) := by
  unfold appendVerifiedTail
  rw [h]
  exact ⟨_, rfl⟩

/-- The write is atomic unless its timestamp is naive.  For a new dataset this
needs an update that would have created it. -/
lemma rewrite_atomic_iff {a : Archive File} (key : String × String) (source : String)
    {existing merged : List StampedCandle} {duration : ℤ}
    (hid : validateIdentity key.1 key.2 "read" = .ok key.1)
    (hdur : timeframeDuration key.2 = .ok duration) (hst : a.stored key = .ok existing)
    (hv : values merged ≠ values existing) (hne : merged ≠ [])
    (hnew : (a key).parquet = none → ∃ (now : ℤ) (later : UpdateCall),
      Succeeds (a.update now later) ∧ ∀ (a' : Archive File) (e : ArchiveError),
        (a' key).parquet.isSome → a'.read key.1 key.2 = .error e →
          ¬ Succeeds (a'.update now later))
    (generatedAt : Option Moment) (now : ℤ) :
    a.AtomicOutcome (a.rewrite key source (stampOr generatedAt now) merged) ↔
      ¬ ∃ wall, generatedAt = some (.naive wall) := by
  rcases stampOr_cases generatedAt now with ⟨wall, hnaive, hstamp⟩ | ⟨hnot, t, offset, hstamp⟩
  · refine iff_of_false (fun hatomic => ?_) fun h => h ⟨wall, hnaive⟩
    obtain ⟨hraise, hleft⟩ := rewrite_naive a key source wall merged
    rw [hstamp] at hatomic
    obtain ⟨hreads, hlater⟩ := hatomic hraise
    rw [hleft] at hreads hlater
    rcases @candlesOf_withParquet File _ _ a key source existing merged hid hst hv with
      hch | ⟨hnone, e, he⟩
    · exact hch (hreads key.1 key.2)
    · obtain ⟨now', later, hgood, hbad⟩ := hnew hnone
      exact hbad _ e (by simp [withParquet_parquet]) he (hlater now' later hgood)
  · refine iff_of_true (atomicOutcome_of_succeeds ?_) hnot
    rw [hstamp]
    exact rewrite_aware a hdur source t offset hne

lemma update_atomic_iff (a : Archive File) (now : ℤ) (c : UpdateCall) :
    a.AtomicOutcome (a.update now c) ↔
      ¬ ((∃ wall, c.generatedAt = some (.naive wall)) ∧ a.UpdateRewrites c) := by
  by_cases hw : a.UpdateRewrites c
  swap
  · exact iff_of_true (atomicOutcome_of_unchanged (update_unchanged hw)) fun h => hw h.2
  obtain ⟨symbol, existing, merged, hid, hne, hst, hm, hv⟩ := id hw
  obtain ⟨-, ⟨duration, hdur⟩, -, -⟩ := validateIdentity_eq_ok.mp hid
  have hplan : a.planUpdate c = .ok ((symbol, c.timeframe), existing, merged) :=
    planUpdate_eq_ok.mpr ⟨symbol, hid, hne, hst, hm, rfl⟩
  have hmerged : merged ≠ [] := mergeAllowing_ne_nil hne hm
  have hiff := rewrite_atomic_iff (symbol, c.timeframe) c.source
    (validateIdentity_normalized hid) hdur hst hv hmerged (fun _ => ⟨now, { c with generatedAt := none }, ?_, ?_⟩) c.generatedAt now
  · rw [update_of_ne hplan hv, hiff, and_iff_left hw]
  · -- the same update, with the current time as its timestamp
    rw [update_of_ne ((planUpdate_generatedAt a c none).trans hplan) hv]
    exact rewrite_aware a hdur c.source now 0 hmerged
  · intro a' e hsome hread
    obtain ⟨e', he'⟩ := planUpdate_of_unreadable hid hne hsome hread
    rw [update_of_error ((planUpdate_generatedAt a' c none).trans he')]
    simp [Succeeds]

lemma truncate_atomic_iff (a : Archive File) (now : ℤ) (c : TruncateCall) :
    a.AtomicOutcome (a.truncateFrom now c) ↔
      ¬ ((∃ wall, c.generatedAt = some (.naive wall)) ∧ a.TruncateRewrites c) := by
  cases hplan : a.planTruncate c with
  | error e =>
    rw [truncate_of_error hplan]
    refine iff_of_true (atomicOutcome_of_unchanged rfl) ?_
    rintro ⟨-, symbol, existing, haware, hid, hread, ⟨x, hx, hbefore⟩, -⟩
    have hne : existing.filter (isBefore c.startAt) ≠ [] :=
      List.ne_nil_of_mem (List.mem_filter.mpr ⟨hx, hbefore⟩)
    have hok := planTruncate_eq_ok.mpr ⟨symbol, haware, hid, hread, hne, rfl, rfl⟩
    rw [hplan] at hok
    exact absurd hok (by simp)
  | ok plan =>
    obtain ⟨key, existing, retained⟩ := plan
    obtain ⟨symbol, haware, hid, hread, hne, rfl, rfl⟩ := planTruncate_eq_ok.mp hplan
    obtain ⟨x, hx⟩ := List.exists_mem_of_ne_nil _ hne
    by_cases hv : values (existing.filter (isBefore c.startAt)) = values existing
    · rw [truncate_of_eq hplan hv]
      refine iff_of_true (atomicOutcome_of_unchanged rfl) ?_
      rintro ⟨-, symbol', existing', -, hid', hread', -, hdrop⟩
      obtain rfl : symbol = symbol' := Except.ok.inj (hid.symm.trans hid')
      obtain rfl : existing = existing' := Except.ok.inj (hread.symm.trans hread')
      exact values_filter_ne.mpr hdrop hv
    · have hw : a.TruncateRewrites c := ⟨symbol, existing, haware, hid, hread,
        ⟨x, (List.mem_filter.mp hx).1, (List.mem_filter.mp hx).2⟩, values_filter_ne.mp hv⟩
      obtain ⟨-, ⟨duration, hdur⟩, -, -⟩ := validateIdentity_eq_ok.mp hid
      obtain ⟨file, -, hfile, -⟩ := read_file (validateIdentity_normalized hid) hread
      have hst : a.stored (symbol, c.timeframe) = .ok existing := by
        rw [stored, hfile, Option.isSome_some, if_pos rfl, hread]
      have hiff := rewrite_atomic_iff (symbol, c.timeframe) c.source
        (validateIdentity_normalized hid) hdur hst hv hne
        (fun hnone => absurd (hfile.symm.trans hnone) (by simp)) c.generatedAt now
      rw [truncate_of_ne hplan hv, hiff, and_iff_left hw]

/-- An update under the normalized symbol writes when the original one does. -/
lemma updateRewrites_symbol {a : Archive File} {c : UpdateCall} {symbol : String}
    (hid : validateIdentity c.symbol c.timeframe c.source = .ok symbol) :
    a.UpdateRewrites { c with symbol } ↔ a.UpdateRewrites c := by
  obtain ⟨-, -, hs, -⟩ := validateIdentity_eq_ok.mp hid
  have hid' := validateIdentity_again hid hs
  simp only [UpdateRewrites, hid, hid']

lemma append_atomic_iff (a : Archive File) (now : ℤ) (c : UpdateCall) :
    a.AtomicOutcome (a.appendVerifiedTail now c) ↔
      ¬ ((∃ wall, c.generatedAt = some (.naive wall)) ∧ a.Delegates c ∧ a.UpdateRewrites c) := by
  have hdelegates : a.Delegates c → a.UpdateRewrites c →
      ∃ symbol, a.planTail now c = .ok (.delegate symbol) := by
    rintro ⟨symbol, hid, hwhere⟩ ⟨-, -, -, -, hne, -⟩
    exact ⟨symbol, planTail_eq_delegate.mpr ⟨hid, hne, hwhere⟩⟩
  cases hplan : a.planTail now c with
  | error e =>
    rw [append_of_error hplan]
    refine iff_of_true (atomicOutcome_of_unchanged rfl) ?_
    rintro ⟨-, hd, hw⟩
    obtain ⟨symbol, h⟩ := hdelegates hd hw
    exact absurd (hplan.symm.trans h) (by simp)
  | ok plan =>
    cases plan with
    | delegate symbol =>
      obtain ⟨hid, hne, hwhere⟩ := planTail_eq_delegate.mp hplan
      have hd : a.Delegates c := ⟨symbol, hid, hwhere⟩
      rw [append_of_delegate hplan, update_atomic_iff, updateRewrites_symbol hid,
        and_iff_right hd]
    | append key table draft =>
      refine iff_of_true (atomicOutcome_of_succeeds (append_of_append hplan)) ?_
      rintro ⟨-, hd, hw⟩
      obtain ⟨symbol, h⟩ := hdelegates hd hw
      exact absurd (hplan.symm.trans h) (by simp)

/-- **Exactly the calls that replace the file under a naive `generated_at` are
not atomic.** -/
theorem errorAtomic_iff (a : Archive File) (now : ℤ) (c : ArchiveCall) :
    a.ErrorAtomic now c ↔ ¬ (c.NaiveStamp ∧ a.Rewrites c) := by
  cases c with
  | update c => exact update_atomic_iff a now c
  | appendVerifiedTail c => exact append_atomic_iff a now c
  | truncateFrom c => exact truncate_atomic_iff a now c

end Archive

/-! ### A failed update -/

namespace Archive

/-- A library whose files are the tables themselves, told apart by their number
of rows. -/
@[reducible] def tableLibrary : ParquetLibrary (Table Unit) where
  Schema := Unit
  inferSchema _ := ()
  cast _ rows := .ok rows
  writeTable t := t
  readTable t := .ok t
  checksum t := toString t.rows.length
  read_write _ _ := ⟨_, rfl, rfl⟩

/-- A flat candle at a minute. -/
def flatCandle (minute : ℤ) : StampedCandle where
  candle := ⟨minute * 60000000, 1, 1, 1, 1, 1, OHLCVCandle.unit_nonneg,
    OHLCVCandle.unit_low_le_high, OHLCVCandle.unit_max_le_high, OHLCVCandle.unit_low_le_min⟩
  offset := 0

/-- An update of the dataset `BTCUSDT/1m` with one candle. -/
def minuteUpdate (minute : ℤ) (generatedAt : Option Moment) : UpdateCall where
  symbol := "BTCUSDT"
  timeframe := "1m"
  candles := [flatCandle minute]
  source := "binance"
  generatedAt := generatedAt

/-- The archive after a first update. -/
def seededArchive : Archive (Table Unit) :=
  (@update _ tableLibrary _ (fun _ => {}) 0 (minuteUpdate 0 none)).2

/-- The second update passes a time without a zone: it raises, and the stored
candle can no longer be read. -/
theorem naive_update_loses_dataset :
    ¬ @ErrorAtomic _ tableLibrary _ seededArchive 0 (.update (minuteUpdate 1 (some (.naive 0)))) ∧
      @candlesOf _ tableLibrary _ seededArchive "BTCUSDT" "1m" = some [(flatCandle 0).candle] ∧
      @candlesOf _ tableLibrary _
        (@update _ tableLibrary _ seededArchive 0 (minuteUpdate 1 (some (.naive 0)))).2
        "BTCUSDT" "1m" = none := by
  have hbefore : @candlesOf _ tableLibrary _ seededArchive "BTCUSDT" "1m" =
      some [(flatCandle 0).candle] := by decide +kernel
  have hafter : @candlesOf _ tableLibrary _
      (@update _ tableLibrary _ seededArchive 0 (minuteUpdate 1 (some (.naive 0)))).2
      "BTCUSDT" "1m" = none := by decide +kernel
  have hraise : (@update _ tableLibrary _ seededArchive 0
      (minuteUpdate 1 (some (.naive 0)))).1.toOption = none := by decide +kernel
  refine ⟨fun h => ?_, hbefore, hafter⟩
  have hreads := (h ?_).1 "BTCUSDT" "1m"
  · have hnew := hafter.symm.trans (hreads.trans hbefore)
    simp at hnew
  · rintro ⟨manifest, hm⟩
    have hm' := toOption_eq_some.mpr hm
    exact absurd (hraise.symm.trans hm') (by simp)

end Archive

end Ai4Binance

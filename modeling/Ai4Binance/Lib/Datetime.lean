/-
Aware datetimes of Python, with their zones.

A zone is a fixed offset or a region of the time zone database, whose offset depends on
the wall-clock time and, in an hour that the clocks repeat or skip, on the `fold` flag.
Two datetimes of one zone object are compared by their wall clocks, two of different
zones by their instants; across zones a time whose offset depends on `fold` is equal to
none.  The database is a parameter (`TzData`).

* `ZonedDatetime`, `instant`: a wall-clock time in a zone, and the instant it names;
* `eq`, `lt`, `sub`: the equality, the order and the difference of Python;
* `reread`: the text of `isoformat`, read by `fromisoformat`, which keeps the offset and
  forgets the region;
* `Timestamp`, `isoformat`: a datetime of a fixed offset, and its text, which begins and
  ends with characters other than white space (`isoformat_last`).
-/
import Ai4Binance.Lib.Text

/-- The offsets of the regions, in microseconds: of a region's key, a wall-clock time and
the `fold` flag. -/
class TzData where
  utcoffset : String → ℤ → Bool → ℤ

/-- A database in which no region leaves Greenwich. -/
instance greenwichData : TzData where
  utcoffset _ _ _ := 0

/-- `tzinfo`: `timezone(offset)` or `ZoneInfo(key)`. -/
inductive TzInfo where
  | fixed (offset : ℤ)
  | region (key : String)
  deriving DecidableEq, Repr

/-- An aware `datetime`. -/
structure ZonedDatetime where
  wall : ℤ
  fold : Bool := false
  tz : TzInfo
  deriving DecidableEq, Repr

namespace ZonedDatetime

variable [TzData]

/-- `utcoffset()`. -/
def utcoffset (t : ZonedDatetime) : ℤ :=
  match t.tz with
  | .fixed offset => offset
  | .region key => TzData.utcoffset key t.wall t.fold

/-- The instant. -/
def instant (t : ZonedDatetime) : ℤ := t.wall - t.utcoffset

/-- The offset is another one with the other `fold`. -/
def foldDependent (t : ZonedDatetime) : Bool := { t with fold := !t.fold }.utcoffset ≠ t.utcoffset

/-- `==`. -/
def eq (s t : ZonedDatetime) : Bool :=
  if s.tz = t.tz then s.wall = t.wall
  else s.instant = t.instant && !s.foldDependent && !t.foldDependent

/-- `datetime.fromisoformat(t.isoformat())`. -/
def reread (t : ZonedDatetime) : ZonedDatetime := { wall := t.wall, tz := .fixed t.utcoffset }

@[simp] lemma instant_reread (t : ZonedDatetime) : t.reread.instant = t.instant := rfl

@[simp] lemma reread_reread (t : ZonedDatetime) : t.reread.reread = t.reread := rfl

/-- `<`. -/
def lt (s t : ZonedDatetime) : Bool :=
  if s.tz = t.tz then s.wall < t.wall else s.instant < t.instant

/-- `s - t`, in microseconds. -/
def sub (s t : ZonedDatetime) : ℤ := if s.tz = t.tz then s.wall - t.wall else s.instant - t.instant

/-- A time is equal to its text read again, unless its offset depends on `fold`. -/
lemma eq_reread (t : ZonedDatetime) : t.reread.eq t = !t.foldDependent := by
  obtain ⟨wall, fold, tz⟩ := t
  cases tz with
  | fixed offset => simp [eq, reread, foldDependent, utcoffset]
  | region key => simp [eq, reread, foldDependent, utcoffset, instant]

end ZonedDatetime

/-- A `datetime`: aware of its zone, or naive. -/
inductive PyDatetime where
  | aware (t : ZonedDatetime)
  | naive (wall : ℤ)
  deriving DecidableEq, Repr

/-! ### Fixed offsets -/

/-- An aware `datetime` of a fixed offset: the instant, in microseconds since 1970, and the
offset it is written with. -/
structure Timestamp where
  instant : ℤ
  utcoffset : ℤ := 0
  deriving DecidableEq, Repr

namespace Timestamp

/-- `t + duration`. -/
def add (t : Timestamp) (duration : ℤ) : Timestamp := { t with instant := t.instant + duration }

/-- `t.astimezone(UTC)`. -/
def toUtc (t : Timestamp) : Timestamp := ⟨t.instant, 0⟩

@[simp] lemma instant_add (t : Timestamp) (duration : ℤ) :
    (t.add duration).instant = t.instant + duration := rfl

@[simp] lemma instant_toUtc (t : Timestamp) : t.toUtc.instant = t.instant := rfl

/-- The decimal digits of a number, with leading zeros. -/
def padded (width n : ℕ) : List Char :=
  (List.range width).reverse.map fun i => Nat.digitChar (n / 10 ^ i % 10)

/-- The year, month and day of a day counted from 1970-01-01, in the Gregorian calendar. -/
def civil (day : ℤ) : ℤ × ℤ × ℤ :=
  let z := day + 719468
  let era := z / 146097
  let doe := z % 146097
  let yoe := (doe - doe / 1460 + doe / 36524 - doe / 146096) / 365
  let doy := doe - (365 * yoe + yoe / 4 - yoe / 100)
  let mp := (5 * doy + 2) / 153
  let month := if mp < 10 then mp + 3 else mp - 9
  (yoe + era * 400 + if month ≤ 2 then 1 else 0, month, doy - (153 * mp + 2) / 5 + 1)

/-- `HH:MM:SS`, with the microseconds where there are any. -/
def clock (microseconds : ℕ) : List Char :=
  padded 2 (microseconds / 3600000000) ++ ':' :: padded 2 (microseconds / 60000000 % 60) ++
    ':' :: padded 2 (microseconds / 1000000 % 60) ++
    if microseconds % 1000000 = 0 then [] else '.' :: padded 6 (microseconds % 1000000)

/-- `+HH:MM`, with the seconds and microseconds where there are any. -/
def offsetText (offset : ℤ) : List Char :=
  (if offset < 0 then '-' else '+') ::
    if offset.natAbs % 60000000 = 0 then
      padded 2 (offset.natAbs / 3600000000) ++ ':' :: padded 2 (offset.natAbs / 60000000 % 60)
    else clock offset.natAbs

/-- `t.isoformat()`. -/
def isoformat (t : Timestamp) : String :=
  let wall := t.instant + t.utcoffset
  let (year, month, day) := civil (wall / 86400000000)
  String.ofList (padded 4 year.toNat ++ '-' :: padded 2 month.toNat ++ '-' :: padded 2 day.toNat ++
    'T' :: clock (wall % 86400000000).toNat ++ offsetText t.utcoffset)

example : isoformat ⟨1709210096000000, 0⟩ = "2024-02-29T12:34:56+00:00" := by decide

example : isoformat ⟨1, -19800000000⟩ = "1969-12-31T18:30:00.000001-05:30" := by decide

/-- The last digit of a number is no white space. -/
lemma padded_last {width : ℕ} (hw : 0 < width) (n : ℕ) :
    ∃ l c, padded width n = l ++ [c] ∧ Text.isSpace c = false := by
  obtain ⟨w, rfl⟩ := Nat.exists_eq_succ_of_ne_zero hw.ne'
  refine ⟨((List.range w).map Nat.succ).reverse.map fun i => Nat.digitChar (n / 10 ^ i % 10),
    Nat.digitChar (n / 10 ^ 0 % 10), ?_, ?_⟩
  · rw [padded, List.range_succ_eq_map, List.reverse_cons, List.map_append]
    rfl
  · have hlt : n / 10 ^ 0 % 10 < 10 := Nat.mod_lt _ (by norm_num)
    interval_cases n / 10 ^ 0 % 10 <;> decide

/-- What ends in a character other than white space still does with something before it. -/
lemma append_last {l l' : List Char} (h : ∃ k c, l' = k ++ [c] ∧ Text.isSpace c = false) :
    ∃ k c, l ++ l' = k ++ [c] ∧ Text.isSpace c = false := by
  obtain ⟨k, c, rfl, hc⟩ := h
  exact ⟨l ++ k, c, by simp, hc⟩

lemma clock_last (n : ℕ) : ∃ l c, clock n = l ++ [c] ∧ Text.isSpace c = false := by
  rw [clock]
  split_ifs
  · rw [List.append_nil]
    exact append_last (append_last (l := [':']) (padded_last (by norm_num) _))
  · exact append_last (append_last (l := ['.']) (padded_last (by norm_num) _))

lemma offsetText_last (offset : ℤ) :
    ∃ l c, offsetText offset = l ++ [c] ∧ Text.isSpace c = false := by
  rw [offsetText, ← List.singleton_append]
  refine append_last ?_
  split
  · exact append_last (append_last (l := [':']) (padded_last (by norm_num) _))
  · exact clock_last _

/-- The text of a time ends in a digit. -/
lemma isoformat_last (t : Timestamp) :
    ∃ l c, t.isoformat.toList = l ++ [c] ∧ Text.isSpace c = false := by
  rw [isoformat]
  simp only [String.toList_ofList]
  exact append_last (offsetText_last _)

end Timestamp

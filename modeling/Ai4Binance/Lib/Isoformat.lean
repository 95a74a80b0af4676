/-
Reading the texts of datetimes.

`datetime.fromisoformat` reads back every text that `isoformat` writes, so the text of a
datetime determines it.

* `daysFromCivil`: the day of a date, and `daysFromCivil_civil`, that it inverts `civil`;
* `number`, `readClock`, `readOffset`: the parts of a text, each with what it reads of the
  text that was written;
* `fromisoformat_isoformat`: **what was written is read back**;
* `isoformat_inj`: two datetimes with one text are one;
* `AwareDatetime`: the datetimes of fixed offsets.
-/
import Ai4Binance.Lib.Datetime

namespace Timestamp

/-! ### The calendar -/

/-- The day of a date of the Gregorian calendar, counted from 1970-01-01. -/
def daysFromCivil (year month day : ℤ) : ℤ :=
  let y := if month ≤ 2 then year - 1 else year
  let mp := if 2 < month then month - 3 else month + 9
  let doy := (153 * mp + 2) / 5 + day - 1
  let doe := y % 400 * 365 + y % 400 / 4 - y % 400 / 100 + doy
  y / 400 * 146097 + doe - 719468

/-- The day of a year, from the day of its era. -/
lemma doy_bounds {doe yoe : ℤ} (h0 : 0 ≤ doe) (h1 : doe < 146097)
    (hy : yoe = (doe - doe / 1460 + doe / 36524 - doe / 146096) / 365) :
    0 ≤ doe - (365 * yoe + yoe / 4 - yoe / 100) ∧
      doe - (365 * yoe + yoe / 4 - yoe / 100) ≤ 365 := by
  obtain ⟨quads, hquads⟩ : ∃ quads, quads = doe / 1460 := ⟨_, rfl⟩
  obtain ⟨centuries, hcenturies⟩ : ∃ centuries, centuries = doe / 36524 - doe / 146096 := ⟨_, rfl⟩
  have hyear : 365 * yoe ≤ doe - quads + centuries ∧ doe - quads + centuries ≤ 365 * yoe + 364 := by
    omega
  have hcentury : yoe / 100 = centuries := by
    have hcases : centuries = 0 ∨ centuries = 1 ∨ centuries = 2 ∨ centuries = 3 := by omega
    clear hy
    rcases hcases with rfl | rfl | rfl | rfl <;> omega
  have hquad : yoe / 4 ≤ quads ∧ quads ≤ yoe / 4 + 1 := by omega
  omega

/-- A date has its month and day within the calendar, and names its day. -/
lemma civil_spec (day : ℤ) :
    (1 ≤ (civil day).2.1 ∧ (civil day).2.1 ≤ 12) ∧ (1 ≤ (civil day).2.2 ∧ (civil day).2.2 ≤ 31) ∧
      daysFromCivil (civil day).1 (civil day).2.1 (civil day).2.2 = day := by
  obtain ⟨doe, hdoe⟩ : ∃ doe, doe = (day + 719468) % 146097 := ⟨_, rfl⟩
  obtain ⟨era, hera⟩ : ∃ era, era = (day + 719468) / 146097 := ⟨_, rfl⟩
  obtain ⟨yoe, hyoe⟩ :
      ∃ yoe, yoe = (doe - doe / 1460 + doe / 36524 - doe / 146096) / 365 := ⟨_, rfl⟩
  obtain ⟨doy, hdoy⟩ : ∃ doy, doy = doe - (365 * yoe + yoe / 4 - yoe / 100) := ⟨_, rfl⟩
  obtain ⟨mp, hmp⟩ : ∃ mp, mp = (5 * doy + 2) / 153 := ⟨_, rfl⟩
  have hcivil : civil day = (yoe + era * 400 + if (if mp < 10 then mp + 3 else mp - 9) ≤ 2 then 1
      else 0, if mp < 10 then mp + 3 else mp - 9, doy - (153 * mp + 2) / 5 + 1) := by
    rw [civil, hmp, hdoy, hyoe, hera, hdoe]
  have hdoe_bounds : 0 ≤ doe ∧ doe < 146097 := by omega
  have hyoe_bounds : 0 ≤ yoe ∧ yoe ≤ 399 := by omega
  obtain ⟨hdoy_nonneg, hdoy_le⟩ := doy_bounds hdoe_bounds.1 hdoe_bounds.2 hyoe
  rw [← hdoy] at hdoy_nonneg hdoy_le
  have hmp_bounds : 0 ≤ mp ∧ mp ≤ 11 := by omega
  have hday : day = era * 146097 + doe - 719468 := by omega
  clear hyoe hdoe hera
  rw [hcivil, daysFromCivil]
  dsimp only
  refine ⟨?_, ?_, ?_⟩
  · split_ifs <;> omega
  · omega
  · -- the months from March on belong to the year of the era
    by_cases hspring : mp < 10
    · have hmonth : ¬ mp + 3 ≤ 2 := by omega
      have hmonth' : 2 < mp + 3 := by omega
      rw [if_pos hspring, if_neg hmonth, if_neg hmonth, if_pos hmonth']
      have hyear : (yoe + era * 400 + 0) % 400 = yoe ∧ (yoe + era * 400 + 0) / 400 = era := by omega
      rw [hyear.1, hyear.2, add_sub_cancel_right]
      omega
    · have hmonth : mp - 9 ≤ 2 := by omega
      have hmonth' : ¬ 2 < mp - 9 := by omega
      rw [if_neg hspring, if_pos hmonth, if_pos hmonth, if_neg hmonth', add_sub_cancel_right]
      have hyear : (yoe + era * 400) % 400 = yoe ∧ (yoe + era * 400) / 400 = era := by omega
      rw [hyear.1, hyear.2, sub_add_cancel]
      omega

/-! ### Digits -/

/-- The value of a list of digits. -/
def digitsValue (digits : List Char) : ℕ :=
  digits.foldl (fun n c => 10 * n + (c.toNat - 48)) 0

/-- A number of a given width, and the text after it. -/
def number (width : ℕ) (text : List Char) : Option (ℕ × List Char) :=
  if (text.take width).length = width ∧ (text.take width).all Char.isDigit then
    some (digitsValue (text.take width), text.drop width)
  else none

lemma padded_succ (width n : ℕ) :
    padded (width + 1) n = Nat.digitChar (n / 10 ^ width % 10) :: padded width n := by
  rw [padded, padded, List.range_succ, List.reverse_append]
  rfl

lemma length_padded (width n : ℕ) : (padded width n).length = width := by
  simp [padded]

lemma digitChar_digit {d : ℕ} (h : d < 10) :
    (Nat.digitChar d).isDigit = true ∧ (Nat.digitChar d).toNat - 48 = d := by
  interval_cases d <;> decide

lemma padded_all_isDigit (width n : ℕ) : (padded width n).all Char.isDigit = true := by
  induction width with
  | zero => rfl
  | succ width ih =>
    rw [padded_succ, List.all_cons, ih, Bool.and_true]
    exact (digitChar_digit (Nat.mod_lt _ (by norm_num))).1

/-- The digits of a number have its value, after what was read before. -/
lemma foldl_padded (width n before : ℕ) :
    (padded width n).foldl (fun m c => 10 * m + (c.toNat - 48)) before =
      before * 10 ^ width + n % 10 ^ width := by
  induction width generalizing before with
  | zero => simp [padded, Nat.mod_one]
  | succ width ih =>
    rw [padded_succ, List.foldl_cons, ih,
      (digitChar_digit (Nat.mod_lt _ (by norm_num) : n / 10 ^ width % 10 < 10)).2,
      Nat.mod_pow_succ, pow_succ]
    ring

/-- A number that was written is read. -/
lemma number_padded {width n : ℕ} (h : n < 10 ^ width) (rest : List Char) :
    number width (padded width n ++ rest) = some (n, rest) := by
  have htake : (padded width n ++ rest).take width = padded width n := by
    rw [List.take_append_of_le_length (length_padded width n).ge]
    exact List.take_of_length_le (length_padded width n).le
  have hdrop : (padded width n ++ rest).drop width = rest :=
    List.drop_left' (length_padded width n)
  rw [number, htake, hdrop, if_pos ⟨length_padded width n, padded_all_isDigit width n⟩, digitsValue,
    foldl_padded, zero_mul, zero_add, Nat.mod_eq_of_lt h]

/-- A separator. -/
def expect (c : Char) : List Char → Option (List Char)
  | [] => none
  | x :: rest => if x = c then some rest else none

@[simp] lemma expect_cons (c : Char) (rest : List Char) : expect c (c :: rest) = some rest := by
  simp [expect]

/-! ### The parts of a text -/

/-- The seconds and microseconds after a separator. -/
def readFraction : List Char → Option (ℕ × List Char)
  | '.' :: rest => number 6 rest
  | text => some (0, text)

/-- `HH:MM:SS[.ffffff]`, in microseconds. -/
def readClock (text : List Char) : Option (ℕ × List Char) := do
  let (hours, text) ← number 2 text
  let text ← expect ':' text
  let (minutes, text) ← number 2 text
  let text ← expect ':' text
  let (seconds, text) ← number 2 text
  let (microseconds, text) ← readFraction text
  if minutes < 60 ∧ seconds < 60 then
    some (((hours * 60 + minutes) * 60 + seconds) * 1000000 + microseconds, text)
  else none

/-- `HH:MM[:SS[.ffffff]]`, in microseconds, up to the end. -/
def readMagnitude (text : List Char) : Option ℕ := do
  let (hours, rest) ← number 2 text
  let rest ← expect ':' rest
  let (minutes, rest) ← number 2 rest
  if rest = [] then
    if minutes < 60 then some ((hours * 60 + minutes) * 60000000) else none
  else
    let (microseconds, rest) ← readClock text
    if rest = [] then some microseconds else none

/-- The offset at the end of a text. -/
def readOffset : List Char → Option ℤ
  | '+' :: text => (readMagnitude text).map fun n : ℕ => (n : ℤ)
  | '-' :: text => (readMagnitude text).map fun n : ℕ => -(n : ℤ)
  | _ => none

/-- `datetime.fromisoformat`, on the texts of aware datetimes that `isoformat` writes. -/
def fromisoformat (text : String) : Option Timestamp := do
  let (year, text) ← number 4 text.toList
  let text ← expect '-' text
  let (month, text) ← number 2 text
  let text ← expect '-' text
  let (day, text) ← number 2 text
  let text ← expect 'T' text
  let (clock, text) ← readClock text
  let offset ← readOffset text
  let date := daysFromCivil year month day
  if 1 ≤ year ∧ civil date = (↑year, ↑month, ↑day) ∧ clock < 86400000000 ∧
      offset.natAbs < 86400000000 then
    some ⟨date * 86400000000 + clock - offset, offset⟩
  else none

lemma readClock_clock {n : ℕ} (h : n < 360000000000) {rest : List Char}
    (hrest : rest.head? ≠ some '.') : readClock (clock n ++ rest) = some (n, rest) := by
  have hhours : n / 3600000000 < 10 ^ 2 := by omega
  have hminutes : n / 60000000 % 60 < 10 ^ 2 := by omega
  have hseconds : n / 1000000 % 60 < 10 ^ 2 := by omega
  have hmicroseconds : n % 1000000 < 10 ^ 6 := by omega
  have hsixty : n / 60000000 % 60 < 60 ∧ n / 1000000 % 60 < 60 := by omega
  have hvalue : ((n / 3600000000 * 60 + n / 60000000 % 60) * 60 + n / 1000000 % 60) * 1000000 +
      n % 1000000 = n := by omega
  have hfraction : readFraction
      ((if n % 1000000 = 0 then [] else '.' :: padded 6 (n % 1000000)) ++ rest) =
        some (n % 1000000, rest) := by
    split_ifs with hzero
    · rw [List.nil_append, hzero]
      unfold readFraction
      split
      · simp at hrest
      · rfl
    · rw [List.cons_append, readFraction, number_padded hmicroseconds]
  simp only [readClock, clock, List.append_assoc, List.cons_append, number_padded hhours,
    number_padded hminutes, number_padded hseconds, Option.bind_eq_bind, Option.bind_some,
    expect_cons, hfraction, hvalue, if_pos hsixty]

lemma readMagnitude_spec {n : ℕ} (h : n < 86400000000) :
    readMagnitude (if n % 60000000 = 0 then
      padded 2 (n / 3600000000) ++ ':' :: padded 2 (n / 60000000 % 60) else clock n) = some n := by
  have hhours : n / 3600000000 < 10 ^ 2 := by omega
  have hminutes : n / 60000000 % 60 < 10 ^ 2 := by omega
  have hsixty : n / 60000000 % 60 < 60 := by omega
  split_ifs with hwhole
  · have hvalue : (n / 3600000000 * 60 + n / 60000000 % 60) * 60000000 = n := by omega
    have hend := number_padded hminutes []
    rw [List.append_nil] at hend
    simp only [readMagnitude, number_padded hhours, Option.bind_eq_bind, Option.bind_some,
      expect_cons, hend, if_true, if_pos hsixty, hvalue]
  · have hclock : readClock (clock n) = some (n, []) := by
      rw [← List.append_nil (clock n)]
      exact readClock_clock (by omega) (by simp)
    have hparts : clock n = padded 2 (n / 3600000000) ++ ':' :: (padded 2 (n / 60000000 % 60) ++
        ':' :: (padded 2 (n / 1000000 % 60) ++
          if n % 1000000 = 0 then [] else '.' :: padded 6 (n % 1000000))) := by
      simp only [clock, List.append_assoc, List.cons_append]
    rw [readMagnitude, hclock, hparts]
    simp [number_padded hhours, number_padded hminutes]

lemma readOffset_offsetText {offset : ℤ} (h : offset.natAbs < 86400000000) :
    readOffset (offsetText offset) = some offset := by
  have hmagnitude := readMagnitude_spec h
  rw [offsetText]
  by_cases hneg : offset < 0
  · rw [if_pos hneg, readOffset, hmagnitude, Option.map_some, Option.some.injEq]
    omega
  · rw [if_neg hneg, readOffset, hmagnitude, Option.map_some, Option.some.injEq]
    omega

/-! ### There and back -/

/-- The year of the calendar and the offset are those a datetime can have. -/
structure InRange (t : Timestamp) : Prop where
  year_bounds : 1 ≤ (civil ((t.instant + t.utcoffset) / 86400000000)).1 ∧
    (civil ((t.instant + t.utcoffset) / 86400000000)).1 ≤ 9999
  offset_lt : t.utcoffset.natAbs < 86400000000

instance (t : Timestamp) : Decidable t.InRange :=
  decidable_of_iff (_ ∧ _) ⟨fun h => ⟨h.1, h.2⟩, fun h => ⟨h.year_bounds, h.offset_lt⟩⟩

/-- **What was written is read back.** -/
theorem fromisoformat_isoformat {t : Timestamp} (h : t.InRange) :
    fromisoformat t.isoformat = some t := by
  obtain ⟨⟨hyear, hyear'⟩, hoffset⟩ := h
  obtain ⟨wall, hwall⟩ : ∃ wall, wall = t.instant + t.utcoffset := ⟨_, rfl⟩
  rw [← hwall] at hyear hyear'
  obtain ⟨hmonth, hday, hdays⟩ := civil_spec (wall / 86400000000)
  obtain ⟨date, hdate⟩ : ∃ date, date = civil (wall / 86400000000) := ⟨_, rfl⟩
  obtain ⟨year, month, day⟩ := date
  rw [← hdate] at hyear hyear' hmonth hday hdays
  dsimp only at hyear hyear' hmonth hday hdays
  have hclock : (wall % 86400000000).toNat < 86400000000 := by omega
  have hhead : (offsetText t.utcoffset).head? ≠ some '.' := by
    rw [offsetText]
    split_ifs <;> simp
  have hyear_nat : year.toNat < 10 ^ 4 := by omega
  have hmonth_nat : month.toNat < 10 ^ 2 := by omega
  have hday_nat : day.toNat < 10 ^ 2 := by omega
  have hcasts : ((year.toNat : ℤ), (month.toNat : ℤ), (day.toNat : ℤ)) = (year, month, day) := by
    simp only [Prod.mk.injEq]
    omega
  have htext : t.isoformat.toList = padded 4 year.toNat ++ '-' :: (padded 2 month.toNat ++
      '-' :: (padded 2 day.toNat ++ 'T' :: (clock (wall % 86400000000).toNat ++
        offsetText t.utcoffset))) := by
    rw [isoformat, ← hwall, ← hdate]
    simp only [String.toList_ofList, List.append_assoc, List.cons_append]
  have hread := readClock_clock (n := (wall % 86400000000).toNat) (by omega) hhead
  have hcond : 1 ≤ year.toNat ∧
      civil (wall / 86400000000) = (↑year.toNat, ↑month.toNat, ↑day.toNat) ∧
      (wall % 86400000000).toNat < 86400000000 ∧ t.utcoffset.natAbs < 86400000000 := by
    refine ⟨by omega, ?_, hclock, hoffset⟩
    rw [hcasts, hdate]
  have hdays' : daysFromCivil year.toNat month.toNat day.toNat = wall / 86400000000 := by
    obtain ⟨hy, hm, hd⟩ := Prod.mk.inj (hcasts.trans rfl) |>.imp id Prod.mk.inj
    rw [hy, hm, hd, hdays]
  simp only [fromisoformat, htext, number_padded hyear_nat, number_padded hmonth_nat,
    number_padded hday_nat, Option.bind_eq_bind, Option.bind_some, expect_cons, hread,
    readOffset_offsetText hoffset, hdays', if_pos hcond]
  obtain ⟨instant, offset⟩ := t
  simp only [Option.some.injEq, mk.injEq, and_true]
  dsimp only at hwall
  omega

/-- Two datetimes with one text are one. -/
lemma isoformat_inj {s t : Timestamp} (hs : s.InRange) (ht : t.InRange)
    (h : s.isoformat = t.isoformat) : s = t := by
  have hread := fromisoformat_isoformat hs
  rw [h, fromisoformat_isoformat ht] at hread
  exact (Option.some.inj hread).symm

end Timestamp

/-- An aware `datetime` of a fixed offset. -/
abbrev AwareDatetime : Type := {t : Timestamp // t.InRange}

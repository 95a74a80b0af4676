/-
The time of a count of milliseconds (`datetime.fromtimestamp(milliseconds / 1_000, tz=UTC)`).

The quotient is a float, so its seconds and microseconds are those of the nearest one.  The
conversion fails in three ways: a count beyond the floats or beyond `time_t` is an `OverflowError`,
one that `gmtime` cannot convert is an `OSError`, and a year after 9999 is a `ValueError`.

* `Gmtime`: how far the platform's `gmtime` reaches;
* `nearestFloat`, `seconds`, `microseconds`: the parts of a time;
* `fromMilliseconds`, `fromMilliseconds_eq_ok`: the conversion, and when it succeeds;
* `floor_nearestFloat`: the float nearest to a value has the same integer part, when the value is
  not too close to the next integer.
-/
import Ai4Binance.Lib.RoundMono

namespace EpochTime

/-- The last second of the year 9999. -/
def lastYearSecond : ℤ := 253402300799

/-- The platform's `gmtime`: the last second that it converts, of a 64-bit `time_t`. -/
class Gmtime where
  lastSecond : ℤ
  covers_years : lastYearSecond ≤ lastSecond
  lt_time_t : lastSecond < 2 ^ 63

/-- The `gmtime` of a platform with a 32-bit year. -/
instance yearOf32Bits : Gmtime where
  lastSecond := 67768036191676799
  covers_years := by decide
  lt_time_t := by decide

/-- The exponent of the leading bit of a positive rational. -/
def leadingBit (q : ℚ) : ℤ :=
  let guess : ℤ := Nat.log2 q.num.toNat - Nat.log2 q.den
  if (2 : ℚ) ^ guess ≤ q then guess else guess - 1

/-- The float nearest to a rational that is not negative, ties to even.  Overflow is left to the
caller, and nothing here is small enough to be subnormal. -/
def nearestFloat (q : ℚ) : ℚ :=
  if q ≤ 0 then 0
  else
    let last := leadingBit q - 52
    Decimal.roundHalfEven (q / 2 ^ last) * 2 ^ last

/-- The whole seconds and the microseconds of a float, the microseconds nearest-even and carried
when they make a second. -/
def split (d : ℚ) : ℤ × ℤ :=
  let microseconds := Decimal.roundHalfEven (nearestFloat ((d - ⌊d⌋) * 1000000))
  if 1000000 ≤ microseconds then (⌊d⌋ + 1, microseconds - 1000000) else (⌊d⌋, microseconds)

/-- The whole seconds of a count of milliseconds. -/
def seconds (ms : ℕ) : ℤ := (split (nearestFloat (ms / 1000))).1

/-- The microseconds after them. -/
def microseconds (ms : ℕ) : ℤ := (split (nearestFloat (ms / 1000))).2

/-- What the conversion raises. -/
inductive TimeFault where
  /-- `OverflowError`: no float, or no `time_t`. -/
  | overflow
  /-- `OSError`: `gmtime` fails. -/
  | os
  /-- `ValueError`: the year is out of range. -/
  | year
  deriving DecidableEq, Repr

/-- `datetime.fromtimestamp(ms / 1_000, tz=UTC)`, in microseconds. -/
def fromMilliseconds [Gmtime] (ms : ℕ) : Except TimeFault ℤ :=
  if 2 ^ 1024 ≤ nearestFloat (ms / 1000) ∨ 2 ^ 63 ≤ seconds ms then .error .overflow
  else if Gmtime.lastSecond < seconds ms then .error .os
  else if lastYearSecond < seconds ms then .error .year
  else .ok (seconds ms * 1000000 + microseconds ms)

variable {ms : ℕ}

lemma floor_le_seconds (ms : ℕ) : ⌊nearestFloat (ms / 1000)⌋ ≤ seconds ms := by
  rw [seconds, split]
  split_ifs
  · exact Int.le.intro 1 rfl
  · exact le_rfl

/-- Seconds of a `time_t` are those of a float that does not overflow. -/
lemma lt_overflow (h : seconds ms < 2 ^ 63) : nearestFloat (ms / 1000) < 2 ^ 1024 := by
  have hfloor : ⌊nearestFloat (ms / 1000)⌋ < 2 ^ 63 := (floor_le_seconds ms).trans_lt h
  have hlt : nearestFloat (ms / 1000) < 2 ^ 63 := by
    have := Int.floor_lt.mp hfloor
    exact_mod_cast this
  exact hlt.trans_le (pow_le_pow_right₀ (by norm_num) (by norm_num))

/-- A time converts when its year is at most 9999. -/
lemma fromMilliseconds_eq_ok [Gmtime] {t : ℤ} : fromMilliseconds ms = .ok t ↔
    seconds ms ≤ lastYearSecond ∧ seconds ms * 1000000 + microseconds ms = t := by
  have hyears := Gmtime.covers_years
  have htime := Gmtime.lt_time_t
  rw [fromMilliseconds]
  split_ifs with hoverflow hos hyear
  · refine iff_of_false nofun fun ⟨hle, _⟩ => ?_
    rcases hoverflow with hfloat | htime_t
    · exact absurd (lt_overflow (by omega)) (not_lt.mpr hfloat)
    · omega
  · exact iff_of_false nofun fun ⟨hle, _⟩ => by omega
  · exact iff_of_false nofun fun ⟨hle, _⟩ => by omega
  · rw [Except.ok.injEq, and_iff_right (not_lt.mp hyear)]

/-- The only failure of a time that `gmtime` converts is its year. -/
lemma fromMilliseconds_year [Gmtime] : (∀ fault, fromMilliseconds ms = .error fault →
    fault = .year) ↔ seconds ms ≤ Gmtime.lastSecond := by
  have htime := Gmtime.lt_time_t
  rw [fromMilliseconds]
  split_ifs with hoverflow hos hyear
  · refine iff_of_false (fun h => absurd (h _ rfl) (by decide)) fun hle => ?_
    rcases hoverflow with hfloat | htime_t
    · exact absurd (lt_overflow (by omega)) (not_lt.mpr hfloat)
    · omega
  · exact iff_of_false (fun h => absurd (h _ rfl) (by decide)) (not_le.mpr hos)
  · exact iff_of_true (fun fault h => (Except.error.inj h).symm) (not_lt.mp hos)
  · exact iff_of_true nofun (not_lt.mp hos)

/-- A millisecond of the year 2026. -/
example : fromMilliseconds 1783936800001 = .ok 1783936800001000 := by decide +kernel

/-! ### The integer part of a float -/

variable {q : ℚ}

/-- The leading bit of a positive rational is at most the rational. -/
lemma two_zpow_leadingBit_le (h : 0 < q) : (2 : ℚ) ^ leadingBit q ≤ q := by
  rw [leadingBit]
  split_ifs with hguess
  · exact hguess
  · have hnum : 0 < q.num := Rat.num_pos.mpr h
    have hlow : (2 : ℚ) ^ Nat.log2 q.num.toNat ≤ q.num := by
      have := Nat.log2_self_le (n := q.num.toNat) (by omega)
      calc (2 : ℚ) ^ Nat.log2 q.num.toNat = ((2 ^ Nat.log2 q.num.toNat : ℕ) : ℚ) := by push_cast; rfl
        _ ≤ (q.num.toNat : ℚ) := by exact_mod_cast this
        _ = q.num := by exact_mod_cast congrArg (Int.cast : ℤ → ℚ) (Int.toNat_of_nonneg hnum.le)
    have hhigh : (q.den : ℚ) ≤ 2 ^ (Nat.log2 q.den + 1) := by
      exact_mod_cast (Nat.lt_log2_self (n := q.den)).le
    calc (2 : ℚ) ^ ((Nat.log2 q.num.toNat : ℤ) - Nat.log2 q.den - 1)
        = 2 ^ Nat.log2 q.num.toNat / 2 ^ (Nat.log2 q.den + 1) := by
          rw [sub_sub, zpow_sub₀ (by norm_num), zpow_natCast]
          norm_cast
      _ ≤ q.num / q.den :=
          div_le_div₀ (by exact_mod_cast hnum.le) hlow (by exact_mod_cast q.den_pos) hhigh
      _ = q := Rat.num_div_den q

/-- The nearest float is below the next integer too, when its units are small enough. -/
lemma floor_nearestFloat {bits : ℕ} (h : 0 ≤ q) (hbits : q < 2 ^ bits) (hle : bits ≤ 53)
    (hgap : q + 2 ^ bits / 2 ^ 54 < ⌊q⌋ + 1) : ⌊nearestFloat q⌋ = ⌊q⌋ := by
  rcases h.eq_or_lt with rfl | hpos
  · rw [nearestFloat, if_pos le_rfl]
  obtain ⟨last, hlast⟩ : ∃ last : ℤ, leadingBit q - 52 = last := ⟨_, rfl⟩
  have hleading : leadingBit q < bits := by
    have := (two_zpow_leadingBit_le hpos).trans_lt hbits
    rw [← zpow_natCast] at this
    exact (zpow_lt_zpow_iff_right₀ (by norm_num)).mp this
  obtain ⟨places, hplaces⟩ : ∃ places : ℕ, last = -places := ⟨(-last).toNat, by omega⟩
  have hunit : (2 : ℚ) ^ last = 1 / 2 ^ places := by
    rw [hplaces, zpow_neg, zpow_natCast, one_div]
  have hscale : q / 2 ^ last = q * 2 ^ places := by
    rw [hunit, div_div_eq_mul_div, div_one]
  have hpow : (0 : ℚ) < 2 ^ places := by positivity
  have hvalue : nearestFloat q = Decimal.roundHalfEven (q * 2 ^ places) / 2 ^ places := by
    rw [nearestFloat, if_neg (not_le.mpr hpos)]
    dsimp only
    rw [hlast, hscale, hunit, mul_one_div]
  rw [hvalue, Int.floor_eq_iff]
  constructor
  · rw [le_div_iff₀ hpow]
    have hmono := Decimal.roundHalfEven_mono
      (mul_le_mul_of_nonneg_right (Int.floor_le q) hpow.le)
    have hint : (⌊q⌋ : ℚ) * 2 ^ places = ((⌊q⌋ * 2 ^ places : ℤ) : ℚ) := by push_cast; rfl
    rw [hint, Context.roundHalfEven_intCast] at hmono
    exact_mod_cast hmono
  · rw [div_lt_iff₀ hpow]
    have hhalf : (1 : ℚ) / 2 ≤ 2 ^ bits / 2 ^ 54 * 2 ^ places :=
      calc (1 : ℚ) / 2 = 2 ^ 53 / 2 ^ 54 := by norm_num
        _ ≤ 2 ^ (bits + places) / 2 ^ 54 :=
            div_le_div_of_nonneg_right (pow_le_pow_right₀ (by norm_num) (by omega)) (by positivity)
        _ = 2 ^ bits / 2 ^ 54 * 2 ^ places := by rw [pow_add]; ring
    have hlt := Decimal.roundHalfEven_lt (x := q * 2 ^ places) (n := (⌊q⌋ + 1) * 2 ^ places) (by
      push_cast
      nlinarith)
    exact_mod_cast hlt

end EpochTime

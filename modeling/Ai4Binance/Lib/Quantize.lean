/-
Rounding a value to a multiple of a power of ten, as `Decimal.quantize` and
`Decimal.to_integral_value` do.

* `Rounding.toInt`: toward zero (`ROUND_DOWN`) and away from it (`ROUND_UP`);
* `Rounding.down_mul_le`: cutting to whole units is not above the value;
* `Context.quantize`: the value at a given exponent, or the trap when the
  result has more digits than the context holds;
* `quantize_down_le`, `le_quantize_up`, `quantize_nonneg`: on which side of a
  value that is not negative the result lies;
* `quantize_down_isGreatest`: rounding down keeps the most units that fit;
* `quantize_mem`: the results are multiples of the power of ten.
-/
import Ai4Binance.Lib.Decimal
import Mathlib.Algebra.Group.Subgroup.ZPowers.Basic
import Mathlib.Order.Bounds.Defs

/-- The two directed roundings. -/
inductive Rounding where
  | down
  | up
  deriving DecidableEq, Repr

/-- The integer a value is rounded to: `ROUND_DOWN` drops the fraction,
`ROUND_UP` moves away from zero unless the fraction is zero. -/
def Rounding.toInt : Rounding → ℚ → ℤ
  | .down, q => if 0 ≤ q then ⌊q⌋ else ⌈q⌉
  | .up, q => if 0 ≤ q then ⌈q⌉ else ⌊q⌋

lemma Rounding.toInt_nonneg (r : Rounding) {q : ℚ} (hq : 0 ≤ q) : 0 ≤ r.toInt q := by
  cases r with
  | down =>
      rw [toInt, if_pos hq]
      exact Int.floor_nonneg.mpr hq
  | up =>
      rw [toInt, if_pos hq]
      exact Int.ceil_nonneg hq

/-- Cutting a value to whole units does not raise it above itself, unless it is negative. -/
lemma Rounding.down_mul_le {x unit : ℚ} (hunit : 0 < unit)
    (h : 0 < (Rounding.down.toInt (x / unit) : ℚ) * unit) :
    (Rounding.down.toInt (x / unit) : ℚ) * unit ≤ x := by
  have hcut : 0 < Rounding.down.toInt (x / unit) := by
    exact_mod_cast (mul_pos_iff_of_pos_right hunit).mp h
  by_cases hx : 0 ≤ x / unit
  · rw [toInt, if_pos hx]
    calc (⌊x / unit⌋ : ℚ) * unit ≤ x / unit * unit :=
          mul_le_mul_of_nonneg_right (Int.floor_le _) hunit.le
      _ = x := div_mul_cancel₀ _ hunit.ne'
  · rw [toInt, if_neg hx] at hcut
    exact absurd hcut (not_lt.mpr (Int.ceil_nonpos.mpr (not_le.mp hx).le))

namespace Context

/-- `value.quantize(Decimal((0, (1,), exp)), rounding)`; `none` is the trap on a
result of more digits than the precision. -/
def quantize (c : Context) (r : Rounding) (value : ℚ) (exp : ℤ) : Option ℚ :=
  let n := r.toInt (value / 10 ^ exp)
  if 10 ^ c.prec ≤ n.natAbs then none else some (n * 10 ^ exp)

variable {c : Context} {r : Rounding} {value x : ℚ} {exp : ℤ}

lemma quantize_eq_some : c.quantize r value exp = some x ↔
    (r.toInt (value / 10 ^ exp)).natAbs < 10 ^ c.prec ∧
      x = r.toInt (value / 10 ^ exp) * 10 ^ exp := by
  rw [quantize]
  split_ifs with h
  · simp [not_lt.mpr h]
  · simp [not_le.mp h, eq_comm]

lemma quantize_nonneg (hv : 0 ≤ value) (h : c.quantize r value exp = some x) : 0 ≤ x := by
  obtain ⟨-, rfl⟩ := quantize_eq_some.mp h
  have hn : 0 ≤ r.toInt (value / 10 ^ exp) := r.toInt_nonneg (by positivity)
  have : (0 : ℚ) ≤ r.toInt (value / 10 ^ exp) := by exact_mod_cast hn
  positivity

lemma quantize_down_le (hv : 0 ≤ value) (h : c.quantize .down value exp = some x) :
    x ≤ value := by
  obtain ⟨-, rfl⟩ := quantize_eq_some.mp h
  have hpos : (0 : ℚ) < 10 ^ exp := by positivity
  rw [Rounding.toInt, if_pos (by positivity : 0 ≤ value / 10 ^ exp)]
  calc (⌊value / 10 ^ exp⌋ : ℚ) * 10 ^ exp ≤ value / 10 ^ exp * 10 ^ exp :=
        mul_le_mul_of_nonneg_right (Int.floor_le _) hpos.le
    _ = value := div_mul_cancel₀ _ hpos.ne'

lemma le_quantize_up (hv : 0 ≤ value) (h : c.quantize .up value exp = some x) :
    value ≤ x := by
  obtain ⟨-, rfl⟩ := quantize_eq_some.mp h
  have hpos : (0 : ℚ) < 10 ^ exp := by positivity
  rw [Rounding.toInt, if_pos (by positivity : 0 ≤ value / 10 ^ exp)]
  calc value = value / 10 ^ exp * 10 ^ exp := (div_mul_cancel₀ _ hpos.ne').symm
    _ ≤ (⌈value / 10 ^ exp⌉ : ℚ) * 10 ^ exp :=
        mul_le_mul_of_nonneg_right (Int.le_ceil _) hpos.le

/-- A positive result comes from a value that is not negative. -/
lemma nonneg_of_quantize_pos (h : c.quantize r value exp = some x) (hx : 0 < x) : 0 ≤ value := by
  by_contra hneg
  have hpos : (0 : ℚ) < 10 ^ exp := by positivity
  have hquotient : value / 10 ^ exp < 0 := div_neg_of_neg_of_pos (not_le.mp hneg) hpos
  have hn : r.toInt (value / 10 ^ exp) ≤ 0 := by
    cases r with
    | down =>
      rw [Rounding.toInt, if_neg (not_le.mpr hquotient)]
      exact Int.ceil_nonpos.mpr hquotient.le
    | up =>
      rw [Rounding.toInt, if_neg (not_le.mpr hquotient)]
      exact Int.floor_nonpos hquotient.le
  obtain ⟨-, rfl⟩ := quantize_eq_some.mp h
  have : (r.toInt (value / 10 ^ exp) : ℚ) ≤ 0 := by exact_mod_cast hn
  exact absurd hx (not_lt.mpr (mul_nonpos_of_nonpos_of_nonneg this hpos.le))

/-! ### The grid of a unit -/

/-- Every result is a multiple of the power of ten. -/
lemma quantize_mem (h : c.quantize r value exp = some x) :
    x ∈ AddSubgroup.zmultiples ((10 : ℚ) ^ exp) := by
  obtain ⟨-, rfl⟩ := quantize_eq_some.mp h
  exact AddSubgroup.mem_zmultiples_iff.mpr ⟨_, zsmul_eq_mul _ _⟩

/-- Rounding down gives the largest multiple that is not above the value. -/
lemma quantize_down_isGreatest (hv : 0 ≤ value) (h : c.quantize .down value exp = some x) :
    IsGreatest {y | y ∈ AddSubgroup.zmultiples ((10 : ℚ) ^ exp) ∧ y ≤ value} x := by
  refine ⟨⟨quantize_mem h, quantize_down_le hv h⟩, ?_⟩
  rintro y ⟨hy, hle⟩
  obtain ⟨n, rfl⟩ := AddSubgroup.mem_zmultiples_iff.mp hy
  obtain ⟨-, rfl⟩ := quantize_eq_some.mp h
  have hpos : (0 : ℚ) < 10 ^ exp := by positivity
  rw [Rounding.toInt, if_pos (by positivity : 0 ≤ value / 10 ^ exp), zsmul_eq_mul]
  have hn : n ≤ ⌊value / 10 ^ exp⌋ := by
    rw [Int.le_floor, le_div_iff₀ hpos]
    rwa [zsmul_eq_mul] at hle
  have : (n : ℚ) ≤ ⌊value / 10 ^ exp⌋ := by exact_mod_cast hn
  exact mul_le_mul_of_nonneg_right this hpos.le

/-- A power of ten that the precision holds is not rounded. -/
lemma quantize_self (hprec : 0 < c.prec) :
    c.quantize r (10 ^ exp) exp = some (10 ^ exp) := by
  have hone : r.toInt ((10 : ℚ) ^ exp / 10 ^ exp) = 1 := by
    rw [div_self (by positivity)]
    cases r <;> simp [Rounding.toInt]
  refine quantize_eq_some.mpr ⟨?_, ?_⟩
  · rw [hone]
    exact Nat.one_lt_pow hprec.ne' (by norm_num)
  · rw [hone, Int.cast_one, one_mul]

end Context

namespace Decimal

variable {d : Decimal}

lemma toRat_of_coeff_one (hd : 0 < d.toRat) (h : d.coeff = 1) : d.toRat = 10 ^ d.exp := by
  rw [toRat, h] at hd ⊢
  cases hneg : d.neg with
  | false => simp
  | true =>
    have hpos : (0 : ℚ) < 10 ^ d.exp := by positivity
    rw [hneg] at hd
    norm_num at hd
    linarith

/-- The last digit of a positive decimal is a multiple of it only if it is the decimal. -/
lemma pow_mem_zmultiples_iff (hd : 0 < d.toRat) :
    (10 : ℚ) ^ d.exp ∈ AddSubgroup.zmultiples d.toRat ↔ d.coeff = 1 := by
  constructor
  · intro h
    obtain ⟨n, hn⟩ := AddSubgroup.mem_zmultiples_iff.mp h
    have hpos : (0 : ℚ) < 10 ^ d.exp := by positivity
    rw [zsmul_eq_mul, toRat, ← mul_assoc] at hn
    have hunit : (n : ℚ) * ((if d.neg then -1 else 1) * d.coeff) = 1 :=
      mul_right_cancel₀ hpos.ne' (hn.trans (one_mul _).symm)
    have hint : n * ((if d.neg then -1 else 1) * (d.coeff : ℤ)) = 1 := by
      split_ifs at hunit ⊢ <;> exact_mod_cast hunit
    have hdvd : (d.coeff : ℤ) ∣ 1 := Dvd.intro_left _ ((mul_assoc _ _ _).trans hint)
    exact_mod_cast Int.eq_one_of_dvd_one (by positivity) hdvd
  · intro h
    rw [toRat_of_coeff_one hd h]
    exact AddSubgroup.mem_zmultiples _

end Decimal

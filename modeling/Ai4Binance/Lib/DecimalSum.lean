/-
Sums of decimals with their exponents.

The sum of two decimals has the smaller one of their exponents while its digits fit the precision
of the context.

* `Decimal.signed`, `Decimal.digitsAt`: a decimal as an integer on a decimal grid;
* `Context.plus`: `x + y`;
* `Decimal.exactSum`, `exactSum_toRat`, `exactSum_perm`: the sum of a list on the finest grid of
  its numbers, which depends on no order;
* `Context.Holds`, `plus_exactSum`: one addition that is not rounded;
* `foldlM_plus`: **a list whose first parts the context holds is summed exactly**;
* `abs_sumDigits_le`: the digits of a sum of numbers with bounded coefficients and exponents.
-/
import Ai4Binance.Lib.RoundMono

namespace Decimal

/-! ### Decimals on a grid -/

/-- The coefficient with its sign. -/
def signed (d : Decimal) : ℤ := if d.neg then -d.coeff else d.coeff

/-- The decimal in units of `10 ^ e`, where `e` is at most its exponent. -/
def digitsAt (e : ℤ) (d : Decimal) : ℤ := d.signed * 10 ^ (d.exp - e).toNat

/-- The decimal of a number of units of `10 ^ e`; zero has no sign. -/
def ofSigned (n e : ℤ) : Decimal := ⟨decide (n < 0), n.natAbs, e⟩

variable {d : Decimal} {n e e' : ℤ}

lemma toRat_eq_signed (d : Decimal) : d.toRat = d.signed * 10 ^ d.exp := by
  rw [toRat, signed]
  split_ifs <;> push_cast <;> ring

@[simp] lemma signed_ofSigned (n e : ℤ) : (ofSigned n e).signed = n := by
  rw [signed, ofSigned]
  by_cases h : n < 0
  · simp only [h, decide_true, if_true]
    omega
  · simp only [h, decide_false, Bool.false_eq_true, if_false]
    omega

lemma toRat_ofSigned (n e : ℤ) : (ofSigned n e).toRat = n * 10 ^ e := by
  rw [toRat_eq_signed, signed_ofSigned]
  rfl

/-- Units of a finer grid. -/
lemma digitsAt_mul (he' : e' ≤ e) (he : e ≤ d.exp) :
    d.digitsAt e' = d.digitsAt e * 10 ^ (e - e').toNat := by
  have hsplit : (d.exp - e').toNat = (d.exp - e).toNat + (e - e').toNat := by omega
  rw [digitsAt, digitsAt, hsplit, pow_add, mul_assoc]

lemma toRat_eq_digitsAt (h : e ≤ d.exp) : d.toRat = d.digitsAt e * 10 ^ e := by
  have hexp : d.exp = ((d.exp - e).toNat : ℤ) + e := by omega
  rw [toRat_eq_signed, digitsAt]
  push_cast
  rw [mul_assoc, ← zpow_natCast (10 : ℚ) (d.exp - e).toNat, ← zpow_add₀ (by norm_num), ← hexp]

lemma digitsAt_neg (h : d.signed < 0) : d.digitsAt e < 0 :=
  mul_neg_of_neg_of_pos h (by positivity)

/-- A decimal with a sign is not positive. -/
lemma digitsAt_nonpos (h : d.neg = true) : d.digitsAt e ≤ 0 := by
  have hsigned : d.signed ≤ 0 := by simp [signed, h]
  exact mul_nonpos_of_nonpos_of_nonneg hsigned (by positivity)

/-! ### Exact sums -/

/-- The exponent of an exact sum: the smallest of the exponents, and `0`. -/
def sumExp (numbers : List Decimal) : ℤ := numbers.foldr (fun d e => min d.exp e) 0

/-- The sum in units of `10 ^ e`. -/
def sumDigits (numbers : List Decimal) (e : ℤ) : ℤ := (numbers.map (digitsAt e)).sum

/-- The exact sum of a list. -/
def exactSum (numbers : List Decimal) : Decimal :=
  ofSigned (sumDigits numbers (sumExp numbers)) (sumExp numbers)

variable {numbers numbers' : List Decimal}

lemma sumExp_nonpos (numbers : List Decimal) : sumExp numbers ≤ 0 := by
  induction numbers with
  | nil => exact le_rfl
  | cons d numbers ih => exact (min_le_right _ _).trans ih

lemma sumExp_le_exp (h : d ∈ numbers) : sumExp numbers ≤ d.exp := by
  induction numbers with
  | nil => cases h
  | cons d' numbers ih =>
      rcases List.mem_cons.mp h with rfl | h
      · exact min_le_left _ _
      · exact (min_le_right _ _).trans (ih h)

/-- The exponent of a sum is `0` or one of the exponents. -/
lemma le_sumExp (he : e ≤ 0) (h : ∀ d ∈ numbers, e ≤ d.exp) : e ≤ sumExp numbers := by
  induction numbers with
  | nil => exact he
  | cons d numbers ih =>
      exact le_min (h d List.mem_cons_self) (ih fun d' hd' => h d' (List.mem_cons_of_mem _ hd'))

lemma sumExp_append (numbers : List Decimal) (d : Decimal) :
    sumExp (numbers ++ [d]) = min (sumExp numbers) d.exp := by
  induction numbers with
  | nil => exact min_comm _ _
  | cons d' numbers ih =>
      calc sumExp (d' :: numbers ++ [d]) = min d'.exp (sumExp (numbers ++ [d])) := rfl
        _ = min d'.exp (min (sumExp numbers) d.exp) := by rw [ih]
        _ = min (sumExp (d' :: numbers)) d.exp := (min_assoc _ _ _).symm

lemma sumDigits_append (numbers : List Decimal) (d : Decimal) :
    sumDigits (numbers ++ [d]) e = sumDigits numbers e + d.digitsAt e := by
  simp [sumDigits]

lemma sumDigits_mul (he' : e' ≤ e) (he : ∀ d ∈ numbers, e ≤ d.exp) :
    sumDigits numbers e' = sumDigits numbers e * 10 ^ (e - e').toNat := by
  rw [sumDigits, sumDigits, ← List.sum_map_mul_right]
  exact congrArg List.sum (List.map_congr_left fun d hd => digitsAt_mul he' (he d hd))

/-- The exact sum is the sum of the values. -/
lemma exactSum_toRat (numbers : List Decimal) :
    (exactSum numbers).toRat = (numbers.map toRat).sum := by
  have hmap : numbers.map toRat =
      numbers.map fun d => (d.digitsAt (sumExp numbers) : ℚ) * 10 ^ sumExp numbers :=
    List.map_congr_left fun d hd => toRat_eq_digitsAt (sumExp_le_exp hd)
  rw [exactSum, toRat_ofSigned, hmap, List.sum_map_mul_right, sumDigits, Int.cast_list_sum,
    List.map_map]
  rfl

/-- The exact sum depends on no order. -/
lemma exactSum_perm (h : numbers.Perm numbers') : exactSum numbers = exactSum numbers' := by
  have hexp : sumExp numbers = sumExp numbers' :=
    h.foldr_eq' (fun d _ d' _ e => by omega) 0
  have hdigits : sumDigits numbers (sumExp numbers') = sumDigits numbers' (sumExp numbers') :=
    (h.map _).sum_eq
  rw [exactSum, exactSum, hexp, hdigits]

/-- The digits of a number with a bounded coefficient and exponent. -/
lemma abs_digitsAt_le {digits span : ℕ} (hcoeff : d.coeff < 10 ^ digits)
    (hspan : d.exp - e ≤ span) : |d.digitsAt e| ≤ 10 ^ (digits + span) := by
  have hsigned : |d.signed| = d.coeff := by
    rw [signed]
    split_ifs <;> simp
  have hpow : (10 : ℤ) ^ (d.exp - e).toNat ≤ 10 ^ span :=
    pow_le_pow_right₀ (by norm_num) (by omega)
  have hle : (d.coeff : ℤ) ≤ 10 ^ digits := by exact_mod_cast hcoeff.le
  calc |d.digitsAt e| = d.coeff * 10 ^ (d.exp - e).toNat := by
        rw [digitsAt, abs_mul, hsigned, abs_of_pos (by positivity : (0 : ℤ) < 10 ^ _)]
    _ ≤ 10 ^ digits * 10 ^ span := mul_le_mul hle hpow (by positivity) (by positivity)
    _ = 10 ^ (digits + span) := (pow_add _ _ _).symm

/-- The digits of a sum of such numbers. -/
lemma abs_sumDigits_le (digits span : ℕ) (hcoeff : ∀ d ∈ numbers, d.coeff < 10 ^ digits)
    (hspan : ∀ d ∈ numbers, d.exp - e ≤ span) :
    |sumDigits numbers e| ≤ numbers.length * 10 ^ (digits + span) := by
  induction numbers with
  | nil => simp [sumDigits]
  | cons d numbers ih =>
      have hhead := abs_digitsAt_le (hcoeff d List.mem_cons_self) (hspan d List.mem_cons_self)
      have htail := ih (fun d hd => hcoeff d (List.mem_cons_of_mem _ hd))
        fun d hd => hspan d (List.mem_cons_of_mem _ hd)
      have hsum : sumDigits (d :: numbers) e = d.digitsAt e + sumDigits numbers e := by
        simp [sumDigits]
      calc |sumDigits (d :: numbers) e| ≤ |d.digitsAt e| + |sumDigits numbers e| :=
            hsum ▸ abs_add_le _ _
        _ ≤ 10 ^ (digits + span) + numbers.length * 10 ^ (digits + span) := add_le_add hhead htail
        _ = (d :: numbers).length * 10 ^ (digits + span) := by
            rw [List.length_cons]
            push_cast
            ring

end Decimal

namespace Context

open Decimal

variable {c : Context} {x y : Decimal}

/-- `x + y`.  The exact sum has the smaller one of the exponents; when it has more digits than the
precision, the last ones are rounded away, and a rounding up to one digit more drops its zero.  Zero
is negative when both numbers are. -/
def plus (c : Context) (x y : Decimal) : Option Decimal :=
  let e := min x.exp y.exp
  let n := x.digitsAt e + y.digitsAt e
  if n = 0 then
    some ⟨x.neg && y.neg, 0, min (max e (c.eMin - (c.prec - 1))) c.eMax⟩
  else
    let v : ℚ := n * 10 ^ e
    (c.round v).map fun _ =>
      let q := c.quantum v
      let m := (roundHalfEven (v / 10 ^ q)).natAbs
      if q ≤ e then ofSigned n e
      else if m = 10 ^ c.prec then ⟨decide (n < 0), 10 ^ (c.prec - 1), q + 1⟩
      else ⟨decide (n < 0), m, q⟩

/-! ### Sums that are not rounded -/

/-- The context holds the exact sum of the numbers. -/
structure Holds (c : Context) (numbers : List Decimal) : Prop where
  digits : |sumDigits numbers (sumExp numbers)| < 10 ^ c.prec
  low : c.eMin - (c.prec - 1) ≤ sumExp numbers
  high : (c.prec : ℤ) ≤ c.eMax

variable {numbers : List Decimal} {d : Decimal}

/-- The context rounds no exact sum that it holds. -/
lemma Holds.round (h : c.Holds numbers) :
    c.round (exactSum numbers).toRat = some (exactSum numbers).toRat := by
  rw [exactSum, toRat_ofSigned]
  refine round_eq_self_iff.mpr ⟨_, _, rfl, h.digits, h.low, fun hne => ?_⟩
  have hexp := sumExp_nonpos numbers
  have hhigh := h.high
  have hdigits : |(sumDigits numbers (sumExp numbers) : ℚ)| < 10 ^ c.prec := by
    exact_mod_cast h.digits
  have hlt : |(sumDigits numbers (sumExp numbers) : ℚ) * 10 ^ sumExp numbers| <
      ((10 : ℕ) : ℚ) ^ (c.prec + sumExp numbers) := by
    rw [abs_mul, abs_of_pos (by positivity : (0 : ℚ) < 10 ^ sumExp numbers), Nat.cast_ofNat,
      zpow_add₀ (by norm_num), zpow_natCast]
    exact mul_lt_mul_of_pos_right hdigits (by positivity)
  have hlog := (Int.lt_zpow_iff_log_lt (by norm_num) (abs_pos.mpr hne)).mp hlt
  omega

/-- An exact sum and one more number, on the grid of both. -/
lemma digitsAt_exactSum (numbers : List Decimal) (d : Decimal) :
    (exactSum numbers).digitsAt (sumExp (numbers ++ [d])) + d.digitsAt (sumExp (numbers ++ [d])) =
      sumDigits (numbers ++ [d]) (sumExp (numbers ++ [d])) := by
  have hle : sumExp (numbers ++ [d]) ≤ sumExp numbers := by
    rw [sumExp_append]
    exact min_le_left _ _
  rw [sumDigits_append, sumDigits_mul hle fun _ => sumExp_le_exp, digitsAt, exactSum,
    signed_ofSigned]
  rfl

/-- **One addition**: an exact sum that the context holds takes in one more number. -/
lemma plus_exactSum (h : c.Holds (numbers ++ [d])) :
    c.plus (exactSum numbers) d = some (exactSum (numbers ++ [d])) := by
  have hexp : min (exactSum numbers).exp d.exp = sumExp (numbers ++ [d]) :=
    (sumExp_append numbers d).symm
  have hdigits := digitsAt_exactSum numbers d
  rw [plus, hexp, hdigits]
  by_cases hzero : sumDigits (numbers ++ [d]) (sumExp (numbers ++ [d])) = 0
  · -- two negative numbers have no sum of zero
    have hneg : ((exactSum numbers).neg && d.neg) = false := by
      by_contra hboth
      rw [Bool.not_eq_false, Bool.and_eq_true] at hboth
      obtain ⟨hsum, hd⟩ := hboth
      have hsigned : (exactSum numbers).signed < 0 := by
        rw [exactSum, signed_ofSigned]
        exact of_decide_eq_true hsum
      have h1 := digitsAt_neg (e := sumExp (numbers ++ [d])) hsigned
      have h2 := digitsAt_nonpos (e := sumExp (numbers ++ [d])) hd
      omega
    have hclamp : min (max (sumExp (numbers ++ [d])) (c.eMin - (c.prec - 1))) c.eMax =
        sumExp (numbers ++ [d]) := by
      have hlow := h.low
      have hhigh := h.high
      have hnonpos := sumExp_nonpos (numbers ++ [d])
      omega
    rw [if_pos hzero, hneg, hclamp, exactSum, hzero]
    rfl
  · have hround := h.round
    have hquantum := quantum_le hzero h.digits h.low
    rw [exactSum, toRat_ofSigned] at hround
    rw [if_neg hzero]
    simp only [hround, Option.map_some, if_pos hquantum]
    rfl

/-- **A sum of which the context holds every part is exact.** -/
theorem foldlM_plus (h : ∀ part, part <+: numbers → c.Holds part) :
    numbers.foldlM c.plus ⟨false, 0, 0⟩ = some (exactSum numbers) := by
  induction numbers using List.reverseRecOn with
  | nil => rfl
  | append_singleton numbers d ih =>
      have hpart := ih fun part hpart => h part (hpart.trans (List.prefix_append _ _))
      rw [List.foldlM_append, hpart, Option.bind_eq_bind, Option.bind_some, List.foldlM_cons,
        plus_exactSum (h _ (List.prefix_refl _))]
      rfl

end Context

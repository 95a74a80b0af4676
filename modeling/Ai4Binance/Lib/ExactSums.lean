/-
Sums that a decimal context does not round.

* `ExactSums`: every part of a list has a sum that the context holds;
* `ExactSums.subperm`: so has every list of some of its values, in any order.
-/
import Ai4Binance.Lib.Decimal

namespace Context

variable {c : Context} {values values' : List ℚ}

/-- Every part of a list has a sum that the context holds. -/
def ExactSums (c : Context) (values : List ℚ) : Prop :=
  ∀ part : List ℚ, part.Subperm values → c.Representable part.sum

lemma ExactSums.subperm (h : c.ExactSums values) (hpart : values'.Subperm values) :
    c.ExactSums values' :=
  fun part hsub => h part (hsub.trans hpart)

/-- The sum of a list that is exact is not rounded. -/
lemma ExactSums.round_sum (h : c.ExactSums values) : c.round values.sum = some values.sum :=
  round_eq_self_iff.mpr (h values (List.Subperm.refl _))

/-- A value of few digits is held. -/
lemma representable_of_grid {n : ℕ} {e : ℤ} (hdigits : n < 10 ^ c.prec)
    (hlow : c.eMin - (c.prec - 1) ≤ e) (hhigh : c.prec + e ≤ c.eMax + 1) :
    c.Representable (n * 10 ^ e) := by
  have hcast : ((n : ℚ)) < 10 ^ c.prec := by exact_mod_cast hdigits
  refine ⟨n, e, by simp, by exact_mod_cast hdigits, hlow, fun hne => ?_⟩
  have hpos : 0 < |(n : ℚ) * 10 ^ e| := abs_pos.mpr hne
  have hlt : |(n : ℚ) * 10 ^ e| < ((10 : ℕ) : ℚ) ^ (c.prec + e) := by
    rw [abs_of_nonneg (by positivity), Nat.cast_ofNat, zpow_add₀ (by norm_num), zpow_natCast]
    exact mul_lt_mul_of_pos_right hcast (by positivity)
  have hlog := (Int.lt_zpow_iff_log_lt (by norm_num) hpos).mp hlt
  omega

end Context

/-
Rounding to a decimal context keeps the order of values.

* `Decimal.roundHalfEven_mono`, `roundHalfEven_neg`: nearest-even rounding to integers;
* `Context.nearest`: the nearest value of a context, overflow apart; `nearest_mono`: **it is
  monotone**, also across a change of the last digit;
* `round_mono`, `exists_round`: rounding with its trap;
* `Context.quantizeHalfEven`: rounding to a given last digit.
-/
import Ai4Binance.Lib.Decimal

namespace Decimal

variable {q r : ℚ}

lemma floor_le_roundHalfEven (q : ℚ) : ⌊q⌋ ≤ roundHalfEven q := by
  rw [roundHalfEven]
  split_ifs <;> omega

lemma roundHalfEven_le (q : ℚ) : roundHalfEven q ≤ ⌊q⌋ + 1 := by
  rw [roundHalfEven]
  split_ifs <;> omega

/-- Nearest-even rounding is monotone. -/
lemma roundHalfEven_mono (h : q ≤ r) : roundHalfEven q ≤ roundHalfEven r := by
  rcases (Int.floor_le_floor h).lt_or_eq with hlt | heq
  · exact (roundHalfEven_le q).trans (le_trans hlt (floor_le_roundHalfEven r))
  · -- the same integer part: the fractions decide
    have hfraction : q - ⌊q⌋ ≤ r - ⌊q⌋ := sub_le_sub_right h _
    rw [roundHalfEven, roundHalfEven, ← heq]
    split_ifs <;> first | omega | linarith

/-- Nearest-even rounding is odd. -/
lemma roundHalfEven_neg (q : ℚ) : roundHalfEven (-q) = -roundHalfEven q := by
  by_cases hint : q = ⌊q⌋
  · rw [hint, ← Int.cast_neg, Context.roundHalfEven_intCast, Context.roundHalfEven_intCast]
  · have hlt : (⌊q⌋ : ℚ) < q := lt_of_le_of_ne (Int.floor_le q) (Ne.symm hint)
    have hfloor : ⌊-q⌋ = -⌊q⌋ - 1 := by
      rw [Int.floor_eq_iff]
      have := Int.lt_floor_add_one q
      push_cast
      constructor <;> linarith
    rw [roundHalfEven, roundHalfEven, hfloor]
    push_cast
    split_ifs <;> first | omega | linarith

/-- A value at least half a unit below an integer is not rounded up to it. -/
lemma roundHalfEven_lt {x : ℚ} {n : ℤ} (h : x < n - 1 / 2) : roundHalfEven x < n := by
  have hfloor : ⌊x⌋ < n := Int.floor_lt.mpr (h.trans (by linarith))
  rw [roundHalfEven]
  rcases (Int.le_sub_one_of_lt hfloor).lt_or_eq with hlt | heq
  · split_ifs <;> omega
  · have hhalf : x - ⌊x⌋ < 1 / 2 := by
      rw [heq]
      push_cast
      linarith
    rw [if_pos hhalf]
    exact hfloor

end Decimal

namespace Context

variable {c : Context} {v w bound r s : ℚ}

/-- The nearest value of a context, of which the exponent may be too large. -/
def nearest (c : Context) (v : ℚ) : ℚ :=
  Decimal.roundHalfEven (v / 10 ^ c.quantum v) * 10 ^ c.quantum v

lemma nearest_zero : c.nearest 0 = 0 := by
  have hzero : Decimal.roundHalfEven 0 = 0 := by decide +kernel
  rw [nearest, zero_div, hzero, Int.cast_zero, zero_mul]

lemma nearest_neg (v : ℚ) : c.nearest (-v) = -c.nearest v := by
  have hquantum : c.quantum (-v) = c.quantum v := by rw [quantum, quantum, abs_neg]
  rw [nearest, nearest, hquantum, neg_div, Decimal.roundHalfEven_neg, Int.cast_neg, neg_mul]

/-- A larger power of ten is a whole multiple of a smaller one. -/
lemma exists_pow_eq {e k : ℤ} (h : e ≤ k) : ∃ n : ℤ, (10 : ℚ) ^ k = n * 10 ^ e := by
  obtain ⟨n, hn⟩ := Int.eq_ofNat_of_zero_le (sub_nonneg.mpr h)
  refine ⟨10 ^ n, ?_⟩
  rw [show k = n + e by omega, zpow_add₀ (by norm_num), zpow_natCast]
  push_cast
  rfl

/-- A power of ten that is on the grid of a value bounds its nearest value with the value. -/
lemma nearest_le_pow {k : ℤ} (hk : c.quantum v ≤ k) (h : v ≤ 10 ^ k) : c.nearest v ≤ 10 ^ k := by
  obtain ⟨n, hpow⟩ := exists_pow_eq hk
  have hunit : (0 : ℚ) < 10 ^ c.quantum v := by positivity
  rw [hpow] at h ⊢
  have hround := Decimal.roundHalfEven_mono ((div_le_iff₀ hunit).mpr h)
  rw [roundHalfEven_intCast] at hround
  exact mul_le_mul_of_nonneg_right (by exact_mod_cast hround) hunit.le

lemma pow_le_nearest {k : ℤ} (hk : c.quantum v ≤ k) (h : 10 ^ k ≤ v) : 10 ^ k ≤ c.nearest v := by
  obtain ⟨n, hpow⟩ := exists_pow_eq hk
  have hunit : (0 : ℚ) < 10 ^ c.quantum v := by positivity
  rw [hpow] at h ⊢
  have hround := Decimal.roundHalfEven_mono ((le_div_iff₀ hunit).mpr h)
  rw [roundHalfEven_intCast] at hround
  exact mul_le_mul_of_nonneg_right (by exact_mod_cast hround) hunit.le

lemma nearest_nonneg (h : 0 ≤ v) : 0 ≤ c.nearest v := by
  have hround : (0 : ℚ) ≤ (Decimal.roundHalfEven (v / 10 ^ c.quantum v) : ℚ) := by
    exact_mod_cast roundHalfEven_nonneg (by positivity)
  rw [nearest]
  positivity

/-- The nearest value of a larger number is no smaller, of positive numbers. -/
lemma nearest_mono_of_pos (hprec : 0 < c.prec) (hv : 0 < v) (h : v ≤ w) :
    c.nearest v ≤ c.nearest w := by
  have hw := hv.trans_le h
  have hlog : Int.log 10 |v| ≤ Int.log 10 |w| := by
    rw [abs_of_pos hv, abs_of_pos hw]
    exact Int.log_mono_right hv h
  rcases (max_le_max (sub_le_sub_right hlog (c.prec - 1 : ℤ))
    (le_refl (c.eMin - (c.prec - 1)))).lt_or_eq with hlt | heq
  · -- between the two grids stands the leading power of ten of the larger number
    have hquantum : c.quantum w = Int.log 10 |w| - (c.prec - 1) := by
      rw [quantum]
      exact max_eq_left (not_lt.mp fun hsmall => by
        rw [max_eq_right hsmall.le] at hlt
        exact absurd (le_max_right _ _) (not_le.mpr hlt))
    have hlog' : Int.log 10 |v| < Int.log 10 |w| := by
      change c.quantum v < c.quantum w at hlt
      have hle : Int.log 10 |v| - (c.prec - 1) ≤ c.quantum v := le_max_left _ _
      omega
    have hlow : v ≤ 10 ^ Int.log 10 |w| := by
      have hsucc := Int.lt_zpow_succ_log_self (b := 10) (by norm_num) |v|
      rw [abs_of_pos hv, Nat.cast_ofNat] at hsucc
      rw [abs_of_pos hv] at hlog'
      exact hsucc.le.trans (zpow_le_zpow_right₀ (by norm_num) hlog')
    have hhigh : 10 ^ Int.log 10 |w| ≤ w := by
      have hself := Int.zpow_log_le_self (b := 10) (by norm_num) hw
      rw [abs_of_pos hw]
      rwa [Nat.cast_ofNat] at hself
    have hgrid : c.quantum w ≤ Int.log 10 |w| := by omega
    exact (nearest_le_pow ((show c.quantum v < c.quantum w from hlt).le.trans hgrid) hlow).trans
      (pow_le_nearest hgrid hhigh)
  · have hquantum : c.quantum v = c.quantum w := heq
    rw [nearest, nearest, hquantum]
    have hunit : (0 : ℚ) < 10 ^ c.quantum w := by positivity
    have hround := Decimal.roundHalfEven_mono ((div_le_div_iff_of_pos_right hunit).mpr h)
    exact mul_le_mul_of_nonneg_right (by exact_mod_cast hround) hunit.le

/-- **The nearest value is monotone.** -/
lemma nearest_mono (hprec : 0 < c.prec) (h : v ≤ w) : c.nearest v ≤ c.nearest w := by
  rcases lt_trichotomy v 0 with hv | rfl | hv
  · rcases lt_or_ge w 0 with hw | hw
    · have hneg := nearest_mono_of_pos hprec (neg_pos.mpr hw) (neg_le_neg h)
      rw [nearest_neg, nearest_neg] at hneg
      exact neg_le_neg_iff.mp hneg
    · have hneg := nearest_nonneg (c := c) (neg_nonneg.mpr hv.le)
      rw [nearest_neg] at hneg
      exact (neg_nonneg.mp hneg).trans (nearest_nonneg hw)
  · rw [nearest_zero]
    exact nearest_nonneg h
  · exact nearest_mono_of_pos hprec hv h

/-- Rounding gives the nearest value. -/
lemma eq_nearest (h : c.round v = some r) : r = c.nearest v := by
  rw [round] at h
  split_ifs at h with hzero
  · rw [hzero, nearest_zero, Option.some.inj h]
  · dsimp only at h
    split_ifs at h
    exact (Option.some.inj h).symm

/-- **Rounding is monotone.** -/
lemma round_mono (hprec : 0 < c.prec) (h : v ≤ w) (hr : c.round v = some r)
    (hs : c.round w = some s) : r ≤ s := by
  rw [eq_nearest hr, eq_nearest hs]
  exact nearest_mono hprec h

/-- A value within the range of the context is rounded without a trap, and stays in the range. -/
lemma exists_round (hprec : 0 < c.prec) (hmax : 0 ≤ c.eMax) (hbound : c.Representable bound)
    (h : |v| ≤ bound) : ∃ r, c.round v = some r ∧ |r| ≤ bound := by
  have hself := round_eq_self_iff.mpr hbound
  have hle : |c.nearest v| ≤ bound := by
    obtain ⟨hlow, hhigh⟩ := abs_le.mp h
    have hb := (eq_nearest hself).symm
    refine abs_le.mpr ⟨?_, hb ▸ nearest_mono hprec hhigh⟩
    rw [← hb, ← nearest_neg]
    exact nearest_mono hprec hlow
  have hnear : c.round v = some (c.nearest v) := by
    rw [round]
    split_ifs with hzero
    · rw [hzero, nearest_zero]
    · refine if_neg (not_lt.mpr ?_)
      change Int.log 10 |c.nearest v| ≤ c.eMax
      rcases (abs_nonneg (c.nearest v)).lt_or_eq with hpos | hnone
      · obtain ⟨_, _, _, _, _, hlog⟩ := hbound
        have hbpos := hpos.trans_le hle
        have := hlog hbpos.ne'
        rw [abs_of_pos hbpos] at this
        exact (Int.log_mono_right hpos hle).trans this
      · rw [← hnone, Int.log_zero_right]
        exact hmax
  exact ⟨_, hnear, hle⟩

/-! ### Rounding to a given last digit -/

/-- `value.quantize(Decimal((0, (1,), exp)))`; `none` is the trap on a result of more digits than
the precision. -/
def quantizeHalfEven (c : Context) (value : ℚ) (exp : ℤ) : Option ℚ :=
  let n := Decimal.roundHalfEven (value / 10 ^ exp)
  if 10 ^ c.prec ≤ n.natAbs then none else some (n * 10 ^ exp)

lemma quantizeHalfEven_mono {exp : ℤ} (h : v ≤ w) (hr : c.quantizeHalfEven v exp = some r)
    (hs : c.quantizeHalfEven w exp = some s) : r ≤ s := by
  have hunit : (0 : ℚ) < 10 ^ exp := by positivity
  rw [quantizeHalfEven] at hr hs
  split_ifs at hr hs
  rw [← Option.some.inj hr, ← Option.some.inj hs]
  have hround := Decimal.roundHalfEven_mono ((div_le_div_iff_of_pos_right hunit).mpr h)
  exact mul_le_mul_of_nonneg_right (by exact_mod_cast hround) hunit.le

/-- A value of few units is rounded to a whole number of them. -/
lemma exists_quantizeHalfEven {exp n : ℤ} (hn : n.natAbs < 10 ^ c.prec)
    (h : |v| ≤ n * 10 ^ exp) : ∃ r, c.quantizeHalfEven v exp = some r := by
  have hunit : (0 : ℚ) < 10 ^ exp := by positivity
  obtain ⟨hlow, hhigh⟩ := abs_le.mp h
  have hup := Decimal.roundHalfEven_mono ((div_le_iff₀ hunit).mpr hhigh)
  have hdown : -(n : ℚ) ≤ v / 10 ^ exp := (le_div_iff₀ hunit).mpr (by rwa [neg_mul])
  have hdown' := Decimal.roundHalfEven_mono hdown
  rw [Decimal.roundHalfEven_neg, roundHalfEven_intCast] at hdown'
  rw [roundHalfEven_intCast] at hup
  refine ⟨_, if_neg (not_le.mpr (lt_of_le_of_lt ?_ hn))⟩
  omega

end Context

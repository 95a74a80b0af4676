/-
Sums of quote volumes (`data/acquisition_profile.py`, `sum_decimal_strings`).

The texts of a sum are native decimals of at most 128 digits with exponents from -128 to 128, and
the sum is computed in a context of 512 digits.

* `nativeDecimals`, `sumDecimalStrings`: the accepted numbers, and the text of their sum;
* `holds_of_native`: the context holds every sum of that many native decimals;
* `nativeDecimals_perm`: the numbers of the same texts in another order;
* `volume_sums_are_exact`: **no addition is rounded, and the order of the texts does not matter.**
-/
import Ai4Binance.Lib.DecimalSum
import Ai4Binance.Lib.Python

namespace Ai4Binance

open Text Check Decimal

/-- The context of the thread, with its precision set to 512 digits. -/
def volumeContext : Context := { Context.default with prec := 512 }

section

variable [UnicodeData]

/-- A number within the bounds of `sum_decimal_strings`. -/
def nativeDecimal : DecimalNumber → Except PyError Decimal
  | .finite d => do
      raiseIf (128 < (Nat.toDigits 10 d.coeff).length ∨ 128 < |d.exp|)
        (.value "native decimal exceeds exact representation bounds")
      return d
  | _ => .error (.value "native decimal exceeds exact representation bounds")

/-- The numbers of the texts, all of which are read before any is checked. -/
def nativeDecimals (values : List String) : Except PyError (List Decimal) := do
  let numbers ← values.mapM fun value => orRaise (parseExact value) .decimal
  numbers.mapM nativeDecimal

/-- `sum_decimal_strings`. -/
def sumDecimalStrings (values : List String) : Except PyError String := do
  let numbers ← nativeDecimals values
  let total ← orRaise (numbers.foldlM volumeContext.plus ⟨false, 0, 0⟩) .decimal
  return total.str

/-! ### Native decimals -/

/-- The bounds of an accepted number. -/
structure Native (d : Decimal) : Prop where
  coeff_lt : d.coeff < 10 ^ 128
  exp_bounds : -128 ≤ d.exp ∧ d.exp ≤ 128

variable {values values' : List String} {numbers : List Decimal}

omit [UnicodeData] in
lemma nativeDecimal_eq_ok {number : DecimalNumber} {d : Decimal} :
    nativeDecimal number = .ok d ↔ number = .finite d ∧ Native d := by
  cases number with
  | finite d' =>
      simp only [nativeDecimal, bind_eq_ok, raiseIf_eq_ok, pure_eq_ok, not_or, not_lt, exists_const,
        Nat.length_toDigits_le_iff (by norm_num : 1 < 10) (by norm_num : 0 < 128), abs_le,
        DecimalNumber.finite.injEq]
      constructor
      · rintro ⟨⟨hcoeff, hexp⟩, rfl⟩
        exact ⟨rfl, hcoeff, hexp⟩
      · rintro ⟨rfl, hcoeff, hexp⟩
        exact ⟨⟨hcoeff, hexp⟩, rfl⟩
  | infinity => simp [nativeDecimal]
  | nan => simp [nativeDecimal]

lemma nativeDecimals_eq_ok : nativeDecimals values = .ok numbers ↔ List.Forall₂
    (fun value d => parseExact value = some (.finite d) ∧ Native d) values numbers := by
  simp only [nativeDecimals, bind_eq_ok, mapM_eq_ok, orRaise_eq_ok, nativeDecimal_eq_ok]
  constructor
  · rintro ⟨parsed, hparsed, hnative⟩
    induction hparsed generalizing numbers with
    | nil =>
        cases hnative
        exact .nil
    | cons hvalue _ ih =>
        cases hnative with
        | cons hd hnative =>
            obtain ⟨rfl, hd⟩ := hd
            exact .cons ⟨hvalue, hd⟩ (ih hnative)
  · intro h
    induction h with
    | nil => exact ⟨[], .nil, .nil⟩
    | cons hd _ ih =>
        obtain ⟨parsed, hparsed, hnative⟩ := ih
        exact ⟨_ :: parsed, .cons hd.1 hparsed, .cons ⟨rfl, hd.2⟩ hnative⟩

lemma native_of_mem (h : nativeDecimals values = .ok numbers) : ∀ d ∈ numbers, Native d := by
  induction nativeDecimals_eq_ok.mp h with
  | nil => simp
  | cons hd _ ih => exact List.forall_mem_cons.mpr ⟨hd.2, ih (nativeDecimals_eq_ok.mpr ‹_›)⟩

/-- The texts in another order are accepted too, with the same numbers. -/
lemma nativeDecimals_perm (h : nativeDecimals values = .ok numbers) (hperm : values'.Perm values) :
    ∃ numbers', nativeDecimals values' = .ok numbers' ∧ numbers'.Perm numbers := by
  obtain ⟨numbers', hall, hnumbers⟩ :=
    List.perm_comp_forall₂ hperm (nativeDecimals_eq_ok.mp h)
  exact ⟨numbers', nativeDecimals_eq_ok.mpr hall, hnumbers⟩

omit [UnicodeData] in
/-- The context holds every sum of so many native decimals. -/
lemma holds_of_native (hnative : ∀ d ∈ numbers, Native d) (hlength : numbers.length ≤ 10 ^ 120) :
    volumeContext.Holds numbers := by
  have hlow : -128 ≤ sumExp numbers :=
    le_sumExp (by norm_num) fun d hd => (hnative d hd).exp_bounds.1
  have hdigits := abs_sumDigits_le (e := sumExp numbers) 128 256
    (fun d hd => (hnative d hd).coeff_lt) fun d hd => by
      have := (hnative d hd).exp_bounds.2
      push_cast
      omega
  refine ⟨?_, ?_, by decide⟩
  · calc |sumDigits numbers (sumExp numbers)| ≤ numbers.length * 10 ^ (128 + 256) := hdigits
      _ ≤ 10 ^ 120 * 10 ^ (128 + 256) :=
          mul_le_mul_of_nonneg_right (by exact_mod_cast hlength) (by positivity)
      _ < 10 ^ volumeContext.prec := by
          rw [← pow_add]
          exact pow_lt_pow_right₀ (by norm_num) (by decide)
  · refine le_trans ?_ hlow
    decide

/-- **Sums of volumes are exact.**  When at most `10 ^ 120` texts are accepted, no addition is
rounded: the text that is returned reads as the sum of their numbers, every partial sum has the
value of its numbers, and the texts in another order have the same sum. -/
theorem volume_sums_are_exact (haccepted : nativeDecimals values = .ok numbers)
    (hlength : values.length ≤ 10 ^ 120) :
    ∃ total, sumDecimalStrings values = .ok total.str ∧
      parse total.str = some (.finite total) ∧ total.toRat = (numbers.map toRat).sum ∧
      (∀ part, part <+: numbers → ∃ subtotal, part.foldlM volumeContext.plus ⟨false, 0, 0⟩ =
        some subtotal ∧ subtotal.toRat = (part.map toRat).sum) ∧
      ∀ values', values'.Perm values → sumDecimalStrings values' = .ok total.str := by
  have hcount : numbers.length ≤ 10 ^ 120 :=
    (nativeDecimals_eq_ok.mp haccepted).length_eq ▸ hlength
  have hnative := native_of_mem haccepted
  have hsum {part : List Decimal} (hsub : ∀ d ∈ part, Native d) (hle : part.length ≤ 10 ^ 120) :
      part.foldlM volumeContext.plus ⟨false, 0, 0⟩ = some (exactSum part) :=
    Context.foldlM_plus fun start hstart => holds_of_native
      (fun d hd => hsub d (hstart.subset hd)) (hstart.length_le.trans hle)
  refine ⟨exactSum numbers, ?_, parse_str _, exactSum_toRat numbers, fun part hpart => ?_, ?_⟩
  · simp only [sumDecimalStrings, haccepted, ok_bind, hsum hnative hcount]
    rfl
  · exact ⟨exactSum part, hsum (fun d hd => hnative d (hpart.subset hd))
      (hpart.length_le.trans hcount), exactSum_toRat part⟩
  · intro values' hperm
    obtain ⟨numbers', haccepted', hnumbers⟩ := nativeDecimals_perm haccepted hperm
    simp only [sumDecimalStrings, haccepted', ok_bind,
      hsum (fun d hd => hnative d (hnumbers.subset hd)) (hnumbers.length_eq ▸ hcount),
      exactSum_perm hnumbers]
    rfl

end

/-- The sum of `0.1` and `-2E+3`. -/
theorem two_volumes_are_summed :
    let numbers : List Decimal := [⟨false, 1, -1⟩, ⟨true, 2, 3⟩]
    nativeDecimals ["0.1", "-2E+3"] = .ok numbers ∧
      ∃ total, sumDecimalStrings ["0.1", "-2E+3"] = .ok total.str ∧
        parse total.str = some (.finite total) ∧ total.toRat = (numbers.map toRat).sum ∧
        (∀ part, part <+: numbers → ∃ subtotal, part.foldlM volumeContext.plus ⟨false, 0, 0⟩ =
          some subtotal ∧ subtotal.toRat = (part.map toRat).sum) ∧
        ∀ values', values'.Perm ["0.1", "-2E+3"] → sumDecimalStrings values' = .ok total.str :=
  have haccepted : nativeDecimals ["0.1", "-2E+3"] = .ok [⟨false, 1, -1⟩, ⟨true, 2, 3⟩] := by
    decide +kernel
  ⟨haccepted, volume_sums_are_exact haccepted (by simp)⟩

end Ai4Binance

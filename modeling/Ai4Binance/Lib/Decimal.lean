/-
Decimal numbers as Python's `decimal` module keeps and computes with them.

A finite decimal is a sign, a coefficient and an exponent; the exponent is
visible in the printed text and in `quantize`, while comparisons and arithmetic
go by the value.  The file has four parts.

* The value (`toRat`) and the text: `str` is the scientific string of the
  General Decimal Arithmetic, `parse` reads every numeric string, and
  `parse_str` is the round trip: printing and reading back is the identity,
  exponent included.
* Contexts: `Context.round` rounds an exact rational half-even to the
  precision of the context, with gradual underflow and a trap (`none`) on
  overflow; `add`, `sub`, `mul` and `div` are the exact operation followed by
  `round`, as the arithmetic specification prescribes.
* `Context.Representable`, `Context.round_eq_self_iff`: the values of a context, which rounding
  keeps.
* `Context.divide`: division of decimals, with the exponent of the quotient.
-/
import Ai4Binance.Lib.Text
import Mathlib.Data.Int.Log

open Text

/-- A finite decimal number: sign, coefficient and exponent. -/
structure Decimal where
  neg : Bool
  coeff : ℕ
  exp : ℤ
  deriving DecidableEq, Repr

/-- What a numeric string denotes: a finite number or one of the specials. -/
inductive DecimalNumber where
  | finite (d : Decimal)
  | infinity
  | nan
  deriving DecidableEq, Repr

namespace Decimal

/-- The value of a decimal. -/
def toRat (d : Decimal) : ℚ := (if d.neg then -1 else 1) * d.coeff * (10 : ℚ) ^ d.exp

lemma toRat_nonneg {d : Decimal} (h : d.neg = false) : 0 ≤ d.toRat := by
  simp only [toRat, h, Bool.false_eq_true, if_false]
  positivity

/-- A positive decimal has no sign. -/
lemma neg_eq_false {d : Decimal} (h : 0 < d.toRat) : d.neg = false := by
  by_contra hneg
  rw [Bool.not_eq_false] at hneg
  rw [toRat, if_pos hneg, neg_one_mul, neg_mul, neg_pos] at h
  exact absurd h (not_lt.mpr (by positivity))

/-! ### Printing -/

/-- `"%+d" % n`: a sign, then the digits. -/
def signedDigits (n : ℤ) : List Char :=
  (if n < 0 then '-' else '+') :: Nat.toDigits 10 n.natAbs

/-- `str(d)`.  The decimal point stands after `dot` digits: in the position
the exponent prescribes while that needs no more than five padding zeros, and
after the first digit otherwise. -/
def str (d : Decimal) : String :=
  let ds := Nat.toDigits 10 d.coeff
  let left : ℤ := d.exp + ds.length
  let dot : ℤ := if d.exp ≤ 0 ∧ -6 < left then left else 1
  let body : List Char :=
    if dot ≤ 0 then '0' :: '.' :: (List.replicate (-dot).toNat '0' ++ ds)
    else if (ds.length : ℤ) ≤ dot then ds ++ List.replicate (dot - ds.length).toNat '0'
    else ds.take dot.toNat ++ '.' :: ds.drop dot.toNat
  let expPart : List Char := if left = dot then [] else 'E' :: signedDigits (left - dot)
  String.ofList ((if d.neg then ['-'] else []) ++ body ++ expPart)

/-! ### Reading -/

/-- The leading digits of a text, by value, and what follows them. -/
def leadingDigits [UnicodeData] : List Char → List ℕ × List Char
  | [] => ([], [])
  | c :: cs =>
      match UnicodeData.digitValue c with
      | some v => (v :: (leadingDigits cs).1, (leadingDigits cs).2)
      | none => ([], c :: cs)

/-- A digit list read in base ten. -/
def ofDigits (ds : List ℕ) : ℕ := ds.foldl (fun acc v => 10 * acc + v) 0

/-- A sign and what follows it; no sign is a plus. -/
def leadingSign : List Char → Bool × List Char
  | '-' :: cs => (true, cs)
  | '+' :: cs => (false, cs)
  | cs => (false, cs)

/-- The exponent part of a numeric string: nothing, or `E` and an integer. -/
def parseExponent [UnicodeData] : List Char → Option ℤ
  | [] => some 0
  | c :: cs =>
      if c = 'E' ∨ c = 'e' then
        let sg := leadingSign cs
        let ds := leadingDigits sg.2
        if ds.1 = [] ∨ ds.2 ≠ [] then none
        else some (if sg.1 then -(ofDigits ds.1 : ℤ) else ofDigits ds.1)
      else none

/-- Digits with an optional point among them, then the exponent part. -/
def parseFinite [UnicodeData] (neg : Bool) (cs : List Char) : Option Decimal :=
  let ip := leadingDigits cs
  let fp := match ip.2 with
    | '.' :: rest => leadingDigits rest
    | rest => ([], rest)
  if ip.1 = [] ∧ fp.1 = [] then none
  else (parseExponent fp.2).map fun e =>
    ⟨neg, ofDigits (ip.1 ++ fp.1), e - fp.1.length⟩

/-- `Decimal(text)`; `none` is the exception for a text that is no numeric
string. -/
def parse [UnicodeData] (s : String) : Option DecimalNumber :=
  let sg := leadingSign ((strip s).toList.filter (· ≠ '_'))
  let low := sg.2.map Char.toLower
  if low = "inf".toList ∨ low = "infinity".toList then some .infinity
  else if "nan".toList <+: low ∧ (leadingDigits (low.drop 3)).2 = [] then some .nan
  else if "snan".toList <+: low ∧ (leadingDigits (low.drop 4)).2 = [] then some .nan
  else (parseFinite sg.1 sg.2).map .finite

/-- The exponents that the module can hold. -/
def inRange (d : Decimal) : Bool :=
  -1999999999999999997 ≤ d.exp &&
    d.exp + ((Nat.toDigits 10 d.coeff).length - 1 : ℤ) ≤ 999999999999999999

/-- `Decimal(text)` with the limits of its exponent: a text of a number beyond them is refused
too. -/
def parseExact [UnicodeData] (s : String) : Option DecimalNumber :=
  (parse s).filter fun
    | .finite d => d.inRange
    | _ => true

/-! ### The round trip -/

lemma toNat_lt_of_isDigit {c : Char} (h : c.isDigit) : c.toNat < 128 := by
  have h' : c.toNat ≤ 57 := (Char.isDigit_iff_toNat.mp h).2
  omega

lemma ofDigits_map (cs : List Char) :
    ofDigits (cs.map fun c => c.toNat - 48) = Nat.ofDigitChars 10 cs 0 := by
  rw [ofDigits, List.foldl_map, Nat.ofDigitChars_eq_foldl]
  rfl

lemma isDigit_toDigits (n : ℕ) : ∀ c ∈ Nat.toDigits 10 n, c.isDigit := fun _ hc =>
  Nat.isDigit_of_mem_toDigits (by norm_num) (by norm_num) hc

lemma leadingSign_of_isDigit {c : Char} {cs : List Char} (h : c.isDigit) :
    leadingSign (c :: cs) = (false, c :: cs) := by
  have hm : c ≠ '-' := by rintro rfl; exact absurd h (by decide)
  have hp : c ≠ '+' := by rintro rfl; exact absurd h (by decide)
  unfold leadingSign
  split <;> simp_all

lemma toLower_of_isDigit {c : Char} (h : c.isDigit) : c.toLower = c := by
  have h' : c.toNat ≤ 57 := (Char.isDigit_iff_toNat.mp h).2
  rw [Char.toLower, dif_neg]
  rintro ⟨h1, -⟩
  have : 65 ≤ c.toNat := h1
  omega

/-- The characters of a printed number. -/
def isNumeric (c : Char) : Bool := c.isDigit || c = '.' || c = 'E' || c = '-' || c = '+'

lemma isNumeric_signedDigits (n : ℤ) : ∀ c ∈ signedDigits n, isNumeric c := by
  intro c hc
  rcases List.mem_cons.mp hc with rfl | hc
  · split_ifs <;> decide
  · simp [isNumeric, isDigit_toDigits _ c hc]

lemma isSpace_of_isNumeric {c : Char} (h : isNumeric c) : isSpace c = false := by
  simp only [isNumeric, Bool.or_eq_true, decide_eq_true_eq] at h
  rcases h with (((h | rfl) | rfl) | rfl) | rfl
  · have h1 : 48 ≤ c.toNat ∧ c.toNat ≤ 57 := Char.isDigit_iff_toNat.mp h
    exact isSpace_of_graphic (by omega) (by omega)
  all_goals decide

section RoundTrip

variable [UnicodeData]

lemma digitValue_of_isDigit {c : Char} (h : c.isDigit) :
    UnicodeData.digitValue c = some (c.toNat - 48) := by
  rw [UnicodeData.digitValue_ascii c (toNat_lt_of_isDigit h), if_pos h]

/-- Reading stops at the first character that is no digit. -/
lemma leadingDigits_append {cs : List Char} (rest : List Char) (hcs : ∀ c ∈ cs, c.isDigit)
    (hrest : ∀ c ∈ rest.head?, UnicodeData.digitValue c = none) :
    leadingDigits (cs ++ rest) = (cs.map fun c => c.toNat - 48, rest) := by
  induction cs with
  | nil =>
      cases rest with
      | nil => rfl
      | cons c rest => simp [leadingDigits, hrest c (by simp)]
  | cons c cs ih =>
      have ih' := ih fun c' hc' => hcs c' (List.mem_cons_of_mem _ hc')
      simp [leadingDigits, digitValue_of_isDigit (hcs c (by simp)), ih']

lemma digitValue_E : UnicodeData.digitValue 'E' = none :=
  UnicodeData.digitValue_ascii 'E' (by decide)

lemma digitValue_point : UnicodeData.digitValue '.' = none :=
  UnicodeData.digitValue_ascii '.' (by decide)

/-- The printed exponent part reads back. -/
lemma parseExponent_signedDigits (n : ℤ) : parseExponent ('E' :: signedDigits n) = some n := by
  have hspan := leadingDigits_append [] (isDigit_toDigits n.natAbs) (by simp)
  rw [List.append_nil] at hspan
  have hne : (Nat.toDigits 10 n.natAbs).map (fun c => c.toNat - 48) ≠ [] := by simp
  by_cases hn : n < 0
  · simp only [parseExponent, signedDigits, if_pos hn, true_or, if_true, leadingSign, hspan,
      hne, false_or, ne_eq, not_true_eq_false, if_false, ofDigits_map,
      Nat.ofDigitChars_ten_toDigits, Option.some.injEq]
    omega
  · simp only [parseExponent, signedDigits, if_neg hn, true_or, if_true, leadingSign, hspan,
      hne, false_or, ne_eq, not_true_eq_false, if_false, ofDigits_map,
      Nat.ofDigitChars_ten_toDigits, Option.some.injEq]
    simp only [Bool.false_eq_true, if_false]
    omega

/-- What may follow the digits of a number: nothing, or the exponent part. -/
def ExpTail (ex : List Char) (e : ℤ) : Prop :=
  parseExponent ex = some e ∧ (∀ c ∈ ex.head?, c = 'E') ∧ ∀ c ∈ ex, isNumeric c

lemma expTail_nil : ExpTail [] 0 := ⟨rfl, by simp, by simp⟩

lemma expTail_signedDigits (n : ℤ) : ExpTail ('E' :: signedDigits n) n := by
  refine ⟨parseExponent_signedDigits n, by simp, fun c hc => ?_⟩
  rcases List.mem_cons.mp hc with rfl | hc
  · decide
  · exact isNumeric_signedDigits n c hc

lemma parseFinite_integer (neg : Bool) {I ex : List Char} {e : ℤ} (hI : ∀ c ∈ I, c.isDigit)
    (hne : I ≠ []) (hex : ExpTail ex e) :
    parseFinite neg (I ++ ex) = some ⟨neg, Nat.ofDigitChars 10 I 0, e⟩ := by
  have hspan := leadingDigits_append ex hI
    (fun c hc => by rw [hex.2.1 c hc]; exact digitValue_E)
  have hmatch : (match ex with
      | '.' :: rest => leadingDigits rest
      | rest => ([], rest)) = ([], ex) := by
    cases ex with
    | nil => rfl
    | cons c rest =>
        obtain rfl : c = 'E' := hex.2.1 c (by simp)
        rfl
  simp only [parseFinite, hspan, hmatch, hex.1]
  simp [hne, ofDigits_map]

lemma parseFinite_point (neg : Bool) {I F ex : List Char} {e : ℤ} (hI : ∀ c ∈ I, c.isDigit)
    (hF : ∀ c ∈ F, c.isDigit) (hne : I ≠ []) (hex : ExpTail ex e) :
    parseFinite neg (I ++ '.' :: (F ++ ex)) =
      some ⟨neg, Nat.ofDigitChars 10 (I ++ F) 0, e - F.length⟩ := by
  have hspanI := leadingDigits_append ('.' :: (F ++ ex)) hI
    (fun c hc => by
      obtain rfl : '.' = c := by simpa using hc
      exact digitValue_point)
  have hspanF := leadingDigits_append ex hF
    (fun c hc => by rw [hex.2.1 c hc]; exact digitValue_E)
  simp [parseFinite, hspanI, hspanF, hne, hex.1, ← ofDigits_map]

/-- The digits, point and exponent that `str` prints begin with a digit and
read back to the number. -/
lemma parseFinite_body (d : Decimal) :
    ∃ body ex : List Char, ∃ e : ℤ, ExpTail ex e ∧
      d.str = String.ofList ((if d.neg then ['-'] else []) ++ body ++ ex) ∧
      (∃ c cs, body = c :: cs ∧ c.isDigit ∧ ∀ c' ∈ cs, c'.isDigit ∨ c' = '.') ∧
      parseFinite d.neg (body ++ ex) = some d := by
  obtain ⟨neg, n, x⟩ := d
  set ds := Nat.toDigits 10 n with hds
  have hdig : ∀ c ∈ ds, c.isDigit := isDigit_toDigits n
  have hval : Nat.ofDigitChars 10 ds 0 = n := Nat.ofDigitChars_ten_toDigits
  have hpos : 0 < ds.length := Nat.length_toDigits_pos
  set left : ℤ := x + ds.length with hleft
  set dot : ℤ := if x ≤ 0 ∧ -6 < left then left else 1 with hdot
  set ex : List Char := if left = dot then [] else 'E' :: signedDigits (left - dot) with hex
  have htail : ExpTail ex (left - dot) := by
    by_cases h : left = dot
    · rw [hex, if_pos h, h, sub_self]
      exact expTail_nil
    · rw [hex, if_neg h]
      exact expTail_signedDigits _
  by_cases h0 : dot ≤ 0
  · -- the point stands before every digit, after padding zeros
    have hld : dot = left := by
      by_contra hne
      rw [hdot] at h0 hne
      split_ifs at h0 hne <;> omega
    refine ⟨'0' :: '.' :: (List.replicate (-dot).toNat '0' ++ ds), ex, left - dot, htail, ?_,
      ⟨_, _, rfl, by decide, ?_⟩, ?_⟩
    · simp only [str, ← hds, ← hleft, ← hdot, if_pos h0, ← hex]
    · intro c hc
      rcases List.mem_cons.mp hc with rfl | hc
      · exact Or.inr rfl
      · rcases List.mem_append.mp hc with hc | hc
        · rw [(List.mem_replicate.mp hc).2]; exact Or.inl (by decide)
        · exact Or.inl (hdig c hc)
    · have hF : ∀ c ∈ List.replicate (-dot).toNat '0' ++ ds, c.isDigit := by
        intro c hc
        rcases List.mem_append.mp hc with hc | hc
        · rw [(List.mem_replicate.mp hc).2]; decide
        · exact hdig c hc
      have hparse := parseFinite_point neg (I := ['0']) (by simp) hF (by simp) htail
      have hcoeff : Nat.ofDigitChars 10 (['0'] ++ (List.replicate (-dot).toNat '0' ++ ds)) 0
          = n := by
        rw [Nat.ofDigitChars_append, Nat.ofDigitChars_append, Nat.ofDigitChars_replicate_zero]
        simpa [Nat.ofDigitChars_cons] using hval
      rw [hcoeff] at hparse
      simp only [List.cons_append, List.nil_append] at hparse ⊢
      rw [hparse]
      simp only [List.length_append, List.length_replicate, Option.some.injEq, Decimal.mk.injEq,
        true_and]
      omega
  · by_cases h1 : (ds.length : ℤ) ≤ dot
    · -- all digits stand before the point, which is not printed
      have hlen : dot = ds.length := by
        rw [hdot] at h1 ⊢
        split_ifs at h1 ⊢ <;> omega
      obtain ⟨c, cs, hc⟩ : ∃ c cs, ds = c :: cs :=
        List.exists_cons_of_ne_nil (List.ne_nil_of_length_pos hpos)
      refine ⟨ds, ex, left - dot, htail, ?_, ⟨c, cs, hc, hdig c (by simp [hc]), ?_⟩, ?_⟩
      · have hz : (dot - ds.length).toNat = 0 := by omega
        simp only [str, ← hds, ← hleft, ← hdot, if_neg h0, if_pos h1, ← hex, hz,
          List.replicate_zero, List.append_nil]
      · exact fun c' hc' => Or.inl (hdig c' (by simp [hc, hc']))
      · rw [parseFinite_integer neg hdig (List.ne_nil_of_length_pos hpos) htail, hval]
        simp only [Option.some.injEq, Decimal.mk.injEq, true_and]
        omega
    · -- the point stands among the digits
      have htake : ∀ c ∈ ds.take dot.toNat, c.isDigit := fun c hc =>
        hdig c (List.mem_of_mem_take hc)
      have hdrop : ∀ c ∈ ds.drop dot.toNat, c.isDigit := fun c hc =>
        hdig c (List.mem_of_mem_drop hc)
      have hne : ds.take dot.toNat ≠ [] := by
        rw [ne_eq, List.take_eq_nil_iff, not_or]
        exact ⟨by omega, List.ne_nil_of_length_pos hpos⟩
      obtain ⟨c, cs, hc⟩ := List.exists_cons_of_ne_nil hne
      refine ⟨ds.take dot.toNat ++ '.' :: ds.drop dot.toNat, ex, left - dot, htail, ?_,
        ⟨c, cs ++ '.' :: ds.drop dot.toNat, by rw [hc]; rfl, htake c (by simp [hc]), ?_⟩, ?_⟩
      · simp only [str, ← hds, ← hleft, ← hdot, if_neg h0, if_neg h1, ← hex]
      · intro c' hc'
        rcases List.mem_append.mp hc' with h | h
        · exact Or.inl (htake c' (by simp [hc, h]))
        · rcases List.mem_cons.mp h with h | h
          · exact Or.inr h
          · exact Or.inl (hdrop c' h)
      · rw [List.append_assoc, List.cons_append,
          parseFinite_point neg htake hdrop hne htail, List.take_append_drop, hval]
        simp only [List.length_drop, Option.some.injEq, Decimal.mk.injEq, true_and]
        omega

/-- **The round trip**: a printed decimal reads back to itself, exponent
included. -/
theorem parse_str (d : Decimal) : parse d.str = some (.finite d) := by
  obtain ⟨body, ex, e, hex, hstr, ⟨c, cs, rfl, hc, hcs⟩, hparse⟩ := parseFinite_body d
  have hnum : ∀ c' ∈ d.str.toList, isNumeric c' := by
    rw [hstr, String.toList_ofList]
    intro c' hc'
    simp only [List.append_assoc, List.mem_append, List.cons_append, List.mem_cons] at hc'
    rcases hc' with hs | rfl | hb | he
    · split_ifs at hs
      · rw [List.mem_singleton.mp hs]; decide
      · simp at hs
    · simp [isNumeric, hc]
    · rcases hcs c' hb with h | h <;> simp [isNumeric, h]
    · exact hex.2.2 c' he
  have hstrip : (strip d.str).toList.filter (· ≠ '_') = d.str.toList := by
    rw [strip_eq_self fun c' hc' => isSpace_of_isNumeric (hnum c' hc')]
    refine List.filter_eq_self.mpr fun c' hc' => ?_
    have := hnum c' hc'
    by_contra hu
    obtain rfl : c' = '_' := by simpa using hu
    exact absurd this (by decide)
  have hsign : leadingSign d.str.toList = (d.neg, c :: (cs ++ ex)) := by
    rw [hstr, String.toList_ofList]
    cases d.neg
    · simpa using leadingSign_of_isDigit hc
    · rfl
  have hne : ∀ a : Char, a.isDigit = false → a ≠ c.toLower := by
    intro a ha h
    rw [toLower_of_isDigit hc] at h
    rw [h, hc] at ha
    exact Bool.noConfusion ha
  have hinf : "inf".toList = ['i', 'n', 'f'] ∧
      "infinity".toList = ['i', 'n', 'f', 'i', 'n', 'i', 't', 'y'] := by decide
  have hnan : "nan".toList = ['n', 'a', 'n'] ∧ "snan".toList = ['s', 'n', 'a', 'n'] := by decide
  simp only [parse, hstrip, hsign, List.map_cons, hinf.1, hinf.2, hnan.1, hnan.2]
  rw [if_neg, if_neg, if_neg]
  · simpa using hparse
  · rintro ⟨h, -⟩
    exact hne 's' (by decide) (List.cons_prefix_cons.mp h).1
  · rintro ⟨h, -⟩
    exact hne 'n' (by decide) (List.cons_prefix_cons.mp h).1
  · rintro (h | h)
    · exact hne 'i' (by decide) (List.cons_eq_cons.mp h).1.symm
    · exact hne 'i' (by decide) (List.cons_eq_cons.mp h).1.symm

end RoundTrip

/-! ### Contexts -/

/-- The integer nearest to a rational, ties to even. -/
def roundHalfEven (q : ℚ) : ℤ :=
  if q - ⌊q⌋ < 1 / 2 then ⌊q⌋
  else if 1 / 2 < q - ⌊q⌋ then ⌊q⌋ + 1
  else if ⌊q⌋ % 2 = 0 then ⌊q⌋ else ⌊q⌋ + 1

end Decimal

/-- An arithmetic context: the precision in digits and the range of the
exponent of the leading digit.  Rounding is half-even, overflow traps,
underflow is gradual. -/
structure Context where
  prec : ℕ
  eMin : ℤ
  eMax : ℤ
  deriving DecidableEq, Repr

namespace Context

/-- The context Python starts with. -/
def default : Context := ⟨28, -999999, 999999⟩

/-- Exponent of the last digit kept of a nonzero value. -/
def quantum (c : Context) (v : ℚ) : ℤ :=
  max (Int.log 10 |v| - (c.prec - 1)) (c.eMin - (c.prec - 1))

/-- The value rounded to the context; `none` is the overflow trap. -/
def round (c : Context) (v : ℚ) : Option ℚ :=
  if v = 0 then some 0
  else
    let r := Decimal.roundHalfEven (v / 10 ^ c.quantum v) * (10 : ℚ) ^ c.quantum v
    if c.eMax < Int.log 10 |r| then none else some r

/-- Addition in the context. -/
def add (c : Context) (x y : ℚ) : Option ℚ := c.round (x + y)

/-- Subtraction in the context. -/
def sub (c : Context) (x y : ℚ) : Option ℚ := c.round (x - y)

/-- Multiplication in the context. -/
def mul (c : Context) (x y : ℚ) : Option ℚ := c.round (x * y)

/-- Division in the context; a zero divisor traps. -/
def div (c : Context) (x y : ℚ) : Option ℚ := if y = 0 then none else c.round (x / y)

lemma roundHalfEven_nonneg {q : ℚ} (h : 0 ≤ q) : 0 ≤ Decimal.roundHalfEven q := by
  have hf : 0 ≤ ⌊q⌋ := Int.floor_nonneg.mpr h
  rw [Decimal.roundHalfEven]
  split_ifs <;> omega

/-- Rounding keeps a value on its side of zero. -/
lemma round_nonneg {c : Context} {v r : ℚ} (hv : 0 ≤ v) (h : c.round v = some r) : 0 ≤ r := by
  rw [round] at h
  split_ifs at h with h0
  · exact le_of_eq (Option.some.inj h)
  · dsimp only at h
    split_ifs at h
    rw [← Option.some.inj h]
    have hq : (0 : ℚ) ≤ (Decimal.roundHalfEven (v / 10 ^ c.quantum v) : ℚ) := by
      exact_mod_cast roundHalfEven_nonneg (by positivity)
    positivity

/-! ### The values of a context -/

variable {c : Context} {v : ℚ}

lemma roundHalfEven_intCast (n : ℤ) : Decimal.roundHalfEven n = n := by
  rw [Decimal.roundHalfEven, Int.floor_intCast, if_pos (by norm_num)]

/-- The values of a context: at most `prec` digits, no digit below the last one of the smallest
subnormal number, and no overflow. -/
def Representable (c : Context) (v : ℚ) : Prop :=
  ∃ m e : ℤ, v = m * 10 ^ e ∧ |m| < 10 ^ c.prec ∧ c.eMin - (c.prec - 1) ≤ e ∧
    (v ≠ 0 → Int.log 10 |v| ≤ c.eMax)

/-- A value with few digits has no digit below the quantum of the context. -/
lemma quantum_le {m e : ℤ} (hm : m ≠ 0) (hdigits : |m| < 10 ^ c.prec)
    (he : c.eMin - (c.prec - 1) ≤ e) : c.quantum (m * 10 ^ e) ≤ e := by
  have hpos : 0 < |(m : ℚ) * 10 ^ e| := abs_pos.mpr (mul_ne_zero (by exact_mod_cast hm) (by positivity))
  have hlt : |(m : ℚ) * 10 ^ e| < ((10 : ℕ) : ℚ) ^ (c.prec + e) := by
    rw [abs_mul, abs_of_pos (by positivity : (0 : ℚ) < 10 ^ e), Nat.cast_ofNat,
      zpow_add₀ (by norm_num), zpow_natCast]
    have hcast : |(m : ℚ)| < 10 ^ c.prec := by exact_mod_cast hdigits
    exact mul_lt_mul_of_pos_right hcast (by positivity)
  have hlog := (Int.lt_zpow_iff_log_lt (by norm_num) hpos).mp hlt
  rw [quantum]
  omega

/-- Rounding keeps exactly the values of the context. -/
lemma round_eq_self_iff : c.round v = some v ↔ c.Representable v := by
  by_cases hv : v = 0
  · subst hv
    refine iff_of_true (by rw [round, if_pos rfl]) ⟨0, c.eMin - (c.prec - 1), ?_⟩
    simp
  have hten : (0 : ℚ) < 10 ^ c.quantum v := by positivity
  rw [round, if_neg hv]
  constructor
  · intro h
    dsimp only at h
    split_ifs at h with hover
    have hr := Option.some.inj h
    rw [hr, not_lt] at hover
    set m := Decimal.roundHalfEven (v / 10 ^ c.quantum v)
    refine ⟨m, c.quantum v, hr.symm, ?_, le_max_right _ _, fun _ => hover⟩
    -- the leading digit stands at most `prec` places above the quantum
    have hlt : |v| < ((10 : ℕ) : ℚ) ^ (Int.log 10 |v| + 1) :=
      Int.lt_zpow_succ_log_self (by norm_num) _
    have hle : ((10 : ℕ) : ℚ) ^ (Int.log 10 |v| + 1) ≤ 10 ^ (c.prec + c.quantum v) := by
      rw [Nat.cast_ofNat]
      refine zpow_le_zpow_right₀ (by norm_num) ?_
      have := le_max_left (Int.log 10 |v| - (c.prec - 1)) (c.eMin - (c.prec - 1))
      rw [quantum]
      omega
    have hscaled : |(m : ℚ)| * 10 ^ c.quantum v < 10 ^ c.prec * 10 ^ c.quantum v := by
      calc |(m : ℚ)| * 10 ^ c.quantum v = |v| := by
            rw [← hr, abs_mul, abs_of_pos hten, hr]
        _ < 10 ^ (c.prec + c.quantum v) := hlt.trans_le hle
        _ = 10 ^ c.prec * 10 ^ c.quantum v := by rw [zpow_add₀ (by norm_num), zpow_natCast]
    exact_mod_cast lt_of_mul_lt_mul_right hscaled hten.le
  · rintro ⟨m, e, rfl, hdigits, he, hover⟩
    have hm : m ≠ 0 := by
      rintro rfl
      simp at hv
    obtain ⟨k, hk⟩ := Int.eq_ofNat_of_zero_le
      (sub_nonneg.mpr (quantum_le hm hdigits he))
    have hint : (m : ℚ) * 10 ^ e / 10 ^ c.quantum (m * 10 ^ e) = ((m * 10 ^ k : ℤ) : ℚ) := by
      rw [mul_div_assoc, ← zpow_sub₀ (by norm_num), hk]
      push_cast
      rw [zpow_natCast]
    rw [hint, roundHalfEven_intCast, ← hint, div_mul_cancel₀ _ hten.ne']
    exact if_neg (not_lt.mpr (hover hv))

/-! ### The exponent of a quotient -/

/-- Remove up to `fuel` trailing zeros of a coefficient. -/
def stripZeros : ℕ → ℕ → ℤ → ℕ × ℤ
  | 0, n, e => (n, e)
  | fuel + 1, n, e => if n % 10 = 0 then stripZeros fuel (n / 10) (e + 1) else (n, e)

lemma stripZeros_value (fuel n : ℕ) (e : ℤ) :
    ((stripZeros fuel n e).1 : ℚ) * 10 ^ (stripZeros fuel n e).2 = n * 10 ^ e := by
  induction fuel generalizing n e with
  | zero => rfl
  | succ fuel ih =>
      rw [stripZeros]
      split_ifs with h
      · obtain ⟨m, rfl⟩ : 10 ∣ n := Nat.dvd_of_mod_eq_zero h
        rw [ih, Nat.mul_div_cancel_left m (by norm_num), zpow_add₀ (by norm_num)]
        push_cast
        ring
      · rfl

/-- `x / y` on decimals.  An exact quotient has the exponent `x.exp - y.exp`, or
the nearest below it that holds all its digits; a rounded one has as many digits
as the precision. -/
def divide (c : Context) (x y : Decimal) : Option Decimal :=
  if y.toRat = 0 then none
  else
    let v := x.toRat / y.toRat
    (c.round v).map fun r =>
      let q := c.quantum v
      let n := (Decimal.roundHalfEven (v / 10 ^ q)).natAbs
      let p :=
        if v = 0 then (0, x.exp - y.exp)
        else if r = v then stripZeros (x.exp - y.exp - q).toNat n q
        else if n = 10 ^ c.prec then (n / 10, q + 1) else (n, q)
      ⟨x.neg != y.neg, p.1, p.2⟩

/-- The quotient has the value that division in the context computes. -/
lemma divide_toRat {c : Context} {x y d : Decimal} (hc : 0 < c.prec) (hx : x.neg = false)
    (hy : y.neg = false) (h : c.divide x y = some d) : c.div x.toRat y.toRat = some d.toRat := by
  rw [divide] at h
  rw [div]
  split_ifs at h ⊢ with h0
  obtain ⟨r, hr, hd⟩ := Option.map_eq_some_iff.mp h
  rw [hr, Option.some.injEq]
  have hxn := Decimal.toRat_nonneg hx
  have hyn := Decimal.toRat_nonneg hy
  set v := x.toRat / y.toRat with hv
  have hvn : 0 ≤ v := div_nonneg hxn hyn
  set q := c.quantum v with hq
  have hscaled : 0 ≤ v / 10 ^ q := by positivity
  have habs : (((Decimal.roundHalfEven (v / 10 ^ q)).natAbs : ℕ) : ℚ) =
      (Decimal.roundHalfEven (v / 10 ^ q) : ℚ) := by
    rw [← Int.cast_natCast, Int.natAbs_of_nonneg (roundHalfEven_nonneg hscaled)]
  rw [← hd, Decimal.toRat]
  simp only [hx, hy, bne_self_eq_false, Bool.false_eq_true, if_false, one_mul]
  by_cases hv0 : v = 0
  · rw [round, if_pos hv0] at hr
    obtain rfl := Option.some.inj hr
    simp [hv0]
  · rw [round, if_neg hv0] at hr
    dsimp only at hr
    split_ifs at hr
    have hr' := (Option.some.inj hr).symm
    rw [if_neg hv0]
    split_ifs with hexact hcarry
    · rw [stripZeros_value, habs]
      exact hr'
    · have hten : 10 ∣ (Decimal.roundHalfEven (v / 10 ^ q)).natAbs := by
        rw [hcarry]
        exact dvd_pow_self 10 (by omega)
      obtain ⟨m, hm⟩ := hten
      rw [hm] at habs ⊢
      rw [Nat.mul_div_cancel_left m (by norm_num), zpow_add₀ (by norm_num), hr', ← habs]
      push_cast
      ring
    · rw [habs]
      exact hr'

/-- A quotient of positive decimals is exact if and only if its value is one of the context. -/
lemma divide_exact_iff {x y : Decimal} (hc : 0 < c.prec) (hxpos : 0 < x.toRat) (hpos : 0 < y.toRat) :
    (∃ d, c.divide x y = some d ∧ d.toRat * y.toRat = x.toRat) ↔
      c.Representable (x.toRat / y.toRat) := by
  have hx := Decimal.neg_eq_false hxpos
  have hy := Decimal.neg_eq_false hpos
  rw [← round_eq_self_iff]
  constructor
  · rintro ⟨d, hd, hexact⟩
    have hdiv := divide_toRat hc hx hy hd
    rw [div, if_neg hpos.ne'] at hdiv
    rw [hdiv, Option.some.injEq, eq_div_iff hpos.ne']
    exact hexact
  · intro hround
    obtain ⟨d, hd⟩ : ∃ d, c.divide x y = some d := by
      rw [divide, if_neg hpos.ne']
      dsimp only
      rw [hround]
      exact ⟨_, rfl⟩
    refine ⟨d, hd, ?_⟩
    have hdiv := divide_toRat hc hx hy hd
    rw [div, if_neg hpos.ne', hround, Option.some.injEq] at hdiv
    rw [← hdiv, div_mul_cancel₀ _ hpos.ne']

end Context

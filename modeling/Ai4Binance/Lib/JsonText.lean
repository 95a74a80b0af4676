/-
The strings and the numbers of JSON texts, as Python's `json` writes and reads
them.

A Python string is a list of code points, lone surrogates among them.  The
encoder escapes what it must, and with `ensure_ascii` everything outside the
printable ASCII range, astral code points as two surrogates.  The decoder reads
two escaped surrogates as one code point, so a string that holds such a pair as
two code points comes back changed (`NoSplitPair`).

* `escape`, `scanString`: a string between its quotes, written and read;
* `scanString_escape`: what was written is read back;
* `intText`, `scanNumber`, `intValue`: numbers;
* `scanNumber_append`: a number ends where no character of a number follows.
-/
import Mathlib.Tactic
import Mathlib.Data.Nat.Digits.Defs
import Mathlib.Data.List.TakeWhile

/-- The code points of a `str`. -/
abbrev PyStr := List ℕ

namespace PyStr

/-- The code points of a text. -/
def of (s : String) : PyStr := s.toList.map Char.toNat

/-- The first of two surrogates. -/
def IsHigh (c : ℕ) : Prop := 0xd800 ≤ c ∧ c ≤ 0xdbff

/-- The second of two surrogates. -/
def IsLow (c : ℕ) : Prop := 0xdc00 ≤ c ∧ c ≤ 0xdfff

instance (c : ℕ) : Decidable (IsHigh c) := inferInstanceAs (Decidable (_ ∧ _))

instance (c : ℕ) : Decidable (IsLow c) := inferInstanceAs (Decidable (_ ∧ _))

/-- No first surrogate stands before a second one. -/
def NoSplitPair (s : PyStr) : Prop := s.IsChain fun c d => ¬ (IsHigh c ∧ IsLow d)

/-- Every code point is one. -/
def Valid (s : PyStr) : Prop := ∀ c ∈ s, c < 0x110000

instance (s : PyStr) : Decidable (NoSplitPair s) := inferInstanceAs (Decidable (s.IsChain _))

instance (s : PyStr) : Decidable (Valid s) := inferInstanceAs (Decidable (∀ c ∈ s, _))

end PyStr

namespace JsonText

open PyStr

/-! ### Strings, written -/

/-- A digit of `'{:04x}'`. -/
def hexDigit (n : ℕ) : ℕ := if n < 10 then 48 + n else 87 + n

/-- `'\\u{:04x}'`. -/
def unicodeEscape (n : ℕ) : PyStr :=
  [92, 117, hexDigit (n / 4096 % 16), hexDigit (n / 256 % 16), hexDigit (n / 16 % 16),
    hexDigit (n % 16)]

/-- The two surrogates of an astral code point. -/
def highSurrogate (c : ℕ) : ℕ := 0xd800 + (c - 0x10000) / 0x400

@[inherit_doc highSurrogate]
def lowSurrogate (c : ℕ) : ℕ := 0xdc00 + (c - 0x10000) % 0x400

/-- The letter of a short escape. -/
def shortEscape (c : ℕ) : Option ℕ :=
  if c = 34 then some 34 else if c = 92 then some 92 else if c = 8 then some 98
  else if c = 12 then some 102 else if c = 10 then some 110 else if c = 13 then some 114
  else if c = 9 then some 116 else none

/-- A code point as the encoder writes it, with or without `ensure_ascii`. -/
def escapeChar (ensureAscii : Bool) (c : ℕ) : PyStr :=
  match shortEscape c with
  | some e => [92, e]
  | none =>
      if c < 32 then unicodeEscape c
      else if ensureAscii ∧ 126 < c then
        if c < 0x10000 then unicodeEscape c
        else unicodeEscape (highSurrogate c) ++ unicodeEscape (lowSurrogate c)
      else [c]

/-- A string between its quotes. -/
def escape (ensureAscii : Bool) (s : PyStr) : PyStr := s.flatMap (escapeChar ensureAscii)

/-! ### Strings, read -/

/-- The value of a hexadecimal digit. -/
def hexValue (c : ℕ) : Option ℕ :=
  if 48 ≤ c ∧ c ≤ 57 then some (c - 48)
  else if 97 ≤ c ∧ c ≤ 102 then some (c - 87)
  else if 65 ≤ c ∧ c ≤ 70 then some (c - 55)
  else none

/-- `_decode_uXXXX`. -/
def hexFour (a b c d : ℕ) : Option ℕ := do
  let w ← hexValue a
  let x ← hexValue b
  let y ← hexValue c
  let z ← hexValue d
  return w * 4096 + x * 256 + y * 16 + z

/-- `BACKSLASH`: the code point of a short escape. -/
def unescape (c : ℕ) : Option ℕ :=
  if c = 34 then some 34 else if c = 92 then some 92 else if c = 47 then some 47
  else if c = 98 then some 8 else if c = 102 then some 12 else if c = 110 then some 10
  else if c = 114 then some 13 else if c = 116 then some 9 else none

/-- A code point before those of the rest. -/
def consUnit (unit : ℕ × Bool) : List (ℕ × Bool) × PyStr → List (ℕ × Bool) × PyStr
  | (units, rest) => (unit :: units, rest)

/-- The code points up to the closing quote, each with whether it was written as a
`\u` escape, and what follows the quote. -/
def scanUnits : PyStr → Option (List (ℕ × Bool) × PyStr)
  | [] => none
  | c :: rest =>
      if c = 34 then some ([], rest)
      else if c = 92 then
        match rest with
        | [] => none
        | e :: rest =>
            if e = 117 then
              match rest with
              | w :: x :: y :: z :: rest =>
                  (hexFour w x y z).bind fun u => (scanUnits rest).map (consUnit (u, true))
              | _ => none
            else (unescape e).bind fun u => (scanUnits rest).map (consUnit (u, false))
      else if c < 32 then none
      else (scanUnits rest).map (consUnit (c, false))

/-- Two escaped surrogates make one code point. -/
def joinPairs : List (ℕ × Bool) → PyStr
  | [] => []
  | [(c, _)] => [c]
  | (c, e) :: (d, f) :: rest =>
      if e ∧ f ∧ IsHigh c ∧ IsLow d then
        (0x10000 + (c - 0xd800) * 0x400 + (d - 0xdc00)) :: joinPairs rest
      else c :: joinPairs ((d, f) :: rest)

/-- `scanstring`, after the opening quote. -/
def scanString (text : PyStr) : Option (PyStr × PyStr) :=
  (scanUnits text).map fun (units, rest) => (joinPairs units, rest)

/-! ### Strings, there and back -/

/-- What the decoder reads of a code point that was written. -/
def unitsOf (ensureAscii : Bool) (c : ℕ) : List (ℕ × Bool) :=
  match shortEscape c with
  | some _ => [(c, false)]
  | none =>
      if c < 32 then [(c, true)]
      else if ensureAscii ∧ 126 < c then
        if c < 0x10000 then [(c, true)]
        else [(highSurrogate c, true), (lowSurrogate c, true)]
      else [(c, false)]

lemma hexValue_hexDigit {n : ℕ} (h : n < 16) : hexValue (hexDigit n) = some n := by
  interval_cases n <;> rfl

lemma scanUnits_unicodeEscape {n : ℕ} (h : n < 65536) (text : PyStr) :
    scanUnits (unicodeEscape n ++ text) = (scanUnits text).map (consUnit (n, true)) := by
  have hfour : hexFour (hexDigit (n / 4096 % 16)) (hexDigit (n / 256 % 16))
      (hexDigit (n / 16 % 16)) (hexDigit (n % 16)) = some n := by
    have hw : n / 4096 % 16 < 16 := Nat.mod_lt _ (by norm_num)
    have hx : n / 256 % 16 < 16 := Nat.mod_lt _ (by norm_num)
    have hy : n / 16 % 16 < 16 := Nat.mod_lt _ (by norm_num)
    have hz : n % 16 < 16 := Nat.mod_lt _ (by norm_num)
    simp only [hexFour, hexValue_hexDigit hw, hexValue_hexDigit hx, hexValue_hexDigit hy,
      hexValue_hexDigit hz, Option.bind_eq_bind, Option.bind_some, Option.pure_def]
    congr 1
    omega
  rw [unicodeEscape, List.cons_append, List.cons_append, scanUnits.eq_def]
  simp only [List.cons_append, List.nil_append, hfour]
  rfl

lemma scanUnits_short {c e : ℕ} (h : shortEscape c = some e) (text : PyStr) :
    scanUnits (92 :: e :: text) = (scanUnits text).map (consUnit (c, false)) := by
  have hread : e ≠ 117 ∧ unescape e = some c := by
    unfold shortEscape at h
    split_ifs at h with h1 h2 h3 h4 h5 h6 h7
    all_goals
      subst c
      obtain rfl := Option.some.inj h
      decide
  rw [scanUnits.eq_def]
  simp [hread.1, hread.2]

lemma scanUnits_plain {c : ℕ} (h : shortEscape c = none) (h32 : ¬ c < 32) (text : PyStr) :
    scanUnits (c :: text) = (scanUnits text).map (consUnit (c, false)) := by
  have hquote : c ≠ 34 := by
    rintro rfl
    exact nomatch h
  have hslash : c ≠ 92 := by
    rintro rfl
    exact nomatch h
  rw [scanUnits.eq_def]
  simp [hquote, hslash, h32]

/-- A written code point is read as its units. -/
lemma scanUnits_escapeChar {ensureAscii : Bool} {c : ℕ} (hc : ensureAscii → c < 0x110000)
    (text : PyStr) :
    scanUnits (escapeChar ensureAscii c ++ text) =
      (scanUnits text).map fun (units, rest) => (unitsOf ensureAscii c ++ units, rest) := by
  unfold escapeChar unitsOf
  cases hshort : shortEscape c with
  | some e => exact scanUnits_short hshort text
  | none =>
    dsimp only
    by_cases h32 : c < 32
    · rw [if_pos h32, if_pos h32]
      exact scanUnits_unicodeEscape (by omega) text
    · rw [if_neg h32, if_neg h32]
      by_cases hascii : ensureAscii ∧ 126 < c
      · rw [if_pos hascii, if_pos hascii]
        by_cases hbmp : c < 0x10000
        · rw [if_pos hbmp, if_pos hbmp]
          exact scanUnits_unicodeEscape hbmp text
        · have hbound := hc hascii.1
          rw [if_neg hbmp, if_neg hbmp, List.append_assoc,
            scanUnits_unicodeEscape (by rw [highSurrogate]; omega),
            scanUnits_unicodeEscape (by rw [lowSurrogate]; omega), Option.map_map]
          rfl
      · rw [if_neg hascii, if_neg hascii]
        exact scanUnits_plain hshort h32 text

/-- A written string is read as its units, up to the quote. -/
lemma scanUnits_escape {ensureAscii : Bool} {s : PyStr} (hs : ensureAscii → s.Valid)
    (rest : PyStr) :
    scanUnits (escape ensureAscii s ++ 34 :: rest) =
      some (s.flatMap (unitsOf ensureAscii), rest) := by
  induction s with
  | nil =>
    rw [escape, List.flatMap_nil, List.nil_append, scanUnits.eq_def]
    rfl
  | cons c s ih =>
    have hc : ensureAscii → c < 0x110000 := fun h => hs h c List.mem_cons_self
    have htail : ensureAscii → PyStr.Valid s := fun h d hd => hs h d (List.mem_cons_of_mem c hd)
    rw [escape, List.flatMap_cons, List.append_assoc, scanUnits_escapeChar hc]
    rw [escape] at ih
    rw [ih htail, List.flatMap_cons]
    rfl

/-- The first unit of a code point is a second surrogate only if it is one. -/
lemma head_unitsOf (ensureAscii : Bool) {c : ℕ} (hc : ensureAscii → c < 0x110000) :
    ∃ d f units, unitsOf ensureAscii c = (d, f) :: units ∧ (IsLow d → IsLow c) := by
  unfold unitsOf
  cases shortEscape c with
  | some e => exact ⟨c, false, [], rfl, id⟩
  | none =>
    dsimp only
    split_ifs with h1 h2 h3
    · exact ⟨c, true, [], rfl, id⟩
    · exact ⟨c, true, [], rfl, id⟩
    · refine ⟨highSurrogate c, true, _, rfl, fun hlow => ?_⟩
      have hbound := hc h2.1
      have hle := hlow.1
      rw [highSurrogate] at hle
      omega
    · exact ⟨c, false, [], rfl, id⟩

lemma joinPairs_cons {c : ℕ} {e : Bool} {units : List (ℕ × Bool)}
    (h : ∀ d f rest, units = (d, f) :: rest → e → IsHigh c → ¬ IsLow d) :
    joinPairs ((c, e) :: units) = c :: joinPairs units := by
  cases units with
  | nil => rfl
  | cons unit rest =>
    obtain ⟨d, f⟩ := unit
    rw [joinPairs, if_neg]
    rintro ⟨he, -, hhigh, hlow⟩
    exact h d f rest rfl he hhigh hlow

/-- The units of a code point are joined to it, if no pair is made with what
follows. -/
lemma joinPairs_unitsOf {ensureAscii : Bool} {c : ℕ} {units : List (ℕ × Bool)}
    (hc : ensureAscii → c < 0x110000)
    (h : ensureAscii → ∀ d f rest, units = (d, f) :: rest → IsHigh c → ¬ IsLow d) :
    joinPairs (unitsOf ensureAscii c ++ units) = c :: joinPairs units := by
  unfold unitsOf
  cases shortEscape c with
  | some e => exact joinPairs_cons fun d f rest _ he => nomatch he
  | none =>
    dsimp only
    split_ifs with h1 h2 h3
    · refine joinPairs_cons fun d f rest _ _ hhigh => ?_
      have hle := hhigh.1
      omega
    · exact joinPairs_cons fun d f rest heq _ => h h2.1 d f rest heq
    · have hbound := hc h2.1
      have hhigh : IsHigh (highSurrogate c) := by
        rw [IsHigh, highSurrogate]
        omega
      have hlow : IsLow (lowSurrogate c) := by
        rw [IsLow, lowSurrogate]
        omega
      have hjoin : 0x10000 + (highSurrogate c - 0xd800) * 0x400 + (lowSurrogate c - 0xdc00) = c := by
        rw [highSurrogate, lowSurrogate]
        omega
      rw [List.cons_append, List.cons_append, List.nil_append, joinPairs,
        if_pos ⟨rfl, rfl, hhigh, hlow⟩, hjoin]
    · exact joinPairs_cons fun d f rest _ he => nomatch he

/-- The units of a string without split pairs are joined to it. -/
lemma joinPairs_flatMap {ensureAscii : Bool} {s : PyStr}
    (h : ensureAscii → s.NoSplitPair ∧ s.Valid) :
    joinPairs (s.flatMap (unitsOf ensureAscii)) = s := by
  induction s with
  | nil => rfl
  | cons c s ih =>
    have hc : ensureAscii → c < 0x110000 := fun ha => (h ha).2 c List.mem_cons_self
    have htail : ensureAscii → PyStr.NoSplitPair s ∧ PyStr.Valid s := fun ha =>
      ⟨(h ha).1.tail, fun d hd => (h ha).2 d (List.mem_cons_of_mem c hd)⟩
    rw [List.flatMap_cons, joinPairs_unitsOf hc, ih htail]
    intro ha d f rest heq hhigh hlow
    cases s with
    | nil => exact nomatch heq
    | cons c' s =>
      obtain ⟨d', f', units, hunits, hfirst⟩ := head_unitsOf ensureAscii
        fun ha => (h ha).2 c' (List.mem_cons_of_mem c List.mem_cons_self)
      rw [List.flatMap_cons, hunits, List.cons_append] at heq
      obtain rfl : d' = d := congrArg Prod.fst (List.cons.inj heq).1
      exact (List.isChain_cons_cons.mp (h ha).1).1 ⟨hhigh, hfirst hlow⟩

/-- **A written string is read back**, with `ensure_ascii` if it holds no split
pair. -/
theorem scanString_escape {ensureAscii : Bool} {s : PyStr}
    (h : ensureAscii → s.NoSplitPair ∧ s.Valid) (rest : PyStr) :
    scanString (escape ensureAscii s ++ 34 :: rest) = some (s, rest) := by
  rw [scanString, scanUnits_escape (fun ha => (h ha).2)]
  simp [joinPairs_flatMap h]

/-! ### Numbers -/

/-- A decimal digit. -/
def isDigit (c : ℕ) : Bool := 48 ≤ c && c ≤ 57

/-- `0|[1-9][0-9]*` -/
def scanNatural : PyStr → Option (PyStr × PyStr)
  | [] => none
  | c :: rest =>
      if c = 48 then some ([48], rest)
      else if isDigit c then some (c :: rest.takeWhile isDigit, rest.dropWhile isDigit)
      else none

/-- `-?(?:0|[1-9][0-9]*)` -/
def scanWhole : PyStr → Option (PyStr × PyStr)
  | [] => none
  | c :: rest =>
      if c = 45 then (scanNatural rest).map fun (digits, rest) => (45 :: digits, rest)
      else scanNatural (c :: rest)

/-- `(\.[0-9]+)?` -/
def scanFrac : PyStr → PyStr × PyStr
  | [] => ([], [])
  | c :: rest =>
      if c = 46 ∧ rest.takeWhile isDigit ≠ [] then
        (46 :: rest.takeWhile isDigit, rest.dropWhile isDigit)
      else ([], c :: rest)

/-- `[-+]?` -/
def scanSign : PyStr → PyStr × PyStr
  | [] => ([], [])
  | c :: rest => if c = 43 ∨ c = 45 then ([c], rest) else ([], c :: rest)

/-- `([eE][-+]?[0-9]+)?` -/
def scanExp : PyStr → PyStr × PyStr
  | [] => ([], [])
  | c :: rest =>
      if (c = 101 ∨ c = 69) ∧ (scanSign rest).2.takeWhile isDigit ≠ [] then
        (c :: (scanSign rest).1 ++ (scanSign rest).2.takeWhile isDigit,
          (scanSign rest).2.dropWhile isDigit)
      else ([], c :: rest)

/-- `NUMBER_RE`: the whole part, the fraction with the exponent, and the rest. -/
def scanNumber (text : PyStr) : Option (PyStr × PyStr × PyStr) :=
  (scanWhole text).map fun (whole, rest) =>
    (whole, (scanFrac rest).1 ++ (scanExp (scanFrac rest).2).1, (scanExp (scanFrac rest).2).2)

/-- The text of a natural number. -/
def natText (n : ℕ) : PyStr := if n = 0 then [48] else (Nat.digits 10 n).reverse.map (48 + ·)

/-- `int.__repr__`. -/
def intText (z : ℤ) : PyStr := if z < 0 then 45 :: natText z.natAbs else natText z.natAbs

/-- The number of a list of digits. -/
def natValue (digits : PyStr) : ℕ := digits.foldl (fun n c => n * 10 + (c - 48)) 0

/-- `int(literal)`. -/
def intValue : PyStr → ℤ
  | [] => 0
  | c :: rest => if c = 45 then - (natValue rest : ℤ) else natValue (c :: rest)

/-- No character that could continue a number comes next. -/
def Ends (rest : PyStr) : Prop :=
  ∀ c ∈ rest.head?, isDigit c = false ∧ c ≠ 46 ∧ c ≠ 101 ∧ c ≠ 69 ∧ c ≠ 43 ∧ c ≠ 45

lemma ends_nil : Ends [] := by simp [Ends]

section

variable {s d r rest : PyStr}

lemma takeWhile_append (h : Ends rest) : (s ++ rest).takeWhile isDigit = s.takeWhile isDigit := by
  induction s with
  | nil =>
    cases rest with
    | nil => rfl
    | cons c rest => simp [(h c rfl).1]
  | cons c s ih =>
    rw [List.cons_append, List.takeWhile_cons, List.takeWhile_cons, ih]

lemma dropWhile_append (h : Ends rest) :
    (s ++ rest).dropWhile isDigit = s.dropWhile isDigit ++ rest := by
  induction s with
  | nil =>
    cases rest with
    | nil => rfl
    | cons c rest => simp [(h c rfl).1]
  | cons c s ih =>
    rw [List.cons_append, List.dropWhile_cons, List.dropWhile_cons, ih]
    split_ifs <;> rfl

lemma scanNatural_append (hs : scanNatural s = some (d, r)) (h : Ends rest) :
    scanNatural (s ++ rest) = some (d, r ++ rest) := by
  cases s with
  | nil => exact nomatch hs
  | cons c s =>
    rw [List.cons_append]
    simp only [scanNatural] at hs ⊢
    split_ifs at hs ⊢ with h1 h2
    · obtain ⟨rfl, rfl⟩ := Prod.mk.inj (Option.some.inj hs)
      rfl
    · obtain ⟨rfl, rfl⟩ := Prod.mk.inj (Option.some.inj hs)
      rw [takeWhile_append h, dropWhile_append h]

lemma scanWhole_append (hs : scanWhole s = some (d, r)) (h : Ends rest) :
    scanWhole (s ++ rest) = some (d, r ++ rest) := by
  cases s with
  | nil => exact nomatch hs
  | cons c s =>
    rw [List.cons_append]
    simp only [scanWhole] at hs ⊢
    split_ifs at hs ⊢ with h1
    · obtain ⟨⟨d', r'⟩, hnat, heq⟩ := Option.map_eq_some_iff.mp hs
      obtain ⟨rfl, rfl⟩ := Prod.mk.inj heq
      rw [scanNatural_append hnat h]
      rfl
    · exact scanNatural_append hs h

lemma scanFrac_append (s : PyStr) (h : Ends rest) :
    scanFrac (s ++ rest) = ((scanFrac s).1, (scanFrac s).2 ++ rest) := by
  cases s with
  | nil =>
    cases rest with
    | nil => rfl
    | cons c rest =>
      have hdot : ¬ (c = 46 ∧ rest.takeWhile isDigit ≠ []) := fun hc => (h c rfl).2.1 hc.1
      simp only [List.nil_append, scanFrac, if_neg hdot]
  | cons c s =>
    rw [List.cons_append]
    simp only [scanFrac, takeWhile_append h, dropWhile_append h]
    split_ifs <;> rfl

lemma scanSign_append (s : PyStr) (h : Ends rest) :
    scanSign (s ++ rest) = ((scanSign s).1, (scanSign s).2 ++ rest) := by
  cases s with
  | nil =>
    cases rest with
    | nil => rfl
    | cons c rest =>
      have hsign : ¬ (c = 43 ∨ c = 45) := by
        rintro (rfl | rfl)
        · exact (h 43 rfl).2.2.2.2.1 rfl
        · exact (h 45 rfl).2.2.2.2.2 rfl
      simp only [List.nil_append, scanSign, if_neg hsign]
  | cons c s =>
    rw [List.cons_append]
    simp only [scanSign]
    split_ifs <;> rfl

lemma scanExp_append (s : PyStr) (h : Ends rest) :
    scanExp (s ++ rest) = ((scanExp s).1, (scanExp s).2 ++ rest) := by
  cases s with
  | nil =>
    cases rest with
    | nil => rfl
    | cons c rest =>
      have hexp : ¬ ((c = 101 ∨ c = 69) ∧ (scanSign rest).2.takeWhile isDigit ≠ []) := by
        rintro ⟨rfl | rfl, -⟩
        · exact (h 101 rfl).2.2.1 rfl
        · exact (h 69 rfl).2.2.2.1 rfl
      simp only [List.nil_append, scanExp, if_neg hexp]
  | cons c s =>
    rw [List.cons_append]
    simp only [scanExp, scanSign_append s h, takeWhile_append h, dropWhile_append h]
    split_ifs <;> rfl

/-- **A number ends where it ended alone**, if no character of a number follows. -/
theorem scanNumber_append {whole tail r : PyStr} (hs : scanNumber s = some (whole, tail, r))
    (h : Ends rest) : scanNumber (s ++ rest) = some (whole, tail, r ++ rest) := by
  obtain ⟨⟨d, r'⟩, hwhole, heq⟩ := Option.map_eq_some_iff.mp hs
  obtain ⟨rfl, htail⟩ := Prod.mk.inj heq
  obtain ⟨rfl, rfl⟩ := Prod.mk.inj htail
  rw [scanNumber, scanWhole_append hwhole h, Option.map_some]
  dsimp only
  rw [scanFrac_append r' h, scanExp_append _ h]

end

/-! ### What is read is shorter -/

lemma scanNatural_length {s d r : PyStr} (h : scanNatural s = some (d, r)) :
    r.length < s.length := by
  cases s with
  | nil => cases h
  | cons c s =>
    rw [scanNatural] at h
    split_ifs at h
    · obtain ⟨-, rfl⟩ := Prod.mk.inj (Option.some.inj h)
      exact Nat.lt_succ_self _
    · obtain ⟨-, rfl⟩ := Prod.mk.inj (Option.some.inj h)
      exact Nat.lt_succ_of_le (List.dropWhile_suffix _).length_le

lemma scanWhole_length {s d r : PyStr} (h : scanWhole s = some (d, r)) : r.length < s.length := by
  cases s with
  | nil => cases h
  | cons c s =>
    rw [scanWhole] at h
    split_ifs at h
    · obtain ⟨⟨d', r'⟩, hnatural, heq⟩ := Option.map_eq_some_iff.mp h
      obtain ⟨-, rfl⟩ := Prod.mk.inj heq
      exact (scanNatural_length hnatural).trans (Nat.lt_succ_self _)
    · exact scanNatural_length h

lemma scanFrac_length (s : PyStr) : (scanFrac s).2.length ≤ s.length := by
  cases s with
  | nil => exact le_rfl
  | cons c s =>
    rw [scanFrac]
    split_ifs
    · exact ((List.dropWhile_suffix _).length_le).trans (Nat.le_succ _)
    · exact le_rfl

lemma scanSign_length (s : PyStr) : (scanSign s).2.length ≤ s.length := by
  cases s with
  | nil => exact le_rfl
  | cons c s =>
    rw [scanSign]
    split_ifs
    · exact Nat.le_succ _
    · exact le_rfl

lemma scanExp_length (s : PyStr) : (scanExp s).2.length ≤ s.length := by
  cases s with
  | nil => exact le_rfl
  | cons c s =>
    rw [scanExp]
    split_ifs
    · exact ((List.dropWhile_suffix _).length_le).trans ((scanSign_length s).trans (Nat.le_succ _))
    · exact le_rfl

lemma scanNumber_length {s whole tail r : PyStr} (h : scanNumber s = some (whole, tail, r)) :
    r.length < s.length := by
  obtain ⟨⟨d, r'⟩, hwhole, heq⟩ := Option.map_eq_some_iff.mp h
  obtain ⟨-, htail⟩ := Prod.mk.inj heq
  obtain ⟨-, rfl⟩ := Prod.mk.inj htail
  exact ((scanExp_length _).trans (scanFrac_length r')).trans_lt (scanWhole_length hwhole)

lemma map_consUnit {text rest : PyStr} {unit : ℕ × Bool} {units : List (ℕ × Bool)}
    (h : (scanUnits text).map (consUnit unit) = some (units, rest)) :
    ∃ units', scanUnits text = some (units', rest) ∧ units = unit :: units' := by
  obtain ⟨⟨units', rest'⟩, hunits, heq⟩ := Option.map_eq_some_iff.mp h
  obtain ⟨rfl, rfl⟩ := Prod.mk.inj heq
  exact ⟨units', hunits, rfl⟩

lemma scanUnits_length {text rest : PyStr} {units : List (ℕ × Bool)}
    (h : scanUnits text = some (units, rest)) : rest.length < text.length := by
  fun_induction scanUnits text generalizing units rest with
  | case2 =>
    obtain ⟨-, rfl⟩ := Prod.mk.inj (Option.some.inj h)
    exact Nat.lt_succ_self _
  | case4 w x y z text hquote ih =>
    obtain ⟨u, -, h⟩ := Option.bind_eq_some_iff.mp h
    obtain ⟨units', h, -⟩ := map_consUnit h
    have := ih h
    simp only [List.length_cons]
    omega
  | case6 e text hne hquote ih =>
    obtain ⟨u, -, h⟩ := Option.bind_eq_some_iff.mp h
    obtain ⟨units', h, -⟩ := map_consUnit h
    have := ih h
    simp only [List.length_cons]
    omega
  | case8 c text h1 h2 h3 ih =>
    obtain ⟨units', h, -⟩ := map_consUnit h
    exact (ih h).trans (Nat.lt_succ_self _)
  | case1 => cases h
  | case3 => cases h
  | case5 => cases h
  | case7 => cases h

lemma scanString_length {text rest s : PyStr} (h : scanString text = some (s, rest)) :
    rest.length < text.length := by
  obtain ⟨⟨units, rest'⟩, hunits, heq⟩ := Option.map_eq_some_iff.mp h
  obtain ⟨-, rfl⟩ := Prod.mk.inj heq
  exact scanUnits_length hunits

/-! ### Integers, there and back -/

lemma isDigit_natText {n c : ℕ} (h : c ∈ natText n) : isDigit c := by
  rw [natText] at h
  split_ifs at h with hn
  · rw [List.mem_singleton.mp h]
    rfl
  · obtain ⟨d, hd, rfl⟩ := List.mem_map.mp h
    have hlt : d < 10 := Nat.digits_lt_base (by norm_num) (List.mem_reverse.mp hd)
    simp only [isDigit, Bool.and_eq_true, decide_eq_true_eq]
    omega

/-- The text of a positive number starts with no zero. -/
lemma natText_of_ne_zero {n : ℕ} (hn : n ≠ 0) :
    ∃ c digits, natText n = c :: digits ∧ isDigit c ∧ c ≠ 48 := by
  have hne : Nat.digits 10 n ≠ [] := Nat.digits_ne_nil_iff_ne_zero.mpr hn
  have hlast := Nat.getLast_digit_ne_zero 10 hn
  have htext : natText n = (48 + (Nat.digits 10 n).getLast hne) ::
      (Nat.digits 10 n).dropLast.reverse.map (48 + ·) := by
    rw [natText, if_neg hn]
    conv_lhs => rw [← List.dropLast_append_getLast hne]
    simp
  refine ⟨_, _, htext, isDigit_natText (n := n) ?_, by omega⟩
  rw [htext]
  exact List.mem_cons_self

lemma scanNatural_natText (n : ℕ) : scanNatural (natText n) = some (natText n, []) := by
  by_cases hn : n = 0
  · subst hn
    rfl
  · obtain ⟨c, digits, htext, hdigit, hzero⟩ := natText_of_ne_zero hn
    have hall : ∀ d ∈ digits, isDigit d := fun d hd =>
      isDigit_natText (n := n) (by rw [htext]; exact List.mem_cons_of_mem c hd)
    rw [htext, scanNatural, if_neg hzero, if_pos hdigit, List.takeWhile_eq_self_iff.mpr hall,
      List.dropWhile_eq_nil_iff.mpr hall]

/-- The text of a number starts with a digit, so with no sign. -/
lemma natText_eq_cons (n : ℕ) : ∃ c digits, natText n = c :: digits ∧ c ≠ 45 := by
  by_cases hn : n = 0
  · subst hn
    exact ⟨48, [], rfl, by norm_num⟩
  · obtain ⟨c, digits, htext, hdigit, -⟩ := natText_of_ne_zero hn
    refine ⟨c, digits, htext, ?_⟩
    rintro rfl
    exact nomatch hdigit

lemma scanWhole_intText (z : ℤ) : scanWhole (intText z) = some (intText z, []) := by
  rw [intText]
  split_ifs with hneg
  · rw [scanWhole, if_pos rfl, scanNatural_natText]
    rfl
  · obtain ⟨c, digits, htext, hminus⟩ := natText_eq_cons z.natAbs
    rw [htext, scanWhole, if_neg hminus, ← htext]
    exact scanNatural_natText _

lemma scanNumber_intText (z : ℤ) : scanNumber (intText z) = some (intText z, [], []) := by
  rw [scanNumber, scanWhole_intText]
  rfl

/-- Digits written last first have the value of `Nat.ofDigits`. -/
lemma natValue_reverse (l : List ℕ) : natValue (l.reverse.map (48 + ·)) = Nat.ofDigits 10 l := by
  rw [natValue, List.foldl_map, List.foldl_reverse]
  induction l with
  | nil => rfl
  | cons d l ih =>
    rw [List.foldr_cons, ih, Nat.ofDigits_cons]
    omega

lemma natValue_natText (n : ℕ) : natValue (natText n) = n := by
  by_cases hn : n = 0
  · subst hn
    rfl
  · rw [natText, if_neg hn, natValue_reverse, Nat.ofDigits_digits]

lemma intValue_intText (z : ℤ) : intValue (intText z) = z := by
  rw [intText]
  split_ifs with hneg
  · rw [intValue, if_pos rfl, natValue_natText]
    omega
  · obtain ⟨c, digits, htext, hminus⟩ := natText_eq_cons z.natAbs
    rw [htext, intValue, if_neg hminus, ← htext, natValue_natText]
    omega

end JsonText

/-
JSON documents, as Python's `json.loads` reads them.

Next to a document that is none (`JSONDecodeError`), the reader has two limits of the interpreter:
an integer literal of too many digits is a `ValueError`, and containers nested too deeply are a
`RecursionError`.  Floats are a parameter (`FloatText`).

* `Json`: values, an object with its members in the order of their keys' first places;
* `scanValue`, `loads`: reading;
* `scan_fuel`: the fuel that `loads` gives the scanner is enough for every text.
-/
import Ai4Binance.Lib.Encoding
import Ai4Binance.Lib.Python

open Check

/-- A `float`: a finite one, or one that is no number or infinite. -/
inductive PyFloat (φ : Type) where
  | finite (x : φ)
  | infinite (negative : Bool)
  | nan
  deriving DecidableEq, Repr

/-- The finite floats: `float(literal)`, and `repr` of one. -/
class FloatText (φ : Type) where
  parse : PyStr → PyFloat φ
  repr : φ → PyStr

/-- A JSON value. -/
inductive Json (φ : Type) where
  | null
  | bool (b : Bool)
  | int (n : ℤ)
  | float (x : PyFloat φ)
  | str (s : PyStr)
  | arr (items : List (Json φ))
  | obj (members : List (PyStr × Json φ))

/-- What `json.loads` raises: `JSONDecodeError`, the `ValueError` of an integer literal, and
`RecursionError`. -/
inductive JsonFault where
  | decode
  | digits
  | recursion
  deriving DecidableEq, Repr

/-- The limits of the interpreter: `sys.get_int_max_str_digits()`, and how many containers may
stand in one another. -/
structure JsonLimits where
  maxDigits : ℕ := 4300
  maxDepth : ℕ

namespace Json

variable {φ : Type}

/-- `dict(pairs)`: a key keeps its first place and its last value. -/
def dictOf (pairs : List (PyStr × Json φ)) : List (PyStr × Json φ) :=
  pairs.foldl (fun members m =>
    if m.1 ∈ members.map Prod.fst then
      members.map fun m' => if m'.1 = m.1 then m else m'
    else members ++ [m]) []

/-- White space: `[ \t\n\r]*`. -/
def skipSpace (text : PyStr) : PyStr := text.dropWhile fun c => c = 32 || c = 9 || c = 10 || c = 13

/-- `null`, `true`, `false`, `NaN`, `Infinity` and `-Infinity`. -/
def constants : List (PyStr × Json φ) :=
  [(PyStr.of "null", .null), (PyStr.of "true", .bool true), (PyStr.of "false", .bool false),
    (PyStr.of "NaN", .float .nan), (PyStr.of "Infinity", .float (.infinite false)),
    (PyStr.of "-Infinity", .float (.infinite true))]

/-- A constant. -/
def scanConstant (text : PyStr) : Except JsonFault (Json φ × PyStr) :=
  match constants.find? fun constant => constant.1.isPrefixOf text with
  | some (name, value) => .ok (value, text.drop name.length)
  | none => .error .decode

/-- A key with its colon, and the text of its value. -/
def scanKey : PyStr → Except JsonFault (PyStr × PyStr)
  | 34 :: text => do
      let (key, rest) ← orRaise (JsonText.scanString text) .decode
      match skipSpace rest with
      | 58 :: rest => return (key, skipSpace rest)
      | _ => throw .decode
  | _ => .error .decode

variable [FloatText φ] (limits : JsonLimits)

/-- `_match_number`: a number without a fraction and an exponent is an `int`. -/
def number (whole tail : PyStr) : Except JsonFault (Json φ) :=
  if tail ≠ [] then .ok (.float (FloatText.parse (whole ++ tail)))
  else if limits.maxDigits < (whole.filter JsonText.isDigit).length then .error .digits
  else .ok (.int (JsonText.intValue whole))

/-- A number or a constant. -/
def scanScalar (text : PyStr) : Except JsonFault (Json φ × PyStr) :=
  match JsonText.scanNumber text with
  | some (whole, tail, rest) => do return (← number limits whole tail, rest)
  | none => scanConstant text

mutual

/-- `scan_once`: a value, and what follows it.  The fuel bounds the calls, and the depth the
containers that may be entered. -/
def scanValue : ℕ → ℕ → PyStr → Except JsonFault (Json φ × PyStr)
  | 0, _, _ => .error .decode
  | _ + 1, _, [] => .error .decode
  | fuel + 1, depth, c :: rest =>
      if c = 34 then do
        let (s, rest) ← orRaise (JsonText.scanString rest) .decode
        return (.str s, rest)
      else if c = 123 then
        match depth with
        | 0 => .error .recursion
        | depth + 1 =>
            if (skipSpace rest).head? = some 125 then .ok (.obj [], (skipSpace rest).tail)
            else do
              let (members, rest) ← scanMembers fuel depth (skipSpace rest)
              return (.obj (dictOf members), rest)
      else if c = 91 then
        match depth with
        | 0 => .error .recursion
        | depth + 1 =>
            if (skipSpace rest).head? = some 93 then .ok (.arr [], (skipSpace rest).tail)
            else do
              let (items, rest) ← scanItems fuel depth (skipSpace rest)
              return (.arr items, rest)
      else scanScalar limits (c :: rest)

/-- The items of an array, up to its bracket. -/
def scanItems : ℕ → ℕ → PyStr → Except JsonFault (List (Json φ) × PyStr)
  | 0, _, _ => .error .decode
  | fuel + 1, depth, text => do
      let (item, rest) ← scanValue fuel depth text
      match skipSpace rest with
      | 93 :: rest => return ([item], rest)
      | 44 :: rest =>
          let (items, rest) ← scanItems fuel depth (skipSpace rest)
          return (item :: items, rest)
      | _ => throw .decode

/-- The members of an object, up to its brace. -/
def scanMembers : ℕ → ℕ → PyStr → Except JsonFault (List (PyStr × Json φ) × PyStr)
  | 0, _, _ => .error .decode
  | fuel + 1, depth, text => do
      let (key, rest) ← scanKey text
      let (value, rest) ← scanValue fuel depth rest
      match skipSpace rest with
      | 125 :: rest => return ([(key, value)], rest)
      | 44 :: rest =>
          let (members, rest) ← scanMembers fuel depth (skipSpace rest)
          return ((key, value) :: members, rest)
      | _ => throw .decode

end

/-- `json.loads(text)`. -/
def loadsText (text : PyStr) : Except JsonFault (Json φ) := do
  let (value, rest) ← scanValue limits (2 * text.length) limits.maxDepth (skipSpace text)
  if skipSpace rest = [] then return value else throw .decode

/-- `json.loads(data)`; a `UnicodeDecodeError` is told from a `JSONDecodeError` by no caller. -/
def loads (data : Bytes) : Except JsonFault (Json φ) := do
  loadsText limits (← orRaise (Encoding.decodeDocument data) .decode)

/-! ### Enough fuel -/

section Fuel

variable {text rest key : PyStr} {value : Json φ} {items : List (Json φ)}
  {members : List (PyStr × Json φ)} {fuel depth : ℕ}

lemma length_skipSpace (text : PyStr) : (skipSpace text).length ≤ text.length :=
  (List.dropWhile_suffix _).length_le

omit [FloatText φ] in
lemma scanConstant_length (h : scanConstant text = .ok (value, rest)) :
    rest.length < text.length := by
  unfold scanConstant at h
  split at h
  · next name value' hfind =>
    obtain ⟨-, rfl⟩ := Prod.mk.inj (Except.ok.inj h)
    have hprefix : name <+: text :=
      List.isPrefixOf_iff_prefix.mp (List.find?_some (a := (name, value')) hfind)
    have hpos : 0 < name.length := by
      have hall : ∀ c ∈ (constants : List (PyStr × Json φ)), 0 < c.1.length := by
        simp [constants, PyStr.of]
      exact hall _ (List.mem_of_find?_eq_some hfind)
    rw [List.length_drop]
    have := hprefix.length_le
    omega
  · cases h

variable {limits} in
lemma scanScalar_length (h : scanScalar limits text = .ok (value, rest)) :
    rest.length < text.length := by
  unfold scanScalar at h
  split at h
  · next whole tail rest' hnumber =>
    obtain ⟨_, -, h⟩ := bind_eq_ok.mp h
    obtain ⟨-, rfl⟩ := Prod.mk.inj (pure_eq_ok.mp h)
    exact JsonText.scanNumber_length hnumber
  · exact scanConstant_length h

omit [FloatText φ] in
lemma scanKey_length (h : scanKey text = .ok (key, rest)) : rest.length < text.length := by
  unfold scanKey at h
  split at h
  · next text =>
    obtain ⟨⟨key', rest'⟩, hkey, h⟩ := bind_eq_ok.mp h
    have hlt := JsonText.scanString_length (orRaise_eq_ok.mp hkey)
    have hskip := length_skipSpace rest'
    dsimp only at h
    split at h
    · next rest'' hcolon =>
      obtain ⟨-, rfl⟩ := Prod.mk.inj (pure_eq_ok.mp h)
      have hskip' := length_skipSpace rest''
      rw [hcolon] at hskip
      simp only [List.length_cons] at *
      omega
    · cases h
  · cases h

/-- What a scanner leaves is shorter than its text. -/
structure Shorter (fuel : ℕ) : Prop where
  value : ∀ {depth text value rest}, scanValue limits fuel depth text = .ok ((value : Json φ), rest) →
    rest.length < text.length
  items : ∀ {depth text items rest},
    scanItems limits fuel depth text = .ok ((items : List (Json φ)), rest) →
      rest.length < text.length
  members : ∀ {depth text members rest},
    scanMembers limits fuel depth text = .ok ((members : List (PyStr × Json φ)), rest) →
      rest.length < text.length

lemma scan_shorter (fuel : ℕ) : Shorter (φ := φ) limits fuel := by
  induction fuel with
  | zero => exact ⟨nofun, nofun, nofun⟩
  | succ fuel ih =>
      refine ⟨fun {depth text value rest} h => ?_, fun {depth text items rest} h => ?_,
        fun {depth text members rest} h => ?_⟩
      · cases text with
        | nil => cases h
        | cons c text =>
            have hskip := length_skipSpace text
            rw [List.length_cons]
            rw [scanValue.eq_def] at h
            dsimp only at h
            split_ifs at h with hquote hbrace hempty hbracket hempty
            · obtain ⟨⟨s, rest'⟩, hstring, h⟩ := bind_eq_ok.mp h
              obtain ⟨-, rfl⟩ := Prod.mk.inj (pure_eq_ok.mp h)
              exact (JsonText.scanString_length (orRaise_eq_ok.mp hstring)).trans
                (Nat.lt_succ_self _)
            · cases depth with
              | zero => cases h
              | succ depth =>
                  obtain ⟨-, rfl⟩ := Prod.mk.inj (Except.ok.inj h)
                  rw [List.length_tail]
                  omega
            · cases depth with
              | zero => cases h
              | succ depth =>
                  obtain ⟨⟨members, rest'⟩, hmembers, h⟩ := bind_eq_ok.mp h
                  obtain ⟨-, rfl⟩ := Prod.mk.inj (pure_eq_ok.mp h)
                  have := ih.members hmembers
                  dsimp only
                  omega
            · cases depth with
              | zero => cases h
              | succ depth =>
                  obtain ⟨-, rfl⟩ := Prod.mk.inj (Except.ok.inj h)
                  rw [List.length_tail]
                  omega
            · cases depth with
              | zero => cases h
              | succ depth =>
                  obtain ⟨⟨items, rest'⟩, hitems, h⟩ := bind_eq_ok.mp h
                  obtain ⟨-, rfl⟩ := Prod.mk.inj (pure_eq_ok.mp h)
                  have := ih.items hitems
                  dsimp only
                  omega
            · exact scanScalar_length h
      · rw [scanItems] at h
        obtain ⟨⟨item, rest'⟩, hitem, h⟩ := bind_eq_ok.mp h
        have hlt := ih.value hitem
        have hskip := length_skipSpace rest'
        dsimp only at h
        split at h
        · next rest'' heq =>
          obtain ⟨-, rfl⟩ := Prod.mk.inj (pure_eq_ok.mp h)
          rw [heq, List.length_cons] at hskip
          omega
        · next rest'' heq =>
          obtain ⟨⟨items', rest₃⟩, hitems, h⟩ := bind_eq_ok.mp h
          obtain ⟨-, rfl⟩ := Prod.mk.inj (pure_eq_ok.mp h)
          have hlt' := ih.items hitems
          have hskip' := length_skipSpace rest''
          rw [heq, List.length_cons] at hskip
          dsimp only
          omega
        · cases h
      · rw [scanMembers] at h
        obtain ⟨⟨key, value⟩, hkey, h⟩ := bind_eq_ok.mp h
        have hlt := scanKey_length hkey
        obtain ⟨⟨member, rest'⟩, hvalue, h⟩ := bind_eq_ok.mp h
        have hlt' := ih.value hvalue
        have hskip := length_skipSpace rest'
        dsimp only at h hlt'
        split at h
        · next rest'' heq =>
          obtain ⟨-, rfl⟩ := Prod.mk.inj (pure_eq_ok.mp h)
          rw [heq, List.length_cons] at hskip
          omega
        · next rest'' heq =>
          obtain ⟨⟨members', rest₃⟩, hmembers, h⟩ := bind_eq_ok.mp h
          obtain ⟨-, rfl⟩ := Prod.mk.inj (pure_eq_ok.mp h)
          have hlt₂ := ih.members hmembers
          have hskip' := length_skipSpace rest''
          rw [heq, List.length_cons] at hskip
          dsimp only
          omega
        · cases h

/-- Two computations that go on alike. -/
lemma bind_congr {ε α β : Type} {x y : Except ε α} {f g : α → Except ε β} (hxy : x = y)
    (h : ∀ a, y = .ok a → f a = g a) : (x >>= f) = (y >>= g) := by
  subst hxy
  cases x with
  | error e => rfl
  | ok a => exact h a rfl

/-- **The fuel is enough**: with more of it a text is scanned alike. -/
theorem scan_fuel (n : ℕ) : ∀ text : PyStr, text.length ≤ n → ∀ depth,
    (∀ m, 2 * text.length ≤ m →
      scanValue (φ := φ) limits m depth text = scanValue limits (2 * text.length) depth text) ∧
    (∀ m, 2 * text.length + 1 ≤ m →
      scanItems (φ := φ) limits m depth text = scanItems limits (2 * text.length + 1) depth text) ∧
    (∀ m, 2 * text.length + 1 ≤ m → scanMembers (φ := φ) limits m depth text =
      scanMembers limits (2 * text.length + 1) depth text) := by
  induction n with
  | zero =>
      intro text htext depth
      obtain rfl := List.eq_nil_of_length_eq_zero (Nat.le_zero.mp htext)
      refine ⟨fun m _ => ?_, fun m hm => ?_, fun m hm => ?_⟩
      · cases m <;> rfl
      · obtain ⟨m, rfl⟩ := Nat.exists_eq_add_of_le' hm
        cases m <;> rfl
      · obtain ⟨m, rfl⟩ := Nat.exists_eq_add_of_le' hm
        rfl
  | succ n ih =>
      intro text htext depth
      -- the value first: the other two begin with one
      have hvalue : ∀ text : PyStr, text.length ≤ n + 1 → ∀ depth m, 2 * text.length ≤ m →
          scanValue (φ := φ) limits m depth text =
            scanValue limits (2 * text.length) depth text := by
        intro text htext depth m hm
        cases text with
        | nil => cases m <;> rfl
        | cons c text =>
            rw [List.length_cons] at htext hm ⊢
            have hskip := length_skipSpace text
            obtain ⟨m, rfl⟩ := Nat.exists_eq_add_of_le' (show 1 ≤ m by omega)
            rw [show 2 * (text.length + 1) = 2 * text.length + 1 + 1 by ring, scanValue.eq_def,
              scanValue.eq_def limits (2 * text.length + 1 + 1)]
            dsimp only
            split_ifs with hquote hbrace hempty hbracket hempty
            · rfl
            · rfl
            · cases depth with
              | zero => rfl
              | succ depth =>
                  obtain ⟨-, -, hmembers⟩ := ih (skipSpace text) (by omega) depth
                  dsimp only
                  rw [hmembers m (by omega), hmembers (2 * text.length + 1) (by omega)]
            · rfl
            · cases depth with
              | zero => rfl
              | succ depth =>
                  obtain ⟨-, hitems, -⟩ := ih (skipSpace text) (by omega) depth
                  dsimp only
                  rw [hitems m (by omega), hitems (2 * text.length + 1) (by omega)]
            · rfl
      refine ⟨hvalue text htext depth, fun m hm => ?_, fun m hm => ?_⟩
      · obtain ⟨m, rfl⟩ := Nat.exists_eq_add_of_le' (show 1 ≤ m by omega)
        rw [scanItems, scanItems]
        refine bind_congr (hvalue text htext depth m (by omega)) fun ⟨item, rest⟩ hitem => ?_
        have hlt := (scan_shorter limits _).value hitem
        have hskip := length_skipSpace rest
        dsimp only
        split
        · rfl
        · next rest' heq =>
          have hskip' := length_skipSpace rest'
          rw [heq, List.length_cons] at hskip
          obtain ⟨-, hitems, -⟩ := ih (skipSpace rest') (by omega) depth
          rw [hitems m (by omega), hitems (2 * text.length) (by omega)]
        · rfl
      · obtain ⟨m, rfl⟩ := Nat.exists_eq_add_of_le' (show 1 ≤ m by omega)
        rw [scanMembers, scanMembers]
        refine bind_congr rfl fun ⟨key, rest⟩ hkey => ?_
        have hlt := scanKey_length hkey
        dsimp only
        refine bind_congr ?_ fun ⟨value, rest'⟩ hmember => ?_
        · rw [hvalue rest (by omega) depth m (by omega),
            hvalue rest (by omega) depth (2 * text.length) (by omega)]
        have hlt' := (scan_shorter limits _).value hmember
        have hskip := length_skipSpace rest'
        dsimp only
        split
        · rfl
        · next rest'' heq =>
          have hskip' := length_skipSpace rest''
          rw [heq, List.length_cons] at hskip
          obtain ⟨-, -, hmembers⟩ := ih (skipSpace rest'') (by omega) depth
          rw [hmembers m (by omega), hmembers (2 * text.length) (by omega)]
        · rfl

variable {limits} in
/-- `loadsText` with any fuel that is enough. -/
lemma loadsText_eq (m : ℕ) (hm : 2 * text.length ≤ m) :
    loadsText (φ := φ) limits text = (do
      let (value, rest) ← scanValue limits m limits.maxDepth (skipSpace text)
      if skipSpace rest = [] then return value else throw .decode) := by
  have hskip := length_skipSpace text
  obtain ⟨hfuel, -, -⟩ := scan_fuel (φ := φ) limits _ (skipSpace text) le_rfl limits.maxDepth
  rw [loadsText, hfuel _ (by omega), hfuel m (by omega)]

end Fuel

end Json

/-
Text operations of Python's `str`, on `String`.

`str.strip` removes the characters `str.isspace` accepts from both ends, and
`str.upper` maps each character by the full upper-case mapping of the Unicode
character database, independently of its neighbours.  The database itself is a
parameter (`UnicodeData`), fixed on the ASCII range, with an upper-case mapping
that is idempotent: every result about text holds for every such table.

* `strip`, `upper`, `isBlank`: the operations, with the fixed points of the first,
  `strip_eq_self`;
* `strip_strip`, `upper_upper`: both are idempotent;
* `UpperKeepsText`: upper case makes no white space, so normalizing a symbol is
  idempotent too (`upper_strip_upper_strip`).
-/
import Mathlib

namespace Text

/-- The characters `str.isspace` accepts. -/
def isSpace (c : Char) : Bool :=
  let n := c.toNat
  (9 ≤ n && n ≤ 13) || (28 ≤ n && n ≤ 32) || n == 0x85 || n == 0xa0 || n == 0x1680 ||
    (0x2000 ≤ n && n ≤ 0x200a) || n == 0x2028 || n == 0x2029 || n == 0x202f ||
    n == 0x205f || n == 0x3000

lemma isSpace_of_graphic {c : Char} (h1 : 33 ≤ c.toNat) (h2 : c.toNat ≤ 126) :
    isSpace c = false := by
  simp only [isSpace, Bool.or_eq_false_iff, Bool.and_eq_false_iff, decide_eq_false_iff_not,
    beq_eq_false_iff_ne]
  omega

lemma toNat_of_isAlphanum {c : Char} (h : c.isAlphanum) : 48 ≤ c.toNat ∧ c.toNat ≤ 122 := by
  simp only [Char.isAlphanum, Char.isAlpha, Char.isUpper, Char.isLower, Char.isDigit,
    Bool.or_eq_true, Bool.and_eq_true, decide_eq_true_eq, ge_iff_le] at h
  rcases h with (⟨h1, h2⟩ | ⟨h1, h2⟩) | ⟨h1, h2⟩
  · have h1' : 65 ≤ c.toNat := h1
    have h2' : c.toNat ≤ 90 := h2
    omega
  · have h1' : 97 ≤ c.toNat := h1
    have h2' : c.toNat ≤ 122 := h2
    omega
  · have h1' : 48 ≤ c.toNat := h1
    have h2' : c.toNat ≤ 57 := h2
    omega

/-- The columns of the Unicode character database that text handling reads:
the full upper-case mapping, the value of a decimal digit and the alphanumeric
characters. -/
class UnicodeData where
  upperChar : Char → List Char
  digitValue : Char → Option ℕ
  isAlnum : Char → Bool
  upperChar_ascii : ∀ c : Char, c.toNat < 128 → upperChar c = [c.toUpper]
  upperChar_upper : ∀ c : Char, (upperChar c).flatMap upperChar = upperChar c
  isAlnum_ascii : ∀ c : Char, c.toNat < 128 → isAlnum c = c.isAlphanum
  isAlnum_isSpace : ∀ c : Char, isAlnum c → isSpace c = false
  digitValue_ascii : ∀ c : Char, c.toNat < 128 →
    digitValue c = if c.isDigit then some (c.toNat - 48) else none

/-- The tables that know ASCII only. -/
instance asciiData : UnicodeData where
  upperChar c := [c.toUpper]
  digitValue c := if c.isDigit then some (c.toNat - 48) else none
  isAlnum c := c.isAlphanum
  upperChar_ascii _ _ := rfl
  upperChar_upper c := by simp [Char.toUpper_toUpper_eq_toUpper]
  isAlnum_ascii _ _ := rfl
  isAlnum_isSpace c h := by
    have hc := toNat_of_isAlphanum h
    exact isSpace_of_graphic (by omega) (by omega)
  digitValue_ascii _ _ := rfl

/-- `str.strip()`. -/
def strip (s : String) : String :=
  String.ofList ((s.toList.dropWhile isSpace).rdropWhile isSpace)

/-- `str.upper()`. -/
def upper [UnicodeData] (s : String) : String :=
  String.ofList (s.toList.flatMap UnicodeData.upperChar)

/-- `not value.strip()`: there is nothing but white space (`isBlank_iff`). -/
def isBlank (s : String) : Bool := s.toList.all isSpace

/-- `value.isascii() and value.isalnum()`. -/
def isAsciiAlnum (s : String) : Bool := s ≠ "" && s.toList.all fun c => c.isAlphanum

/-! ### Fixed points -/

lemma rdropWhile_eq_self {α : Type*} {p : α → Bool} {l : List α} (h : ∀ a ∈ l, p a = false) :
    l.rdropWhile p = l := by
  rw [List.rdropWhile_eq_self_iff]
  exact fun hl => by simp [h _ (List.getLast_mem hl)]

lemma dropWhile_eq_self {α : Type*} {p : α → Bool} {l : List α} (h : ∀ a ∈ l, p a = false) :
    l.dropWhile p = l := by
  cases l with
  | nil => rfl
  | cons a l => rw [List.dropWhile_cons_of_neg (by simp [h a])]

/-- A text without white space is left alone by `strip`. -/
lemma strip_eq_self {s : String} (h : ∀ c ∈ s.toList, isSpace c = false) : strip s = s := by
  rw [strip, dropWhile_eq_self h, rdropWhile_eq_self h, String.ofList_toList]

lemma dropWhile_of_sublist_rdrop {α : Type*} {p : α → Bool} (l : List α) :
    ((l.dropWhile p).rdropWhile p).dropWhile p = (l.dropWhile p).rdropWhile p := by
  cases hd : l.dropWhile p with
  | nil => simp
  | cons a t =>
      have ha : p a = false := by
        have h := List.head_dropWhile_not p (l := l) (by simp [hd])
        simpa [hd] using h
      cases ht : (a :: t).rdropWhile p with
      | nil => rfl
      | cons b u =>
          have hpre : b :: u <+: a :: t := ht ▸ List.rdropWhile_prefix p (a :: t)
          obtain rfl : b = a := (List.cons_prefix_cons.mp hpre).1
          rw [List.dropWhile_cons_of_neg (by simp [ha])]

/-- Stripping is idempotent. -/
lemma strip_strip (s : String) : strip (strip s) = strip s := by
  simp only [strip, String.toList_ofList]
  rw [dropWhile_of_sublist_rdrop, List.rdropWhile_idempotent]

lemma isBlank_iff (s : String) : isBlank s ↔ strip s = "" := by
  have hempty : strip s = "" ↔ (s.toList.dropWhile isSpace).rdropWhile isSpace = [] := by
    rw [strip, ← String.ofList_nil, String.ofList_inj]
  rw [hempty, List.rdropWhile_eq_nil_iff, isBlank, List.all_eq_true]
  constructor
  · exact fun h c hc => h c (List.dropWhile_subset isSpace hc)
  · intro h c hc
    by_contra hnot
    have hnil : s.toList.dropWhile isSpace = [] := by
      by_contra hne
      have hhead := List.head_dropWhile_not isSpace (l := s.toList) (by simpa using hne)
      rw [h _ (List.head_mem hne)] at hhead
      exact Bool.noConfusion hhead
    exact hnot (List.dropWhile_eq_nil_iff.mp hnil c hc)

/-- Upper-casing is idempotent. -/
lemma upper_upper [UnicodeData] (s : String) : upper (upper s) = upper s := by
  simp only [upper, String.toList_ofList, List.flatMap_assoc, UnicodeData.upperChar_upper]

lemma isBlank_eq_false {s : String} (hne : s ≠ "") (h : ∀ c ∈ s.toList, isSpace c = false) :
    isBlank s = false := by
  by_contra hb
  have hstrip := (isBlank_iff s).mp (by simpa using hb)
  rw [strip_eq_self h] at hstrip
  exact hne hstrip

/-! ### ASCII letters and digits -/

lemma toNat_toUpper {c : Char} (h : 48 ≤ c.toNat ∧ c.toNat ≤ 122) :
    48 ≤ c.toUpper.toNat ∧ c.toUpper.toNat ≤ 122 := by
  by_cases hl : 'a'.val ≤ c.val ∧ c.val ≤ 'z'.val
  · have hval : c.toUpper.val = c.val + ('A'.val - 'a'.val) := by rw [Char.toUpper, dif_pos hl]
    have hnat : c.toUpper.toNat = (c.toNat + 4294967264) % 4294967296 := by
      have : c.toUpper.toNat = c.toUpper.val.toNat := rfl
      rw [this, hval, UInt32.toNat_add]
      rfl
    have h1 : 97 ≤ c.toNat := hl.1
    omega
  · rw [Char.toUpper, dif_neg hl]
    exact h

section Alnum

variable {s : String} (h : isAsciiAlnum s)

include h

lemma ne_empty_of_alnum : s ≠ "" := by
  simp only [isAsciiAlnum, Bool.and_eq_true, decide_eq_true_eq] at h
  exact h.1

lemma toNat_of_alnum : ∀ c ∈ s.toList, 48 ≤ c.toNat ∧ c.toNat ≤ 122 := by
  simp only [isAsciiAlnum, Bool.and_eq_true, List.all_eq_true] at h
  exact fun c hc => toNat_of_isAlphanum (h.2 c hc)

lemma strip_of_alnum : strip s = s :=
  strip_eq_self fun c hc => by
    have := toNat_of_alnum h c hc
    exact isSpace_of_graphic (by omega) (by omega)

lemma not_isBlank_of_alnum : isBlank s = false :=
  isBlank_eq_false (ne_empty_of_alnum h) fun c hc => by
    have := toNat_of_alnum h c hc
    exact isSpace_of_graphic (by omega) (by omega)

lemma toList_upper_of_alnum [UnicodeData] : (upper s).toList = s.toList.map Char.toUpper := by
  have hcongr : s.toList.flatMap UnicodeData.upperChar = s.toList.flatMap fun c => [c.toUpper] :=
    List.flatMap_congr fun c hc => by
      have := toNat_of_alnum h c hc
      exact UnicodeData.upperChar_ascii c (by omega)
  rw [upper, String.toList_ofList, hcongr, List.map_eq_flatMap]

lemma isSpace_upper_of_alnum [UnicodeData] : ∀ c ∈ (upper s).toList, isSpace c = false := by
  rw [toList_upper_of_alnum h]
  intro c hc
  obtain ⟨a, ha, rfl⟩ := List.mem_map.mp hc
  have := toNat_toUpper (toNat_of_alnum h a ha)
  exact isSpace_of_graphic (by omega) (by omega)

/-- The normal form of an ASCII alphanumeric text is its upper-case text, and
normalizing it again changes nothing. -/
lemma upper_strip_upper_of_alnum [UnicodeData] : upper (strip (upper s)) = upper s := by
  rw [strip_eq_self (isSpace_upper_of_alnum h), upper_upper]

lemma not_isBlank_upper_of_alnum [UnicodeData] : isBlank (upper s) = false := by
  refine isBlank_eq_false (fun he => ?_) (isSpace_upper_of_alnum h)
  have hnil := congrArg String.toList he
  rw [toList_upper_of_alnum h] at hnil
  have hs : s.toList = [] := by simpa using hnil
  exact ne_empty_of_alnum h (by rw [← String.ofList_toList (s := s), hs])

end Alnum

/-! ### Upper case and white space -/

/-- A character that is no white space has an upper-case form, which has none. -/
class UpperKeepsText [UnicodeData] : Prop where
  upperChar_ne_nil : ∀ c, isSpace c = false → UnicodeData.upperChar c ≠ []
  isSpace_upperChar : ∀ c, isSpace c = false → ∀ d ∈ UnicodeData.upperChar c, isSpace d = false

instance : @UpperKeepsText asciiData where
  upperChar_ne_nil _ _ := List.cons_ne_nil _ _
  isSpace_upperChar c hc d hd := by
    obtain rfl := List.mem_singleton.mp hd
    by_cases hlower : 97 ≤ c.toNat ∧ c.toNat ≤ 122
    · have hupper := toNat_toUpper (c := c) (by omega)
      exact isSpace_of_graphic (by omega) (by omega)
    · have hsame : c.toUpper = c := by
        rw [Char.toUpper, dif_neg]
        rintro ⟨h1, h2⟩
        exact hlower ⟨h1, h2⟩
      rw [hsame]
      exact hc

/-- A text without white space at its ends is left alone by `strip`. -/
lemma strip_eq_self_of_ends {s : String} (hhead : ∀ c ∈ s.toList.head?, isSpace c = false)
    (hlast : ∀ c ∈ s.toList.getLast?, isSpace c = false) : strip s = s := by
  have hdrop : s.toList.dropWhile isSpace = s.toList := by
    cases hs : s.toList with
    | nil => rfl
    | cons a l => rw [List.dropWhile_cons_of_neg (by simp [hhead a (by rw [hs]; rfl)])]
  have hrdrop : s.toList.rdropWhile isSpace = s.toList := by
    rw [List.rdropWhile_eq_self_iff]
    intro hne
    simp [hlast _ (List.getLast_mem_getLast? hne)]
  rw [strip, hdrop, hrdrop, String.ofList_toList]

lemma head_strip {s : String} : ∀ c ∈ (strip s).toList.head?, isSpace c = false := by
  intro c hc
  rw [strip, String.toList_ofList] at hc
  have hdrop := dropWhile_of_sublist_rdrop (p := isSpace) s.toList
  cases hl : (s.toList.dropWhile isSpace).rdropWhile isSpace with
  | nil =>
    rw [hl] at hc
    cases hc
  | cons a l =>
    rw [hl] at hc hdrop
    obtain rfl := Option.some.inj hc
    by_contra hspace
    rw [List.dropWhile_cons_of_pos (by simpa using hspace)] at hdrop
    have hlength := (List.dropWhile_sublist isSpace (l := l)).length_le
    rw [hdrop, List.length_cons] at hlength
    omega

lemma getLast_strip {s : String} : ∀ c ∈ (strip s).toList.getLast?, isSpace c = false := by
  intro c hc
  rw [strip, String.toList_ofList] at hc
  obtain ⟨hne, rfl⟩ := List.mem_getLast?_eq_getLast hc
  simpa using List.rdropWhile_last_not isSpace (s.toList.dropWhile isSpace) hne

/-- A stripped text is left alone by `strip` in upper case too. -/
lemma strip_upper_strip [UnicodeData] [UpperKeepsText] (s : String) :
    strip (upper (strip s)) = upper (strip s) := by
  refine strip_eq_self_of_ends (fun c hc => ?_) fun c hc => ?_
  · rw [upper, String.toList_ofList] at hc
    cases hl : (strip s).toList with
    | nil =>
      rw [hl] at hc
      cases hc
    | cons a l =>
      have ha := head_strip (s := s) a (by rw [hl]; rfl)
      rw [hl, List.flatMap_cons,
        List.head?_append_of_ne_nil _ (UpperKeepsText.upperChar_ne_nil a ha)] at hc
      exact UpperKeepsText.isSpace_upperChar a ha c (List.mem_of_mem_head? hc)
  · rw [upper, String.toList_ofList] at hc
    rcases List.eq_nil_or_concat (strip s).toList with hl | ⟨l, a, hl⟩
    · rw [hl] at hc
      cases hc
    · have ha := getLast_strip (s := s) a (by rw [hl]; simp)
      rw [hl, List.concat_eq_append, List.flatMap_append, List.flatMap_singleton,
        List.getLast?_append_of_ne_nil _ (UpperKeepsText.upperChar_ne_nil a ha)] at hc
      exact UpperKeepsText.isSpace_upperChar a ha c (List.mem_of_mem_getLast? hc)

/-- Normalizing a symbol again changes nothing. -/
lemma upper_strip_upper_strip [UnicodeData] [UpperKeepsText] (s : String) :
    upper (strip (upper (strip s))) = upper (strip s) := by
  rw [strip_upper_strip, upper_upper]

lemma prefix_toList_append (p s : String) : p.toList <+: (p ++ s).toList := by
  rw [String.toList_append]
  exact List.prefix_append _ _

/-- What stands before a text, and has no white space at its ends, is kept by `strip`. -/
lemma prefix_strip_append {p s : String} (hne : p ≠ "")
    (hhead : p.toList.head?.any isSpace = false) (hlast : p.toList.getLast?.any isSpace = false) :
    p.toList <+: (strip (p ++ s)).toList := by
  have hdrop : (p.toList ++ s.toList).dropWhile isSpace = p.toList ++ s.toList := by
    cases hp : p.toList with
    | nil => exact absurd (String.toList_eq_nil_iff.mp hp) hne
    | cons c cs =>
        rw [hp] at hhead
        rw [List.cons_append, List.dropWhile_cons_of_neg]
        simpa using hhead
  rw [strip, String.toList_ofList, String.toList_append, hdrop]
  induction s.toList using List.reverseRecOn with
  | nil =>
      rw [List.append_nil, List.rdropWhile_eq_self_iff.mpr]
      intro hl
      rw [List.getLast?_eq_some_getLast hl] at hlast
      simpa using hlast
  | append_singleton l c ih =>
      rw [← List.append_assoc]
      by_cases hc : isSpace c
      · rw [List.rdropWhile_concat_pos _ _ _ hc]
        exact ih
      · rw [List.rdropWhile_concat_neg _ _ _ hc, List.append_assoc]
        exact List.prefix_append _ _

end Text

/-
JSON texts before more text.

A string, an array and an object end where they are closed, whatever follows; a number ends where no
character of a number follows.  So of two texts of objects neither begins with the other.

* `scanNumber_more`: a number that was ended is ended in a longer text;
* `scan_more`: **a value that was ended** is read alike before any other text;
* `loadsText_append`: behind the text of an object there is white space or no document;
-/
import Ai4Binance.Lib.Json

open Check

namespace JsonText

variable {s d r more : PyStr}

/-- What is left ends a number, and is there. -/
def Stops (r : PyStr) : Prop := r ≠ [] ∧ Ends r

lemma takeWhile_more (h : s.dropWhile isDigit ≠ []) :
    (s ++ more).takeWhile isDigit = s.takeWhile isDigit ∧
      (s ++ more).dropWhile isDigit = s.dropWhile isDigit ++ more := by
  induction s with
  | nil => exact absurd rfl h
  | cons c s ih =>
      rw [List.cons_append, List.takeWhile_cons, List.takeWhile_cons, List.dropWhile_cons,
        List.dropWhile_cons]
      split_ifs with hc
      · rw [List.dropWhile_cons, if_pos hc] at h
        exact ⟨congrArg (c :: ·) (ih h).1, (ih h).2⟩
      · exact ⟨rfl, rfl⟩

lemma scanNatural_more (hs : scanNatural s = some (d, r)) (h : r ≠ []) :
    scanNatural (s ++ more) = some (d, r ++ more) := by
  cases s with
  | nil => cases hs
  | cons c s =>
      rw [List.cons_append, scanNatural]
      rw [scanNatural] at hs
      split_ifs at hs ⊢ with hzero hdigit
      · obtain ⟨rfl, rfl⟩ := Prod.mk.inj (Option.some.inj hs)
        rfl
      · obtain ⟨rfl, rfl⟩ := Prod.mk.inj (Option.some.inj hs)
        rw [(takeWhile_more h).1, (takeWhile_more h).2]

lemma scanWhole_more (hs : scanWhole s = some (d, r)) (h : r ≠ []) :
    scanWhole (s ++ more) = some (d, r ++ more) := by
  cases s with
  | nil => cases hs
  | cons c s =>
      rw [List.cons_append, scanWhole]
      rw [scanWhole] at hs
      split_ifs at hs ⊢ with hminus
      · obtain ⟨⟨d', r'⟩, hnatural, heq⟩ := Option.map_eq_some_iff.mp hs
        obtain ⟨rfl, rfl⟩ := Prod.mk.inj heq
        rw [scanNatural_more hnatural h]
        rfl
      · rw [← List.cons_append, scanNatural_more hs h]

/-- A fraction that was ended, by something other than its point. -/
lemma scanFrac_more {c : ℕ} {t : PyStr} (h : (scanFrac s).2 = c :: t) (hc : c ≠ 46) :
    scanFrac (s ++ more) = ((scanFrac s).1, (scanFrac s).2 ++ more) := by
  cases s with
  | nil => cases h
  | cons c' s =>
      rw [List.cons_append]
      by_cases hpoint : c' = 46 ∧ s.takeWhile isDigit ≠ []
      · rw [scanFrac, if_pos hpoint] at h
        obtain ⟨htake, hdrop⟩ := @takeWhile_more _ more (h ▸ List.cons_ne_nil c t)
        rw [scanFrac, scanFrac, htake, hdrop, if_pos hpoint, if_pos hpoint]
      · rw [scanFrac, if_neg hpoint] at h
        obtain ⟨rfl, -⟩ := List.cons.inj h
        rw [scanFrac, scanFrac, if_neg fun hp => hc hp.1, if_neg hpoint]
        rfl

lemma scanSign_more (h : (scanSign s).2 ≠ []) :
    scanSign (s ++ more) = ((scanSign s).1, (scanSign s).2 ++ more) := by
  cases s with
  | nil => exact absurd rfl h
  | cons c s =>
      rw [List.cons_append, scanSign, scanSign]
      split_ifs <;> rfl

/-- An exponent that was ended, by something other than its letter. -/
lemma scanExp_more {c : ℕ} {t : PyStr} (h : (scanExp s).2 = c :: t) (hc : c ≠ 101 ∧ c ≠ 69) :
    scanExp (s ++ more) = ((scanExp s).1, (scanExp s).2 ++ more) := by
  cases s with
  | nil => cases h
  | cons c' s =>
      rw [List.cons_append]
      by_cases hletter : (c' = 101 ∨ c' = 69) ∧ (scanSign s).2.takeWhile isDigit ≠ []
      · rw [scanExp, if_pos hletter] at h
        obtain ⟨htake, hdrop⟩ := @takeWhile_more _ more (h ▸ List.cons_ne_nil c t)
        have hsign : (scanSign s).2 ≠ [] := by
          intro hnil
          rw [hnil] at hletter
          exact hletter.2 rfl
        rw [scanExp, scanExp, scanSign_more hsign, htake, hdrop, if_pos hletter, if_pos hletter]
      · rw [scanExp, if_neg hletter] at h
        obtain ⟨rfl, -⟩ := List.cons.inj h
        rw [scanExp, scanExp, if_neg fun hl => hl.1.elim hc.1 hc.2, if_neg hletter]
        rfl

/-- **A number that was ended** is ended in a longer text. -/
theorem scanNumber_more {whole tail : PyStr} (hs : scanNumber s = some (whole, tail, r))
    (h : Stops r) : scanNumber (s ++ more) = some (whole, tail, r ++ more) := by
  obtain ⟨⟨d, r₀⟩, hwhole, heq⟩ := Option.map_eq_some_iff.mp hs
  obtain ⟨rfl, htail⟩ := Prod.mk.inj heq
  obtain ⟨rfl, rfl⟩ := Prod.mk.inj htail
  obtain ⟨c, t, hct⟩ := List.exists_cons_of_ne_nil h.1
  obtain ⟨-, hpoint, hsmall, hlarge, -⟩ := h.2 c (by rw [hct]; rfl)
  have hexp : (scanExp (scanFrac r₀).2).2.length ≤ (scanFrac r₀).2.length := scanExp_length _
  -- what ends the fraction is the letter of an exponent, or what ends the number
  have hfrac : ∃ c' t', (scanFrac r₀).2 = c' :: t' ∧ c' ≠ 46 := by
    cases hr : (scanFrac r₀).2 with
    | nil =>
        rw [hr] at hct
        cases hct
    | cons c' t' =>
        refine ⟨c', t', rfl, ?_⟩
        rw [hr, scanExp] at hct
        split_ifs at hct with hletter
        · rcases hletter.1 with rfl | rfl <;> norm_num
        · obtain ⟨rfl, -⟩ := List.cons.inj hct
          exact hpoint
  obtain ⟨c', t', hc't', hc'⟩ := hfrac
  have hne : r₀ ≠ [] := by
    rintro rfl
    cases hc't'
  rw [scanNumber, scanWhole_more hwhole hne, Option.map_some]
  dsimp only
  rw [scanFrac_more hc't' hc', scanExp_more hct ⟨hsmall, hlarge⟩]

lemma scanUnits_more {text rest : PyStr} {units : List (ℕ × Bool)}
    (h : scanUnits text = some (units, rest)) :
    scanUnits (text ++ more) = some (units, rest ++ more) := by
  fun_induction scanUnits text generalizing units rest with
  | case2 =>
    obtain ⟨rfl, rfl⟩ := Prod.mk.inj (Option.some.inj h)
    rw [List.cons_append, scanUnits.eq_def]
    rfl
  | case4 w x y z text hquote ih =>
    obtain ⟨u, hu, h⟩ := Option.bind_eq_some_iff.mp h
    obtain ⟨units', htail, rfl⟩ := map_consUnit h
    simp only [List.cons_append]
    rw [scanUnits.eq_def]
    simp [hu, ih htail, consUnit]
  | case6 e text hne hquote ih =>
    obtain ⟨u, hu, h⟩ := Option.bind_eq_some_iff.mp h
    obtain ⟨units', htail, rfl⟩ := map_consUnit h
    simp only [List.cons_append]
    rw [scanUnits.eq_def]
    simp [hne, hu, ih htail, consUnit]
  | case8 c text h1 h2 h3 ih =>
    obtain ⟨units', htail, rfl⟩ := map_consUnit h
    simp only [List.cons_append]
    rw [scanUnits.eq_def]
    simp [h1, h2, h3, ih htail, consUnit]
  | case1 => cases h
  | case3 => cases h
  | case5 => cases h
  | case7 => cases h

/-- A string is closed in a longer text. -/
lemma scanString_more {text rest : PyStr} (h : scanString text = some (s, rest)) :
    scanString (text ++ more) = some (s, rest ++ more) := by
  obtain ⟨⟨units, rest'⟩, hunits, heq⟩ := Option.map_eq_some_iff.mp h
  obtain ⟨rfl, rfl⟩ := Prod.mk.inj heq
  rw [scanString, scanUnits_more hunits]
  rfl

end JsonText

namespace Json

variable {φ : Type} {text rest more key : PyStr}

lemma skipSpace_more (h : skipSpace text ≠ []) :
    skipSpace (text ++ more) = skipSpace text ++ more := by
  induction text with
  | nil => exact absurd rfl h
  | cons c text ih =>
      rw [skipSpace, List.dropWhile_cons] at h
      rw [skipSpace, skipSpace, List.cons_append, List.dropWhile_cons, List.dropWhile_cons]
      split_ifs with hc
      · rw [if_pos hc] at h
        exact ih h
      · rfl

lemma scanKey_more (h : scanKey text = .ok (key, rest)) (hrest : rest ≠ []) :
    scanKey (text ++ more) = .ok (key, rest ++ more) := by
  unfold scanKey at h
  split at h
  · next text =>
    obtain ⟨⟨key', rest'⟩, hkey, h⟩ := bind_eq_ok.mp h
    dsimp only at h
    split at h
    · next rest'' hcolon =>
      obtain ⟨rfl, rfl⟩ := Prod.mk.inj (pure_eq_ok.mp h)
      rw [List.cons_append, scanKey, JsonText.scanString_more (orRaise_eq_ok.mp hkey)]
      have hskip := @skipSpace_more rest' more (by rw [hcolon]; simp)
      rw [hcolon] at hskip
      simp only [orRaise, bind, Except.bind, hskip, List.cons_append]
      rw [skipSpace_more hrest]
      rfl
    · cases h
  · cases h

/-- A constant is found at the beginning of a text, and is neither a number nor enclosed. -/
lemma find_constant {name : PyStr} {value : Json φ} (h : (name, value) ∈ constants)
    (rest : PyStr) :
    (∀ c ∈ (name ++ rest).head?, c ≠ 34 ∧ c ≠ 123 ∧ c ≠ 91) ∧
      JsonText.scanNumber (name ++ rest) = none ∧
      constants.find? (fun constant => constant.1.isPrefixOf (name ++ rest)) =
        some (name, value) := by
  have hall : ∀ c ∈ (constants : List (PyStr × Json φ)), ∀ rest,
      (∀ d ∈ (c.1 ++ rest).head?, d ≠ 34 ∧ d ≠ 123 ∧ d ≠ 91) ∧
      JsonText.scanNumber (c.1 ++ rest) = none ∧
      (constants.find? fun constant => constant.1.isPrefixOf (c.1 ++ rest)) = some c := by
    simp [constants, PyStr.of, JsonText.scanNumber, JsonText.scanWhole, JsonText.scanNatural,
      JsonText.isDigit, List.isPrefixOf]
  exact hall _ h rest

/-- What a constant is read from. -/
lemma eq_append_of_scanConstant {value : Json φ} (h : scanConstant text = .ok (value, rest)) :
    ∃ name, (name, value) ∈ (constants : List (PyStr × Json φ)) ∧ text = name ++ rest := by
  unfold scanConstant at h
  split at h
  · next name value' hfind =>
    obtain ⟨rfl, rfl⟩ := Prod.mk.inj (Except.ok.inj h)
    have hprefix : name <+: text :=
      List.isPrefixOf_iff_prefix.mp (List.find?_some (a := (name, value')) hfind)
    exact ⟨name, List.mem_of_find?_eq_some hfind, (List.prefix_iff_eq_append.mp hprefix).symm⟩
  · cases h

variable [FloatText φ] {limits : JsonLimits} {fuel depth : ℕ}

/-- A number is ended where it was, and a constant anywhere. -/
lemma scanScalar_more {value : Json φ} (h : scanScalar limits text = .ok (value, rest))
    (hrest : JsonText.Stops rest) : scanScalar limits (text ++ more) = .ok (value, rest ++ more) := by
  rw [scanScalar] at h ⊢
  cases hnumber : JsonText.scanNumber text with
  | some parts =>
      obtain ⟨whole, tail, rest'⟩ := parts
      rw [hnumber] at h
      obtain ⟨v, hv, h⟩ := bind_eq_ok.mp h
      obtain ⟨rfl, rfl⟩ := Prod.mk.inj (pure_eq_ok.mp h)
      rw [JsonText.scanNumber_more hnumber hrest]
      dsimp only
      rw [hv]
      rfl
  | none =>
      rw [hnumber] at h
      obtain ⟨name, hname, rfl⟩ := eq_append_of_scanConstant h
      obtain ⟨-, hnone, hfind⟩ := find_constant hname (rest ++ more)
      rw [List.append_assoc, hnone]
      dsimp only
      rw [scanConstant, hfind]
      simp

/-- The text begins a string, an array or an object. -/
def Encloses (text : PyStr) : Prop := ∃ c s, text = c :: s ∧ (c = 34 ∨ c = 91 ∨ c = 123)

/-- What was scanned is scanned alike before more text. -/
structure ReadsOn (φ : Type) [FloatText φ] (limits : JsonLimits) (fuel : ℕ) : Prop where
  value : ∀ {depth text value rest}, scanValue limits fuel depth text = .ok ((value : Json φ), rest) →
    Encloses text ∨ JsonText.Stops rest → ∀ more,
      scanValue limits fuel depth (text ++ more) = .ok (value, rest ++ more)
  items : ∀ {depth text items rest},
    scanItems limits fuel depth text = .ok ((items : List (Json φ)), rest) → ∀ more,
      scanItems limits fuel depth (text ++ more) = .ok (items, rest ++ more)
  members : ∀ {depth text members rest},
    scanMembers limits fuel depth text = .ok ((members : List (PyStr × Json φ)), rest) → ∀ more,
      scanMembers limits fuel depth (text ++ more) = .ok (members, rest ++ more)

omit [FloatText φ] in
/-- What stands before a comma or a bracket ends a number. -/
lemma stops_of_skipSpace {c : ℕ} (h : skipSpace text = c :: rest)
    (hc : c = 93 ∨ c = 44 ∨ c = 125 ∨ c = 58) : JsonText.Stops text := by
  cases text with
  | nil => cases h
  | cons d text =>
      refine ⟨List.cons_ne_nil _ _, fun d' hd' => ?_⟩
      obtain rfl := Option.some.inj hd'
      rw [skipSpace, List.dropWhile_cons] at h
      split_ifs at h with hspace
      · simp only [Bool.or_eq_true, decide_eq_true_eq] at hspace
        simp only [JsonText.isDigit, Bool.and_eq_false_iff, decide_eq_false_iff_not]
        omega
      · obtain ⟨rfl, -⟩ := List.cons.inj h
        simp only [JsonText.isDigit, Bool.and_eq_false_iff, decide_eq_false_iff_not]
        omega

lemma ne_nil_of_scanItems {r : List (Json φ) × PyStr}
    (h : scanItems limits fuel depth text = .ok r) : text ≠ [] :=
  List.ne_nil_of_length_pos (Nat.zero_lt_of_lt ((scan_shorter limits fuel).items h))

lemma ne_nil_of_scanMembers {r : List (PyStr × Json φ) × PyStr}
    (h : scanMembers limits fuel depth text = .ok r) : text ≠ [] :=
  List.ne_nil_of_length_pos (Nat.zero_lt_of_lt ((scan_shorter limits fuel).members h))

/-- **A value that was ended** is read alike before any other text. -/
theorem scan_more (fuel : ℕ) : ReadsOn φ limits fuel := by
  induction fuel with
  | zero => exact ⟨nofun, nofun, nofun⟩
  | succ fuel ih =>
      refine ⟨fun {depth text value rest} h hends more => ?_, fun {depth text items rest} h more => ?_,
        fun {depth text members rest} h more => ?_⟩
      · cases text with
        | nil => cases h
        | cons c text =>
            rw [scanValue.eq_def] at h
            rw [List.cons_append, scanValue.eq_def]
            dsimp only at h ⊢
            split_ifs at h with hquote hbrace hclosed hbracket hclosed
            · obtain ⟨⟨s, rest'⟩, hstring, h⟩ := bind_eq_ok.mp h
              obtain ⟨rfl, rfl⟩ := Prod.mk.inj (pure_eq_ok.mp h)
              rw [if_pos hquote, JsonText.scanString_more (orRaise_eq_ok.mp hstring)]
              rfl
            · rw [if_neg hquote, if_pos hbrace]
              cases depth with
              | zero => cases h
              | succ depth =>
                  obtain ⟨rfl, rfl⟩ := Prod.mk.inj (Except.ok.inj h)
                  obtain ⟨s, hs⟩ := List.head?_eq_some_iff.mp hclosed
                  rw [skipSpace_more (by rw [hs]; simp), hs]
                  rfl
            · rw [if_neg hquote, if_pos hbrace]
              cases depth with
              | zero => cases h
              | succ depth =>
                  obtain ⟨⟨members, rest'⟩, hmembers, h⟩ := bind_eq_ok.mp h
                  obtain ⟨rfl, rfl⟩ := Prod.mk.inj (pure_eq_ok.mp h)
                  have hne := ne_nil_of_scanMembers hmembers
                  obtain ⟨d, s, hs⟩ := List.exists_cons_of_ne_nil hne
                  dsimp only
                  rw [skipSpace_more hne, ih.members hmembers more, if_neg]
                  · rfl
                  · rw [hs] at hclosed ⊢
                    exact hclosed
            · rw [if_neg hquote, if_neg hbrace, if_pos hbracket]
              cases depth with
              | zero => cases h
              | succ depth =>
                  obtain ⟨rfl, rfl⟩ := Prod.mk.inj (Except.ok.inj h)
                  obtain ⟨s, hs⟩ := List.head?_eq_some_iff.mp hclosed
                  rw [skipSpace_more (by rw [hs]; simp), hs]
                  rfl
            · rw [if_neg hquote, if_neg hbrace, if_pos hbracket]
              cases depth with
              | zero => cases h
              | succ depth =>
                  obtain ⟨⟨items, rest'⟩, hitems, h⟩ := bind_eq_ok.mp h
                  obtain ⟨rfl, rfl⟩ := Prod.mk.inj (pure_eq_ok.mp h)
                  have hne := ne_nil_of_scanItems hitems
                  obtain ⟨d, s, hs⟩ := List.exists_cons_of_ne_nil hne
                  dsimp only
                  rw [skipSpace_more hne, ih.items hitems more, if_neg]
                  · rfl
                  · rw [hs] at hclosed ⊢
                    exact hclosed
            · rw [if_neg hquote, if_neg hbrace, if_neg hbracket]
              have hstops : JsonText.Stops rest := by
                refine hends.resolve_left ?_
                rintro ⟨c', s, hs, hc⟩
                obtain ⟨rfl, -⟩ := List.cons.inj hs
                omega
              rw [← List.cons_append, scanScalar_more h hstops]
      · rw [scanItems] at h ⊢
        obtain ⟨⟨item, rest'⟩, hitem, h⟩ := bind_eq_ok.mp h
        dsimp only at h
        split at h
        · next rest'' heq =>
          obtain ⟨rfl, rfl⟩ := Prod.mk.inj (pure_eq_ok.mp h)
          rw [ih.value hitem (.inr (stops_of_skipSpace heq (by norm_num)))]
          simp only [bind, Except.bind]
          rw [skipSpace_more (by rw [heq]; simp), heq]
          rfl
        · next rest'' heq =>
          obtain ⟨⟨items', rest₃⟩, hitems, h⟩ := bind_eq_ok.mp h
          obtain ⟨rfl, rfl⟩ := Prod.mk.inj (pure_eq_ok.mp h)
          have hne := ne_nil_of_scanItems hitems
          rw [ih.value hitem (.inr (stops_of_skipSpace heq (by norm_num)))]
          simp only [bind, Except.bind]
          rw [skipSpace_more (by rw [heq]; simp), heq]
          change (scanItems limits fuel depth (skipSpace (rest'' ++ more)) >>=
            fun r => pure (item :: r.1, r.2)) = _
          rw [skipSpace_more hne, ih.items hitems more]
          rfl
        · cases h
      · rw [scanMembers] at h ⊢
        obtain ⟨⟨key, rest₀⟩, hkey, h⟩ := bind_eq_ok.mp h
        obtain ⟨⟨value, rest'⟩, hvalue, h⟩ := bind_eq_ok.mp h
        have hne₀ : rest₀ ≠ [] :=
          List.ne_nil_of_length_pos (Nat.zero_lt_of_lt ((scan_shorter limits fuel).value hvalue))
        dsimp only at h hvalue
        split at h
        · next rest'' heq =>
          obtain ⟨rfl, rfl⟩ := Prod.mk.inj (pure_eq_ok.mp h)
          rw [scanKey_more hkey hne₀]
          simp only [bind, Except.bind]
          rw [ih.value hvalue (.inr (stops_of_skipSpace heq (by norm_num)))]
          dsimp only
          rw [skipSpace_more (by rw [heq]; simp), heq]
          rfl
        · next rest'' heq =>
          obtain ⟨⟨members', rest₃⟩, hmembers, h⟩ := bind_eq_ok.mp h
          obtain ⟨rfl, rfl⟩ := Prod.mk.inj (pure_eq_ok.mp h)
          have hne := ne_nil_of_scanMembers hmembers
          rw [scanKey_more hkey hne₀]
          simp only [bind, Except.bind]
          rw [ih.value hvalue (.inr (stops_of_skipSpace heq (by norm_num)))]
          dsimp only
          rw [skipSpace_more (by rw [heq]; simp), heq]
          change (scanMembers limits fuel depth (skipSpace (rest'' ++ more)) >>=
            fun r => pure ((key, value) :: r.1, r.2)) = _
          rw [skipSpace_more hne, ih.members hmembers more]
          rfl
        · cases h

/-- Only a brace begins an object. -/
lemma encloses_of_obj {members : List (PyStr × Json φ)}
    (h : scanValue limits fuel depth text = .ok (.obj members, rest)) : Encloses text := by
  cases fuel with
  | zero => cases h
  | succ fuel =>
      cases text with
      | nil => cases h
      | cons c text =>
          by_contra hencloses
          have hc : ¬ (c = 34 ∨ c = 91 ∨ c = 123) := fun hc => hencloses ⟨c, text, rfl, hc⟩
          rw [scanValue.eq_def] at h
          dsimp only at h
          rw [if_neg (by omega), if_neg (by omega), if_neg (by omega), scanScalar] at h
          split at h
          · obtain ⟨v, hv, h⟩ := bind_eq_ok.mp h
            obtain ⟨rfl, -⟩ := Prod.mk.inj (pure_eq_ok.mp h)
            rw [number] at hv
            split_ifs at hv <;> cases hv
          · obtain ⟨name, hname, -⟩ := eq_append_of_scanConstant h
            simp [constants] at hname

variable {members : List (PyStr × Json φ)}

/-- **Behind the text of an object** there is white space, or it is no document. -/
theorem loadsText_append (h : loadsText limits text = .ok (.obj members)) (more : PyStr) :
    loadsText limits (text ++ more) =
      if skipSpace more = [] then .ok (.obj members) else .error .decode := by
  rw [loadsText_eq (2 * (text ++ more).length) (by rw [List.length_append]; omega)] at h
  obtain ⟨⟨value, rest⟩, hscan, h⟩ := bind_eq_ok.mp h
  dsimp only at h
  split_ifs at h with hspace
  obtain rfl := pure_eq_ok.mp h
  have hencloses := encloses_of_obj hscan
  have hne : skipSpace text ≠ [] := by
    obtain ⟨c, s, hs, -⟩ := hencloses
    rw [hs]
    exact List.cons_ne_nil c s
  have hmore := (scan_more _).value hscan (.inl hencloses) more
  have hskip : skipSpace (rest ++ more) = skipSpace more := by
    rw [skipSpace, List.dropWhile_append, ← skipSpace, hspace]
    rfl
  rw [loadsText, skipSpace_more hne, hmore]
  simp only [bind, Except.bind, hskip]
  split_ifs <;> rfl

end Json

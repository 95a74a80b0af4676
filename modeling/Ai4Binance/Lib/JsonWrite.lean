/-
JSON documents, as Python's `json.dumps` writes them with sorted keys and no white space.

The writer has the limits of the reader: an integer of too many digits is a `ValueError`, and
containers nested too deeply are a `RecursionError`.

* `Json.write`, `Json.dumps`: writing;
* `Json.Plain`: no object has a key twice, and with `ensure_ascii` no string has a split pair;
* `Json.sorted`: a value with its members in the order of their keys;
* `write_obj_perm`, `write_sorted`: the order of members does not show;
* `loadsText_dumps`: **what was written is loaded** as the sorted value;
* `isShown_of_mem_write`: a text has no control characters.
-/
import Ai4Binance.Lib.Dict
import Ai4Binance.Lib.JsonPrefix

open Check

/-- What is known of `repr` and `float`: the text of a float is a number with a fraction or an
exponent, and the float is read back from it. -/
class LawfulFloatText (φ : Type) [FloatText φ] : Prop where
  scan_repr : ∀ x : φ, ∃ whole tail, tail ≠ [] ∧
    JsonText.scanNumber (FloatText.repr x) = some (whole, tail, []) ∧
    whole ++ tail = FloatText.repr x
  parse_repr : ∀ x : φ, FloatText.parse (FloatText.repr x) = .finite x
  repr_ascii : ∀ x : φ, ∀ c ∈ FloatText.repr x, 32 ≤ c ∧ c < 128

namespace Json

open JsonText

variable {φ : Type}

/-! ### Writing -/

/-- A string between its quotes. -/
def quoted (ensureAscii : Bool) (s : PyStr) : PyStr := 34 :: escape ensureAscii s ++ [34]

/-- Texts with commas between them, between brackets. -/
def bracketed (opening : ℕ) (texts : List PyStr) (closing : ℕ) : PyStr :=
  opening :: [44].intercalate texts ++ [closing]

/-- The members in the order of their keys. -/
def sortMembers {α : Type} (members : List (PyStr × α)) : List (PyStr × α) :=
  members.insertionSort fun m m' => m.1 ≤ m'.1

/-- The text of a `float`. -/
def floatText [FloatText φ] : PyFloat φ → PyStr
  | .finite x => FloatText.repr x
  | .infinite false => PyStr.of "Infinity"
  | .infinite true => PyStr.of "-Infinity"
  | .nan => PyStr.of "NaN"

/-- The number of digits of an integer. -/
def digitCount (n : ℤ) : ℕ := ((intText n).filter isDigit).length

section Writing

variable [FloatText φ] (limits : JsonLimits) (ensureAscii : Bool)

mutual

/-- `json.dumps(value, ensure_ascii=..., separators=(",", ":"), sort_keys=True)`, where so many
containers may be entered. -/
def write : ℕ → Json φ → Except JsonFault PyStr
  | _, .null => .ok (PyStr.of "null")
  | _, .bool b => .ok (PyStr.of (if b then "true" else "false"))
  | _, .int n => if limits.maxDigits < digitCount n then .error .digits else .ok (intText n)
  | _, .float x => .ok (floatText x)
  | _, .str s => .ok (quoted ensureAscii s)
  | depth, .arr items =>
      match depth with
      | 0 => .error .recursion
      | depth + 1 => do
          let texts ← (writeItems depth items).mapM id
          return bracketed 91 texts 93
  | depth, .obj members =>
      match depth with
      | 0 => .error .recursion
      | depth + 1 => do
          let texts ← (sortMembers (writeMembers depth members)).mapM fun m =>
            m.2.map fun text => quoted ensureAscii m.1 ++ 58 :: text
          return bracketed 123 texts 125

/-- The texts of the items of an array. -/
def writeItems : ℕ → List (Json φ) → List (Except JsonFault PyStr)
  | _, [] => []
  | depth, item :: items => write depth item :: writeItems depth items

/-- The texts of the values of members. -/
def writeMembers : ℕ → List (PyStr × Json φ) → List (PyStr × Except JsonFault PyStr)
  | _, [] => []
  | depth, (key, value) :: members => (key, write depth value) :: writeMembers depth members

end

/-- `json.dumps(value, ensure_ascii=..., separators=(",", ":"), sort_keys=True)`. -/
def dumps (value : Json φ) : Except JsonFault PyStr :=
  write limits ensureAscii limits.maxDepth value

end Writing

mutual

/-- The value with all members in the order of their keys. -/
def sorted : Json φ → Json φ
  | .arr items => .arr (sortedItems items)
  | .obj members => .obj (sortMembers (sortedMembers members))
  | value => value

/-- The items of an array, sorted. -/
def sortedItems : List (Json φ) → List (Json φ)
  | [] => []
  | item :: items => sorted item :: sortedItems items

/-- The values of members, sorted. -/
def sortedMembers : List (PyStr × Json φ) → List (PyStr × Json φ)
  | [] => []
  | (key, value) :: members => (key, sorted value) :: sortedMembers members

end

/-- A string that is read back as it was. -/
def StringPlain (ensureAscii : Bool) (s : PyStr) : Prop := s.Valid ∧ (ensureAscii → s.NoSplitPair)

lemma StringPlain.scan {ensureAscii : Bool} {s : PyStr} (h : StringPlain ensureAscii s)
    (rest : PyStr) : scanString (escape ensureAscii s ++ 34 :: rest) = some (s, rest) :=
  scanString_escape (fun ha => ⟨h.2 ha, h.1⟩) rest

/-- A value that is read back as it was, but for the order of its members. -/
inductive Plain (ensureAscii : Bool) : Json φ → Prop where
  | null : Plain ensureAscii .null
  | bool (b : Bool) : Plain ensureAscii (.bool b)
  | int (n : ℤ) : Plain ensureAscii (.int n)
  | float (x : PyFloat φ) : Plain ensureAscii (.float x)
  | str {s : PyStr} (h : StringPlain ensureAscii s) : Plain ensureAscii (.str s)
  | arr {items : List (Json φ)} (h : ∀ item ∈ items, Plain ensureAscii item) :
      Plain ensureAscii (.arr items)
  | obj {members : List (PyStr × Json φ)} (hkeys : (members.map Prod.fst).Nodup)
      (hplain : ∀ m ∈ members, StringPlain ensureAscii m.1)
      (h : ∀ m ∈ members, Plain ensureAscii m.2) : Plain ensureAscii (.obj members)

lemma plain_arr_iff {ensureAscii : Bool} {items : List (Json φ)} :
    Plain ensureAscii (.arr items) ↔ ∀ item ∈ items, Plain ensureAscii item :=
  ⟨fun h => by cases h; assumption, .arr⟩

lemma plain_obj_iff {ensureAscii : Bool} {members : List (PyStr × Json φ)} :
    Plain ensureAscii (.obj members) ↔ (members.map Prod.fst).Nodup ∧
      (∀ m ∈ members, StringPlain ensureAscii m.1) ∧ ∀ m ∈ members, Plain ensureAscii m.2 := by
  refine ⟨fun h => ?_, fun h => .obj h.1 h.2.1 h.2.2⟩
  cases h with
  | obj hkeys hplain h => exact ⟨hkeys, hplain, h⟩

/-! ### Induction -/

/-- Values are built from values. -/
@[elab_as_elim]
theorem ind {motive : Json φ → Prop} (null : motive .null) (bool : ∀ b, motive (.bool b))
    (int : ∀ n, motive (.int n)) (float : ∀ x, motive (.float x)) (str : ∀ s, motive (.str s))
    (arr : ∀ items, (∀ item ∈ items, motive item) → motive (.arr items))
    (obj : ∀ members, (∀ m ∈ members, motive m.2) → motive (.obj members)) :
    ∀ value, motive value :=
  @Json.rec φ motive (fun items => ∀ item ∈ items, motive item)
    (fun members => ∀ m ∈ members, motive m.2) (fun m => motive m.2) null bool int float str arr obj
    (by simp) (fun _ _ hitem hitems => List.forall_mem_cons.mpr ⟨hitem, hitems⟩)
    (by simp) (fun _ _ hm hms => List.forall_mem_cons.mpr ⟨hm, hms⟩) fun _ _ hvalue => hvalue

lemma sortedItems_eq_map (items : List (Json φ)) : sortedItems items = items.map sorted := by
  induction items with
  | nil => rfl
  | cons item items ih => rw [sortedItems, ih, List.map_cons]

lemma sortedMembers_eq_map (members : List (PyStr × Json φ)) :
    sortedMembers members = members.map fun m => (m.1, m.2.sorted) := by
  induction members with
  | nil => rfl
  | cons m members ih => rw [sortedMembers, ih, List.map_cons]

section

variable [FloatText φ] {limits : JsonLimits} {ensureAscii : Bool} {depth : ℕ}

lemma writeItems_eq_map (items : List (Json φ)) :
    writeItems limits ensureAscii depth items = items.map (write limits ensureAscii depth) := by
  induction items with
  | nil => rfl
  | cons item items ih => rw [writeItems, ih, List.map_cons]

lemma writeMembers_eq_map (members : List (PyStr × Json φ)) :
    writeMembers limits ensureAscii depth members =
      members.map fun m => (m.1, write limits ensureAscii depth m.2) := by
  induction members with
  | nil => rfl
  | cons m members ih => rw [writeMembers, ih, List.map_cons]

end

/-! ### Sorting members -/

section Sorting

variable {α β : Type} {members members' : List (PyStr × α)}

lemma sortMembers_map (f : PyStr → α → β) (members : List (PyStr × α)) :
    sortMembers (members.map fun m => (m.1, f m.1 m.2)) =
      (sortMembers members).map fun m => (m.1, f m.1 m.2) := by
  refine (List.map_insertionSort _ _ _ members fun a _ b _ => ?_).symm
  exact Iff.rfl

lemma perm_sortMembers (members : List (PyStr × α)) : (sortMembers members).Perm members :=
  List.perm_insertionSort _ members

lemma mem_sortMembers {m : PyStr × α} : m ∈ sortMembers members ↔ m ∈ members :=
  (perm_sortMembers members).mem_iff

lemma nodup_keys_sortMembers (h : (members.map Prod.fst).Nodup) :
    ((sortMembers members).map Prod.fst).Nodup :=
  (((perm_sortMembers members).map Prod.fst).nodup_iff).mpr h

/-- Distinct keys are sorted strictly. -/
lemma sortMembers_pairwise (h : (members.map Prod.fst).Nodup) :
    (sortMembers members).Pairwise fun m m' => m.1 < m'.1 := by
  have hle := List.pairwise_insertionSort (fun m m' : PyStr × α => m.1 ≤ m'.1) members
  have hne := List.pairwise_map.mp (nodup_keys_sortMembers h)
  exact (hle.and hne).imp fun hm => lt_of_le_of_ne hm.1 hm.2

/-- **Sorting forgets the order** of members with distinct keys. -/
theorem sortMembers_perm (hperm : members.Perm members') (h : (members.map Prod.fst).Nodup) :
    sortMembers members = sortMembers members' := by
  have h' : (members'.map Prod.fst).Nodup := ((hperm.map Prod.fst).nodup_iff).mp h
  refine List.Perm.eq_of_pairwise ?_ (sortMembers_pairwise h) (sortMembers_pairwise h')
    ((perm_sortMembers members).trans (hperm.trans (perm_sortMembers members').symm))
  exact fun a b _ _ hab hba => absurd hab (lt_asymm hba)

/-- Sorting twice is sorting once. -/
lemma sortMembers_sortMembers (members : List (PyStr × α)) :
    sortMembers (sortMembers members) = sortMembers members :=
  (List.pairwise_insertionSort (fun m m' : PyStr × α => m.1 ≤ m'.1) members).insertionSort_eq

end Sorting

/-- A plain value stays plain when it is sorted. -/
lemma Plain.sorted {ensureAscii : Bool} {value : Json φ} (h : Plain ensureAscii value) :
    Plain ensureAscii value.sorted := by
  induction value using ind with
  | arr items ih =>
      have hitems := plain_arr_iff.mp h
      rw [Json.sorted, sortedItems_eq_map, plain_arr_iff, List.forall_mem_map]
      exact fun item hitem => ih item hitem (hitems item hitem)
  | obj members ih =>
      obtain ⟨hkeys, hstrings, hvalues⟩ := plain_obj_iff.mp h
      rw [Json.sorted, sortedMembers_eq_map, sortMembers_map fun _ => Json.sorted, plain_obj_iff,
        List.forall_mem_map, List.forall_mem_map, List.map_map]
      refine ⟨nodup_keys_sortMembers hkeys, fun m hm => ?_, fun m hm => ?_⟩
      · exact hstrings m (mem_sortMembers.mp hm)
      · exact ih m (mem_sortMembers.mp hm) (hvalues m (mem_sortMembers.mp hm))
  | _ => exact h

/-! ### What was written -/

section Written

variable [FloatText φ] {limits : JsonLimits} {ensureAscii : Bool} {depth : ℕ} {t : PyStr}

/-- An array is written as its items are. -/
lemma write_arr_ok {items : List (Json φ)}
    (h : write limits ensureAscii depth (.arr items) = .ok t) :
    ∃ inner texts, depth = inner + 1 ∧
      List.Forall₂ (fun item text => write limits ensureAscii inner item = .ok text) items texts ∧
      t = bracketed 91 texts 93 := by
  cases depth with
  | zero => cases h
  | succ inner =>
      obtain ⟨texts, htexts, h⟩ := bind_eq_ok.mp h
      obtain rfl := pure_eq_ok.mp h
      rw [writeItems_eq_map, mapM_eq_ok, List.forall₂_map_left_iff] at htexts
      exact ⟨inner, texts, rfl, htexts, rfl⟩

/-- An object is written as its members are, in the order of their keys. -/
lemma write_obj_ok {members : List (PyStr × Json φ)}
    (h : write limits ensureAscii depth (.obj members) = .ok t) :
    ∃ inner texts, depth = inner + 1 ∧
      List.Forall₂ (fun m line => ∃ text, write limits ensureAscii inner m.2 = .ok text ∧
        line = quoted ensureAscii m.1 ++ 58 :: text) (sortMembers members) texts ∧
      t = bracketed 123 texts 125 := by
  cases depth with
  | zero => cases h
  | succ inner =>
      obtain ⟨texts, htexts, h⟩ := bind_eq_ok.mp h
      obtain rfl := pure_eq_ok.mp h
      rw [writeMembers_eq_map, sortMembers_map fun _ => write limits ensureAscii inner, mapM_eq_ok,
        List.forall₂_map_left_iff] at htexts
      refine ⟨inner, texts, rfl, htexts.imp fun m line hline => ?_, rfl⟩
      obtain ⟨text, htext, rfl⟩ := map_eq_ok.mp hline
      exact ⟨text, htext, rfl⟩

/-- The order of members does not show. -/
lemma write_obj_perm {members members' : List (PyStr × Json φ)} (hperm : members.Perm members')
    (hkeys : (members.map Prod.fst).Nodup) :
    write limits ensureAscii depth (.obj members) =
      write limits ensureAscii depth (.obj members') := by
  cases depth with
  | zero => rfl
  | succ inner =>
      rw [write, write, writeMembers_eq_map, writeMembers_eq_map,
        sortMembers_map fun _ => write limits ensureAscii inner,
        sortMembers_map fun _ => write limits ensureAscii inner, sortMembers_perm hperm hkeys]

/-- **A sorted value** has the same text. -/
theorem write_sorted (value : Json φ) (depth : ℕ) :
    write limits ensureAscii depth value.sorted = write limits ensureAscii depth value := by
  induction value using ind generalizing depth with
  | null => rfl
  | bool b => rfl
  | int n => rfl
  | float x => rfl
  | str s => rfl
  | arr items ih =>
      cases depth with
      | zero => rfl
      | succ inner =>
          have hitems : items.map (write limits ensureAscii inner ∘ sorted) =
              items.map (write limits ensureAscii inner) :=
            List.map_congr_left fun item hitem => ih item hitem inner
          rw [sorted, write, write, sortedItems_eq_map, writeItems_eq_map, writeItems_eq_map,
            List.map_map, hitems]
  | obj members ih =>
      cases depth with
      | zero => rfl
      | succ inner =>
          have hmembers : members.map ((fun m => (m.1, write limits ensureAscii inner m.2)) ∘
              fun m => (m.1, m.2.sorted)) =
                members.map fun m => (m.1, write limits ensureAscii inner m.2) :=
            List.map_congr_left fun m hm => congrArg (m.1, ·) (ih m hm inner)
          rw [sorted, write, write, sortedMembers_eq_map, writeMembers_eq_map, writeMembers_eq_map,
            sortMembers_map fun _ => write limits ensureAscii inner, sortMembers_sortMembers,
            ← sortMembers_map fun _ => write limits ensureAscii inner, List.map_map, hmembers]

/-! ### Read back -/

/-- The text begins with a character that the scanner stops at, and closes nothing. -/
def Opens (t : PyStr) : Prop :=
  ∃ c s, t = c :: s ∧ (c = 32 || c = 9 || c = 10 || c = 13) = false ∧ c ≠ 93 ∧ c ≠ 125

/-- Wherever the text stands before no character of a number, it is read as the value. -/
def ReadsAs (limits : JsonLimits) (depth : ℕ) (t : PyStr) (value : Json φ) : Prop :=
  ∀ rest, Ends rest → ∀ fuel, 2 * (t ++ rest).length ≤ fuel →
    scanValue limits fuel depth (t ++ rest) = .ok (value, rest)

lemma skipSpace_of_opens (h : Opens t) (rest : PyStr) : skipSpace (t ++ rest) = t ++ rest := by
  obtain ⟨c, s, rfl, hspace, -⟩ := h
  rw [skipSpace, List.cons_append, List.dropWhile_cons, hspace]
  rfl

lemma scanNumber_head {s : PyStr} {r : PyStr × PyStr × PyStr} (h : scanNumber s = some r) :
    ∃ c s', s = c :: s' ∧ (isDigit c ∨ c = 45) := by
  obtain ⟨⟨whole, rest⟩, hwhole, -⟩ := Option.map_eq_some_iff.mp h
  cases s with
  | nil => cases hwhole
  | cons c s =>
      refine ⟨c, s, rfl, ?_⟩
      by_contra hc
      obtain ⟨hdigit, hminus⟩ := not_or.mp hc
      rw [scanWhole, if_neg hminus, scanNatural, if_neg, if_neg hdigit] at hwhole
      · cases hwhole
      · rintro rfl
        exact hdigit rfl

/-- What begins with a digit or a minus is no white space, and opens nothing else. -/
lemma opens_of_scanNumber {r : PyStr × PyStr × PyStr} (h : scanNumber t = some r) : Opens t := by
  obtain ⟨c, s, rfl, hc⟩ := scanNumber_head h
  refine ⟨c, s, rfl, ?_⟩
  simp only [isDigit, Bool.and_eq_true, decide_eq_true_eq] at hc
  simp only [Bool.or_eq_false_iff, decide_eq_false_iff_not]
  omega

/-- A number is read as what its text is. -/
lemma readsAs_number {whole tail : PyStr} {value : Json φ}
    (hscan : scanNumber t = some (whole, tail, [])) (hvalue : number limits whole tail = .ok value) :
    ReadsAs limits depth t value := by
  intro rest hrest fuel hfuel
  obtain ⟨c, s, rfl, hc⟩ := scanNumber_head hscan
  rw [List.cons_append, List.length_cons] at hfuel
  obtain ⟨fuel, rfl⟩ := Nat.exists_eq_add_of_le' (show 1 ≤ fuel by omega)
  simp only [isDigit, Bool.and_eq_true, decide_eq_true_eq] at hc
  rw [List.cons_append, scanValue.eq_def]
  dsimp only
  rw [if_neg (by omega), if_neg (by omega), if_neg (by omega), scanScalar, ← List.cons_append,
    scanNumber_append hscan hrest]
  dsimp only
  rw [hvalue]
  rfl

/-- A constant is read as its value. -/
lemma readsAs_constant {name : PyStr} {value : Json φ} (h : (name, value) ∈ constants) :
    Opens name ∧ ReadsAs limits depth name value := by
  have hopens : ∀ c ∈ (constants : List (PyStr × Json φ)), Opens c.1 := by
    simp [constants, PyStr.of, Opens]
  refine ⟨hopens _ h, fun rest _ fuel hfuel => ?_⟩
  obtain ⟨hhead, hnumber, hfind⟩ := find_constant h rest
  obtain ⟨c, s, rfl, -⟩ := hopens _ h
  obtain ⟨h34, h123, h91⟩ := hhead c rfl
  rw [List.cons_append, List.length_cons] at hfuel
  obtain ⟨fuel, rfl⟩ := Nat.exists_eq_add_of_le' (show 1 ≤ fuel by omega)
  rw [List.cons_append] at hnumber hfind ⊢
  rw [scanValue.eq_def]
  dsimp only
  rw [if_neg h34, if_neg h123, if_neg h91, scanScalar, hnumber]
  dsimp only
  rw [scanConstant, hfind]
  simp

/-- A string is read back. -/
lemma readsAs_quoted {s : PyStr} (h : StringPlain ensureAscii s) :
    ReadsAs limits depth (quoted ensureAscii s) (.str s : Json φ) := by
  intro rest _ fuel hfuel
  rw [quoted, List.cons_append, List.cons_append, List.length_cons] at hfuel
  obtain ⟨fuel, rfl⟩ := Nat.exists_eq_add_of_le' (show 1 ≤ fuel by omega)
  rw [quoted, List.cons_append, List.cons_append, List.append_assoc, List.singleton_append,
    scanValue.eq_def]
  dsimp only
  rw [if_pos rfl, h.scan]
  rfl

lemma opens_quoted (s : PyStr) : Opens (quoted ensureAscii s) :=
  ⟨34, _, rfl, rfl, by norm_num, by norm_num⟩

/-- A key is read back, and the text of its value follows. -/
lemma scanKey_quoted {key : PyStr} (h : StringPlain ensureAscii key) (rest : PyStr) :
    scanKey (quoted ensureAscii key ++ 58 :: rest) = .ok (key, skipSpace rest) := by
  rw [quoted, List.cons_append, List.cons_append, List.append_assoc, List.singleton_append, scanKey,
    h.scan]
  rfl

/-- **Items are read back**, up to their bracket. -/
lemma scanItems_bracketed {items : List (Json φ)} {texts : List PyStr}
    (h : List.Forall₂ (fun item text => Opens text ∧ ReadsAs limits depth text item) items texts)
    (hne : items ≠ []) (rest : PyStr) (fuel : ℕ)
    (hfuel : 2 * ([44].intercalate texts ++ 93 :: rest).length + 1 ≤ fuel) :
    scanItems limits fuel depth ([44].intercalate texts ++ 93 :: rest) = .ok (items, rest) := by
  induction h generalizing fuel with
  | nil => exact absurd rfl hne
  | @cons item text items texts hfirst hrest ih =>
      obtain ⟨fuel, rfl⟩ := Nat.exists_eq_add_of_le' (show 1 ≤ fuel by omega)
      cases hrest with
      | nil =>
          rw [List.intercalate_singleton] at hfuel ⊢
          rw [scanItems, hfirst.2 (93 :: rest) (by simp [Ends, isDigit]) fuel (by omega)]
          rfl
      | @cons item' text' items texts hsecond hrest =>
          have hopens : Opens ([44].intercalate (text' :: texts)) := by
            obtain ⟨c, s, rfl, hc⟩ := hsecond.1
            exact ⟨c, _, List.intercalate_cons_cons_left, hc⟩
          rw [List.intercalate_cons_cons, List.append_assoc, List.append_assoc,
            List.singleton_append] at hfuel ⊢
          rw [scanItems, hfirst.2 _ (by simp [Ends, isDigit]) fuel (by omega)]
          rw [List.length_append, List.length_cons] at hfuel
          change (scanItems limits fuel depth (skipSpace _) >>= fun r => pure (item :: r.1, r.2)) = _
          rw [skipSpace_of_opens hopens, ih (List.cons_ne_nil _ _) fuel (by omega)]
          rfl

/-- **Members are read back**, up to their brace. -/
lemma scanMembers_bracketed {members : List (PyStr × Json φ)} {texts : List PyStr}
    (h : List.Forall₂ (fun m line => ∃ text, StringPlain ensureAscii m.1 ∧ Opens text ∧
      ReadsAs limits depth text m.2 ∧ line = quoted ensureAscii m.1 ++ 58 :: text) members texts)
    (hne : members ≠ []) (rest : PyStr) (fuel : ℕ)
    (hfuel : 2 * ([44].intercalate texts ++ 125 :: rest).length + 1 ≤ fuel) :
    scanMembers limits fuel depth ([44].intercalate texts ++ 125 :: rest) = .ok (members, rest) := by
  induction h generalizing fuel with
  | nil => exact absurd rfl hne
  | @cons m line members texts hfirst hrest ih =>
      obtain ⟨text, hkey, hopens, hreads, rfl⟩ := hfirst
      obtain ⟨fuel, rfl⟩ := Nat.exists_eq_add_of_le' (show 1 ≤ fuel by omega)
      cases hrest with
      | nil =>
          rw [List.intercalate_singleton, List.append_assoc, List.cons_append] at hfuel ⊢
          rw [List.length_append, List.length_cons] at hfuel
          rw [scanMembers, scanKey_quoted hkey, skipSpace_of_opens hopens]
          simp only [bind, Except.bind]
          rw [hreads (125 :: rest) (by simp [Ends, isDigit]) fuel (by omega)]
          rfl
      | @cons m' line' members texts hsecond hrest =>
          have hnext : Opens ([44].intercalate (line' :: texts)) := by
            obtain ⟨text', -, -, -, rfl⟩ := hsecond
            exact ⟨34, _, List.intercalate_cons_cons_left, rfl, by norm_num, by norm_num⟩
          rw [List.intercalate_cons_cons, List.append_assoc, List.append_assoc,
            List.append_assoc, List.cons_append, List.singleton_append] at hfuel ⊢
          rw [List.length_append, List.length_cons, List.length_append, List.length_cons] at hfuel
          rw [scanMembers, scanKey_quoted hkey, skipSpace_of_opens hopens]
          simp only [bind, Except.bind]
          rw [hreads _ (by simp [Ends, isDigit]) fuel
            (by rw [List.length_append, List.length_cons]; omega)]
          change (scanMembers limits fuel depth (skipSpace _) >>= fun r => pure (m :: r.1, r.2)) = _
          rw [skipSpace_of_opens hnext, ih (List.cons_ne_nil _ _) fuel (by omega)]
          rfl

lemma bracketed_append (opening : ℕ) (texts : List PyStr) (closing : ℕ) (rest : PyStr) :
    bracketed opening texts closing ++ rest =
      opening :: ([44].intercalate texts ++ closing :: rest) := by
  simp [bracketed]

omit [FloatText φ] in
/-- Keys that do not repeat are kept in their places. -/
lemma dictOf_of_nodup {members : List (PyStr × Json φ)} (h : (members.map Prod.fst).Nodup) :
    dictOf members = members := by
  have hfrom : ∀ before : List (PyStr × Json φ), ((before ++ members).map Prod.fst).Nodup →
      members.foldl (fun members m =>
        if m.1 ∈ members.map Prod.fst then
          members.map fun m' => if m'.1 = m.1 then m else m'
        else members ++ [m]) before = before ++ members := by
    clear h
    induction members with
    | nil => simp
    | cons m members ih =>
        intro before hnodup
        have hnew : m.1 ∉ before.map Prod.fst := by
          rw [List.map_append, List.map_cons, List.nodup_append] at hnodup
          exact fun hmem => hnodup.2.2 _ hmem _ List.mem_cons_self rfl
        rw [← List.singleton_append, ← List.append_assoc] at hnodup
        rw [List.foldl_cons, if_neg hnew, ih _ hnodup, List.append_assoc, List.singleton_append]
  exact hfrom [] h

/-- An array is read as its items are. -/
lemma readsAs_bracketed {items : List (Json φ)} {texts : List PyStr}
    (h : List.Forall₂ (fun item text => Opens text ∧ ReadsAs limits depth text item) items texts) :
    Opens (bracketed 91 texts 93) ∧
      ReadsAs limits (depth + 1) (bracketed 91 texts 93) (.arr items) := by
  refine ⟨⟨91, _, rfl, rfl, by norm_num, by norm_num⟩, fun rest _ fuel hfuel => ?_⟩
  rw [bracketed_append, List.length_cons] at hfuel
  obtain ⟨fuel, rfl⟩ := Nat.exists_eq_add_of_le' (show 1 ≤ fuel by omega)
  rw [bracketed_append, scanValue.eq_def]
  dsimp only
  rw [if_neg (by norm_num), if_neg (by norm_num), if_pos rfl]
  cases items with
  | nil =>
      cases h
      rfl
  | cons item items =>
      have hopens : Opens ([44].intercalate texts) := by
        cases h with
        | cons hfirst _ =>
            obtain ⟨c, s, rfl, hc⟩ := hfirst.1
            exact ⟨c, _, List.intercalate_cons_cons_left, hc⟩
      rw [skipSpace_of_opens hopens]
      obtain ⟨c, s, hc, -, hbracket, -⟩ := hopens
      have hitems := scanItems_bracketed h (List.cons_ne_nil _ _) rest fuel (by omega)
      rw [hc] at hitems ⊢
      rw [if_neg (by simpa using hbracket), hitems]
      rfl

/-- An object is read as its members are. -/
lemma readsAs_braced {members : List (PyStr × Json φ)} {texts : List PyStr}
    (h : List.Forall₂ (fun m line => ∃ text, StringPlain ensureAscii m.1 ∧ Opens text ∧
      ReadsAs limits depth text m.2 ∧ line = quoted ensureAscii m.1 ++ 58 :: text) members texts)
    (hkeys : (members.map Prod.fst).Nodup) :
    Opens (bracketed 123 texts 125) ∧
      ReadsAs limits (depth + 1) (bracketed 123 texts 125) (.obj members) := by
  refine ⟨⟨123, _, rfl, rfl, by norm_num, by norm_num⟩, fun rest _ fuel hfuel => ?_⟩
  rw [bracketed_append, List.length_cons] at hfuel
  obtain ⟨fuel, rfl⟩ := Nat.exists_eq_add_of_le' (show 1 ≤ fuel by omega)
  rw [bracketed_append, scanValue.eq_def]
  dsimp only
  rw [if_neg (by norm_num), if_pos rfl]
  cases members with
  | nil =>
      cases h
      rfl
  | cons m members =>
      have hopens : Opens ([44].intercalate texts) := by
        cases h with
        | cons hfirst _ =>
            obtain ⟨text, -, -, -, rfl⟩ := hfirst
            exact ⟨34, _, List.intercalate_cons_cons_left, rfl, by norm_num, by norm_num⟩
      rw [skipSpace_of_opens hopens]
      obtain ⟨c, s, hc, -, -, hbrace⟩ := hopens
      have hmembers := scanMembers_bracketed h (List.cons_ne_nil _ _) rest fuel (by omega)
      rw [hc] at hmembers ⊢
      rw [if_neg (by simpa using hbrace), hmembers]
      exact congrArg (fun members => Except.ok (Json.obj members, rest)) (dictOf_of_nodup hkeys)

variable [LawfulFloatText φ]

/-- **What was written is read**, wherever it stands, as the sorted value. -/
theorem readsAs_write {value : Json φ} (hplain : Plain ensureAscii value)
    (h : write limits ensureAscii depth value = .ok t) :
    Opens t ∧ ReadsAs limits depth t value.sorted := by
  induction value using ind generalizing depth t with
  | null =>
      obtain rfl := Except.ok.inj h
      exact readsAs_constant (by simp [constants, sorted])
  | bool b =>
      obtain rfl := Except.ok.inj h
      cases b <;> exact readsAs_constant (by simp [constants, sorted])
  | int n =>
      rw [write] at h
      split_ifs at h with hdigits
      obtain rfl := Except.ok.inj h
      refine ⟨opens_of_scanNumber (scanNumber_intText n), readsAs_number (scanNumber_intText n) ?_⟩
      rw [number, if_neg (not_not.mpr rfl), ← digitCount, if_neg hdigits, intValue_intText]
      rfl
  | float x =>
      obtain rfl := Except.ok.inj h
      cases x with
      | finite x =>
          obtain ⟨whole, tail, htail, hscan, htext⟩ := LawfulFloatText.scan_repr x
          refine ⟨opens_of_scanNumber hscan, readsAs_number hscan ?_⟩
          rw [number, if_pos htail, htext, LawfulFloatText.parse_repr]
          rfl
      | infinite negative =>
          cases negative <;> exact readsAs_constant (by simp [constants, sorted, floatText])
      | nan => exact readsAs_constant (by simp [constants, sorted, floatText])
  | str s =>
      obtain rfl := Except.ok.inj h
      cases hplain with
      | str hs => exact ⟨opens_quoted s, readsAs_quoted hs⟩
  | arr items ih =>
      obtain ⟨inner, texts, rfl, htexts, rfl⟩ := write_arr_ok h
      cases hplain with
      | arr hitems =>
          have hread : List.Forall₂ (fun item text => Opens text ∧ ReadsAs limits inner text item)
              (items.map sorted) texts := by
            rw [List.forall₂_map_left_iff]
            refine ((List.forall₂_and_left _ _).mpr ⟨fun item hitem => ?_, htexts⟩).imp
              (R := fun item text => (∀ {depth t}, write limits ensureAscii depth item = .ok t →
                Opens t ∧ ReadsAs limits depth t item.sorted) ∧
                write limits ensureAscii inner item = .ok text)
              fun item text hitem => hitem.1 hitem.2
            exact fun {depth t} => ih item hitem (hitems item hitem)
          rw [sorted, sortedItems_eq_map]
          exact readsAs_bracketed hread
  | obj members ih =>
      obtain ⟨inner, texts, rfl, htexts, rfl⟩ := write_obj_ok h
      cases hplain with
      | obj hkeys hstrings hvalues =>
          have hread : List.Forall₂ (fun m line => ∃ text, StringPlain ensureAscii m.1 ∧
              Opens text ∧ ReadsAs limits inner text m.2 ∧
              line = quoted ensureAscii m.1 ++ 58 :: text)
              ((sortMembers members).map fun m => (m.1, m.2.sorted)) texts := by
            rw [List.forall₂_map_left_iff]
            refine ((List.forall₂_and_left _ _).mpr ⟨fun m hm => ?_, htexts⟩).imp
              (R := fun m line => (StringPlain ensureAscii m.1 ∧ ∀ {depth t},
                write limits ensureAscii depth m.2 = .ok t →
                  Opens t ∧ ReadsAs limits depth t m.2.sorted) ∧
                ∃ text, write limits ensureAscii inner m.2 = .ok text ∧
                  line = quoted ensureAscii m.1 ++ 58 :: text)
              fun m line hm => ?_
            · have hmem := mem_sortMembers.mp hm
              exact ⟨hstrings m hmem, fun {depth t} => ih m hmem (hvalues m hmem)⟩
            · obtain ⟨⟨hkey, hvalue⟩, text, htext, rfl⟩ := hm
              exact ⟨text, hkey, (hvalue htext).1, (hvalue htext).2, rfl⟩
          have hnodup : (((sortMembers members).map fun m => (m.1, m.2.sorted)).map Prod.fst).Nodup := by
            rw [List.map_map]
            exact nodup_keys_sortMembers hkeys
          rw [sorted, sortedMembers_eq_map, sortMembers_map fun _ => sorted]
          exact readsAs_braced hread hnodup

/-- **What was written is loaded** as the sorted value. -/
theorem loadsText_dumps {value : Json φ} (hplain : Plain ensureAscii value)
    (h : dumps limits ensureAscii value = .ok t) : loadsText limits t = .ok value.sorted := by
  obtain ⟨hopens, hreads⟩ := readsAs_write hplain h
  have hskip := skipSpace_of_opens hopens []
  have hscan := hreads [] ends_nil (2 * t.length) (by rw [List.append_nil])
  rw [List.append_nil] at hskip hscan
  rw [loadsText, hskip, hscan]
  rfl

/-- Values of one text differ in the order of their members only. -/
theorem sorted_eq_of_dumps {value other : Json φ} (hvalue : Plain ensureAscii value)
    (hother : Plain ensureAscii other) (h : dumps limits ensureAscii value = .ok t)
    (h' : dumps limits ensureAscii other = .ok t) : value.sorted = other.sorted :=
  Except.ok.inj ((loadsText_dumps hvalue h).symm.trans (loadsText_dumps hother h'))

/-! ### The characters of a text -/

/-- A code point that is no control character. -/
def IsShown (c : ℕ) : Prop := 32 ≤ c ∧ c < 0x110000

omit [FloatText φ] [LawfulFloatText φ] in
lemma isShown_of_mem_escape {s : PyStr} (hs : s.Valid) :
    ∀ d ∈ escape ensureAscii s, IsShown d := by
  have hhex : ∀ n, IsShown (hexDigit (n % 16)) := by
    intro n
    rw [hexDigit, IsShown]
    split_ifs <;> omega
  have hunicode : ∀ n, ∀ d ∈ unicodeEscape n, IsShown d := by
    intro n
    simp only [unicodeEscape, List.forall_mem_cons]
    exact ⟨by norm_num [IsShown], by norm_num [IsShown], hhex _, hhex _, hhex _, hhex _, by simp⟩
  intro d hd
  obtain ⟨c, hc, hd⟩ := List.mem_flatMap.mp hd
  have hbound := hs c hc
  unfold escapeChar at hd
  cases hshort : shortEscape c with
  | some e =>
      rw [hshort] at hd
      unfold shortEscape at hshort
      have he : IsShown e := by
        rw [IsShown]
        split_ifs at hshort <;> cases hshort <;> norm_num
      rcases List.mem_pair.mp hd with rfl | rfl
      · norm_num [IsShown]
      · exact he
  | none =>
      rw [hshort] at hd
      dsimp only at hd
      split_ifs at hd with h32 hascii hbmp
      · exact hunicode _ d hd
      · exact hunicode _ d hd
      · rcases List.mem_append.mp hd with hd | hd <;> exact hunicode _ d hd
      · obtain rfl := List.mem_singleton.mp hd
        exact ⟨by omega, hbound⟩

omit [FloatText φ] [LawfulFloatText φ] in
lemma isShown_of_mem_quoted {s : PyStr} (hs : s.Valid) :
    ∀ d ∈ quoted ensureAscii s, IsShown d := by
  intro d hd
  rw [quoted, List.mem_append, List.mem_cons, List.mem_singleton] at hd
  rcases hd with (rfl | hd) | rfl
  · norm_num [IsShown]
  · exact isShown_of_mem_escape hs d hd
  · norm_num [IsShown]

omit [FloatText φ] [LawfulFloatText φ] in
lemma isShown_of_mem_bracketed {opening closing : ℕ} {texts : List PyStr} (ho : IsShown opening)
    (hc : IsShown closing) (h : ∀ text ∈ texts, ∀ d ∈ text, IsShown d) :
    ∀ d ∈ bracketed opening texts closing, IsShown d := by
  have hinner : ∀ d ∈ [44].intercalate texts, IsShown d := by
    induction texts with
    | nil => simp
    | cons text texts ih =>
        obtain ⟨htext, htexts⟩ := List.forall_mem_cons.mp h
        cases texts with
        | nil =>
            rw [List.intercalate_singleton]
            exact htext
        | cons text' texts =>
            rw [List.intercalate_cons_cons]
            intro d hd
            rw [List.mem_append, List.mem_append, List.mem_singleton] at hd
            rcases hd with (hd | rfl) | hd
            · exact htext d hd
            · norm_num [IsShown]
            · exact ih htexts d hd
  intro d hd
  rw [bracketed, List.mem_append, List.mem_cons, List.mem_singleton] at hd
  rcases hd with (rfl | hd) | rfl
  · exact ho
  · exact hinner d hd
  · exact hc

omit [FloatText φ] [LawfulFloatText φ] in
/-- A member on the right has one on the left. -/
lemma exists_of_mem_right {α β : Type} {R : α → β → Prop} {l : List α} {l' : List β}
    (h : List.Forall₂ R l l') {b : β} (hb : b ∈ l') : ∃ a ∈ l, R a b := by
  induction h with
  | nil => cases hb
  | cons hab _ ih =>
      rcases List.mem_cons.mp hb with rfl | hb
      · exact ⟨_, List.mem_cons_self, hab⟩
      · obtain ⟨a, ha, hR⟩ := ih hb
        exact ⟨a, List.mem_cons_of_mem _ ha, hR⟩

/-- **A text has no control characters**, so no newline. -/
theorem isShown_of_mem_write {value : Json φ} (hplain : Plain ensureAscii value)
    (h : write limits ensureAscii depth value = .ok t) : ∀ d ∈ t, IsShown d := by
  have hconstant : ∀ c ∈ (constants : List (PyStr × Json φ)), ∀ d ∈ c.1, IsShown d := by
    simp [constants, PyStr.of, IsShown]
  induction value using ind generalizing depth t with
  | null =>
      obtain rfl := Except.ok.inj h
      exact hconstant (PyStr.of "null", .null) (by simp [constants])
  | bool b =>
      obtain rfl := Except.ok.inj h
      cases b
      · exact hconstant (PyStr.of "false", .bool false) (by simp [constants])
      · exact hconstant (PyStr.of "true", .bool true) (by simp [constants])
  | int n =>
      rw [write] at h
      split_ifs at h
      obtain rfl := Except.ok.inj h
      have hnat : ∀ d ∈ natText n.natAbs, IsShown d := by
        intro d hd
        have hdigit := isDigit_natText hd
        simp only [isDigit, Bool.and_eq_true, decide_eq_true_eq] at hdigit
        exact ⟨by omega, by omega⟩
      rw [intText]
      split_ifs
      · exact List.forall_mem_cons.mpr ⟨by norm_num [IsShown], hnat⟩
      · exact hnat
  | float x =>
      obtain rfl := Except.ok.inj h
      cases x with
      | finite x =>
          intro d hd
          have := LawfulFloatText.repr_ascii x d hd
          exact ⟨this.1, by omega⟩
      | infinite negative =>
          cases negative
          · exact hconstant (PyStr.of "Infinity", .float (.infinite false)) (by simp [constants])
          · exact hconstant (PyStr.of "-Infinity", .float (.infinite true)) (by simp [constants])
      | nan => exact hconstant (PyStr.of "NaN", .float .nan) (by simp [constants])
  | str s =>
      obtain rfl := Except.ok.inj h
      cases hplain with
      | str hs => exact isShown_of_mem_quoted hs.1
  | arr items ih =>
      obtain ⟨inner, texts, rfl, htexts, rfl⟩ := write_arr_ok h
      cases hplain with
      | arr hitems =>
          refine isShown_of_mem_bracketed (by norm_num [IsShown]) (by norm_num [IsShown]) ?_
          intro text htext
          obtain ⟨item, hitem, hwrite⟩ := exists_of_mem_right htexts htext
          exact ih item hitem (hitems item hitem) hwrite
  | obj members ih =>
      obtain ⟨inner, texts, rfl, htexts, rfl⟩ := write_obj_ok h
      cases hplain with
      | obj hkeys hstrings hvalues =>
          refine isShown_of_mem_bracketed (by norm_num [IsShown]) (by norm_num [IsShown]) ?_
          intro line hline
          obtain ⟨m, hm, text, htext, rfl⟩ := exists_of_mem_right htexts hline
          have hmem := mem_sortMembers.mp hm
          intro d hd
          rw [List.mem_append, List.mem_cons] at hd
          rcases hd with hd | rfl | hd
          · exact isShown_of_mem_quoted (hstrings m hmem).1 d hd
          · norm_num [IsShown]
          · exact ih m hmem (hvalues m hmem) htext d hd

end Written

end Json

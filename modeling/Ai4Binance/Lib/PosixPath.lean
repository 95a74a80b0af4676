/-
Paths of a POSIX system, as `pathlib` reads, joins and resolves them.

A path is its root and its parts: the segments of its text between slashes, without the empty
ones and `.`.  Resolving walks through the parts, up at `..` and along symbolic links.

* `Path.ofText`, `Path.join`: `Path(text)` and `path / text`;
* `FileSystem`, `Path.resolve`: where a path leads;
* `parents`, `within_iff_prefix`: the locations above a location;
* `inside`: where parts lead from a directory, unless they leave it;
* `walk_inside`, `walk_leaves`: parts stay in every directory without links below it exactly
  when `inside` says so;
* `partsOf_append`, `inside_suffix`: a suffix changes the last part only;
* `StaysBelow`, `resolve_join_eq`, `staysBelow_of_prefix`: **a text leads below the directories
  that it is joined to exactly when it is relative and stays inside**.
-/
import Mathlib

namespace PosixPath

/-! ### Texts -/

/-- A part of a path: neither empty nor `.`, and without a slash. -/
def IsPart (part : String) : Prop := part ≠ "" ∧ part ≠ "." ∧ '/' ∉ part.toList

/-- The texts between slashes. -/
def segments (text : String) : List String := (text.toList.splitOn '/').map String.ofList

/-- The parts of a text. -/
def partsOf (text : String) : List String :=
  (segments text).filter fun segment => segment ≠ "" ∧ segment ≠ "."

/-- The root of a text: two slashes are a root of their own, three are one. -/
def rootOf (text : String) : String :=
  match text.toList with
  | '/' :: '/' :: '/' :: _ => "/"
  | '/' :: '/' :: _ => "//"
  | '/' :: _ => "/"
  | _ => ""

section Texts

lemma rootOf_mem (text : String) : rootOf text ∈ ["", "/", "//"] := by
  rw [rootOf]
  split <;> decide

lemma notMem_of_mem_splitOn {l segment : List Char} (h : segment ∈ l.splitOn '/') :
    '/' ∉ segment := by
  induction l generalizing segment with
  | nil =>
      rw [List.splitOn_nil, List.mem_singleton] at h
      rw [h]
      exact List.not_mem_nil
  | cons c l ih =>
      rw [List.splitOn, List.splitOnP_cons_eq_if_modifyHead, ← List.splitOn] at h
      split_ifs at h with hc
      · rcases List.mem_cons.mp h with rfl | h
        · exact List.not_mem_nil
        · exact ih h
      · obtain ⟨head, rest, hsplit⟩ :=
          List.exists_cons_of_ne_nil (List.splitOnP_ne_nil (· == '/') l)
        rw [List.splitOn, hsplit] at h ih
        rw [List.modifyHead_cons] at h
        rcases List.mem_cons.mp h with rfl | h
        · rw [List.mem_cons, not_or]
          exact ⟨fun heq => hc (beq_iff_eq.mpr heq.symm), ih List.mem_cons_self⟩
        · exact ih (List.mem_cons_of_mem _ h)

lemma isPart_of_mem_partsOf {text part : String} (h : part ∈ partsOf text) : IsPart part := by
  obtain ⟨hmem, hkeep⟩ := List.mem_filter.mp h
  obtain ⟨segment, hsegment, rfl⟩ := List.mem_map.mp hmem
  obtain ⟨hempty, hdot⟩ := of_decide_eq_true hkeep
  exact ⟨hempty, hdot, by
    rw [String.toList_ofList]
    exact notMem_of_mem_splitOn hsegment⟩

/-- The characters after the last slash are at the end of the last segment. -/
lemma splitOn_append (l : List Char) : ∃ init last, ∀ suffix : List Char, '/' ∉ suffix →
    (l ++ suffix).splitOn '/' = init ++ [last ++ suffix] := by
  induction l with
  | nil =>
      refine ⟨[], [], fun suffix hsuffix => ?_⟩
      exact List.splitOnP_eq_singleton fun c hc => beq_false_of_ne fun heq => hsuffix (heq ▸ hc)
  | cons c l ih =>
      obtain ⟨init, last, ih⟩ := ih
      by_cases hc : c = '/'
      · refine ⟨[] :: init, last, fun suffix hsuffix => ?_⟩
        rw [List.cons_append, List.splitOn, List.splitOnP_cons_eq_if_modifyHead, ← List.splitOn,
          ih suffix hsuffix, if_pos (by simp [hc]), List.cons_append]
      · cases init with
        | nil =>
            refine ⟨[], c :: last, fun suffix hsuffix => ?_⟩
            rw [List.cons_append, List.splitOn, List.splitOnP_cons_eq_if_modifyHead,
              ← List.splitOn, ih suffix hsuffix, if_neg (by simp [hc])]
            rfl
        | cons head rest =>
            refine ⟨(c :: head) :: rest, last, fun suffix hsuffix => ?_⟩
            rw [List.cons_append, List.splitOn, List.splitOnP_cons_eq_if_modifyHead,
              ← List.splitOn, ih suffix hsuffix, if_neg (by simp [hc])]
            rfl

/-- **A suffix changes the last part only**, if it is long enough not to make it vanish. -/
lemma partsOf_append (text : String) : ∃ init last, ∀ suffix : String, '/' ∉ suffix.toList →
    2 < suffix.length → partsOf (text ++ suffix) = init ++ [last ++ suffix] := by
  obtain ⟨init, last, hsplit⟩ := splitOn_append text.toList
  refine ⟨(init.map String.ofList).filter fun segment => segment ≠ "" ∧ segment ≠ ".",
    String.ofList last, fun suffix hsuffix hlength => ?_⟩
  have hlast : 2 < (String.ofList last ++ suffix).length := by
    rw [String.length_append]
    omega
  rw [partsOf, segments, String.toList_append, hsplit _ hsuffix, List.map_append,
    List.filter_append, List.map_singleton, String.ofList_append, String.ofList_toList,
    List.filter_cons_of_pos, List.filter_nil]
  refine decide_eq_true ⟨fun h => ?_, fun h => ?_⟩
  all_goals
    rw [h] at hlast
    exact absurd hlast (by decide)

end Texts

/-! ### Paths -/

/-- `PurePosixPath`. -/
structure Path where
  root : String
  parts : List String
  root_mem : root ∈ ["", "/", "//"]
  isPart : ∀ part ∈ parts, IsPart part

namespace Path

/-- `Path(text)`. -/
def ofText (text : String) : Path where
  root := rootOf text
  parts := partsOf text
  root_mem := rootOf_mem text
  isPart _ := isPart_of_mem_partsOf

/-- `path.is_absolute()`. -/
def isAbsolute (path : Path) : Bool := path.root ≠ ""

/-- `path / text`: an absolute text replaces the path. -/
def join (path : Path) (text : String) : Path :=
  if rootOf text = "" then
    { path with
      parts := path.parts ++ partsOf text
      isPart := fun _ h => (List.mem_append.mp h).elim (path.isPart _) isPart_of_mem_partsOf }
  else ofText text

lemma isAbsolute_join {path : Path} (h : path.isAbsolute) (text : String) :
    (path.join text).isAbsolute := by
  rw [join]
  split_ifs with hroot
  · exact h
  · exact decide_eq_true hroot

end Path

/-! ### Resolving -/

/-- The working directory, and where the symbolic link at a location leads, if there is one.  A
location is the parts from the root directory on. -/
structure FileSystem where
  cwd : List String := []
  link : List String → Option (List String) := fun _ => none

/-- One part further: up, or to an entry and along its link. -/
def FileSystem.walk (fs : FileSystem) (location : List String) (part : String) : List String :=
  if part = ".." then location.dropLast
  else (fs.link (location ++ [part])).getD (location ++ [part])

/-- `path.resolve(strict=False)`. -/
def Path.resolve (fs : FileSystem) (path : Path) : List String :=
  path.parts.foldl fs.walk (if path.isAbsolute then [] else fs.cwd)

/-- `path.parents` of a resolved path. -/
def parents (location : List String) : List (List String) :=
  (List.range location.length).map location.take

/-- A location is one of the locations at or above another when it is its prefix. -/
lemma within_iff_prefix {location directory : List String} :
    location = directory ∨ directory ∈ parents location ↔ directory <+: location := by
  rw [parents, List.mem_map, List.prefix_iff_eq_take]
  constructor
  · rintro (rfl | ⟨n, hn, rfl⟩)
    · exact List.take_length.symm
    · rw [List.length_take, Nat.min_eq_left (List.mem_range.mp hn).le]
  · intro h
    rcases Nat.lt_or_ge directory.length location.length with hlt | hge
    · exact .inr ⟨_, List.mem_range.mpr hlt, h.symm⟩
    · exact .inl (by rw [h, List.take_of_length_le hge])

/-! ### Staying inside -/

/-- One part further below a directory. -/
def descend (below : List String) (part : String) : Option (List String) :=
  if part = ".." then if below = [] then none else some below.dropLast else some (below ++ [part])

/-- Where parts lead below a directory, unless they leave it. -/
def inside (parts : List String) : Option (List String) := parts.foldlM descend []

variable {fs : FileSystem} {directory parts below below' : List String} {name : String}

/-- Parts that stay inside lead to one place below every directory. -/
lemma walk_inside (hlinks : ∀ below, below ≠ [] → fs.link (directory ++ below) = none)
    (h : parts.foldlM descend below = some below') :
    parts.foldl fs.walk (directory ++ below) = directory ++ below' := by
  induction parts generalizing below with
  | nil =>
      obtain rfl := Option.some.inj h
      rfl
  | cons part parts ih =>
      rw [List.foldlM_cons] at h
      rw [List.foldl_cons, FileSystem.walk]
      by_cases hup : part = ".."
      · by_cases hbelow : below = []
        · rw [descend, if_pos hup, if_pos hbelow] at h
          cases h
        · rw [descend, if_pos hup, if_neg hbelow] at h
          rw [if_pos hup, List.dropLast_append_of_ne_nil hbelow]
          exact ih h
      · rw [descend, if_neg hup] at h
        rw [if_neg hup, List.append_assoc, hlinks _ (by simp), Option.getD_none]
        exact ih h

lemma mem_walk (hlinks : ∀ location, fs.link location = none)
    (h : name ∈ parts.foldl fs.walk directory) : name ∈ directory ∨ name ∈ parts := by
  induction parts generalizing directory with
  | nil => exact .inl h
  | cons part parts ih =>
      rcases ih h with hmem | hmem
      · rw [FileSystem.walk] at hmem
        split_ifs at hmem with hup
        · exact .inl (List.mem_of_mem_dropLast hmem)
        · rw [hlinks, Option.getD_none, List.mem_append, List.mem_singleton] at hmem
          exact hmem.imp id fun h => List.mem_cons.mpr (.inl h)
      · exact .inr (List.mem_cons_of_mem _ hmem)

/-- Parts that do not stay inside lead out of a directory of which they do not have the name. -/
lemma walk_leaves (hlinks : ∀ location, fs.link location = none) (hname : name ∉ parts)
    (hbelow : name ∉ below) (h : parts.foldlM descend below = none) :
    name ∉ parts.foldl fs.walk (name :: below) := by
  induction parts generalizing below with
  | nil => cases h
  | cons part parts ih =>
      rw [List.mem_cons, not_or] at hname
      rw [List.foldlM_cons] at h
      rw [List.foldl_cons, FileSystem.walk]
      by_cases hup : part = ".."
      · rw [if_pos hup]
        by_cases hempty : below = []
        · rw [hempty, List.dropLast_singleton]
          exact fun hmem => (mem_walk hlinks hmem).elim List.not_mem_nil hname.2
        · rw [descend, if_pos hup, if_neg hempty] at h
          rw [List.dropLast_cons_of_ne_nil hempty]
          exact ih hname.2 (fun hmem => hbelow (List.mem_of_mem_dropLast hmem)) h
      · rw [descend, if_neg hup] at h
        rw [if_neg hup, hlinks, Option.getD_none, List.cons_append]
        refine ih hname.2 ?_ h
        rw [List.mem_append, List.mem_singleton, not_or]
        exact ⟨hbelow, hname.1⟩

lemma inside_append (init : List String) (hup : name ≠ "..") :
    inside (init ++ [name]) = (inside init).map (· ++ [name]) := by
  rw [inside, List.foldlM_append, ← inside]
  cases inside init with
  | none => rfl
  | some below =>
      change descend below name >>= pure = _
      rw [descend, if_neg hup]
      rfl

/-- A suffix changes the last name of the place only. -/
lemma inside_suffix (text : String) : ∃ below last, ∀ suffix : String, '/' ∉ suffix.toList →
    2 < suffix.length →
    inside (partsOf (text ++ suffix)) = Option.map (· ++ [last ++ suffix]) below := by
  obtain ⟨init, last, hparts⟩ := partsOf_append text
  refine ⟨inside init, last, fun suffix hsuffix hlength => ?_⟩
  rw [hparts suffix hsuffix hlength, inside_append]
  intro h
  have hlast := congrArg String.length h
  rw [String.length_append, show "..".length = 2 from rfl] at hlast
  omega

/-- Two texts lead to one place or to two, with every suffix. -/
lemma inside_suffix_eq_iff {text text' suffix suffix' : String} (h : '/' ∉ suffix.toList)
    (hlength : 2 < suffix.length) (h' : '/' ∉ suffix'.toList) (hlength' : 2 < suffix'.length) :
    inside (partsOf (text ++ suffix)) = inside (partsOf (text' ++ suffix)) ↔
      inside (partsOf (text ++ suffix')) = inside (partsOf (text' ++ suffix')) := by
  obtain ⟨below, last, hinside⟩ := inside_suffix text
  obtain ⟨below', last', hinside'⟩ := inside_suffix text'
  rw [hinside _ h hlength, hinside' _ h hlength, hinside _ h' hlength', hinside' _ h' hlength']
  cases below <;> cases below' <;> simp

lemma isSome_inside_suffix_iff {text suffix suffix' : String} (h : '/' ∉ suffix.toList)
    (hlength : 2 < suffix.length) (h' : '/' ∉ suffix'.toList) (hlength' : 2 < suffix'.length) :
    (inside (partsOf (text ++ suffix))).isSome ↔ (inside (partsOf (text ++ suffix'))).isSome := by
  obtain ⟨below, last, hinside⟩ := inside_suffix text
  rw [hinside _ h hlength, hinside _ h' hlength', Option.isSome_map, Option.isSome_map]

/-! ### Files below a directory -/

/-- A text that is not absolute and does not leave the directory it is joined to. -/
def StaysBelow (text : String) : Prop := rootOf text = "" ∧ (inside (partsOf text)).isSome

instance (text : String) : Decidable (StaysBelow text) :=
  inferInstanceAs (Decidable (_ ∧ _))

/-- No symbolic link lies below a directory. -/
def LinkFree (fs : FileSystem) (path : Path) : Prop :=
  ∀ below, below ≠ [] → fs.link (path.resolve fs ++ below) = none

lemma resolve_join {path : Path} {text : String} (h : rootOf text = "") :
    (path.join text).resolve fs = (partsOf text).foldl fs.walk (path.resolve fs) := by
  rw [Path.join, if_pos h, Path.resolve, List.foldl_append]
  rfl

/-- **Where a file below a directory lies.** -/
lemma resolve_join_eq {path : Path} {text : String} (hlinks : LinkFree fs path)
    (hroot : rootOf text = "") (hinside : inside (partsOf text) = some below) :
    (path.join text).resolve fs = path.resolve fs ++ below := by
  rw [resolve_join hroot, ← walk_inside hlinks hinside, List.append_nil]

/-- A text that stays below a directory of which it does not have the name. -/
lemma staysBelow_of_prefix {path : Path} {text : String} (hlinks : ∀ location,
    fs.link location = none) (hpath : path.resolve fs = [name]) (hname : name ∉ partsOf text)
    (h : path.resolve fs <+: (path.join text).resolve fs) : StaysBelow text := by
  rw [hpath] at h
  have hmem : name ∈ (path.join text).resolve fs := h.subset List.mem_cons_self
  have hroot : rootOf text = "" := by
    by_contra hroot
    have habsolute : (Path.ofText text).isAbsolute := decide_eq_true hroot
    rw [Path.join, if_neg hroot, Path.resolve, if_pos habsolute] at hmem
    exact (mem_walk hlinks hmem).elim List.not_mem_nil hname
  refine ⟨hroot, Option.isSome_iff_ne_none.mpr fun hinside => ?_⟩
  rw [resolve_join hroot, hpath] at hmem
  exact walk_leaves hlinks hname List.not_mem_nil hinside hmem

lemma rootOf_eq_empty_iff {text : String} : rootOf text = "" ↔ text.toList.head? ≠ some '/' := by
  rw [rootOf]
  split
  · simp_all
  · simp_all
  · simp_all
  · rename_i h
    refine iff_of_true rfl fun hhead => ?_
    obtain ⟨rest, hrest⟩ := List.head?_eq_some_iff.mp hhead
    exact h rest hrest

lemma rootOf_suffix_iff {text suffix suffix' : String} (h : text ≠ "") :
    rootOf (text ++ suffix) = "" ↔ rootOf (text ++ suffix') = "" := by
  have hne : text.toList ≠ [] := fun hnil => h (String.toList_eq_nil_iff.mp hnil)
  rw [rootOf_eq_empty_iff, rootOf_eq_empty_iff, String.toList_append, String.toList_append,
    List.head?_append_of_ne_nil _ hne, List.head?_append_of_ne_nil _ hne]

/-- A name that is none of the parts. -/
lemma exists_fresh (parts : List String) :
    ∃ name, IsPart name ∧ name ≠ ".." ∧ name ∉ parts := by
  refine ⟨String.ofList (List.replicate ((parts.map String.length).sum + 1) 'a'),
    ⟨?_, ?_, ?_⟩, ?_, fun hmem => ?_⟩
  · intro h
    have := congrArg String.toList h
    simp at this
  · intro h
    have := congrArg String.toList h
    simp [List.replicate_succ] at this
  · rw [String.toList_ofList]
    exact fun h => absurd (List.eq_of_mem_replicate h) (by decide)
  · intro h
    have := congrArg String.toList h
    simp [List.replicate_succ] at this
  · have hle := List.le_sum_of_mem (List.mem_map_of_mem (f := String.length) hmem)
    rw [String.length_ofList, List.length_replicate] at hle
    omega

end PosixPath

/-
Finite maps over a linearly ordered key type, kept as the list of their
entries in strictly increasing key order.  The order is part of the type, so
two maps are equal as soon as they look up the same, and a sorted traversal is
the list itself.

* `SortedMap.get?`, `insert`, `erase`, `ofList`: the dictionary operations,
  with their lookup laws `get?_insert`, `get?_erase`;
* `SortedMap.ext_get?`: extensionality;
* `SortedMap.minKey?` / `maxKey?`: the two ends of the list.
-/
import Mathlib.Order.Basic
import Mathlib.Order.Lattice
import Mathlib.Data.List.Basic
import Mathlib.Tactic

/-- A finite map from `κ` to `ν`: its entries, in strictly increasing key
order. -/
structure SortedMap (κ ν : Type*) [LinearOrder κ] where
  entries : List (κ × ν)
  sorted : entries.Pairwise fun a b => a.1 < b.1
  deriving DecidableEq

namespace SortedMap

variable {κ ν : Type*} [LinearOrder κ]

/-! ### The operations on entry lists -/

/-- First entry of a list under the key `k`. -/
def lookupEntry (k : κ) : List (κ × ν) → Option ν
  | [] => none
  | (a, b) :: l => if a = k then some b else lookupEntry k l

/-- Insertion at the place the order prescribes; an entry under the same key
is replaced. -/
def insertEntry (k : κ) (v : ν) : List (κ × ν) → List (κ × ν)
  | [] => [(k, v)]
  | (a, b) :: l =>
      if k < a then (k, v) :: (a, b) :: l
      else if k = a then (k, v) :: l
      else (a, b) :: insertEntry k v l

lemma mem_insertEntry {k : κ} {v : ν} {l : List (κ × ν)} {p : κ × ν}
    (hp : p ∈ insertEntry k v l) : p = (k, v) ∨ p ∈ l := by
  induction l with
  | nil => simpa [insertEntry] using hp
  | cons q l ih =>
      rw [insertEntry] at hp
      split_ifs at hp with h1 h2
      · simpa using hp
      · rcases List.mem_cons.mp hp with h | h
        · exact Or.inl h
        · exact Or.inr (List.mem_cons_of_mem _ h)
      · rcases List.mem_cons.mp hp with h | h
        · exact Or.inr (by simp [h])
        · exact (ih h).imp id (List.mem_cons_of_mem _)

lemma insertEntry_sorted (k : κ) (v : ν) {l : List (κ × ν)}
    (hl : l.Pairwise fun a b => a.1 < b.1) :
    (insertEntry k v l).Pairwise fun a b => a.1 < b.1 := by
  induction l with
  | nil => simp [insertEntry]
  | cons q l ih =>
      obtain ⟨hq, hl'⟩ := List.pairwise_cons.mp hl
      rw [insertEntry]
      split_ifs with h1 h2
      · refine List.pairwise_cons.mpr ⟨fun p hp => ?_, hl⟩
        rcases List.mem_cons.mp hp with rfl | hp
        · exact h1
        · exact lt_trans h1 (hq p hp)
      · subst h2
        exact List.pairwise_cons.mpr ⟨hq, hl'⟩
      · refine List.pairwise_cons.mpr ⟨fun p hp => ?_, ih hl'⟩
        rcases mem_insertEntry hp with rfl | hp
        · exact lt_of_le_of_ne (not_lt.mp h1) (Ne.symm h2)
        · exact hq p hp

lemma lookupEntry_insertEntry (k : κ) (v : ν) (a : κ) (l : List (κ × ν)) :
    lookupEntry a (insertEntry k v l) = if k = a then some v else lookupEntry a l := by
  induction l with
  | nil => simp [insertEntry, lookupEntry]
  | cons q l ih =>
      rw [insertEntry]
      split_ifs with h1 h2 h3 h4 h5
      · simp [lookupEntry, h2]
      · simp [lookupEntry, h2]
      · simp [lookupEntry, h4]
      · subst h3
        simp [lookupEntry, h4]
      · have hne : q.1 ≠ a := fun h => h3 (h5.trans h.symm)
        rw [lookupEntry, if_neg hne, ih, if_pos h5]
      · simp [lookupEntry, ih, h5]

lemma lookupEntry_eq_none {k : κ} {l : List (κ × ν)} (h : ∀ p ∈ l, p.1 ≠ k) :
    lookupEntry k l = none := by
  induction l with
  | nil => rfl
  | cons q l ih =>
      rw [lookupEntry, if_neg (h q (by simp))]
      exact ih fun p hp => h p (List.mem_cons_of_mem _ hp)

lemma lookupEntry_eq_some_iff {k : κ} {v : ν} {l : List (κ × ν)}
    (hl : l.Pairwise fun a b => a.1 < b.1) :
    lookupEntry k l = some v ↔ (k, v) ∈ l := by
  induction l with
  | nil => simp [lookupEntry]
  | cons q l ih =>
      obtain ⟨hq, hl'⟩ := List.pairwise_cons.mp hl
      by_cases h : q.1 = k
      · subst h
        have hnot : ∀ w, (q.1, w) ∉ l := fun w hw => lt_irrefl q.1 (hq (q.1, w) hw)
        simp only [lookupEntry, if_true, Option.some.injEq, List.mem_cons, hnot v, or_false]
        exact ⟨fun h => by rw [← h], fun h => (congrArg Prod.snd h).symm⟩
      · have hne : (k, v) ≠ q := fun h' => h (congrArg Prod.fst h').symm
        simp [lookupEntry, h, ih hl', hne]

/-- Two sorted entry lists with the same lookups are the same list. -/
lemma entries_ext {l l' : List (κ × ν)} (hl : l.Pairwise fun a b => a.1 < b.1)
    (hl' : l'.Pairwise fun a b => a.1 < b.1)
    (h : ∀ k, lookupEntry k l = lookupEntry k l') : l = l' := by
  have hmem : ∀ p : κ × ν, p ∈ l ↔ p ∈ l' := fun p => by
    rw [← lookupEntry_eq_some_iff hl, ← lookupEntry_eq_some_iff hl', h]
  have hperm : l.Perm l' := by
    refine (List.perm_ext_iff_of_nodup ?_ ?_).mpr hmem
    · exact hl.imp fun {a b} hab he => (ne_of_lt hab) (congrArg Prod.fst he)
    · exact hl'.imp fun {a b} hab he => (ne_of_lt hab) (congrArg Prod.fst he)
  exact hperm.eq_of_pairwise (fun a b _ _ hab hba => absurd (lt_trans hab hba) (lt_irrefl _))
    hl hl'

/-- Behind smaller keys, an entry is inserted into the rest of the list. -/
lemma insertEntry_append {k : κ} (v : ν) {l : List (κ × ν)} (h : ∀ p ∈ l, p.1 < k)
    (l' : List (κ × ν)) : insertEntry k v (l ++ l') = l ++ insertEntry k v l' := by
  induction l with
  | nil => rfl
  | cons q l ih =>
      obtain ⟨hq, hl⟩ := List.forall_mem_cons.mp h
      rw [List.cons_append, insertEntry, if_neg (not_lt.mpr hq.le), if_neg hq.ne', ih hl,
        List.cons_append]

/-- Behind smaller keys, an entry is found in the rest of the list. -/
lemma lookupEntry_append {k : κ} {l : List (κ × ν)} (h : ∀ p ∈ l, p.1 < k)
    (l' : List (κ × ν)) : lookupEntry k (l ++ l') = lookupEntry k l' := by
  induction l with
  | nil => rfl
  | cons q l ih =>
      obtain ⟨hq, hl⟩ := List.forall_mem_cons.mp h
      rw [List.cons_append, lookupEntry, if_neg hq.ne, ih hl]

/-! ### The map operations -/

/-- The empty map. -/
def empty : SortedMap κ ν := ⟨[], List.Pairwise.nil⟩

/-- The value stored under a key. -/
def get? (m : SortedMap κ ν) (k : κ) : Option ν := lookupEntry k m.entries

/-- Store `v` under `k`, replacing what was there. -/
def insert (m : SortedMap κ ν) (k : κ) (v : ν) : SortedMap κ ν :=
  ⟨insertEntry k v m.entries, insertEntry_sorted k v m.sorted⟩

/-- Remove the entry under `k`, if there is one. -/
def erase (m : SortedMap κ ν) (k : κ) : SortedMap κ ν :=
  ⟨m.entries.filter fun p => p.1 ≠ k, m.sorted.filter _⟩

/-- The map of an association list; later pairs replace earlier ones. -/
def ofList (l : List (κ × ν)) : SortedMap κ ν :=
  l.foldl (fun m p => m.insert p.1 p.2) empty

/-- The entries of a dictionary are those it was made of. -/
lemma mem_ofList {l : List (κ × ν)} {p : κ × ν}
    (h : p ∈ (ofList l).entries) : p ∈ l := by
  have hfold : ∀ m : SortedMap κ ν,
      p ∈ (l.foldl (fun m p => m.insert p.1 p.2) m).entries → p ∈ m.entries ∨ p ∈ l := by
    clear h
    induction l with
    | nil => exact fun _ h => .inl h
    | cons q l ih =>
      intro m h
      rcases ih _ h with h | h
      · rcases mem_insertEntry h with rfl | h
        · exact .inr List.mem_cons_self
        · exact .inl h
      · exact .inr (List.mem_cons_of_mem _ h)
  exact (hfold _ h).resolve_left List.not_mem_nil

/-- The number of entries. -/
def size (m : SortedMap κ ν) : ℕ := m.entries.length

/-- The least key. -/
def minKey? (m : SortedMap κ ν) : Option κ := m.entries.head?.map Prod.fst

/-- The greatest key. -/
def maxKey? (m : SortedMap κ ν) : Option κ := m.entries.getLast?.map Prod.fst

@[simp] lemma get?_empty (k : κ) : (empty : SortedMap κ ν).get? k = none := rfl

@[simp] lemma get?_insert (m : SortedMap κ ν) (k : κ) (v : ν) (a : κ) :
    (m.insert k v).get? a = if k = a then some v else m.get? a :=
  lookupEntry_insertEntry k v a m.entries

lemma get?_eq_some_iff {m : SortedMap κ ν} {k : κ} {v : ν} :
    m.get? k = some v ↔ (k, v) ∈ m.entries :=
  lookupEntry_eq_some_iff m.sorted

lemma ext_get? {m m' : SortedMap κ ν} (h : ∀ k, m.get? k = m'.get? k) : m = m' := by
  obtain ⟨l, hl⟩ := m
  obtain ⟨l', hl'⟩ := m'
  have : l = l' := entries_ext hl hl' h
  subst this
  rfl

@[simp] lemma get?_erase (m : SortedMap κ ν) (k a : κ) :
    (m.erase k).get? a = if k = a then none else m.get? a := by
  by_cases h : k = a
  · subst h
    rw [if_pos rfl]
    exact lookupEntry_eq_none fun p hp => by simpa using (List.mem_filter.mp hp).2
  · rw [if_neg h]
    refine Option.ext fun v => ?_
    rw [get?_eq_some_iff, get?_eq_some_iff]
    simp only [erase, List.mem_filter, decide_not, Bool.not_eq_eq_eq_not, Bool.not_true,
      decide_eq_false_iff_not, and_iff_left_iff_imp]
    exact fun _ he => h he.symm

end SortedMap

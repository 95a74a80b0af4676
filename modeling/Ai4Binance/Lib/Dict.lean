/-
Dictionaries, as the lists of their entries in the order of their keys' first places.

A log of entries is read into a dictionary by keeping a key's first place and its last value.

* `Dict.set`, `Dict.ofPairs`: `d[k] = v` and `dict(pairs)`;
* `lastValue_ofPairs`: the dictionary of a log looks up the last values;
* `ofPairs_of_nodup`: a log in which no key repeats is its own dictionary;
* `ofPairs_map`: values may be mapped before or after;
* `lastValue_insertionSort`: sorting a log by its keys changes no last value.
-/
import Ai4Binance.Lib.LastEntry
import Mathlib.Data.List.Sort

section LastValue

variable {κ ν ν' : Type*} [DecidableEq κ] {k : κ}

/-- The last value of a log is that of its tail, where the tail has one. -/
lemma lastValue_cons (e : κ × ν) (entries : List (κ × ν)) :
    lastValue k (e :: entries) =
      (lastValue k entries).or (if e.1 = k then some e.2 else none) := by
  rw [← List.singleton_append, lastValue_append]
  by_cases hk : e.1 = k
  · simp [lastValue, hk]
  · simp [lastValue, hk]

/-- A key that a log does not have has no last value. -/
lemma lastValue_eq_none {entries : List (κ × ν)} (h : k ∉ entries.map Prod.fst) :
    lastValue k entries = none := by
  rw [← Option.not_isSome_iff_eq_none, lastValue_isSome_iff]
  rintro ⟨e, he, rfl⟩
  exact h (List.mem_map_of_mem he)

/-- The last value of a log whose values are mapped. -/
lemma lastValue_map (f : κ → ν → ν') (entries : List (κ × ν)) :
    lastValue k (entries.map fun e => (e.1, f e.1 e.2)) = (lastValue k entries).map (f k) := by
  induction entries with
  | nil => rfl
  | cons e entries ih =>
      rw [List.map_cons, lastValue_cons, lastValue_cons, ih]
      by_cases hk : e.1 = k
      · subst hk
        cases lastValue e.1 entries <;> simp
      · cases lastValue k entries <;> simp [hk]

/-- The last value of a log whose keys are mapped. -/
lemma lastValue_mapKey {κ' : Type*} [DecidableEq κ'] {f : κ → κ'} (hf : Function.Injective f)
    (entries : List (κ × ν)) :
    lastValue (f k) (entries.map fun e => (f e.1, e.2)) = lastValue k entries := by
  induction entries with
  | nil => rfl
  | cons e entries ih => simp only [List.map_cons, lastValue_cons, ih, hf.eq_iff]

/-- A last value is that of an entry. -/
lemma mem_of_lastValue {entries : List (κ × ν)} {v : ν} (h : lastValue k entries = some v) :
    (k, v) ∈ entries := by
  obtain ⟨e, he, rfl⟩ := Option.map_eq_some_iff.mp h
  obtain ⟨hmem, hk⟩ := List.mem_filter.mp (List.mem_of_getLast? he)
  rwa [← of_decide_eq_true hk]

/-- Logs whose entries correspond have last values that do. -/
lemma rel_lastValue {R : ν → ν' → Prop} {entries : List (κ × ν)} {entries' : List (κ × ν')}
    (h : List.Forall₂ (fun e e' => e'.1 = e.1 ∧ R e.2 e'.2) entries entries') :
    Option.Rel R (lastValue k entries) (lastValue k entries') := by
  induction h with
  | nil => exact .none
  | @cons e e' entries entries' he _ ih =>
      rw [lastValue_cons, lastValue_cons, he.1]
      generalize lastValue k entries = v, lastValue k entries' = v' at ih ⊢
      cases ih with
      | some hv =>
          rw [Option.some_or, Option.some_or]
          exact .some hv
      | none =>
          rw [Option.none_or, Option.none_or]
          split_ifs
          · exact .some he.2
          · exact .none

/-- **Sorting a log by its keys** changes no last value: entries under one key stay in order. -/
theorem lastValue_insertionSort [LinearOrder κ] [DecidableRel fun e e' : κ × ν => e.1 ≤ e'.1]
    (entries : List (κ × ν)) :
    lastValue k (entries.insertionSort fun e e' => e.1 ≤ e'.1) = lastValue k entries := by
  have hkey : (entries.filter fun e => e.1 = k).Pairwise fun e e' => e.1 ≤ e'.1 := by
    refine List.Pairwise.imp_of_mem ?_ (List.pairwise_of_forall (R := fun _ _ => True) (by simp))
    intro e e' he he' _
    rw [of_decide_eq_true (List.mem_filter.mp he).2, of_decide_eq_true (List.mem_filter.mp he').2]
  have hsublist := (List.sublist_insertionSort hkey List.filter_sublist).filter fun e => e.1 = k
  rw [List.filter_filter] at hsublist
  simp only [Bool.and_self] at hsublist
  have hlength := ((List.perm_insertionSort (fun e e' : κ × ν => e.1 ≤ e'.1) entries).filter
    fun e => e.1 = k).length_eq
  rw [lastValue, lastValue, ← hsublist.eq_of_length hlength.symm]

end LastValue

namespace Dict

variable {κ ν ν' : Type*} [DecidableEq κ] {k a : κ} {v : ν} {d : List (κ × ν)}

/-- `d[k] = v`. -/
def set (k : κ) (v : ν) : List (κ × ν) → List (κ × ν)
  | [] => [(k, v)]
  | e :: d => if e.1 = k then (k, v) :: d else e :: set k v d

/-- `dict(pairs)`. -/
def ofPairs (pairs : List (κ × ν)) : List (κ × ν) := pairs.foldl (fun d e => set e.1 e.2 d) []

/-- A dictionary has the key that is set, and those that it had. -/
lemma mem_keys_set : a ∈ (set k v d).map Prod.fst ↔ a = k ∨ a ∈ d.map Prod.fst := by
  induction d with
  | nil => simp [set]
  | cons e d ih =>
      rw [set]
      split_ifs with hk
      · simp [hk]
      · rw [List.map_cons, List.mem_cons, ih, List.map_cons, List.mem_cons]
        tauto

lemma mem_set {e : κ × ν} (h : e ∈ set k v d) : e = (k, v) ∨ e ∈ d := by
  induction d with
  | nil => exact .inl (List.mem_singleton.mp h)
  | cons e' d ih =>
      rw [set] at h
      split_ifs at h with hk
      · exact (List.mem_cons.mp h).imp_right (List.mem_cons_of_mem e')
      · rcases List.mem_cons.mp h with rfl | h
        · exact .inr List.mem_cons_self
        · exact (ih h).imp_right (List.mem_cons_of_mem e')

/-- Setting a key keeps the keys apart. -/
lemma nodup_set (h : (d.map Prod.fst).Nodup) : ((set k v d).map Prod.fst).Nodup := by
  induction d with
  | nil => simp [set]
  | cons e d ih =>
      rw [List.map_cons, List.nodup_cons] at h
      rw [set]
      split_ifs with hk
      · subst hk
        exact List.nodup_cons.mpr h
      · rw [List.map_cons, List.nodup_cons, mem_keys_set]
        exact ⟨fun hmem => hmem.elim hk h.1, ih h.2⟩

/-- A new key is set at the end. -/
lemma set_of_notMem (h : k ∉ d.map Prod.fst) : set k v d = d ++ [(k, v)] := by
  induction d with
  | nil => rfl
  | cons e d ih =>
      rw [List.map_cons, List.mem_cons, not_or] at h
      rw [set, if_neg (Ne.symm h.1), ih h.2, List.cons_append]

/-- What is set is looked up. -/
lemma lastValue_set (h : (d.map Prod.fst).Nodup) :
    lastValue a (set k v d) = if k = a then some v else lastValue a d := by
  induction d with
  | nil => rw [set, lastValue_cons, lastValue_nil, Option.none_or]
  | cons e d ih =>
      rw [List.map_cons, List.nodup_cons] at h
      rw [set]
      split_ifs with hk ha ha
      · subst hk ha
        rw [lastValue_cons, lastValue_eq_none h.1, Option.none_or, if_pos rfl]
      · subst hk
        rw [lastValue_cons, lastValue_cons, if_neg ha, if_neg ha]
      · rw [lastValue_cons, ih h.2, if_pos ha, Option.some_or]
      · rw [lastValue_cons, lastValue_cons, ih h.2, if_neg ha]

/-- Setting commutes with a map of the values. -/
lemma set_map (f : κ → ν → ν') :
    set k (f k v) (d.map fun e => (e.1, f e.1 e.2)) =
      (set k v d).map fun e => (e.1, f e.1 e.2) := by
  induction d with
  | nil => rfl
  | cons e d ih =>
      rw [List.map_cons, set, set]
      split_ifs with hk
      · rfl
      · rw [List.map_cons, ih]

/-! ### The dictionary of a log -/

variable {pairs : List (κ × ν)}

lemma ofPairs_append (e : κ × ν) : ofPairs (pairs ++ [e]) = set e.1 e.2 (ofPairs pairs) := by
  rw [ofPairs, List.foldl_append]
  rfl

/-- The entries of a dictionary are of its log. -/
lemma mem_of_mem_ofPairs {e : κ × ν} (h : e ∈ ofPairs pairs) : e ∈ pairs := by
  induction pairs using List.reverseRecOn with
  | nil => cases h
  | append_singleton pairs e' ih =>
      rw [ofPairs_append] at h
      rcases mem_set h with rfl | h
      · exact List.mem_append_right _ List.mem_cons_self
      · exact List.mem_append_left _ (ih h)

/-- The keys of a dictionary do not repeat. -/
lemma nodup_ofPairs (pairs : List (κ × ν)) : ((ofPairs pairs).map Prod.fst).Nodup := by
  induction pairs using List.reverseRecOn with
  | nil => exact List.nodup_nil
  | append_singleton pairs e ih =>
      rw [ofPairs_append]
      exact nodup_set ih

/-- **The dictionary of a log** looks up the last values. -/
theorem lastValue_ofPairs (pairs : List (κ × ν)) : lastValue a (ofPairs pairs) = lastValue a pairs := by
  induction pairs using List.reverseRecOn with
  | nil => rfl
  | append_singleton pairs e ih =>
      rw [ofPairs_append, lastValue_set (nodup_ofPairs pairs), ih, lastValue_append, lastValue_cons,
        lastValue_nil, Option.none_or]
      split_ifs
      · rw [Option.some_or]
      · rw [Option.none_or]

/-- New keys are set at the end. -/
lemma foldl_set_of_nodup (h : ((d ++ pairs).map Prod.fst).Nodup) :
    pairs.foldl (fun d e => set e.1 e.2 d) d = d ++ pairs := by
  induction pairs generalizing d with
  | nil => rw [List.foldl_nil, List.append_nil]
  | cons e pairs ih =>
      have hnew : e.1 ∉ d.map Prod.fst := by
        rw [List.map_append, List.nodup_append] at h
        exact fun hmem => h.2.2 e.1 hmem e.1 List.mem_cons_self rfl
      rw [← List.singleton_append, ← List.append_assoc] at h
      rw [List.foldl_cons, set_of_notMem hnew, ih h, List.append_assoc, List.singleton_append]

/-- A log in which no key repeats is its own dictionary. -/
lemma ofPairs_of_nodup (h : (pairs.map Prod.fst).Nodup) : ofPairs pairs = pairs :=
  foldl_set_of_nodup (d := []) h

lemma ofPairs_ofPairs (pairs : List (κ × ν)) : ofPairs (ofPairs pairs) = ofPairs pairs :=
  ofPairs_of_nodup (nodup_ofPairs pairs)

/-- Values may be mapped before a log is read or after. -/
lemma ofPairs_map (f : κ → ν → ν') (pairs : List (κ × ν)) :
    ofPairs (pairs.map fun e => (e.1, f e.1 e.2)) =
      (ofPairs pairs).map fun e => (e.1, f e.1 e.2) := by
  induction pairs using List.reverseRecOn with
  | nil => rfl
  | append_singleton pairs e ih =>
      rw [List.map_append, List.map_cons, List.map_nil, ofPairs_append, ofPairs_append, ih, set_map]

end Dict

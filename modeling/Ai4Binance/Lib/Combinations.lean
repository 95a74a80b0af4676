/-
Combinations of the elements of a list, in lexicographic order (Python's
`itertools.combinations`).

* `combinations`, `mem_combinations`: the sublists of a length;
* `countP_mem_combinations`: an element is in as many combinations as there are combinations of
  the others;
* `exists_combination_mem`: a combination around an element.
-/
import Mathlib.Tactic

namespace Combinations

variable {α : Type*} {l c : List α} {k : ℕ} {x : α}

/-- `combinations(l, k)`. -/
def combinations : ℕ → List α → List (List α)
  | 0, _ => [[]]
  | _ + 1, [] => []
  | k + 1, x :: l => (combinations k l).map (x :: ·) ++ combinations (k + 1) l

/-- The combinations are the sublists of a length, in another order. -/
lemma combinations_perm (k : ℕ) (l : List α) : (combinations k l).Perm (l.sublistsLen k) := by
  induction l generalizing k with
  | nil =>
      cases k with
      | zero => rw [combinations, List.sublistsLen_zero]
      | succ k => rw [combinations, List.sublistsLen_succ_nil]
  | cons x l ih =>
      cases k with
      | zero => rw [combinations, List.sublistsLen_zero]
      | succ k =>
          rw [combinations, List.sublistsLen_succ_cons]
          exact (((ih k).map _).append (ih (k + 1))).trans List.perm_append_comm

lemma mem_combinations : c ∈ combinations k l ↔ c.Sublist l ∧ c.length = k := by
  rw [(combinations_perm k l).mem_iff, List.mem_sublistsLen]

lemma length_combinations (k : ℕ) (l : List α) :
    (combinations k l).length = l.length.choose k := by
  rw [(combinations_perm k l).length_eq, List.length_sublistsLen]

/-- An element of a list without repetition is in as many combinations as there are
combinations, one shorter, of the other elements. -/
theorem countP_mem_combinations [DecidableEq α] (hl : l.Nodup) (hx : x ∈ l) (k : ℕ) :
    (combinations (k + 1) l).countP (x ∈ ·) = (l.length - 1).choose k := by
  induction l generalizing k with
  | nil => exact absurd hx List.not_mem_nil
  | cons y l ih =>
      rw [List.nodup_cons] at hl
      rw [combinations, List.countP_append, List.countP_map, List.length_cons, Nat.add_sub_cancel]
      by_cases hxy : x = y
      · -- all of the combinations with the head, none of the others
        subst hxy
        have hall : (combinations k l).countP ((fun c => decide (x ∈ c)) ∘ (x :: ·)) =
            l.length.choose k := by
          rw [← length_combinations, List.countP_eq_length]
          exact fun c _ => by simp
        have hnone : (combinations (k + 1) l).countP (fun c => decide (x ∈ c)) = 0 := by
          rw [List.countP_eq_zero]
          intro c hc hmem
          exact hl.1 ((mem_combinations.mp hc).1.subset (of_decide_eq_true hmem))
        rw [hall, hnone, Nat.add_zero]
      · have hmem : x ∈ l := (List.mem_cons.mp hx).resolve_left hxy
        have hhead : (combinations k l).countP ((fun c => decide (x ∈ c)) ∘ (y :: ·)) =
            (combinations k l).countP fun c => decide (x ∈ c) :=
          List.countP_congr fun c _ => by simp [hxy]
        obtain ⟨m, hm⟩ := Nat.exists_eq_add_of_le (List.length_pos_of_mem hmem)
        rw [hhead, ih hl.2 hmem]
        cases k with
        | zero => simp [combinations]
        | succ k =>
            rw [ih hl.2 hmem, hm, Nat.add_sub_cancel_left, Nat.add_comm 1 m, Nat.choose_succ_succ]

/-- An element of a list without repetition is in a combination of every length up to that of
the list. -/
lemma exists_combination_mem (hl : l.Nodup) (hx : x ∈ l) (hk : k + 1 ≤ l.length) :
    ∃ c ∈ combinations (k + 1) l, x ∈ c := by
  classical
  have hpos : 0 < (combinations (k + 1) l).countP (x ∈ ·) := by
    rw [countP_mem_combinations hl hx]
    exact Nat.choose_pos (by omega)
  obtain ⟨c, hc, hmem⟩ := List.countP_pos_iff.mp hpos
  exact ⟨c, hc, of_decide_eq_true hmem⟩

end Combinations

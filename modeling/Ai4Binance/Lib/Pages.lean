/-
Reading a table of rows with distinct keys page by page, from a cursor on.

A page holds the first rows at or after the cursor, in any order; the next cursor is one beyond
the largest key of the page.

* `ordered`: the rows in the order of their keys;
* `page`: the rows of a page, in that order;
* `Split`: the rows before a cursor and those from it on, with `Split.page_eq` and `Split.next`;
* `sorted_congr`: rows that are distinct under a total order sort the same from any order.
-/
import Mathlib.Tactic

namespace Pages

variable {α : Type*} {key : α → ℤ} {rows done rest : List α} {cursor : ℤ} {limit : ℕ}

/-- The rows in the order of their keys. -/
def ordered (key : α → ℤ) (rows : List α) : List α := rows.mergeSort fun r s => key r ≤ key s

lemma ordered_perm (key : α → ℤ) (rows : List α) : (ordered key rows).Perm rows :=
  List.mergeSort_perm _ _

/-- The first rows at or after a cursor. -/
def page (key : α → ℤ) (rows : List α) (cursor : ℤ) (limit : ℕ) : List α :=
  ((ordered key rows).filter fun r => cursor ≤ key r).take limit

/-- Distinct keys are strictly ordered. -/
lemma ordered_pairwise (h : (rows.map key).Nodup) :
    (ordered key rows).Pairwise fun r s => key r < key s := by
  have hle : (ordered key rows).Pairwise fun r s => key r ≤ key s := by
    have htrans : ∀ r s t, decide (key r ≤ key s) = true → decide (key s ≤ key t) = true →
        decide (key r ≤ key t) = true := fun r s t hrs hst =>
      decide_eq_true ((of_decide_eq_true hrs).trans (of_decide_eq_true hst))
    have htotal : ∀ r s, (decide (key r ≤ key s) || decide (key s ≤ key r)) = true := fun r s => by
      simpa using le_total (key r) (key s)
    exact (List.pairwise_mergeSort htrans htotal rows).imp of_decide_eq_true
  have hne : (ordered key rows).Pairwise fun r s => key r ≠ key s :=
    List.pairwise_map.mp (((ordered_perm key rows).map key).nodup_iff.mpr h)
  exact hle.imp₂ (fun _ _ hle hne => lt_of_le_of_ne hle hne) hne

/-- The rows in order, cut at a cursor. -/
structure Split (key : α → ℤ) (rows done rest : List α) (cursor : ℤ) : Prop where
  append : ordered key rows = done ++ rest
  before : ∀ r ∈ done, key r < cursor
  after : ∀ r ∈ rest, cursor ≤ key r

/-- A page holds the first of the rows that are left. -/
lemma Split.page_eq (h : Split key rows done rest cursor) :
    page key rows cursor limit = rest.take limit := by
  have hdone : done.filter (fun r => cursor ≤ key r) = [] := by
    rw [List.filter_eq_nil_iff]
    intro r hr
    simpa using h.before r hr
  have hrest : rest.filter (fun r => cursor ≤ key r) = rest := by
    rw [List.filter_eq_self]
    intro r hr
    simpa using h.after r hr
  rw [page, h.append, List.filter_append, hdone, hrest, List.nil_append]

/-- Beyond the largest key of a page the next page begins. -/
lemma Split.next (hkeys : (rows.map key).Nodup) (h : Split key rows done rest cursor) {last : ℤ}
    (hlast : ((rest.take limit).map key).max? = some last) :
    Split key rows (done ++ rest.take limit) (rest.drop limit) (last + 1) ∧ cursor ≤ last := by
  obtain ⟨hmem, hmax⟩ := List.max?_eq_some_iff.mp hlast
  obtain ⟨r, hr, rfl⟩ := List.mem_map.mp hmem
  have hcursor : cursor ≤ key r := h.after r (List.mem_of_mem_take hr)
  refine ⟨⟨?_, fun s hs => ?_, fun s hs => ?_⟩, hcursor⟩
  · rw [List.append_assoc, List.take_append_drop, h.append]
  · rcases List.mem_append.mp hs with hs | hs
    · exact (h.before s hs).trans (by omega)
    · have hle := hmax (key s) (List.mem_map_of_mem hs)
      omega
  · -- the rows left come after all of the page
    have hpairwise := ordered_pairwise hkeys
    rw [h.append, ← List.take_append_drop limit rest] at hpairwise
    have hlt := (List.pairwise_append.mp (List.pairwise_append.mp hpairwise).2.1).2.2 r hr s hs
    omega

/-- Before the first page nothing is read. -/
lemma split_start (h : ∀ r ∈ rows, cursor ≤ key r) :
    Split key rows [] (ordered key rows) cursor :=
  ⟨rfl, by simp, fun r hr => h r ((ordered_perm key rows).mem_iff.mp hr)⟩

/-- Two orders of the same rows sort the same under a transitive, total relation that tells the
rows apart. -/
lemma sorted_congr {le : α → α → Bool} {rows rows' : List α} (h : rows.Perm rows')
    (htrans : ∀ a b c, le a b → le b c → le a c) (htotal : ∀ a b, le a b || le b a)
    (hanti : ∀ a ∈ rows, ∀ b ∈ rows, le a b → le b a → a = b) :
    rows.mergeSort le = rows'.mergeSort le := by
  have hsame : ∀ a b, a ∈ rows.mergeSort le → b ∈ rows'.mergeSort le → le a b = true →
      le b a = true → a = b := fun a b ha hb =>
    hanti a (List.mem_mergeSort.mp ha) b (h.mem_iff.mpr (List.mem_mergeSort.mp hb))
  exact List.Perm.eq_of_pairwise hsame (List.pairwise_mergeSort htrans htotal rows)
    (List.pairwise_mergeSort htrans htotal rows')
    ((List.mergeSort_perm rows le).trans (h.trans (List.mergeSort_perm rows' le).symm))

end Pages

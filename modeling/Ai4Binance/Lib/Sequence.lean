/-
Python sequences: subscripts and slices.

A subscript counts from the end when it is negative, and a slice is cut to the
length of the sequence before it selects anything.

* `getItem`: `xs[i]`;
* `Slice`, `Slice.indices`: a slice object and `slice.indices(n)`;
* `range`, `rangeLength`: `range(start, stop, step)`;
* `getSlice`: `xs[start:stop:step]`;
* `PrefixView`: a prefix of a sequence that is read in place;
* `PrefixView.getItem_eq`, `PrefixView.getSlice_eq`: **a view reads as the copied prefix does**.
-/
import Ai4Binance.Lib.Python

namespace Sequence

open Check

variable {α : Type}

/-- What a subscript raises: `IndexError`, and the `ValueError` of a zero step. -/
inductive SequenceError where
  | index
  | zeroStep
  deriving DecidableEq, Repr

/-- `xs[i]` for an integer `i`. -/
def getItem (xs : List α) (i : ℤ) : Except SequenceError α :=
  let normalized := if i < 0 then i + xs.length else i
  if normalized < 0 then .error .index else orRaise xs[normalized.toNat]? .index

/-- A slice object; `none` is an absent part. -/
structure Slice where
  start : Option ℤ := none
  stop : Option ℤ := none
  step : Option ℤ := none
  deriving DecidableEq, Repr

/-- A bound of a slice, cut to the range that its direction allows. -/
def clampBound (n : ℕ) (lower upper bound : ℤ) : ℤ :=
  if bound < 0 then max (bound + n) lower else min bound upper

/-- `slice.indices(n)`. -/
def Slice.indices (s : Slice) (n : ℕ) : Except SequenceError (ℤ × ℤ × ℤ) :=
  let step := s.step.getD 1
  if step = 0 then .error .zeroStep
  else if step < 0 then
    .ok ((s.start.map (clampBound n (-1) (n - 1))).getD (n - 1),
      (s.stop.map (clampBound n (-1) (n - 1))).getD (-1), step)
  else
    .ok ((s.start.map (clampBound n 0 n)).getD 0, (s.stop.map (clampBound n 0 n)).getD n, step)

/-- The number of elements of `range(start, stop, step)`. -/
def rangeLength (start stop step : ℤ) : ℕ :=
  if 0 < step then (if start < stop then (stop - start - 1) / step + 1 else 0).toNat
  else (if stop < start then (start - stop - 1) / (-step) + 1 else 0).toNat

/-- `range(start, stop, step)`. -/
def range (start stop step : ℤ) : List ℤ :=
  (List.range (rangeLength start stop step)).map fun k : ℕ => start + k * step

/-- `xs[start:stop:step]`. -/
def getSlice (xs : List α) (s : Slice) : Except SequenceError (List α) := do
  let (start, stop, step) ← s.indices xs.length
  (range start stop step).mapM (getItem xs)

/-! ### The elements that a slice selects -/

/-- Loops whose bodies agree on every element agree. -/
lemma mapM_congr {ε : Type} {β γ : Type} {f g : β → Except ε γ} {xs : List β}
    (h : ∀ x ∈ xs, f x = g x) : xs.mapM f = xs.mapM g := by
  induction xs with
  | nil => rfl
  | cons x xs ih =>
    rw [List.mapM_cons, List.mapM_cons, h x List.mem_cons_self,
      ih fun y hy => h y (List.mem_cons_of_mem _ hy)]

lemma mem_range_of_pos {start stop step k : ℤ} (hstep : 0 < step)
    (hk : k ∈ range start stop step) : start ≤ k ∧ k < stop := by
  obtain ⟨j, hj, rfl⟩ := List.mem_map.mp hk
  rw [List.mem_range, rangeLength, if_pos hstep] at hj
  split_ifs at hj with h
  · have hj' : (j : ℤ) ≤ (stop - start - 1) / step := by omega
    have hmul : (j : ℤ) * step ≤ stop - start - 1 := (Int.le_ediv_iff_mul_le hstep).mp hj'
    have hnonneg : 0 ≤ (j : ℤ) * step := mul_nonneg (Int.natCast_nonneg j) hstep.le
    omega
  · exact absurd hj (by simp)

lemma mem_range_of_neg {start stop step k : ℤ} (hstep : step < 0)
    (hk : k ∈ range start stop step) : stop < k ∧ k ≤ start := by
  obtain ⟨j, hj, rfl⟩ := List.mem_map.mp hk
  rw [List.mem_range, rangeLength, if_neg (by omega)] at hj
  split_ifs at hj with h
  · have hj' : (j : ℤ) ≤ (start - stop - 1) / (-step) := by omega
    have hmul : (j : ℤ) * (-step) ≤ start - stop - 1 :=
      (Int.le_ediv_iff_mul_le (by omega)).mp hj'
    have hnonneg : 0 ≤ (j : ℤ) * (-step) := mul_nonneg (Int.natCast_nonneg j) (by omega)
    rw [mul_neg] at hmul hnonneg
    omega
  · exact absurd hj (by simp)

lemma clampBound_bounds {n : ℕ} {lower upper : ℤ} (hle : lower ≤ upper) (hlower : lower ≤ 0)
    (hupper : (n : ℤ) - 1 ≤ upper) (bound : ℤ) :
    lower ≤ clampBound n lower upper bound ∧ clampBound n lower upper bound ≤ upper := by
  rw [clampBound]
  split_ifs with h
  · omega
  · omega

/-- Where the bounds of a slice lie. -/
lemma Slice.indices_bounds {s : Slice} {n : ℕ} {start stop step : ℤ}
    (h : s.indices n = .ok (start, stop, step)) :
    (step < 0 ∧ -1 ≤ stop ∧ start ≤ n - 1) ∨
      (0 < step ∧ 0 ≤ start ∧ start ≤ n ∧ 0 ≤ stop ∧ stop ≤ n) := by
  simp only [Slice.indices] at h
  split_ifs at h with hzero hneg
  · obtain ⟨rfl, rfl, rfl⟩ : _ ∧ _ ∧ _ := by simpa using h
    refine Or.inl ⟨hneg, ?_, ?_⟩
    · cases s.stop with
      | none => simp
      | some bound => exact (clampBound_bounds (by omega) (by omega) le_rfl bound).1
    · cases s.start with
      | none => simp
      | some bound => exact (clampBound_bounds (by omega) (by omega) le_rfl bound).2
  · obtain ⟨rfl, rfl, rfl⟩ : _ ∧ _ ∧ _ := by simpa using h
    have hclamp : ∀ bound, 0 ≤ clampBound n 0 n bound ∧ clampBound n 0 n bound ≤ n :=
      clampBound_bounds (by omega) le_rfl (by omega)
    refine Or.inr ⟨by omega, ?_, ?_, ?_, ?_⟩
    · cases s.start with
      | none => simp
      | some bound => exact (hclamp bound).1
    · cases s.start with
      | none => simp
      | some bound => exact (hclamp bound).2
    · cases s.stop with
      | none => simp
      | some bound => exact (hclamp bound).1
    · cases s.stop with
      | none => simp
      | some bound => exact (hclamp bound).2

/-- A slice selects only elements that are there. -/
lemma Slice.mem_bounds {s : Slice} {n : ℕ} {start stop step k : ℤ}
    (h : s.indices n = .ok (start, stop, step)) (hk : k ∈ range start stop step) :
    0 ≤ k ∧ k < n := by
  rcases s.indices_bounds h with ⟨hstep, hstop, hstart⟩ | ⟨hstep, hstart, -, -, hstop⟩
  · have := mem_range_of_neg hstep hk
    omega
  · have := mem_range_of_pos hstep hk
    omega

/-- Bounds that lie within a sequence are kept. -/
lemma indices_of_bounds {n : ℕ} {start stop step : ℤ} (hstep : 0 < step)
    (hstart : 0 ≤ start ∧ start ≤ n) (hstop : 0 ≤ stop ∧ stop ≤ n) :
    Slice.indices ⟨some start, some stop, some step⟩ n = .ok (start, stop, step) := by
  have hkeep {bound : ℤ} (hb : 0 ≤ bound ∧ bound ≤ n) : clampBound n 0 n bound = bound := by
    rw [clampBound, if_neg (by omega), min_eq_left hb.2]
  simp only [Slice.indices, Option.getD_some, Option.map_some, hkeep hstart, hkeep hstop]
  rw [if_neg (by omega), if_neg (by omega)]

/-! ### A prefix that is read in place -/

/-- A read-only view of the first `length` elements of a sequence. -/
structure PrefixView (α : Type) where
  elements : List α
  length : ℕ

namespace PrefixView

variable (v : PrefixView α)

/-- `view[i]` for an integer `i`. -/
def getItem (i : ℤ) : Except SequenceError α :=
  let normalized := if i < 0 then i + v.length else i
  if normalized < 0 ∨ (v.length : ℤ) ≤ normalized then .error .index
  else Sequence.getItem v.elements normalized

/-- `view[start:stop:step]`: a negative step selects element by element, and any
other is a slice of the whole sequence. -/
def getSlice (s : Slice) : Except SequenceError (List α) := do
  let (start, stop, step) ← s.indices v.length
  if step < 0 then (range start stop step).mapM (Sequence.getItem v.elements)
  else Sequence.getSlice v.elements ⟨some start, some stop, some step⟩

variable {v}

lemma getItem_take {xs : List α} {n : ℕ} {k : ℤ} (hk : 0 ≤ k ∧ k < n) :
    Sequence.getItem (xs.take n) k = Sequence.getItem xs k := by
  have hget : (xs.take n)[k.toNat]? = xs[k.toNat]? := by
    rw [List.getElem?_take_of_lt (by omega)]
  simp only [Sequence.getItem, if_neg (show ¬ k < 0 by omega), hget]

/-- **A view is subscripted as the copied prefix is.** -/
theorem getItem_eq (h : v.length ≤ v.elements.length) (i : ℤ) :
    v.getItem i = Sequence.getItem (v.elements.take v.length) i := by
  have hlen : (v.elements.take v.length).length = v.length := by simp [h]
  simp only [getItem, Sequence.getItem, hlen]
  generalize (if i < 0 then i + (v.length : ℤ) else i) = k
  by_cases hneg : k < 0
  · simp [hneg]
  · rw [if_neg hneg, if_neg hneg]
    split_ifs with hout
    · have hnone : (v.elements.take v.length)[k.toNat]? = none :=
        List.getElem?_eq_none (by omega)
      rw [hnone]
      rfl
    · rw [List.getElem?_take_of_lt (by omega)]

/-- **A view is sliced as the copied prefix is**, with any step. -/
theorem getSlice_eq (h : v.length ≤ v.elements.length) (s : Slice) :
    v.getSlice s = Sequence.getSlice (v.elements.take v.length) s := by
  have hlen : (v.elements.take v.length).length = v.length := by simp [h]
  rw [getSlice, Sequence.getSlice, hlen]
  cases hs : s.indices v.length with
  | error e => rfl
  | ok bounds =>
    obtain ⟨start, stop, step⟩ := bounds
    have hselect : (range start stop step).mapM (Sequence.getItem v.elements) =
        (range start stop step).mapM (Sequence.getItem (v.elements.take v.length)) := by
      refine mapM_congr ?_
      intro k hk
      exact (getItem_take (s.mem_bounds hs hk)).symm
    simp only [ok_bind]
    split_ifs with hstep
    · exact hselect
    · rcases s.indices_bounds hs with hb | hb
      · omega
      · rw [Sequence.getSlice, indices_of_bounds hb.1 (by omega) (by omega), ok_bind]
        exact hselect

end PrefixView

end Sequence

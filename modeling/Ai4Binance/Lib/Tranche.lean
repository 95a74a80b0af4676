/-
A volume that serves one demand after the other.

* `unserved`: what is left of a demand; `passed`: what is left of the volume;
* `unserved_add`, `passed_add`: a volume may be served in two parts;
* `sub_unserved`: what a demand takes of a volume.
-/
import Mathlib.Tactic

namespace Tranche

variable {α : Type*} [Field α] [LinearOrder α] [IsStrictOrderedRing α] {demand volume more : α}

/-- What is left of a demand after a volume. -/
def unserved (demand volume : α) : α := max 0 (demand - volume)

/-- What a demand leaves of a volume. -/
def passed (demand volume : α) : α := max 0 (volume - demand)

omit [IsStrictOrderedRing α] in
lemma unserved_nonneg : 0 ≤ unserved demand volume := le_max_left _ _

omit [IsStrictOrderedRing α] in
lemma passed_nonneg : 0 ≤ passed demand volume := le_max_left _ _

/-- What a demand takes of a volume. -/
lemma sub_unserved : demand - unserved demand volume = min demand volume := by
  rw [unserved]
  rcases le_total demand volume with h | h
  · rw [max_eq_left (sub_nonpos.mpr h), min_eq_left h, sub_zero]
  · rw [max_eq_right (sub_nonneg.mpr h), min_eq_right h, sub_sub_cancel]

/-- What a demand leaves of a volume is what it does not take. -/
lemma sub_min : volume - min demand volume = passed demand volume := by
  rw [passed]
  rcases le_total demand volume with h | h
  · rw [min_eq_left h, max_eq_right (sub_nonneg.mpr h)]
  · rw [min_eq_right h, sub_self, max_eq_left (sub_nonpos.mpr h)]

/-- A demand is served in two parts. -/
lemma unserved_add (hmore : 0 ≤ more) :
    unserved (unserved demand volume) more = unserved demand (volume + more) := by
  rw [unserved, unserved, unserved]
  rcases le_total demand volume with h | h
  · rw [max_eq_left (sub_nonpos.mpr h), max_eq_left (by linarith), max_eq_left (by linarith)]
  · rw [max_eq_right (sub_nonneg.mpr h), sub_sub]

/-- What passes a demand passes it in two parts. -/
lemma passed_add (hmore : 0 ≤ more) :
    passed demand volume + passed (unserved demand volume) more =
      passed demand (volume + more) := by
  rw [passed, passed, passed, unserved]
  rcases le_total demand volume with h | h
  · rw [max_eq_right (sub_nonneg.mpr h), max_eq_left (sub_nonpos.mpr h), sub_zero,
      max_eq_right hmore, max_eq_right (by linarith)]
    ring
  · rw [max_eq_left (sub_nonpos.mpr h), max_eq_right (sub_nonneg.mpr h), zero_add]
    congr 1
    ring

/-- Nothing of a demand is left once a volume passes it. -/
lemma unserved_eq_zero (h : 0 < passed demand volume) : unserved demand volume = 0 := by
  rw [passed, lt_max_iff] at h
  exact max_eq_left (by linarith [h.resolve_left (lt_irrefl 0)])

lemma passed_mono {volume' : α} (h : volume ≤ volume') :
    passed demand volume ≤ passed demand volume' :=
  max_le_max le_rfl (sub_le_sub_right h _)

lemma passed_anti {demand' : α} (h : demand ≤ demand') :
    passed demand' volume ≤ passed demand volume :=
  max_le_max le_rfl (sub_le_sub_left h _)

end Tranche

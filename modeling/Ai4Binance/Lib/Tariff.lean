/-
Graduated tariffs: charges that are linear on consecutive tiers.

A tier charges `rate * n - offset` on an amount from its floor up to its cap.  A tier continues
the one before when the charges agree at the bound they share and the rate does not fall, so
that the charge of a table is continuous and convex.

* `Tier`, `Tier.charge`, `Tier.Continues`, `Tier.Covers`;
* `charge_sub_bounds`: between two amounts the charge rises at a rate between those of their
  tiers;
* `net_lt_iff`, `gross_lt_iff`: an amount less its charge, and an amount and its charge, rise
  with the amount;
* `net_cap_le`, `gross_cap_le`: how they compare with those of a cap before.
-/
import Mathlib.Algebra.Order.Field.Basic
import Mathlib.Data.List.Chain
import Mathlib.Tactic.Linarith
import Mathlib.Tactic.Ring

/-- A tier of a tariff. -/
structure Tier (K : Type*) where
  floor : K
  cap : K
  rate : K
  offset : K

namespace Tier

variable {K : Type*} [Field K]

/-- The charge on an amount at the rate of a tier. -/
def charge (tier : Tier K) (n : K) : K := tier.rate * n - tier.offset

lemma charge_sub (b : Tier K) (m n : K) : b.charge n - b.charge m = b.rate * (n - m) := by
  rw [charge, charge]
  ring

variable [LinearOrder K]

/-- The amount lies in the tier. -/
def Covers (tier : Tier K) (n : K) : Prop := tier.floor ≤ n ∧ n < tier.cap

/-- A tier continues the one before. -/
def Continues (left right : Tier K) : Prop :=
  left.cap = right.floor ∧ left.rate ≤ right.rate ∧
    right.offset = left.offset + right.floor * (right.rate - left.rate)

variable {b c : Tier K} {l : List (Tier K)} {m n : K}

/-- The charge is continuous at the bound of two tiers. -/
lemma Continues.charge_eq (h : Continues b c) : c.charge c.floor = b.charge b.cap := by
  obtain ⟨hcap, -, hoffset⟩ := h
  rw [charge, charge, hcap, hoffset]
  ring

/-- The tiers after one have higher rates, and floors above its cap. -/
lemma after_of_mem (h : (b :: l).IsChain Continues) (hwf : ∀ t ∈ l, t.floor ≤ t.cap)
    (hc : c ∈ l) : b.rate ≤ c.rate ∧ b.cap ≤ c.floor := by
  induction l generalizing b with
  | nil => simp at hc
  | cons t l ih =>
    rw [List.isChain_cons_cons] at h
    obtain ⟨⟨hcap, hrate, -⟩, hchain⟩ := h
    rcases List.mem_cons.mp hc with rfl | hc
    · exact ⟨hrate, hcap.le⟩
    · obtain ⟨hrate', hcap'⟩ := ih hchain (fun u hu => hwf u (List.mem_cons_of_mem _ hu)) hc
      exact ⟨hrate.trans hrate', hcap.le.trans ((hwf t List.mem_cons_self).trans hcap')⟩

variable [IsStrictOrderedRing K]

/-- The bounds of the rise of a charge, from the first tier of a table. -/
lemma charge_sub_bounds_head (h : (b :: l).IsChain Continues)
    (hwf : ∀ t ∈ b :: l, t.floor ≤ t.cap) (hm : m ≤ b.cap) (hc : c ∈ b :: l) (hn : c.floor ≤ n)
    (hmn : m ≤ n) :
    b.rate * (n - m) ≤ c.charge n - b.charge m ∧ c.charge n - b.charge m ≤ c.rate * (n - m) := by
  induction l generalizing b m with
  | nil =>
    obtain rfl : c = b := by simpa using hc
    rw [charge_sub]
    exact ⟨le_rfl, le_rfl⟩
  | cons t l ih =>
    rcases List.mem_cons.mp hc with rfl | hc
    · rw [charge_sub]
      exact ⟨le_rfl, le_rfl⟩
    · obtain ⟨hrate, hcap⟩ := after_of_mem h (fun u hu => hwf u (List.mem_cons_of_mem _ hu)) hc
      rw [List.isChain_cons_cons] at h
      obtain ⟨hcontinues, hchain⟩ := h
      have hwf' : ∀ u ∈ t :: l, u.floor ≤ u.cap := fun u hu => hwf u (List.mem_cons_of_mem _ hu)
      have hbound := hcontinues.1
      have hfloor : t.floor ≤ n := hbound ▸ hcap.trans hn
      obtain ⟨hlow, hhigh⟩ := ih hchain hwf' (hwf' t List.mem_cons_self) hc hfloor
      -- the rise is that of the first tier up to its cap, and that of the others from there
      have hfirst : b.charge b.cap - b.charge m = b.rate * (t.floor - m) := by
        rw [charge_sub, hbound]
      have hjoin := hcontinues.charge_eq
      have hleft : 0 ≤ t.floor - m := by linarith
      have hright : 0 ≤ n - t.floor := by linarith
      have hrises := mul_le_mul_of_nonneg_right hcontinues.2.1 hright
      have hrises' := mul_le_mul_of_nonneg_right hrate hleft
      constructor
      · calc b.rate * (n - m) = b.rate * (n - t.floor) + b.rate * (t.floor - m) := by ring
          _ ≤ t.rate * (n - t.floor) + b.rate * (t.floor - m) := by linarith
          _ ≤ c.charge n - b.charge m := by linarith
      · calc c.charge n - b.charge m ≤ c.rate * (n - t.floor) + b.rate * (t.floor - m) := by
              linarith
          _ ≤ c.rate * (n - t.floor) + c.rate * (t.floor - m) := by linarith
          _ = c.rate * (n - m) := by ring

/-- **The charge of a table is convex**: between two amounts it rises at a rate between
those of their tiers. -/
theorem charge_sub_bounds (h : l.IsChain Continues) (hwf : ∀ t ∈ l, t.floor ≤ t.cap)
    (hb : b ∈ l) (hc : c ∈ l) (hm : b.Covers m) (hn : c.Covers n) (hmn : m ≤ n) :
    b.rate * (n - m) ≤ c.charge n - b.charge m ∧ c.charge n - b.charge m ≤ c.rate * (n - m) := by
  induction l with
  | nil => simp at hb
  | cons t l ih =>
    rcases List.mem_cons.mp hb with rfl | hlater
    · exact charge_sub_bounds_head h hwf hm.2.le hc hn.1 hmn
    · have hwf' : ∀ u ∈ l, u.floor ≤ u.cap := fun u hu => hwf u (List.mem_cons_of_mem _ hu)
      rcases List.mem_cons.mp hc with rfl | hlater'
      · have hcap := (after_of_mem h hwf' hlater).2
        exact absurd (hmn.trans_lt hn.2) (not_lt.mpr (hcap.trans hm.1))
      · exact ih h.tail hwf' hlater hlater'

section Monotone

variable (h : l.IsChain Continues) (hwf : ∀ t ∈ l, t.floor ≤ t.cap) (hb : b ∈ l) (hc : c ∈ l)
  (hm : b.Covers m) (hn : c.Covers n)

include h hwf hb hc hm hn

/-- At rates below one an amount less its charge rises with the amount. -/
lemma net_lt_iff (hrate : ∀ t ∈ l, t.rate < 1) :
    m - b.charge m < n - c.charge n ↔ m < n := by
  constructor
  · intro hlt
    by_contra hnm
    have hbound := (charge_sub_bounds h hwf hc hb hn hm (not_lt.mp hnm)).2
    have hone : b.rate * (m - n) ≤ 1 * (m - n) :=
      mul_le_mul_of_nonneg_right (hrate b hb).le (by linarith)
    linarith
  · intro hlt
    have hbound := (charge_sub_bounds h hwf hb hc hm hn hlt.le).2
    have hone : c.rate * (n - m) < 1 * (n - m) :=
      mul_lt_mul_of_pos_right (hrate c hc) (by linarith)
    linarith

/-- At rates that are not negative an amount and its charge rise with the amount. -/
lemma gross_lt_iff (hrate : ∀ t ∈ l, 0 ≤ t.rate) :
    m + b.charge m < n + c.charge n ↔ m < n := by
  constructor
  · intro hlt
    by_contra hnm
    have hbound := (charge_sub_bounds h hwf hc hb hn hm (not_lt.mp hnm)).1
    have hzero : 0 ≤ c.rate * (m - n) := mul_nonneg (hrate c hc) (by linarith)
    linarith
  · intro hlt
    have hbound := (charge_sub_bounds h hwf hb hc hm hn hlt.le).1
    have hzero : 0 ≤ b.rate * (n - m) := mul_nonneg (hrate b hb) (by linarith)
    linarith

/-- At rates below one amounts that are equal less their charges are equal. -/
lemma eq_of_net_eq (hrate : ∀ t ∈ l, t.rate < 1) (heq : m - b.charge m = n - c.charge n) :
    m = n := by
  refine le_antisymm (not_lt.mp fun hlt => ?_) (not_lt.mp fun hlt => ?_)
  · exact absurd ((net_lt_iff h hwf hc hb hn hm hrate).mpr hlt) (by linarith)
  · exact absurd ((net_lt_iff h hwf hb hc hm hn hrate).mpr hlt) (by linarith)

/-- At rates that are not negative amounts that are equal with their charges are equal. -/
lemma eq_of_gross_eq (hrate : ∀ t ∈ l, 0 ≤ t.rate) (heq : m + b.charge m = n + c.charge n) :
    m = n := by
  refine le_antisymm (not_lt.mp fun hlt => ?_) (not_lt.mp fun hlt => ?_)
  · exact absurd ((gross_lt_iff h hwf hc hb hn hm hrate).mpr hlt) (by linarith)
  · exact absurd ((gross_lt_iff h hwf hb hc hm hn hrate).mpr hlt) (by linarith)

end Monotone

section Caps

variable (h : (b :: l).IsChain Continues) (hwf : ∀ t ∈ b :: l, t.floor ≤ t.cap) (hc : c ∈ l)
  (hn : c.floor ≤ n)

include h hwf hc hn

/-- An amount of a later tier less its charge is at least that of a cap. -/
lemma net_cap_le (hrate : c.rate < 1) : b.cap - b.charge b.cap ≤ n - c.charge n := by
  have hwf' : ∀ t ∈ l, t.floor ≤ t.cap := fun t ht => hwf t (List.mem_cons_of_mem _ ht)
  have hcap := (after_of_mem h hwf' hc).2.trans hn
  have hbound := (charge_sub_bounds_head h hwf le_rfl (List.mem_cons_of_mem _ hc) hn hcap).2
  have hone : c.rate * (n - b.cap) ≤ 1 * (n - b.cap) :=
    mul_le_mul_of_nonneg_right hrate.le (by linarith)
  linarith

/-- An amount of a later tier with its charge is at least that of a cap. -/
lemma gross_cap_le (hrate : 0 ≤ b.rate) : b.cap + b.charge b.cap ≤ n + c.charge n := by
  have hwf' : ∀ t ∈ l, t.floor ≤ t.cap := fun t ht => hwf t (List.mem_cons_of_mem _ ht)
  have hcap := (after_of_mem h hwf' hc).2.trans hn
  have hbound := (charge_sub_bounds_head h hwf le_rfl (List.mem_cons_of_mem _ hc) hn hcap).1
  have hzero : 0 ≤ b.rate * (n - b.cap) := mul_nonneg hrate (by linarith)
  linarith

end Caps

end Tier

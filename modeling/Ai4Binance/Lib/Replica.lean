/-
Replication by absolute updates.

A truth is a sequence of total assignments, indexed by update number.  A
replica that agrees with the truth at one number is brought to a later number
by writing, for every key that changed in between, the value the key has at the
later number; keys that did not change may be written too, with their value.

* `ChangedIn truth a l k`: the key changed in one of the updates `a + 1, …, l`;
* `eq_of_not_changedIn`: a key that did not change has its old value;
* `patch_eq_truth`: the patched replica agrees with the truth at `l`.
-/
import Mathlib.Tactic

namespace Replica

variable {κ ν : Type*} {truth : ℕ → κ → ν} {a b l : ℕ} {k : κ}

/-- The key `k` changes its value in one of the updates `a + 1, …, l`. -/
def ChangedIn (truth : ℕ → κ → ν) (a l : ℕ) (k : κ) : Prop :=
  ∃ i, a ≤ i ∧ i < l ∧ truth (i + 1) k ≠ truth i k

/-- A later start sees fewer changes. -/
lemma ChangedIn.mono (hab : a ≤ b) (h : ChangedIn truth b l k) : ChangedIn truth a l k := by
  obtain ⟨i, hbi, hil, hne⟩ := h
  exact ⟨i, hab.trans hbi, hil, hne⟩

lemma eq_of_not_changedIn (hal : a ≤ l) (h : ¬ ChangedIn truth a l k) :
    truth l k = truth a k := by
  induction l, hal using Nat.le_induction with
  | base => rfl
  | succ n han ih =>
      have hn : truth (n + 1) k = truth n k := by
        by_contra hne
        exact h ⟨n, han, Nat.lt_succ_self n, hne⟩
      rw [hn]
      refine ih fun ⟨i, hai, hin, hne⟩ => h ⟨i, hai, Nat.lt_succ_of_lt hin, hne⟩

/-- **One patch**: a replica that agrees with the truth at `a` agrees with it
at `l` after a patch that carries true values only and every changed key. -/
theorem patch_eq_truth (truth : ℕ → κ → ν) {state : κ → ν} (patch : κ → Option ν) (hal : a ≤ l)
    (hstate : ∀ k, state k = truth a k) (htrue : ∀ k v, patch k = some v → v = truth l k)
    (hcover : ∀ k, ChangedIn truth a l k → (patch k).isSome) (k : κ) :
    (patch k).getD (state k) = truth l k := by
  cases hk : patch k with
  | some v => exact htrue k v hk
  | none =>
      have hnot : ¬ ChangedIn truth a l k := fun h => by simpa [hk] using hcover k h
      rw [Option.getD_none, hstate, eq_of_not_changedIn hal hnot]

end Replica

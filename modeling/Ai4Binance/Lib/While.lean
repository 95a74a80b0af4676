/-
While loops.

A turn of a loop goes on with new loop variables or leaves the loop with a result.

* `turns`: at most so many turns of a loop;
* `turns_eq`: **the variant rule**: a loop whose turns lower a variant and keep the value of a
  function is left with that value;
* `turns_ensure`: **the postcondition rule**: what the last turns ensure.
-/
import Mathlib.Tactic

namespace While

variable {σ ρ : Type*}

/-- At most `fuel` turns from the loop variables `s`; `none` when the loop goes on after them. -/
def turns (turn : σ → σ ⊕ ρ) : ℕ → σ → Option ρ
  | 0, _ => none
  | fuel + 1, s =>
      match turn s with
      | .inl next => turns turn fuel next
      | .inr result => some result

variable {turn : σ → σ ⊕ ρ}

/-- **The variant rule**: a loop whose turns keep an invariant, lower a variant and keep the value
of `result` is left with this value, within more turns than the variant counts. -/
theorem turns_eq (invariant : σ → Prop) (variant : σ → ℕ) (result : σ → ρ)
    (hnext : ∀ {s t}, invariant s → turn s = .inl t →
      invariant t ∧ variant t < variant s ∧ result t = result s)
    (hlast : ∀ {s r}, invariant s → turn s = .inr r → r = result s)
    {fuel : ℕ} {s : σ} (hs : invariant s) (hfuel : variant s < fuel) :
    turns turn fuel s = some (result s) := by
  induction fuel generalizing s with
  | zero => omega
  | succ fuel ih =>
      cases hturn : turn s with
      | inl next =>
          obtain ⟨hinv, hlt, hresult⟩ := hnext hs hturn
          rw [turns, hturn, ← hresult]
          exact ih hinv (by omega)
      | inr r => rw [turns, hturn, hlast hs hturn]

/-- **The postcondition rule**: a loop whose turns keep an invariant and lower a variant is left
with a result that its last turns ensure, within more turns than the variant counts. -/
theorem turns_ensure (invariant : σ → Prop) (variant : σ → ℕ) (post : ρ → Prop)
    (hnext : ∀ {s t}, invariant s → turn s = .inl t → invariant t ∧ variant t < variant s)
    (hlast : ∀ {s r}, invariant s → turn s = .inr r → post r)
    {fuel : ℕ} {s : σ} (hs : invariant s) (hfuel : variant s < fuel) :
    ∃ r, turns turn fuel s = some r ∧ post r := by
  induction fuel generalizing s with
  | zero => omega
  | succ fuel ih =>
      rw [turns]
      cases hturn : turn s with
      | inl next =>
          obtain ⟨hinv, hlt⟩ := hnext hs hturn
          exact ih hinv (by omega)
      | inr r => exact ⟨r, rfl, hlast hs hturn⟩

end While

/-
Runs of a labelled transition system: finite sequences of steps, each with the
label of the call, event or message it answers.

* `Run step s l t`: the labels `l` lead from `s` to `t`;
* `Run.invariant`, `Run.monotone`: what every step keeps or raises, every run does;
* `run_append_iff`, `run_snoc_iff`: a run is cut at any point, so a statement
  about the end of every run is a statement about every state on the way;
* `Run.mono`: fewer steps, fewer runs;
* `Run.foldl`: the run of a transition function;
* `Run.countP_le_one`: a label that closes a state which no step opens again
  occurs at most once.
-/
import Mathlib.Tactic

/-- `Run step s l t`: from `s`, the labels `l` in order lead to `t`. -/
inductive Run {σ ι : Type*} (step : σ → ι → σ → Prop) : σ → List ι → σ → Prop
  | nil (s : σ) : Run step s [] s
  | cons {s t u : σ} {i : ι} {l : List ι} : step s i t → Run step t l u → Run step s (i :: l) u

namespace Run

variable {σ ι : Type*} {step step' : σ → ι → σ → Prop} {s t u : σ} {i : ι} {l l' : List ι}

/-- **The invariant rule**: a property that every step keeps holds at the end
of every run that starts with it. -/
theorem invariant {P : σ → Prop} (hstep : ∀ {s i t}, step s i t → P s → P t)
    (h : Run step s l t) (hs : P s) : P t := by
  induction h with
  | nil _ => exact hs
  | cons hst _ ih => exact ih (hstep hst hs)

/-- What no step lowers, no run lowers. -/
lemma monotone {α : Type*} [Preorder α] (f : σ → α) (hstep : ∀ {s i t}, step s i t → f s ≤ f t)
    (h : Run step s l t) : f s ≤ f t :=
  h.invariant (P := fun u => f s ≤ f u) (fun hst hle => hle.trans (hstep hst)) le_rfl

/-- A run of a transition system is a run of every larger one. -/
lemma mono (himp : ∀ {s i t}, step s i t → step' s i t) (h : Run step s l t) :
    Run step' s l t := by
  induction h with
  | nil s => exact .nil s
  | cons hst _ ih => exact .cons (himp hst) ih

/-- **The at-most-once rule**: when every step with a marked label leads from an
open state to a closed one, and no step leads from a closed state to an open
one, a run has at most one marked label, and none if it starts closed. -/
theorem countP_le_one (isOpen : σ → Prop) {p : ι → Bool}
    (hfire : ∀ {s i t}, step s i t → p i → isOpen s ∧ ¬ isOpen t)
    (hclosed : ∀ {s i t}, step s i t → isOpen t → isOpen s) (h : Run step s l t) :
    l.countP p ≤ 1 ∧ (¬ isOpen s → l.countP p = 0) := by
  induction h with
  | nil _ => simp
  | @cons s t u i l hst _ ih =>
      rw [List.countP_cons]
      by_cases hi : p i = true
      · obtain ⟨hs, ht⟩ := hfire hst hi
        rw [if_pos hi, ih.2 ht]
        exact ⟨le_rfl, fun hns => absurd hs hns⟩
      · rw [if_neg hi]
        exact ⟨ih.1, fun hns => ih.2 fun ht => hns (hclosed hst ht)⟩

lemma single (h : step s i t) : Run step s [i] t := .cons h (.nil t)

/-- The run of a transition function. -/
lemma foldl (f : σ → ι → σ) (s : σ) (l : List ι) :
    Run (fun s i t => t = f s i) s l (l.foldl f s) := by
  induction l generalizing s with
  | nil => exact .nil s
  | cons i l ih => exact .cons rfl (ih (f s i))

end Run

variable {σ ι : Type*} {step : σ → ι → σ → Prop} {s t u : σ} {i : ι} {l l' : List ι}

@[simp] lemma run_nil_iff : Run step s [] t ↔ s = t := by
  constructor
  · rintro ⟨⟩
    rfl
  · rintro rfl
    exact .nil s

lemma run_cons_iff : Run step s (i :: l) u ↔ ∃ t, step s i t ∧ Run step t l u := by
  constructor
  · rintro (_ | ⟨hst, h⟩)
    exact ⟨_, hst, h⟩
  · rintro ⟨t, hst, h⟩
    exact .cons hst h

lemma run_append_iff : Run step s (l ++ l') u ↔ ∃ t, Run step s l t ∧ Run step t l' u := by
  induction l generalizing s with
  | nil => simp
  | cons i l ih =>
      simp only [List.cons_append, run_cons_iff, ih]
      constructor
      · rintro ⟨t, hst, v, hl, hl'⟩
        exact ⟨v, ⟨t, hst, hl⟩, hl'⟩
      · rintro ⟨v, ⟨t, hst, hl⟩, hl'⟩
        exact ⟨t, hst, v, hl, hl'⟩

lemma run_snoc_iff : Run step s (l ++ [i]) u ↔ ∃ t, Run step s l t ∧ step t i u := by
  simp [run_append_iff, run_cons_iff]

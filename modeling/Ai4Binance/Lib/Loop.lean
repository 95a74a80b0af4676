/-
Loops over a sequence whose body sees the whole sequence.

A loop body is given the sequence, the number of the turn, its element and the loop
variables.  It looks back only (`Causal`) when two sequences that agree up to the
element of a turn give the same turn.

* `runFrom`, `run`, `after`: the rest of a loop, a loop, and its first turns;
* `run_eq_after`, `after_succ`, `exists_after_of_le`: a loop is cut at any turn;
* `invariant`: what every turn keeps, the loop keeps;
* `Causal.after_eq`: **no look-ahead**: the turns of a common prefix are common;
* `returns`, `returns_simulates`: a loop that may return from a turn, and when two
  such loops return alike.
-/
import Ai4Binance.Lib.Python

namespace Loop

open Check

variable {α σ ε : Type} (body : List α → ℕ → α → σ → Except ε σ) (xs ys : List α)

/-- The turns from number `i` on, with the elements that are left. -/
def runFrom (i : ℕ) : List α → σ → Except ε σ
  | [], s => .ok s
  | x :: rest, s => do runFrom (i + 1) rest (← body xs i x s)

/-- `for i, x in enumerate(xs): …`. -/
def run (s : σ) : Except ε σ := runFrom body xs 0 xs s

/-- The first `k` turns. -/
def after (k : ℕ) (s : σ) : Except ε σ := runFrom body xs 0 (xs.take k) s

variable {body xs ys} {s t : σ} {i k : ℕ} {l l' : List α} {x : α}

@[simp] lemma runFrom_nil : runFrom body xs i [] s = .ok s := rfl

lemma runFrom_cons :
    runFrom body xs i (x :: l) s = body xs i x s >>= runFrom body xs (i + 1) l := rfl

lemma runFrom_append : runFrom body xs i (l ++ l') s =
    runFrom body xs i l s >>= runFrom body xs (i + l.length) l' := by
  induction l generalizing i s with
  | nil => rfl
  | cons x l ih =>
    rw [List.cons_append, runFrom_cons, runFrom_cons]
    cases body xs i x s with
    | error e => rfl
    | ok next =>
      rw [ok_bind, ok_bind, ih, List.length_cons]
      congr 2
      omega

/-- A loop is its first turns and the rest. -/
lemma run_eq_after (k : ℕ) : run body xs s =
    after body xs k s >>= runFrom body xs (xs.take k).length (xs.drop k) := by
  have hcut : runFrom body xs 0 (xs.take k ++ xs.drop k) s =
      runFrom body xs 0 (xs.take k) s >>= runFrom body xs (0 + (xs.take k).length) (xs.drop k) :=
    runFrom_append
  rw [List.take_append_drop, zero_add] at hcut
  exact hcut

@[simp] lemma after_zero : after body xs 0 s = .ok s := rfl

lemma after_succ (h : xs[k]? = some x) :
    after body xs (k + 1) s = after body xs k s >>= body xs k x := by
  have hk : k < xs.length := (List.getElem?_eq_some_iff.mp h).1
  have hlen : (xs.take k).length = k := by simp [hk.le]
  rw [after, List.take_add_one, h, Option.toList_some, runFrom_append, hlen, zero_add]
  congr 1
  funext next
  rw [runFrom_cons]
  cases body xs k x next <;> rfl

lemma after_length : after body xs xs.length s = run body xs s := by
  rw [after, List.take_length, run]

/-- There are no turns past the end. -/
lemma after_succ_of_none (h : xs[k]? = none) : after body xs (k + 1) s = after body xs k s := by
  have hk : xs.length ≤ k := List.getElem?_eq_none_iff.mp h
  rw [after, after, List.take_of_length_le (by omega), List.take_of_length_le hk]

/-- The turns before those of a loop that got on did get on. -/
lemma exists_after_of_le {j : ℕ} (h : after body xs k s = .ok t) (hle : j ≤ k) :
    ∃ u, after body xs j s = .ok u := by
  induction hle generalizing t with
  | refl => exact ⟨t, h⟩
  | @step k _ ih =>
    cases hx : xs[k]? with
    | none =>
      rw [after_succ_of_none hx] at h
      exact ih h
    | some x =>
      rw [after_succ hx, bind_eq_ok] at h
      obtain ⟨u, hu, -⟩ := h
      exact ih hu

/-- **The invariant rule**: a property of the number of turns and the variables
that every turn keeps holds after the turns. -/
theorem runFrom_invariant {P : ℕ → σ → Prop}
    (hstep : ∀ {i x s t}, xs[i]? = some x → P i s → body xs i x s = .ok t → P (i + 1) t)
    (hl : l <+: xs.drop i) (h : runFrom body xs i l s = .ok t) (hs : P i s) :
    P (i + l.length) t := by
  induction l generalizing i s with
  | nil =>
    obtain rfl := Except.ok.inj h
    exact hs
  | cons x l ih =>
    obtain ⟨rest, hrest⟩ := hl
    have hx : xs[i]? = some x := by
      rw [← List.head?_drop, ← hrest]
      rfl
    have htail : l <+: xs.drop (i + 1) := by
      refine ⟨rest, ?_⟩
      rw [← List.tail_drop, ← hrest]
      rfl
    rw [runFrom_cons, bind_eq_ok] at h
    obtain ⟨next, hnext, h⟩ := h
    have hlast := ih htail h (hstep hx hs hnext)
    rw [List.length_cons, show i + (l.length + 1) = i + 1 + l.length by omega]
    exact hlast

/-- The invariant rule for the first turns. -/
theorem after_invariant {P : ℕ → σ → Prop}
    (hstep : ∀ {i x s t}, xs[i]? = some x → P i s → body xs i x s = .ok t → P (i + 1) t)
    (h : after body xs k s = .ok t) (hs : P 0 s) : P (xs.take k).length t := by
  have hlast := runFrom_invariant hstep (by simpa using List.take_prefix k xs) h hs
  rwa [zero_add] at hlast

/-- The body looks back only. -/
def Causal (body : List α → ℕ → α → σ → Except ε σ) : Prop :=
  ∀ {xs ys : List α} {i : ℕ} (x : α) (s : σ), xs.take (i + 1) = ys.take (i + 1) →
    i < xs.length → i < ys.length → body xs i x s = body ys i x s

/-- **No look-ahead**: sequences with a common prefix go through the turns of the
prefix alike. -/
theorem Causal.after_eq (hbody : Causal body) (h : xs.take k = ys.take k) :
    after body xs k s = after body ys k s := by
  induction k with
  | zero => rfl
  | succ k ih =>
    have hshort : xs.take k = ys.take k := by
      have hcut := congrArg (List.take k) h
      rwa [List.take_take, List.take_take, min_eq_left (Nat.le_succ k)] at hcut
    have hget : xs[k]? = ys[k]? := by
      have hcut := congrArg (fun l : List α => l[k]?) h
      simpa [List.getElem?_take_of_lt (Nat.lt_succ_self k)] using hcut
    cases hx : xs[k]? with
    | none =>
      have hlen : xs.length ≤ k := List.getElem?_eq_none_iff.mp hx
      have hlen' : ys.length ≤ k := List.getElem?_eq_none_iff.mp (hget ▸ hx)
      have hall := ih hshort
      rw [after, after, List.take_of_length_le hlen, List.take_of_length_le hlen'] at hall
      rw [after, after, List.take_of_length_le (by omega), List.take_of_length_le (by omega)]
      exact hall
    | some x =>
      have hx' : ys[k]? = some x := hget ▸ hx
      rw [after_succ hx, after_succ hx', ih hshort]
      congr 1
      funext next
      exact hbody x next h (List.getElem?_eq_some_iff.mp hx).1 (List.getElem?_eq_some_iff.mp hx').1

/-! ### Loops that return -/

section Returns

variable {β τ ρ κ ε' : Type} {step : σ → α → Except ε (σ ⊕ ρ)} {step' : τ → β → Except ε' (τ ⊕ κ)}
  {f : α → β} {R : σ → τ → Prop} {E : ρ → κ → Prop}

/-- The number of the turn that returns and what it returns, if one does. -/
def returns (step : σ → α → Except ε (σ ⊕ ρ)) : List α → σ → Except ε (Option (ℕ × ρ))
  | [], _ => .ok none
  | x :: rest, s => do
      match ← step s x with
      | .inr r => return some (0, r)
      | .inl next => do
          let later ← returns step rest next
          return later.map (Prod.map (· + 1) id)

/-- **The simulation rule**: when each turn of the second loop does what the turn of
the first one does, it returns from the same turn, with a related value. -/
theorem returns_simulates
    (hstep : ∀ {s t x done}, R s t → step s x = .ok done →
      ∃ done', step' t (f x) = .ok done' ∧ Sum.LiftRel R E done done')
    {xs : List α} {s : σ} {t : τ} (h : R s t) {out : Option (ℕ × ρ)}
    (hrun : returns step xs s = .ok out) :
    ∃ out', returns step' (xs.map f) t = .ok out' ∧
      Option.Rel (fun x y => x.1 = y.1 ∧ E x.2 y.2) out out' := by
  induction xs generalizing s t out with
  | nil =>
    obtain rfl := Except.ok.inj hrun
    exact ⟨none, rfl, .none⟩
  | cons x xs ih =>
    rw [returns, bind_eq_ok] at hrun
    obtain ⟨done, hdone, hrun⟩ := hrun
    obtain ⟨done', hdone', hrel⟩ := hstep h hdone
    rw [List.map_cons, returns, hdone', ok_bind]
    cases hrel with
    | inr hresult =>
      obtain rfl := Except.ok.inj hrun
      exact ⟨_, rfl, .some ⟨rfl, hresult⟩⟩
    | inl hnext =>
      obtain ⟨later, hlater, hout⟩ := bind_eq_ok.mp hrun
      obtain rfl := Except.ok.inj hout
      obtain ⟨later', hlater', hsame⟩ := ih hnext hlater
      refine ⟨later'.map (Prod.map (· + 1) id), by simp only [hlater', ok_bind]; rfl, ?_⟩
      cases hsame with
      | none => exact .none
      | some hturn => exact .some ⟨congrArg (· + 1) hturn.1, hturn.2⟩

end Returns

end Loop

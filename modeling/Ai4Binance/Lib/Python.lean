/-
Guarded computations: functions that refuse their input with an exception.

A Python function that raises is a function into `Except PyError`.  Its checks
are written with `raiseIf`, and a proof about an accepted input takes the
function apart with `bind_eq_ok` instead of unfolding it.

* `PyError`: the exceptions, with their texts;
* `Datetime`: a point in time, or a wall-clock reading without a zone;
* `CanonicalDigest`: the hex digest of a value's canonical text;
* `raiseIf`, `orRaise`: a check, and a value that may be missing;
* `bind_eq_ok`, `raiseIf_eq_ok`, `orRaise_eq_ok`, `mapM_eq_ok`: inversion of an
  accepted run;
* `mem_eraseDups`, `nodup_eraseDups`: `dict.fromkeys`;
* `Passes`, `firstRefusal`, `construct`: the table of checks of a constructor.
-/
import Mathlib.Tactic

/-- The exceptions the modelled code raises: `ValueError`, `RuntimeError` and
`OverflowError` with their texts, the signals of `decimal`, and the
`AttributeError` of a field read from `None`. -/
inductive PyError where
  | value (message : String)
  | runtime (message : String)
  | overflow (message : String)
  | decimal
  | attribute
  | index (message : String)
  | recursion (message : String)
  deriving DecidableEq, Repr

/-- `datetime`: aware of its zone, and then an instant, or naive.  Instants are
counted in microseconds. -/
inductive Datetime where
  | aware (instant : ℤ)
  | naive (wall : ℤ)
  deriving DecidableEq, Repr

/-- `sha256(json.dumps(value, …)).hexdigest()` on the values of a type: the
digest of the canonical text, of which only the alphabet is known. -/
class CanonicalDigest (α : Type*) where
  hexdigest : α → String
  hexdigest_ne_empty : ∀ a, hexdigest a ≠ ""
  hexdigest_hex : ∀ a, (hexdigest a).toList.all fun c => c.isDigit || "abcdef".toList.contains c

/-- A stand-in digest for runs that do not depend on it. -/
@[reducible] def CanonicalDigest.const (α : Type*) : CanonicalDigest α where
  hexdigest _ := "e3b0c44298fc1c149afbf4c8996fb92427ae41e4649b934ca495991b7852b855"
  hexdigest_ne_empty _ := by decide
  hexdigest_hex _ := by decide

namespace Check

variable {ε : Type*} {α β : Type}

/-- `if p: raise e`. -/
def raiseIf (p : Prop) [Decidable p] (e : ε) : Except ε Unit := if p then .error e else .ok ()

/-- The value, or the exception when there is none. -/
def orRaise (o : Option α) (e : ε) : Except ε α :=
  match o with
  | some a => .ok a
  | none => .error e

@[simp] lemma raiseIf_eq_ok {p : Prop} [Decidable p] {e : ε} {u : Unit} :
    raiseIf p e = .ok u ↔ ¬ p := by
  rw [raiseIf]
  split_ifs with h <;> simp [h]

@[simp] lemma orRaise_eq_ok {o : Option α} {e : ε} {a : α} : orRaise o e = .ok a ↔ o = some a := by
  cases o <;> simp [orRaise]

/-- Inversion of an accepted sequence of two computations. -/
@[simp] lemma bind_eq_ok {x : Except ε α} {f : α → Except ε β} {b : β} :
    (x >>= f) = .ok b ↔ ∃ a, x = .ok a ∧ f a = .ok b := by
  cases x with
  | error e => simp [bind, Except.bind]
  | ok a => simp [bind, Except.bind]

lemma map_eq_ok {x : Except ε α} {f : α → β} {b : β} :
    (f <$> x) = .ok b ↔ ∃ a, x = .ok a ∧ f a = b := by
  cases x with
  | error e => simp [Functor.map, Except.map]
  | ok a => simp [Functor.map, Except.map]

@[simp] lemma ok_bind {a : α} {f : α → Except ε β} : (Except.ok a >>= f) = f a := rfl

@[simp] lemma error_bind {e : ε} {f : α → Except ε β} : (Except.error e >>= f) = .error e := rfl

lemma raiseIf_of_not {p : Prop} [Decidable p] {e : ε} (h : ¬ p) : raiseIf p e = .ok () := by
  rw [raiseIf, if_neg h]

@[simp] lemma pure_eq_ok {a b : α} : (pure a : Except ε α) = .ok b ↔ a = b := by
  simp [pure, Except.pure]

lemma toOption_eq_some {x : Except ε α} {a : α} : x.toOption = some a ↔ x = .ok a := by
  cases x <;> simp [Except.toOption]

/-- A result of which a test holds. -/
lemma exists_ok_of_any {x : Except ε α} {p : α → Bool} (h : x.toOption.any p) :
    ∃ a, x = .ok a ∧ p a := by
  obtain ⟨a, ha, hp⟩ := (Option.any_eq_true _ _).mp h
  exact ⟨a, toOption_eq_some.mp ha, hp⟩

@[simp] lemma throw_ne_ok {e : ε} {a : α} : (throw e : Except ε α) = .ok a ↔ False := by
  simp [throw, throwThe, MonadExceptOf.throw]

/-- Inversion of an accepted loop: every element was accepted. -/
lemma mapM_eq_ok {f : α → Except ε β} {l : List α} {r : List β} :
    l.mapM f = .ok r ↔ List.Forall₂ (fun a b => f a = .ok b) l r := by
  induction l generalizing r with
  | nil => rw [List.mapM_nil, pure_eq_ok, List.forall₂_nil_left_iff, eq_comm]
  | cons a l ih =>
      simp only [List.mapM_cons, bind_eq_ok, pure_eq_ok, ih, List.forall₂_cons_left_iff]
      constructor
      · rintro ⟨b, hb, r, hr, rfl⟩
        exact ⟨b, r, hb, hr, rfl⟩
      · rintro ⟨b, r, hb, hr, rfl⟩
        exact ⟨b, hb, r, hr, rfl⟩

/-- A loop is accepted when every element is. -/
lemma exists_mapM_eq_ok {f : α → Except ε β} {l : List α} (h : ∀ a ∈ l, ∃ b, f a = .ok b) :
    ∃ r, l.mapM f = .ok r := by
  induction l with
  | nil => exact ⟨[], rfl⟩
  | cons a l ih =>
      obtain ⟨b, hb⟩ := h a List.mem_cons_self
      obtain ⟨r, hr⟩ := ih fun a' ha' => h a' (List.mem_cons_of_mem _ ha')
      exact ⟨b :: r, mapM_eq_ok.mpr (.cons hb (mapM_eq_ok.mp hr))⟩

/-- The elements of an accepted loop, read off what it returns. -/
lemma map_of_mapM_eq_ok {f : α → Except ε β} {g : β → α} {l : List α} {r : List β}
    (h : l.mapM f = .ok r) (hg : ∀ a b, f a = .ok b → g b = a) : r.map g = l := by
  rw [mapM_eq_ok] at h
  induction h with
  | nil => rfl
  | cons hab _ ih => rw [List.map_cons, hg _ _ hab, ih]

/-- What an accepted loop returns, it returns for one of its elements. -/
lemma mem_of_mapM_eq_ok {f : α → Except ε β} {l : List α} {r : List β} (h : l.mapM f = .ok r)
    {b : β} (hb : b ∈ r) : ∃ a ∈ l, f a = .ok b := by
  rw [mapM_eq_ok] at h
  induction h with
  | nil => cases hb
  | cons hab _ ih =>
      rcases List.mem_cons.mp hb with rfl | hb
      · exact ⟨_, List.mem_cons_self, hab⟩
      · obtain ⟨a, ha, hfa⟩ := ih hb
        exact ⟨a, List.mem_cons_of_mem _ ha, hfa⟩

/-- What an accepted loop returns for one of its elements. -/
lemma exists_mem_of_mapM_eq_ok {f : α → Except ε β} {l : List α} {r : List β}
    (h : l.mapM f = .ok r) {a : α} (ha : a ∈ l) : ∃ b ∈ r, f a = .ok b := by
  rw [mapM_eq_ok] at h
  induction h with
  | nil => cases ha
  | cons hab _ ih =>
      rcases List.mem_cons.mp ha with rfl | ha
      · exact ⟨_, List.mem_cons_self, hab⟩
      · obtain ⟨b, hb, hfa⟩ := ih ha
        exact ⟨b, List.mem_cons_of_mem _ hb, hfa⟩

/-- An accepted loop of checks. -/
lemma forM_eq_ok {f : α → Except ε Unit} {l : List α} :
    l.forM f = .ok () ↔ ∀ a ∈ l, f a = .ok () := by
  induction l with
  | nil => exact iff_of_true rfl fun _ h => absurd h List.not_mem_nil
  | cons a l ih =>
      change (f a >>= fun _ => l.forM f) = .ok () ↔ _
      rw [bind_eq_ok, List.forall_mem_cons, ← ih]
      exact ⟨fun ⟨_, ha, hl⟩ => ⟨ha, hl⟩, fun ⟨ha, hl⟩ => ⟨(), ha, hl⟩⟩

/-! ### `dict.fromkeys`

`tuple(dict.fromkeys(values))` keeps the first of equal values. -/

lemma eraseDups_eq_nil {l : List String} : l.eraseDups = [] ↔ l = [] := by
  cases l with
  | nil => rw [List.eraseDups_nil]
  | cons a l => simp [List.eraseDups_cons]

lemma mem_eraseDups {l : List String} {a : String} : a ∈ l.eraseDups ↔ a ∈ l := by
  match l with
  | [] => rfl
  | b :: l =>
      rw [List.eraseDups_cons, List.mem_cons, mem_eraseDups, List.mem_filter, List.mem_cons]
      grind
  termination_by l.length
  decreasing_by exact Nat.lt_succ_of_le (List.length_filter_le _ l)

lemma nodup_eraseDups (l : List String) : l.eraseDups.Nodup := by
  match l with
  | [] => exact List.nodup_nil
  | b :: l =>
      rw [List.eraseDups_cons, List.nodup_cons, mem_eraseDups, List.mem_filter]
      exact ⟨by simp, nodup_eraseDups _⟩
  termination_by l.length
  decreasing_by exact Nat.lt_succ_of_le (List.length_filter_le _ l)

/-! ### Tables of checks

A constructor's checks are a table: a condition that refuses, and the text of
the refusal, in the order the code makes them. -/

/-- No check of the table refuses. -/
def Passes (checks : List (Bool × String)) : Prop := ∀ c ∈ checks, c.1 = false

instance (checks : List (Bool × String)) : Decidable (Passes checks) :=
  inferInstanceAs (Decidable (∀ c ∈ checks, c.1 = false))

/-- The text of the first check that refuses. -/
def firstRefusal (checks : List (Bool × String)) : String :=
  ((checks.find? (·.1)).map (·.2)).getD ""

@[simp] lemma passes_nil : Passes [] := by simp [Passes]

@[simp] lemma passes_cons {b : Bool} {message : String} {checks : List (Bool × String)} :
    Passes ((b, message) :: checks) ↔ b = false ∧ Passes checks := by
  simp [Passes]

@[simp] lemma passes_append {checks checks' : List (Bool × String)} :
    Passes (checks ++ checks') ↔ Passes checks ∧ Passes checks' := by
  simp [Passes, or_imp, forall_and]

@[simp] lemma passes_flatMap {xs : List α} {checks : α → List (Bool × String)} :
    Passes (xs.flatMap checks) ↔ ∀ x ∈ xs, Passes (checks x) := by
  simp only [Passes, List.mem_flatMap]
  exact ⟨fun h x hx c hc => h c ⟨x, hx, hc⟩, fun h c ⟨x, hx, hc⟩ => h x hx c hc⟩

/-- A constructor: the record, if its checks pass. -/
def construct (checks : α → List (Bool × String)) (a : α) :
    Except PyError {a : α // Passes (checks a)} :=
  if h : Passes (checks a) then .ok ⟨a, h⟩ else .error (.value (firstRefusal (checks a)))

@[simp] lemma construct_eq_ok {checks : α → List (Bool × String)} {a : α}
    {b : {a : α // Passes (checks a)}} : construct checks a = .ok b ↔ b.val = a := by
  rw [construct]
  split_ifs with h
  · rw [Except.ok.injEq, eq_comm, Subtype.ext_iff]
  · refine iff_of_false nofun ?_
    rintro rfl
    exact h b.property

lemma construct_of_passes {checks : α → List (Bool × String)} {a : α} (h : Passes (checks a)) :
    construct checks a = .ok ⟨a, h⟩ := dif_pos h

end Check

/-
JSON values, as Python's `==` compares them.

Numbers are compared by their value, booleans among them, and objects without regard to the order of
their members.  A `nan` is equal to none, but containers first ask whether their members are the same
object: whether two `nan`s are is a parameter.

* `Json.pyEq`: `value == other`;
* `Json.NanFree`: a value without a `nan`;
* `pyEq_of_sorted_eq`: **values that differ in the order of members** are equal.
-/
import Ai4Binance.Lib.JsonWrite

/-- The value of a finite float. -/
class FloatValue (φ : Type) where
  value : φ → ℚ

namespace Json

variable {φ : Type}

section Definitions

variable [FloatValue φ] (sameNan : Bool)

/-- The number that a value is. -/
def number? : Json φ → Option (PyFloat ℚ)
  | .bool b => some (.finite (if b then 1 else 0))
  | .int n => some (.finite n)
  | .float (.finite x) => some (.finite (FloatValue.value x))
  | .float (.infinite negative) => some (.infinite negative)
  | .float .nan => some .nan
  | _ => none

/-- Two numbers are equal. -/
def numberEq : PyFloat ℚ → PyFloat ℚ → Bool
  | .nan, .nan => sameNan
  | x, y => x = y

mutual

/-- `value == other`. -/
def pyEq : Json φ → Json φ → Bool
  | .null, other => match other with
      | .null => true
      | _ => false
  | .str s, other => match other with
      | .str s' => s = s'
      | _ => false
  | .arr items, other => match other with
      | .arr items' => itemsEq items items'
      | _ => false
  | .obj members, other => match other with
      | .obj members' => members.length = members'.length && membersEq members members'
      | _ => false
  | value, other => match number? value, number? other with
      | some x, some y => numberEq sameNan x y
      | _, _ => false

/-- The items of two arrays are equal. -/
def itemsEq : List (Json φ) → List (Json φ) → Bool
  | [], items' => items'.isEmpty
  | item :: items, items' => match items' with
      | [] => false
      | item' :: items' => pyEq item item' && itemsEq items items'

/-- The members of an object are in another. -/
def membersEq : List (PyStr × Json φ) → List (PyStr × Json φ) → Bool
  | [], _ => true
  | (key, value) :: members, members' =>
      (match lastValue key members' with
        | some value' => pyEq value value'
        | none => false) && membersEq members members'

end

end Definitions

/-- The value has no `nan`. -/
inductive NanFree : Json φ → Prop where
  | null : NanFree .null
  | bool (b : Bool) : NanFree (.bool b)
  | int (n : ℤ) : NanFree (.int n)
  | float {x : PyFloat φ} (h : x ≠ .nan) : NanFree (.float x)
  | str (s : PyStr) : NanFree (.str s)
  | arr {items : List (Json φ)} (h : ∀ item ∈ items, NanFree item) : NanFree (.arr items)
  | obj {members : List (PyStr × Json φ)} (h : ∀ m ∈ members, NanFree m.2) :
      NanFree (.obj members)

/-! ### Members of values -/

lemma nanFree_arr_iff {items : List (Json φ)} : NanFree (.arr items) ↔ ∀ item ∈ items, NanFree item :=
  ⟨fun h => by cases h; assumption, .arr⟩

lemma nanFree_obj_iff {members : List (PyStr × Json φ)} :
    NanFree (.obj members) ↔ ∀ m ∈ members, NanFree m.2 :=
  ⟨fun h => by cases h; assumption, .obj⟩

section Equality

variable [FloatValue φ] {sameNan ensureAscii : Bool}

lemma membersEq_iff {members members' : List (PyStr × Json φ)} :
    membersEq sameNan members members' ↔
      ∀ m ∈ members, ∃ value', lastValue m.1 members' = some value' ∧ pyEq sameNan m.2 value' := by
  induction members with
  | nil => simp [membersEq]
  | cons m members ih =>
      rw [membersEq, Bool.and_eq_true, ih, List.forall_mem_cons]
      refine and_congr ?_ Iff.rfl
      cases lastValue m.1 members' with
      | none => simp
      | some value' => simp

omit [FloatValue φ] in
/-- The value under a key of an object whose keys do not repeat. -/
lemma lastValue_of_mem {members : List (PyStr × Json φ)} {m : PyStr × Json φ}
    (hkeys : (members.map Prod.fst).Nodup) (hm : m ∈ members) :
    lastValue m.1 members = some m.2 := by
  cases h : lastValue m.1 members with
  | none =>
      rw [← Option.not_isSome_iff_eq_none, lastValue_isSome_iff] at h
      exact absurd ⟨m, hm, rfl⟩ h
  | some value =>
      exact congrArg some (Prod.mk.inj (List.inj_on_of_nodup_map hkeys (mem_of_lastValue h) hm rfl)).2

/-- **Values that differ in the order of members** are equal, if their `nan`s are. -/
theorem pyEq_of_sorted_eq {value other : Json φ} (hvalue : Plain ensureAscii value)
    (hother : Plain ensureAscii other) (hnan : sameNan = true ∨ NanFree value)
    (h : value.sorted = other.sorted) : pyEq sameNan value other = true := by
  induction value using ind generalizing other with
  | null =>
      cases other <;> simp [sorted] at h
      rfl
  | bool b =>
      cases other <;> simp [sorted] at h
      simp [h, pyEq, number?, numberEq]
  | int n =>
      cases other <;> simp [sorted] at h
      simp [h, pyEq, number?, numberEq]
  | float x =>
      cases other <;> simp [sorted] at h
      subst h
      cases x with
      | finite x => simp [pyEq, number?, numberEq]
      | infinite negative => simp [pyEq, number?, numberEq]
      | nan =>
          rcases hnan with hnan | hnan
          · exact hnan
          · cases hnan with
            | float hne => exact absurd rfl hne
  | str s =>
      cases other <;> simp [sorted] at h
      simp [h, pyEq]
  | arr items ih =>
      cases other <;> simp [sorted] at h
      next items' =>
      rw [sortedItems_eq_map, sortedItems_eq_map] at h
      have hitem := (plain_arr_iff.mp hvalue)
      have hitem' := (plain_arr_iff.mp hother)
      have hfree : sameNan = true ∨ ∀ item ∈ items, NanFree item := hnan.imp_right nanFree_arr_iff.mp
      clear hvalue hother hnan
      change itemsEq sameNan items items' = true
      induction items generalizing items' with
      | nil =>
          rw [List.map_nil, eq_comm, List.map_eq_nil_iff] at h
          rw [h]
          rfl
      | cons item items ih' =>
          cases items' with
          | nil => cases h
          | cons item' items' =>
              obtain ⟨hfirst, hrest⟩ := List.cons.inj h
              rw [itemsEq, Bool.and_eq_true]
              constructor
              · exact ih item List.mem_cons_self (hitem item List.mem_cons_self)
                  (hitem' item' List.mem_cons_self)
                  (hfree.imp_right fun hf => hf item List.mem_cons_self) hfirst
              · exact ih' (fun i hi => ih i (List.mem_cons_of_mem _ hi)) items' hrest
                  (fun i hi => hitem i (List.mem_cons_of_mem _ hi))
                  (fun i hi => hitem' i (List.mem_cons_of_mem _ hi))
                  (hfree.imp_right fun hf i hi => hf i (List.mem_cons_of_mem _ hi))
  | obj members ih =>
      cases other <;> simp [sorted] at h
      next members' =>
      obtain ⟨hkeys, -, hplain⟩ := plain_obj_iff.mp hvalue
      obtain ⟨hkeys', -, hplain'⟩ := plain_obj_iff.mp hother
      rw [sortedMembers_eq_map, sortedMembers_eq_map] at h
      have hperm : (members.map fun m => (m.1, m.2.sorted)).Perm
          (members'.map fun m => (m.1, m.2.sorted)) :=
        (perm_sortMembers _).symm.trans ((List.Perm.of_eq h).trans (perm_sortMembers _))
      rw [pyEq, Bool.and_eq_true, decide_eq_true_eq, membersEq_iff]
      refine ⟨by simpa using hperm.length_eq, fun m hm => ?_⟩
      have hmem := hperm.mem_iff.mp (List.mem_map_of_mem hm)
      obtain ⟨m', hm', heq⟩ := List.mem_map.mp hmem
      obtain ⟨hkey, hsorted⟩ := Prod.mk.inj heq
      refine ⟨m'.2, hkey ▸ lastValue_of_mem hkeys' hm', ?_⟩
      exact ih m hm (hplain m hm) (hplain' m' hm')
        (hnan.imp_right fun hfree => nanFree_obj_iff.mp hfree m hm) hsorted.symm

/-- The order of members does not matter, on the left. -/
lemma membersEq_perm {members members' others : List (PyStr × Json φ)} (h : members.Perm members') :
    membersEq sameNan members others = membersEq sameNan members' others := by
  rw [Bool.eq_iff_iff, membersEq_iff, membersEq_iff]
  exact ⟨fun hall m hm => hall m (h.mem_iff.mpr hm), fun hall m hm => hall m (h.mem_iff.mp hm)⟩

lemma pyEq_obj_perm {members members' : List (PyStr × Json φ)} (h : members.Perm members')
    (other : Json φ) : pyEq sameNan (.obj members) other = pyEq sameNan (.obj members') other := by
  cases other with
  | obj others => rw [pyEq, pyEq, membersEq_perm h, h.length_eq]
  | _ => rfl

/-- **A sorted value** is equal to what the value is equal to. -/
theorem pyEq_sorted (value other : Json φ) :
    pyEq sameNan value.sorted other = pyEq sameNan value other := by
  induction value using ind generalizing other with
  | null => rfl
  | bool b => rfl
  | int n => rfl
  | float x => rfl
  | str s => rfl
  | arr items ih =>
      rw [sorted, sortedItems_eq_map]
      cases other with
      | arr items' =>
          change itemsEq sameNan _ items' = itemsEq sameNan items items'
          induction items generalizing items' with
          | nil => rfl
          | cons item items ih' =>
              cases items' with
              | nil => rfl
              | cons item' items' =>
                  rw [List.map_cons, itemsEq, itemsEq, ih item List.mem_cons_self,
                    ih' (fun i hi => ih i (List.mem_cons_of_mem _ hi))]
      | _ => rfl
  | obj members ih =>
      rw [sorted, sortedMembers_eq_map, pyEq_obj_perm (perm_sortMembers _)]
      cases other with
      | obj members' =>
          rw [pyEq, pyEq, List.length_map]
          congr 1
          rw [Bool.eq_iff_iff, membersEq_iff, membersEq_iff, List.forall_mem_map]
          refine forall₂_congr fun m hm => exists_congr fun value' => and_congr_right fun _ => ?_
          rw [ih m hm]
      | _ => rfl

end Equality

end Json

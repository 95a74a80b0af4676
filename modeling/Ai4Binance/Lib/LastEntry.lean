/-
The last entry under a key of a log of entries, and the dictionary a log is read into.

* `lastValue`: the value of the last entry under a key; `lastValue_append`: of two parts of a log
  the later one decides;
* `SortedMap.get?_ofList`: the dictionary of a log looks up the last values;
* `SortedMap.commonKeys`: the keys of two dictionaries, in order and each of them once.
-/
import Ai4Binance.Lib.SortedMap

section LastValue

variable {κ ν : Type*} [DecidableEq κ] {k : κ} {entries older newer : List (κ × ν)}

/-- The value of the last entry under a key. -/
def lastValue (k : κ) (entries : List (κ × ν)) : Option ν :=
  (entries.filter fun e => e.1 = k).getLast?.map Prod.snd

@[simp] lemma lastValue_nil : lastValue k ([] : List (κ × ν)) = none := rfl

/-- A key has a last value when there is an entry under it. -/
lemma lastValue_isSome_iff : (lastValue k entries).isSome ↔ ∃ e ∈ entries, e.1 = k := by
  rw [lastValue, Option.isSome_map, List.getLast?_isSome]
  constructor
  · intro hne
    obtain ⟨e, he⟩ := List.exists_mem_of_ne_nil _ hne
    obtain ⟨hmem, hk⟩ := List.mem_filter.mp he
    exact ⟨e, hmem, of_decide_eq_true hk⟩
  · rintro ⟨e, he, hk⟩
    exact List.ne_nil_of_mem (List.mem_filter.mpr ⟨he, decide_eq_true hk⟩)

/-- The later part of a log decides, where it has an entry. -/
lemma lastValue_append :
    lastValue k (older ++ newer) = (lastValue k newer).or (lastValue k older) := by
  rw [lastValue, lastValue, lastValue, List.filter_append, List.getLast?_append]
  cases (newer.filter fun e => e.1 = k).getLast? <;> rfl

/-- What the later part of a log knows of a key is what the whole log does. -/
lemma lastValue_append_of_some {v : ν} (h : lastValue k newer = some v) :
    lastValue k (older ++ newer) = some v := by
  rw [lastValue_append, h, Option.some_or]

end LastValue

namespace SortedMap

variable {κ ν : Type*} [LinearOrder κ]

/-- The dictionary of a log looks up the last values. -/
lemma get?_ofList (entries : List (κ × ν)) (k : κ) :
    (ofList entries).get? k = lastValue k entries := by
  induction entries using List.reverseRecOn with
  | nil => rfl
  | append_singleton entries e ih =>
      have hinsert : ofList (entries ++ [e]) = (ofList entries).insert e.1 e.2 := by
        rw [ofList, List.foldl_append]
        rfl
      rw [hinsert, get?_insert, lastValue_append, ih]
      by_cases hk : e.1 = k
      · subst hk
        simp [lastValue]
      · simp [lastValue, hk]

/-- A key has an entry when it looks something up. -/
lemma mem_keys_iff {m : SortedMap κ ν} {k : κ} :
    k ∈ m.entries.map Prod.fst ↔ (m.get? k).isSome := by
  rw [Option.isSome_iff_exists, List.mem_map]
  constructor
  · rintro ⟨⟨a, v⟩, hmem, rfl⟩
    exact ⟨v, get?_eq_some_iff.mpr hmem⟩
  · rintro ⟨v, hv⟩
    exact ⟨(k, v), get?_eq_some_iff.mp hv, rfl⟩

/-- `sorted(set(m) & set(m'))`: the keys of both dictionaries. -/
def commonKeys {ν' : Type*} (m : SortedMap κ ν) (m' : SortedMap κ ν') : List κ :=
  (m.entries.map Prod.fst).filter fun k => (m'.get? k).isSome

lemma mem_commonKeys {ν' : Type*} {m : SortedMap κ ν} {m' : SortedMap κ ν'} {k : κ} :
    k ∈ m.commonKeys m' ↔ (m.get? k).isSome ∧ (m'.get? k).isSome := by
  rw [commonKeys, List.mem_filter, mem_keys_iff]

lemma nodup_commonKeys {ν' : Type*} (m : SortedMap κ ν) (m' : SortedMap κ ν') :
    (m.commonKeys m').Nodup := by
  have hkeys : (m.entries.map Prod.fst).Pairwise (· < ·) := List.pairwise_map.mpr m.sorted
  exact (hkeys.imp fun h => h.ne).filter _

end SortedMap

/-
The best entry of each key of a log, ranked.

A dictionary keeps one entry a key, and replaces it by one of strictly higher rank; its entries are
then sorted by rank, the highest first, and equals as the dictionary holds them.

* `note`, `best`, `ranked`: the dictionary of a log, and its entries ranked;
* `Highest`, `IsBest`: what a best entry is; `best_isBest`: the dictionary keeps these;
* `ranked_perm_iff`: **the order of the log does not matter exactly when no two best entries have
  one rank**.
-/
import Mathlib.Tactic
import Mathlib.Data.List.Sort

namespace BestPerKey

variable {α κ σ : Type*} [DecidableEq κ] [LinearOrder σ]

section Definitions

variable (key : α → κ) (rank : α → σ)

/-- The dictionary after an entry. -/
def note : List α → α → List α
  | [], a => [a]
  | c :: cs, a =>
      if key c = key a then (if rank c < rank a then a :: cs else c :: cs)
      else c :: note cs a

/-- The dictionary of a log. -/
def best (log : List α) : List α := log.foldl (note key rank) []

/-- The entries of the dictionary, the highest rank first. -/
def ranked (log : List α) : List α :=
  (best key rank log).insertionSort fun a b => rank b ≤ rank a

/-- No entry of the key has a higher rank. -/
def Highest (log : List α) (a : α) : Prop := ∀ b ∈ log, key b = key a → rank b ≤ rank a

/-- One entry a key, of the highest rank. -/
structure IsBest (log kept : List α) : Prop where
  nodup : (kept.map key).Nodup
  covers : ∀ a ∈ log, ∃ c ∈ kept, key c = key a
  highest : ∀ c ∈ kept, c ∈ log ∧ Highest key rank log c

end Definitions

variable {key : α → κ} {rank : α → σ} {log log' cs kept kept' : List α} {a b c : α}

lemma mem_note (h : c ∈ note key rank cs a) : c = a ∨ c ∈ cs := by
  induction cs with
  | nil => exact Or.inl (List.mem_singleton.mp h)
  | cons d cs ih =>
      rw [note] at h
      split_ifs at h
      · exact (List.mem_cons.mp h).imp_right (List.mem_cons_of_mem _)
      · exact Or.inr h
      · rcases List.mem_cons.mp h with rfl | h
        · exact Or.inr List.mem_cons_self
        · exact (ih h).imp_right (List.mem_cons_of_mem _)

variable (key rank) in
/-- The key of the new entry is in the dictionary, with a rank that is no smaller. -/
lemma exists_mem_note (cs : List α) (a : α) :
    ∃ c ∈ note key rank cs a, key c = key a ∧ rank a ≤ rank c := by
  induction cs with
  | nil => exact ⟨a, List.mem_cons_self, rfl, le_rfl⟩
  | cons d cs ih =>
      rw [note]
      split_ifs with hkey hrank
      · exact ⟨a, List.mem_cons_self, rfl, le_rfl⟩
      · exact ⟨d, List.mem_cons_self, hkey, not_lt.mp hrank⟩
      · obtain ⟨c, hc, h⟩ := ih
        exact ⟨c, List.mem_cons_of_mem _ hc, h⟩

variable (key rank) in
/-- An entry of the dictionary stays, or gives way to one of its key and a higher rank. -/
lemma exists_mem_note_of_mem (a : α) (h : b ∈ cs) :
    ∃ c ∈ note key rank cs a, key c = key b ∧ rank b ≤ rank c := by
  induction cs with
  | nil => exact absurd h List.not_mem_nil
  | cons d cs ih =>
      rw [note]
      split_ifs with hkey hrank
      · rcases List.mem_cons.mp h with rfl | h
        · exact ⟨a, List.mem_cons_self, hkey.symm, hrank.le⟩
        · exact ⟨b, List.mem_cons_of_mem _ h, rfl, le_rfl⟩
      · exact ⟨b, h, rfl, le_rfl⟩
      · rcases List.mem_cons.mp h with rfl | h
        · exact ⟨b, List.mem_cons_self, rfl, le_rfl⟩
        · obtain ⟨c, hc, hcb⟩ := ih h
          exact ⟨c, List.mem_cons_of_mem _ hc, hcb⟩

variable (rank) in
lemma nodup_note (a : α) (h : (cs.map key).Nodup) : ((note key rank cs a).map key).Nodup := by
  induction cs with
  | nil => exact List.nodup_singleton _
  | cons d cs ih =>
      obtain ⟨hnot, hrest⟩ := List.nodup_cons.mp h
      rw [note]
      split_ifs with hkey
      · exact List.nodup_cons.mpr ⟨hkey ▸ hnot, hrest⟩
      · exact h
      · refine List.nodup_cons.mpr ⟨fun hmem => ?_, ih hrest⟩
        obtain ⟨c, hc, hsame⟩ := List.mem_map.mp hmem
        rcases mem_note hc with rfl | hc
        · exact hkey hsame.symm
        · exact hnot (hsame ▸ List.mem_map_of_mem hc)

variable (key rank) in
/-- **The dictionary of a log keeps the best entry of each key.** -/
lemma best_isBest (log : List α) : IsBest key rank log (best key rank log) := by
  induction log using List.reverseRecOn with
  | nil => exact ⟨List.nodup_nil, nofun, nofun⟩
  | append_singleton log a ih =>
      have hstep : best key rank (log ++ [a]) = note key rank (best key rank log) a := by
        rw [best, List.foldl_append]
        rfl
      rw [hstep]
      -- every entry of the log is at most the entry that is kept of its key
      have hcovers : ∀ b ∈ log ++ [a], ∃ c ∈ note key rank (best key rank log) a,
          key c = key b ∧ rank b ≤ rank c := by
        intro b hb
        rcases List.mem_append.mp hb with hb | hb
        · obtain ⟨c, hc, hkey⟩ := ih.covers b hb
          obtain ⟨d, hd, hdc, hrank⟩ := exists_mem_note_of_mem key rank a hc
          exact ⟨d, hd, hdc.trans hkey, ((ih.highest c hc).2 b hb hkey.symm).trans hrank⟩
        · obtain rfl := List.mem_singleton.mp hb
          exact exists_mem_note key rank _ _
      have hnodup := nodup_note rank a ih.nodup
      refine ⟨hnodup, fun b hb => ?_, fun c hc => ⟨?_, fun b hb hkey => ?_⟩⟩
      · obtain ⟨c, hc, hkey, -⟩ := hcovers b hb
        exact ⟨c, hc, hkey⟩
      · rcases mem_note hc with rfl | hc
        · exact List.mem_append_right _ List.mem_cons_self
        · exact List.mem_append_left _ (ih.highest c hc).1
      · obtain ⟨d, hd, hdkey, hrank⟩ := hcovers b hb
        obtain rfl := List.inj_on_of_nodup_map hnodup hd hc (hdkey.trans hkey)
        exact hrank

/-- An entry at the head that is not outranked stays there. -/
lemma foldl_note_cons (h : Highest key rank log c) :
    log.foldl (note key rank) (c :: cs) =
      c :: (log.filter fun a : α => key c ≠ key a).foldl (note key rank) cs := by
  induction log generalizing cs with
  | nil => rfl
  | cons a log ih =>
      have hrest : Highest key rank log c := fun b hb => h b (List.mem_cons_of_mem _ hb)
      rw [List.foldl_cons, note]
      split_ifs with hkey hrank
      · exact absurd hrank (not_lt.mpr (h a List.mem_cons_self hkey.symm))
      · rw [ih hrest, List.filter_cons_of_neg (by simpa using hkey)]
      · rw [ih hrest, List.filter_cons_of_pos (by simpa using hkey)]
        rfl

omit [DecidableEq κ] in
lemma Highest.of_subset (h : Highest key rank log a) (hsub : log' ⊆ log) :
    Highest key rank log' a :=
  fun b hb => h b (hsub hb)

omit [DecidableEq κ] in
/-- Two best lists of one log are the same but for their order. -/
lemma IsBest.perm (h : IsBest key rank log kept) (h' : IsBest key rank log kept')
    (hunique : ∀ a ∈ log, ∀ b ∈ log, Highest key rank log a → Highest key rank log b →
      rank a = rank b → a = b) : kept.Perm kept' := by
  have hsub : ∀ {kept kept' : List α}, IsBest key rank log kept → IsBest key rank log kept' →
      ∀ c ∈ kept, c ∈ kept' := by
    intro kept kept' h h' c hc
    obtain ⟨hlog, hhigh⟩ := h.highest c hc
    obtain ⟨d, hd, hkey⟩ := h'.covers c hlog
    obtain ⟨hlog', hhigh'⟩ := h'.highest d hd
    have hrank : rank c = rank d :=
      le_antisymm (hhigh' c hlog hkey.symm) (hhigh d hlog' hkey)
    rw [hunique c hlog d hlog' hhigh hhigh' hrank]
    exact hd
  exact (List.perm_ext_iff_of_nodup h.nodup.of_map h'.nodup.of_map).mpr
    fun c => ⟨hsub h h' c, hsub h' h c⟩

omit [DecidableEq κ] in
lemma IsBest.of_perm (h : IsBest key rank log kept) (hperm : log.Perm log') :
    IsBest key rank log' kept where
  nodup := h.nodup
  covers a ha := h.covers a (hperm.mem_iff.mpr ha)
  highest c hc :=
    ⟨hperm.mem_iff.mp (h.highest c hc).1, (h.highest c hc).2.of_subset hperm.symm.subset⟩

variable (key rank) in
lemma ranked_perm_best (log : List α) : (ranked key rank log).Perm (best key rank log) :=
  List.perm_insertionSort _ _

lemma ranked_pairwise (log : List α) :
    (ranked key rank log).Pairwise fun a b => rank b ≤ rank a := by
  have : Std.Total fun a b : α => rank b ≤ rank a := ⟨fun a b => le_total (rank b) (rank a)⟩
  have : IsTrans α fun a b => rank b ≤ rank a := ⟨fun _ _ _ hab hbc => hbc.trans hab⟩
  exact List.pairwise_insertionSort _ _

variable (key rank) in
/-- The ranked entries are the best ones. -/
lemma ranked_isBest (log : List α) : IsBest key rank log (ranked key rank log) := by
  have h := best_isBest key rank log
  have hperm := ranked_perm_best key rank log
  exact ⟨(hperm.map key).nodup_iff.mpr h.nodup,
    fun a ha => (h.covers a ha).imp fun c hc => ⟨hperm.mem_iff.mpr hc.1, hc.2⟩,
    fun c hc => h.highest c (hperm.mem_iff.mp hc)⟩

/-- Two entries do not stand in both orders in a list without repetition. -/
lemma not_pair_swap {l : List α} (h : l.Nodup) (hab : [a, b].Sublist l) :
    ¬ [b, a].Sublist l := by
  induction l with
  | nil => exact absurd (List.sublist_nil.mp hab) nofun
  | cons x l ih =>
      obtain ⟨hnot, hrest⟩ := List.nodup_cons.mp h
      intro hba
      rcases List.sublist_cons_iff.mp hab with hab' | ⟨_, heq, hab'⟩
      · rcases List.sublist_cons_iff.mp hba with hba' | ⟨_, heq, hba'⟩
        · exact ih hrest hab' hba'
        · obtain ⟨rfl, rfl⟩ := List.cons_eq_cons.mp heq
          exact hnot (hab'.subset (List.mem_cons_of_mem a List.mem_cons_self))
      · obtain ⟨rfl, rfl⟩ := List.cons_eq_cons.mp heq
        rcases List.sublist_cons_iff.mp hba with hba' | ⟨_, heq, hba'⟩
        · exact hnot (hba'.subset (List.mem_cons_of_mem b List.mem_cons_self))
        · obtain ⟨rfl, rfl⟩ := List.cons_eq_cons.mp heq
          exact hnot (hab'.subset List.mem_cons_self)

/-- The dictionary of a log that begins with two best entries. -/
lemma best_of_two (ha : Highest key rank log a) (hb : Highest key rank log b)
    (hlog : ∀ c ∈ a :: b :: log', c ∈ log) :
    a ∈ best key rank (a :: b :: log') ∧
      (key a ≠ key b → [a, b].Sublist (best key rank (a :: b :: log'))) := by
  have hfirst : best key rank (a :: b :: log') =
      a :: ((b :: log').filter fun c => key a ≠ key c).foldl (note key rank) [] := by
    rw [best, List.foldl_cons]
    exact foldl_note_cons (ha.of_subset fun c hc => hlog c (List.mem_cons_of_mem _ hc))
  refine ⟨hfirst ▸ List.mem_cons_self, fun hkey => ?_⟩
  have hsub : (log'.filter fun c => key a ≠ key c) ⊆ log := fun c hc =>
    hlog c (List.mem_cons_of_mem _ (List.mem_cons_of_mem _ (List.mem_of_mem_filter hc)))
  rw [hfirst, List.filter_cons_of_pos (by simpa using hkey), List.foldl_cons]
  change [a, b].Sublist (a :: List.foldl (note key rank) [b] _)
  rw [foldl_note_cons (hb.of_subset hsub)]
  exact (List.nil_sublist _).cons_cons b |>.cons_cons a

/-- **The order of a log does not matter** exactly when no two best entries have one rank. -/
theorem ranked_perm_iff : (∀ log', log.Perm log' → ranked key rank log' = ranked key rank log) ↔
    ∀ a ∈ log, ∀ b ∈ log, Highest key rank log a → Highest key rank log b →
      rank a = rank b → a = b := by
  classical
  constructor
  · intro horder a ha b hb hhigh hhigh' hrank
    by_contra hne
    have hb' : b ∈ log.erase a := (List.mem_erase_of_ne (Ne.symm hne)).mpr hb
    -- the two entries first, in either order
    have hab : log.Perm (a :: b :: (log.erase a).erase b) :=
      (List.perm_cons_erase ha).trans ((List.perm_cons_erase hb').cons a)
    have hba : log.Perm (b :: a :: (log.erase a).erase b) := hab.trans (List.Perm.swap _ _ _)
    obtain ⟨hmem, hpair⟩ := best_of_two hhigh hhigh' fun c hc => hab.mem_iff.mpr hc
    obtain ⟨hmem', hpair'⟩ := best_of_two hhigh' hhigh fun c hc => hba.mem_iff.mpr hc
    have hkept := ranked_isBest key rank log
    have ha' : a ∈ ranked key rank log :=
      horder _ hab ▸ (ranked_perm_best key rank _).mem_iff.mpr hmem
    have hb'' : b ∈ ranked key rank log :=
      horder _ hba ▸ (ranked_perm_best key rank _).mem_iff.mpr hmem'
    by_cases hkey : key a = key b
    · exact hne (List.inj_on_of_nodup_map hkept.nodup ha' hb'' hkey)
    · have hsorted := List.pair_sublist_insertionSort (r := fun a b => rank b ≤ rank a)
        hrank.ge (hpair hkey)
      have hsorted' := List.pair_sublist_insertionSort (r := fun a b => rank b ≤ rank a)
        hrank.le (hpair' (Ne.symm hkey))
      have heq : ranked key rank (a :: b :: (log.erase a).erase b) =
          ranked key rank (b :: a :: (log.erase a).erase b) :=
        (horder _ hab).trans (horder _ hba).symm
      rw [ranked, ranked] at heq
      rw [heq] at hsorted
      exact not_pair_swap (ranked_isBest key rank _).nodup.of_map hsorted hsorted'
  · intro hunique log' hperm
    have hbest := ranked_isBest key rank log
    have hbest' := (ranked_isBest key rank log').of_perm hperm.symm
    refine (hbest'.perm hbest hunique).eq_of_pairwise ?_ (ranked_pairwise _) (ranked_pairwise _)
    intro a b ha hb hle hle'
    obtain ⟨ha, hhigh⟩ := hbest'.highest a ha
    obtain ⟨hb, hhigh'⟩ := hbest.highest b hb
    exact hunique a ha b hb hhigh hhigh' (le_antisymm hle' hle)

end BestPerKey

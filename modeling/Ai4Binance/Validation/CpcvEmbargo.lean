/-
The embargo of the cross-validation splits (`validation/cpcv.py`), counted from the ends of the
test labels.

The builder counts the embargo from the last sample of a test group.  A label that reaches beyond
its group ends later, and the samples right after it are neither purged nor under embargo.

* `EmbargoFollowsLabels`: training begins only after the embargo of every test label that has
  ended;
* `Clear`, `Exposed`: the samples that some split trains on too close to a test label;
* `embargo_follows_labels_iff`: **when the embargo follows the labels**.
-/
import Ai4Binance.Validation.Cpcv

open Check Combinations

namespace Ai4Binance

section

variable (labelEndIndices : List ℤ) (config : CPCVConfig)

/-- Every training sample after the end of a test label is also after the embargo counted from
that end. -/
def EmbargoFollowsLabels (split : CPCVSplit) : Prop :=
  ∀ i ∈ split.trainIndices, ∀ j ∈ split.testIndices, (interval labelEndIndices j).2 < i →
    (interval labelEndIndices j).2 + config.embargoSamples < i

/-- A group whose test leaves a sample for training: the sample is of another group, overlaps no
label of this one, and does not follow it within the embargo. -/
def Clear (i groupId : ℕ) : Prop :=
  i ∉ groupAt labelEndIndices config groupId ∧
    (∀ j ∈ groupAt labelEndIndices config groupId,
      overlaps (interval labelEndIndices i) (interval labelEndIndices j) = false) ∧
    follows config (groupAt labelEndIndices config groupId) i = false

instance (i groupId : ℕ) : Decidable (Clear labelEndIndices config i groupId) :=
  inferInstanceAs (Decidable (_ ∧ _ ∧ _))

/-- The groups that leave a sample for training. -/
def clearGroups (i : ℕ) : List ℕ :=
  (List.range config.groupCount).filter fun groupId => Clear labelEndIndices config i groupId

/-- A sample that some split trains on within the embargo counted from a test label: there are
enough groups that leave it, and one of them has such a label. -/
def Exposed (i : ℕ) : Prop :=
  config.testGroupCount ≤ (clearGroups labelEndIndices config i).length ∧
    ∃ groupId ∈ clearGroups labelEndIndices config i,
      ∃ j ∈ groupAt labelEndIndices config groupId,
        (interval labelEndIndices j).2 < i ∧
          i ≤ (interval labelEndIndices j).2 + config.embargoSamples

instance (i : ℕ) : Decidable (Exposed labelEndIndices config i) :=
  inferInstanceAs (Decidable (_ ∧ ∃ groupId ∈ clearGroups labelEndIndices config i,
    ∃ j ∈ groupAt labelEndIndices config groupId, _ ∧ _))

instance (split : CPCVSplit) : Decidable (EmbargoFollowsLabels labelEndIndices config split) :=
  inferInstanceAs (Decidable (∀ i ∈ split.trainIndices, ∀ j ∈ split.testIndices, _ → _))

end

section

variable {labelEndIndices : List ℤ} {config : CPCVConfig} {testGroupIds : List ℕ} {i : ℕ}

/-- A split trains on a sample if and only if all of its test groups leave it. -/
lemma mem_trainIndices_iff {splitIndex : ℕ} (hi : i < labelEndIndices.length)
    (h : testGroupIds.Sublist (List.range config.groupCount)) :
    i ∈ (buildSplit labelEndIndices config splitIndex testGroupIds).trainIndices ↔
      ∀ groupId ∈ testGroupIds, Clear labelEndIndices config i groupId := by
  have hlt : ∀ groupId ∈ testGroupIds, groupId < config.groupCount := fun groupId hid =>
    List.mem_range.mp (h.subset hid)
  have hraw : i ∈ rawTrain labelEndIndices config testGroupIds ↔
      ∀ groupId ∈ testGroupIds, i ∉ groupAt labelEndIndices config groupId := by
    obtain ⟨own, hown, hmem⟩ := exists_groupAt config hi
    rw [rawTrain_eq, List.mem_flatMap]
    constructor
    · rintro ⟨groupId, hid, hindex⟩ other hother hmem'
      rw [List.mem_filter, List.mem_range, decide_eq_true_eq] at hid
      exact hid.2 (groupAt_unique hid.1 (hlt other hother) hindex hmem' ▸ hother)
    · intro hall
      refine ⟨own, ?_, hmem⟩
      rw [List.mem_filter, List.mem_range, decide_eq_true_eq]
      exact ⟨hown, fun htest => hall own htest hmem⟩
  have hpurged : isPurged labelEndIndices config testGroupIds i = false ↔
      ∀ groupId ∈ testGroupIds, ∀ j ∈ groupAt labelEndIndices config groupId,
        overlaps (interval labelEndIndices i) (interval labelEndIndices j) = false := by
    rw [isPurged, List.any_map, List.any_eq_false, testIndices]
    simp only [List.mem_flatMap, Function.comp_apply, Bool.not_eq_true]
    refine ⟨fun hall groupId hid j hj => hall j ⟨groupId, hid, hj⟩, ?_⟩
    rintro hall j ⟨groupId, hid, hj⟩
    exact hall groupId hid j hj
  have hembargo : isEmbargoed labelEndIndices config testGroupIds i = false ↔
      ∀ groupId ∈ testGroupIds, follows config (groupAt labelEndIndices config groupId) i =
        false := by
    have hlength : (sampleGroups labelEndIndices config).length = config.groupCount :=
      length_groups _ _
    rw [isEmbargoed, zipIdx_eq_map _ [], hlength, List.any_map, List.any_eq_false]
    simp only [List.mem_range, Function.comp_apply, Bool.and_eq_true, decide_eq_true_eq, not_and,
      Bool.not_eq_true]
    exact ⟨fun hall groupId hid => hall groupId (hlt groupId hid) hid,
      fun hall groupId _ hid => hall groupId hid⟩
  rw [mem_trainIndices, hraw, hpurged, hembargo]
  simp only [Clear]
  constructor
  · rintro ⟨hother, hapart, hfree⟩ groupId hid
    exact ⟨hother groupId hid, hapart groupId hid, hfree groupId hid⟩
  · intro hall
    exact ⟨fun groupId hid => (hall groupId hid).1, fun groupId hid => (hall groupId hid).2.1,
      fun groupId hid => (hall groupId hid).2.2⟩

/-- A training sample is a sample. -/
lemma lt_of_mem_trainIndices {splitIndex : ℕ}
    (h : testGroupIds.Sublist (List.range config.groupCount))
    (hi : i ∈ (buildSplit labelEndIndices config splitIndex testGroupIds).trainIndices) :
    i < labelEndIndices.length := by
  have hall := (testIndices_append_rawTrain labelEndIndices h).mem_iff (a := i)
  rw [← List.mem_range, ← hall]
  exact List.mem_append_right _ (mem_trainIndices.mp hi).1

/-- The choice of test groups that trains on an exposed sample. -/
lemma exposed_split (hexposed : Exposed labelEndIndices config i)
    (hi : i < labelEndIndices.length) :
    ∃ split ∈ buildSplits labelEndIndices config,
      ¬ EmbargoFollowsLabels labelEndIndices config split := by
  obtain ⟨hcount, groupId, hid, j, hj, hended, hwithin⟩ := hexposed
  have hclear : (clearGroups labelEndIndices config i).Sublist (List.range config.groupCount) :=
    List.filter_sublist
  obtain ⟨others, hothers⟩ := Nat.exists_eq_add_of_le' config.testGroupCount_bounds.1
  obtain ⟨testGroupIds, hchoice, hmem⟩ :=
    exists_combination_mem (hclear.nodup List.nodup_range) hid (hothers ▸ hcount)
  obtain ⟨hsublist, hlength⟩ := mem_combinations.mp hchoice
  have htest : testGroupIds ∈
      combinations config.testGroupCount (List.range config.groupCount) :=
    mem_combinations.mpr ⟨hsublist.trans hclear, hlength.trans hothers.symm⟩
  obtain ⟨splitIndex, hsplit, hget⟩ := List.mem_iff_getElem.mp htest
  refine ⟨_, mem_buildSplits.mpr ⟨splitIndex, testGroupIds, ?_, rfl⟩, fun hfollows => ?_⟩
  · rw [List.mem_zipIdx_iff_getElem?]
    exact List.getElem?_eq_some_iff.mpr ⟨hsplit, hget⟩
  · have htrain : i ∈ (buildSplit labelEndIndices config (splitIndex + 1)
        testGroupIds).trainIndices := by
      refine (mem_trainIndices_iff hi (hsublist.trans hclear)).mpr fun other hother => ?_
      exact of_decide_eq_true (List.mem_filter.mp (hsublist.subset hother)).2
    have hjtest : j ∈ (buildSplit labelEndIndices config (splitIndex + 1)
        testGroupIds).testIndices := List.mem_flatMap.mpr ⟨groupId, hmem, hj⟩
    exact absurd (hfollows i htrain j hjtest hended) (not_lt.mpr hwithin)

/-- **When the embargo follows the labels.**  In every split of a report training begins only
after the embargo counted from the ends of the test labels, if and only if no sample is
exposed. -/
theorem embargo_follows_labels_iff {report : CPCVDiagnosticReport}
    (h : buildCpcvDiagnostic labelEndIndices config = .ok report) :
    (∀ split ∈ report.splits, EmbargoFollowsLabels labelEndIndices config split) ↔
      ∀ i < labelEndIndices.length, ¬ Exposed labelEndIndices config i := by
  rw [splits_of_build h]
  constructor
  · intro hall i hi hexposed
    obtain ⟨split, hsplit, hoff⟩ := exposed_split hexposed hi
    exact hoff (hall split hsplit)
  · intro hnone split hsplit i htrain j htest hended
    obtain ⟨splitIndex, testGroupIds, hmem, rfl⟩ := mem_buildSplits.mp hsplit
    obtain ⟨hsublist, hlength⟩ := sublist_of_mem_zipIdx hmem
    have hi := lt_of_mem_trainIndices hsublist htrain
    have hclear := (mem_trainIndices_iff hi hsublist).mp htrain
    have hwithin : testGroupIds.Sublist (clearGroups labelEndIndices config i) := by
      have hfilter := hsublist.filter fun groupId => Clear labelEndIndices config i groupId
      rwa [List.filter_eq_self.mpr fun groupId hid => decide_eq_true (hclear groupId hid)] at hfilter
    obtain ⟨groupId, hid, hj⟩ := List.mem_flatMap.mp htest
    by_contra hle
    exact hnone i hi ⟨hlength ▸ hwithin.length_le, groupId, hwithin.subset hid, j, hj, hended,
      not_lt.mp hle⟩

end

/-! ### A label beyond its group -/

/-- Labels that end where they begin. -/
def pointLabels : List ℤ := [0, 1, 2, 3, 4, 5, 6, 7, 8]

/-- With labels that end where they begin the embargo follows the labels. -/
theorem point_labels_follow : ∃ report,
    buildCpcvDiagnostic pointLabels threeGroups = .ok report ∧ report.splits.length = 3 ∧
      ∀ split ∈ report.splits, EmbargoFollowsLabels pointLabels threeGroups split := by
  have hrun : (buildCpcvDiagnostic pointLabels threeGroups).toOption.any fun report =>
      report.splits.length = 3 := by
    decide
  obtain ⟨report, hreport, hcount⟩ := exists_ok_of_any hrun
  exact ⟨report, hreport, of_decide_eq_true hcount,
    (embargo_follows_labels_iff hreport).mpr (by decide)⟩

/-- Labels of which that of the third sample reaches two samples into the next group. -/
def reachingLabels : List ℤ := [0, 1, 4, 3, 4, 5, 6, 7, 8]

/-- The first split trains on the sample right after the label that reaches beyond its group. -/
theorem reaching_label_not_followed : CausalLabels reachingLabels ∧ ∃ report,
    buildCpcvDiagnostic reachingLabels threeGroups = .ok report ∧
      ∃ split ∈ report.splits, 5 ∈ split.trainIndices ∧ 2 ∈ split.testIndices ∧
        (interval reachingLabels 2).2 = 4 ∧
        ¬ EmbargoFollowsLabels reachingLabels threeGroups split := by
  have hrun : (buildCpcvDiagnostic reachingLabels threeGroups).toOption.any fun report =>
      report.splits.any fun split => 5 ∈ split.trainIndices ∧ 2 ∈ split.testIndices ∧
        (interval reachingLabels 2).2 = 4 ∧
        ¬ EmbargoFollowsLabels reachingLabels threeGroups split := by
    decide
  obtain ⟨report, hreport, hsplit⟩ := exists_ok_of_any hrun
  obtain ⟨split, hmem, hoff⟩ := List.any_eq_true.mp hsplit
  exact ⟨by decide, report, hreport, split, hmem, of_decide_eq_true hoff⟩

end Ai4Binance

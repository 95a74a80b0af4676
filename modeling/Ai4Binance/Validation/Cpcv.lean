/-
Combinatorial purged cross-validation (`validation/cpcv.py`).

The samples are cut into groups, and every choice of test groups makes a split.  A sample of the
other groups is purged when its label overlaps one of a test sample, and under embargo when it
follows a test group too closely; what is left is for training.

* `groups`, `groups_flatten`: the groups, one after another;
* `CPCVConfig`, `buildSplit`, `buildCpcvDiagnostic`: the splits and their report;
* `Partitioned`, `split_partitioned`: **every split** cuts the samples into those for training
  and testing, the purged and those under embargo;
* `cpcv_splits_are_purged`: what holds of all splits, and how often a sample is tested.
-/
import Ai4Binance.Lib.Combinations
import Ai4Binance.Lib.Python

open Check Combinations

namespace Ai4Binance

/-! ### Groups -/

/-- The loop of `_groups` over group ids, from a start on. -/
def groupsFrom (base remainder : ℕ) : List ℕ → ℕ → List (List ℕ)
  | [], _ => []
  | groupId :: ids, start =>
      let size := base + if groupId < remainder then 1 else 0
      List.range' start size :: groupsFrom base remainder ids (start + size)

/-- `_groups`. -/
def groups (sampleCount groupCount : ℕ) : List (List ℕ) :=
  groupsFrom (sampleCount / groupCount) (sampleCount % groupCount) (List.range groupCount) 0

/-- `_overlaps`. -/
def overlaps (left right : ℤ × ℤ) : Bool := left.1 ≤ right.2 && right.1 ≤ left.2

/-! ### Splits -/

/-- `CPCVConfig`. -/
structure CPCVConfig where
  groupCount : ℕ := 6
  testGroupCount : ℕ := 2
  embargoSamples : ℕ := 1
  minimumSplits : ℕ := 10
  groupCount_bounds : 3 ≤ groupCount ∧ groupCount ≤ 20
  testGroupCount_bounds : 1 ≤ testGroupCount ∧ testGroupCount < groupCount
  minimumSplits_pos : 1 ≤ minimumSplits

/-- `CPCVSplit`. -/
structure CPCVSplit where
  splitId : String
  testGroups : List ℕ
  trainIndices : List ℕ
  testIndices : List ℕ
  purgedCount : ℕ
  embargoedCount : ℕ
  deriving DecidableEq, Repr

/-- `CPCVDiagnosticReport`. -/
structure CPCVDiagnosticReport where
  sampleCount : ℕ
  splitCount : ℕ
  testCoverageCount : ℕ
  minimumTrainSize : ℕ
  splits : List CPCVSplit
  blockers : List String
  diagnosticPassed : Bool
  deriving DecidableEq, Repr

section Build

variable (labelEndIndices : List ℤ) (config : CPCVConfig)

/-- A sample with the end of its label. -/
def interval (index : ℕ) : ℤ × ℤ := (index, labelEndIndices.getD index 0)

/-- The groups of the samples. -/
def sampleGroups : List (List ℕ) := groups labelEndIndices.length config.groupCount

/-- The samples of the test groups. -/
def testIndices (testGroupIds : List ℕ) : List ℕ :=
  testGroupIds.flatMap fun groupId => (sampleGroups labelEndIndices config).getD groupId []

/-- The samples of the other groups. -/
def rawTrain (testGroupIds : List ℕ) : List ℕ :=
  (((sampleGroups labelEndIndices config).zipIdx.filter fun group =>
    group.2 ∉ testGroupIds).map (·.1)).flatten

/-- A sample that overlaps one of the test samples. -/
def isPurged (testGroupIds : List ℕ) (index : ℕ) : Bool :=
  ((testIndices labelEndIndices config testGroupIds).map (interval labelEndIndices)).any
    (overlaps (interval labelEndIndices index))

/-- A sample that follows a group within the embargo. -/
def follows (group : List ℕ) (index : ℕ) : Bool :=
  group.getLast?.any fun last => last < index && index ≤ last + config.embargoSamples

/-- A sample that follows a test group within the embargo. -/
def isEmbargoed (testGroupIds : List ℕ) (index : ℕ) : Bool :=
  (sampleGroups labelEndIndices config).zipIdx.any fun group =>
    group.2 ∈ testGroupIds && follows config group.1 index

/-- The text of a number, with zeros before it up to three digits. -/
def threeDigits (n : ℕ) : String := "".pushn '0' (3 - (toString n).length) ++ toString n

/-- One pass of the loop over the combinations. -/
def buildSplit (splitIndex : ℕ) (testGroupIds : List ℕ) : CPCVSplit :=
  let raw := rawTrain labelEndIndices config testGroupIds
  let purged := raw.filter (isPurged labelEndIndices config testGroupIds)
  let embargoed := raw.filter fun index =>
    index ∉ purged && isEmbargoed labelEndIndices config testGroupIds index
  { splitId := "cpcv:" ++ threeDigits splitIndex
    testGroups := testGroupIds
    trainIndices := raw.filter fun index => index ∉ purged ++ embargoed
    testIndices := testIndices labelEndIndices config testGroupIds
    purgedCount := purged.length
    embargoedCount := embargoed.length }

/-- The splits of all combinations of test groups. -/
def buildSplits : List CPCVSplit :=
  (combinations config.testGroupCount (List.range config.groupCount)).zipIdx.map fun ids =>
    buildSplit labelEndIndices config (ids.2 + 1) ids.1

/-- `build_cpcv_diagnostic`. -/
def buildCpcvDiagnostic : Except PyError CPCVDiagnosticReport := do
  let sampleCount := labelEndIndices.length
  raiseIf (sampleCount < config.groupCount)
    (.value "CPCV requires at least one sample per group")
  raiseIf (labelEndIndices.zipIdx.any fun label =>
      label.1 < label.2 || (sampleCount : ℤ) ≤ label.1)
    (.value "CPCV label end indices must be causal and bounded")
  let splits := buildSplits labelEndIndices config
  let coverage := (splits.flatMap (·.testIndices)).dedup.length
  let minimumTrain := ((splits.map (·.trainIndices.length)).min?).getD 0
  let blockers :=
    ((if splits.length < config.minimumSplits then ["CPCV_SPLIT_COUNT_INSUFFICIENT"] else []) ++
      (if coverage ≠ sampleCount then ["CPCV_TEST_COVERAGE_INCOMPLETE"] else []) ++
      (if minimumTrain < 2 then ["CPCV_TRAIN_SAMPLE_INSUFFICIENT"] else [])).eraseDups
  return {
    sampleCount
    splitCount := splits.length
    testCoverageCount := coverage
    minimumTrainSize := minimumTrain
    splits
    blockers
    diagnosticPassed := blockers.isEmpty }

end Build

/-! ### The groups cover the samples -/

lemma length_groupsFrom (base remainder : ℕ) (ids : List ℕ) (start : ℕ) :
    (groupsFrom base remainder ids start).length = ids.length := by
  induction ids generalizing start with
  | nil => rfl
  | cons groupId ids ih => rw [groupsFrom, List.length_cons, ih, List.length_cons]

lemma length_groups (sampleCount groupCount : ℕ) :
    (groups sampleCount groupCount).length = groupCount := by
  rw [groups, length_groupsFrom, List.length_range]

/-- Consecutive groups are consecutive samples. -/
lemma groupsFrom_flatten (base remainder first count start : ℕ) :
    (groupsFrom base remainder (List.range' first count) start).flatten =
      List.range' start
        (base * count + (min remainder (first + count) - min remainder first)) := by
  induction count generalizing first start with
  | zero => simp [groupsFrom]
  | succ count ih =>
      rw [List.range'_succ, groupsFrom, List.flatten_cons, ih, List.range'_append_1]
      congr 1
      rw [Nat.mul_succ]
      split_ifs
      · omega
      · omega

/-- The groups one after another are the samples in their order. -/
theorem groups_flatten {sampleCount groupCount : ℕ} (hpos : 0 < groupCount) :
    (groups sampleCount groupCount).flatten = List.range sampleCount := by
  have hremainder := Nat.mod_lt sampleCount hpos
  have htotal := Nat.div_add_mod sampleCount groupCount
  rw [groups, List.range_eq_range', groupsFrom_flatten, List.range_eq_range']
  congr 1
  rw [Nat.mul_comm]
  omega

/-- A list with the positions of its elements. -/
lemma zipIdx_eq_map {α : Type} (l : List α) (default : α) :
    l.zipIdx = (List.range l.length).map fun i => (l.getD i default, i) := by
  refine List.ext_getElem (by simp) fun i hi _ => ?_
  rw [List.length_zipIdx] at hi
  simp [hi]

section Split

variable {labelEndIndices : List ℤ} {config : CPCVConfig} {testGroupIds : List ℕ} {index : ℕ}

/-- The samples of a group. -/
def groupAt (labelEndIndices : List ℤ) (config : CPCVConfig) (groupId : ℕ) : List ℕ :=
  (sampleGroups labelEndIndices config).getD groupId []

lemma rawTrain_eq : rawTrain labelEndIndices config testGroupIds =
    ((List.range config.groupCount).filter (· ∉ testGroupIds)).flatMap
      (groupAt labelEndIndices config) := by
  have hlength : (sampleGroups labelEndIndices config).length = config.groupCount :=
    length_groups _ _
  rw [rawTrain, zipIdx_eq_map _ [], hlength, List.filter_map, List.map_map]
  rfl

variable (labelEndIndices config) in
/-- All of the groups hold all of the samples. -/
lemma flatMap_groupAt : (List.range config.groupCount).flatMap (groupAt labelEndIndices config) =
    List.range labelEndIndices.length := by
  have hlength : (sampleGroups labelEndIndices config).length = config.groupCount :=
    length_groups _ _
  have hmap : (List.range config.groupCount).map (groupAt labelEndIndices config) =
      sampleGroups labelEndIndices config := by
    have hzip := congrArg (List.map Prod.fst) (zipIdx_eq_map (sampleGroups labelEndIndices config) [])
    rw [hlength, List.map_map, List.zipIdx_map_fst] at hzip
    exact hzip.symm
  have hpos : 0 < config.groupCount := by
    have hbounds := config.groupCount_bounds
    omega
  rw [List.flatMap_def, hmap, sampleGroups, groups_flatten hpos]

variable (labelEndIndices) in
/-- The samples of the test groups and of the others are all of the samples. -/
lemma testIndices_append_rawTrain (h : testGroupIds.Sublist (List.range config.groupCount)) :
    (testIndices labelEndIndices config testGroupIds ++
      rawTrain labelEndIndices config testGroupIds).Perm (List.range labelEndIndices.length) := by
  have hnodup : (List.range config.groupCount).Nodup := List.nodup_range
  have htest : testGroupIds.Perm ((List.range config.groupCount).filter (· ∈ testGroupIds)) := by
    refine (List.perm_ext_iff_of_nodup (h.nodup hnodup) (hnodup.filter _)).mpr fun id => ?_
    rw [List.mem_filter, decide_eq_true_eq]
    exact ⟨fun hid => ⟨h.subset hid, hid⟩, fun hid => hid.2⟩
  have hothers : (List.range config.groupCount).filter (· ∉ testGroupIds) =
      (List.range config.groupCount).filter fun id => !decide (id ∈ testGroupIds) :=
    List.filter_congr fun id _ => by simp
  rw [rawTrain_eq, ← flatMap_groupAt labelEndIndices config, hothers]
  have hall := htest.append_right
    ((List.range config.groupCount).filter fun id => !decide (id ∈ testGroupIds))
  have hparts := (hall.trans (List.filter_append_perm _ _)).flatMap_right
    (groupAt labelEndIndices config)
  rwa [List.flatMap_append] at hparts

/-! ### The group of a sample -/

variable (config) in
/-- Every sample is in a group. -/
lemma exists_groupAt (h : index < labelEndIndices.length) :
    ∃ groupId < config.groupCount, index ∈ groupAt labelEndIndices config groupId := by
  have hmem := List.mem_range.mpr h
  rw [← flatMap_groupAt labelEndIndices config, List.mem_flatMap] at hmem
  obtain ⟨groupId, hid, hindex⟩ := hmem
  exact ⟨groupId, List.mem_range.mp hid, hindex⟩

/-- No sample is in two groups. -/
lemma groupAt_unique {groupId groupId' : ℕ} (hid : groupId < config.groupCount)
    (hid' : groupId' < config.groupCount) (h : index ∈ groupAt labelEndIndices config groupId)
    (h' : index ∈ groupAt labelEndIndices config groupId') : groupId = groupId' := by
  have hnodup : ((List.range config.groupCount).flatMap
      (groupAt labelEndIndices config)).Nodup :=
    flatMap_groupAt labelEndIndices config ▸ List.nodup_range
  have hdisjoint := (List.nodup_flatMap.mp hnodup).2
  by_contra hne
  rcases Nat.lt_or_gt_of_ne hne with hlt | hlt
  · have hpair := List.pairwise_iff_getElem.mp hdisjoint groupId groupId'
      (by rwa [List.length_range]) (by rwa [List.length_range]) hlt
    rw [Function.onFun, List.getElem_range, List.getElem_range] at hpair
    exact hpair h h'
  · have hpair := List.pairwise_iff_getElem.mp hdisjoint groupId' groupId
      (by rwa [List.length_range]) (by rwa [List.length_range]) hlt
    rw [Function.onFun, List.getElem_range, List.getElem_range] at hpair
    exact hpair h' h

/-- A sample is tested when its group is. -/
lemma mem_testIndices (h : testGroupIds.Sublist (List.range config.groupCount)) {groupId : ℕ}
    (hid : groupId < config.groupCount) (hindex : index ∈ groupAt labelEndIndices config groupId) :
    index ∈ testIndices labelEndIndices config testGroupIds ↔ groupId ∈ testGroupIds := by
  rw [testIndices, List.mem_flatMap]
  constructor
  · rintro ⟨other, hother, hmem⟩
    rwa [groupAt_unique hid (List.mem_range.mp (h.subset hother)) hindex hmem]
  · intro hmem
    exact ⟨groupId, hmem, hindex⟩

/-! ### One split -/

variable {splitIndex : ℕ}

/-- What a split leaves for training. -/
lemma mem_trainIndices : index ∈ (buildSplit labelEndIndices config splitIndex
    testGroupIds).trainIndices ↔ index ∈ rawTrain labelEndIndices config testGroupIds ∧
      isPurged labelEndIndices config testGroupIds index = false ∧
      isEmbargoed labelEndIndices config testGroupIds index = false := by
  rw [buildSplit]
  simp only [List.mem_filter, decide_eq_true_eq, List.mem_append, Bool.and_eq_true, not_or,
    not_and, Bool.not_eq_true]
  constructor
  · rintro ⟨hraw, hpurged, hembargoed⟩
    exact ⟨hraw, hpurged hraw, hembargoed hraw fun _ => hpurged hraw⟩
  · rintro ⟨hraw, hpurged, hembargoed⟩
    exact ⟨hraw, fun _ => hpurged, fun _ _ => hembargoed⟩

/-- The samples cut into those for training and testing, the purged and those under
embargo. -/
def Partitioned (sampleCount : ℕ) (split : CPCVSplit) : Prop :=
  ∃ purged embargoed : List ℕ, purged.length = split.purgedCount ∧
    embargoed.length = split.embargoedCount ∧
    (split.testIndices ++ (split.trainIndices ++ purged ++ embargoed)).Perm
      (List.range sampleCount)

/-- **Every split** is a partition of the samples. -/
lemma split_partitioned (h : testGroupIds.Sublist (List.range config.groupCount)) :
    Partitioned labelEndIndices.length (buildSplit labelEndIndices config splitIndex
      testGroupIds) := by
  refine ⟨_, _, rfl, rfl, (List.Perm.append_left _ ?_).trans (testIndices_append_rawTrain _ h)⟩
  dsimp only [buildSplit]
  set raw := rawTrain labelEndIndices config testGroupIds
  set purged := raw.filter (isPurged labelEndIndices config testGroupIds) with hpurged
  -- first the purged and the others, then these with and without embargo
  have hother : raw.filter (fun i => i ∉ purged ++ raw.filter fun i =>
      i ∉ purged && isEmbargoed labelEndIndices config testGroupIds i) =
      (raw.filter fun i => !isPurged labelEndIndices config testGroupIds i).filter fun i =>
        !isEmbargoed labelEndIndices config testGroupIds i := by
    rw [List.filter_filter]
    refine List.filter_congr fun i hi => ?_
    simp only [hpurged, List.mem_append, List.mem_filter, hi, true_and, Bool.and_eq_true,
      decide_eq_true_eq, Bool.not_eq_true]
    cases isPurged labelEndIndices config testGroupIds i <;>
      cases isEmbargoed labelEndIndices config testGroupIds i <;> simp
  have hembargoed : (raw.filter fun i =>
      i ∉ purged && isEmbargoed labelEndIndices config testGroupIds i) =
      (raw.filter fun i => !isPurged labelEndIndices config testGroupIds i).filter
        (isEmbargoed labelEndIndices config testGroupIds) := by
    rw [List.filter_filter]
    refine List.filter_congr fun i hi => ?_
    simp only [hpurged, List.mem_filter, hi, true_and]
    cases isPurged labelEndIndices config testGroupIds i <;>
      cases isEmbargoed labelEndIndices config testGroupIds i <;> simp
  rw [hother, hembargoed]
  have hsecond := (List.perm_append_comm.trans (List.filter_append_perm
    (isEmbargoed labelEndIndices config testGroupIds)
    (raw.filter fun i => !isPurged labelEndIndices config testGroupIds i)))
  have hfirst := List.filter_append_perm (isPurged labelEndIndices config testGroupIds) raw
  refine List.Perm.trans ?_ hfirst
  refine List.Perm.trans ?_ (hsecond.append_left purged)
  rw [List.append_assoc]
  exact (List.perm_append_comm_assoc _ _ _)

end Split

/-! ### All of the splits -/

/-- Label ends that are causal and bounded. -/
def CausalLabels (labelEndIndices : List ℤ) : Prop :=
  ∀ label ∈ labelEndIndices.zipIdx, (label.2 : ℤ) ≤ label.1 ∧ label.1 < labelEndIndices.length

instance (labelEndIndices : List ℤ) : Decidable (CausalLabels labelEndIndices) :=
  inferInstanceAs (Decidable (∀ label ∈ labelEndIndices.zipIdx, _ ∧ _))

/-- A split that is purged: a partition of the samples, whose training samples overlap no test
sample, and that leaves out no other sample than for an overlap or for the embargo after a test
group. -/
structure PurgedSplit (labelEndIndices : List ℤ) (config : CPCVConfig) (split : CPCVSplit) :
    Prop where
  partitioned : Partitioned labelEndIndices.length split
  separated : ∀ i ∈ split.trainIndices, ∀ j ∈ split.testIndices,
    overlaps (interval labelEndIndices i) (interval labelEndIndices j) = false
  justified : ∀ i < labelEndIndices.length, i ∉ split.testIndices → i ∉ split.trainIndices →
    (∃ j ∈ split.testIndices,
      overlaps (interval labelEndIndices i) (interval labelEndIndices j) = true) ∨
    ∃ groupId ∈ split.testGroups,
      ∃ last ∈ (groupAt labelEndIndices config groupId).getLast?,
        last < i ∧ i ≤ last + config.embargoSamples

section All

variable {labelEndIndices : List ℤ} {config : CPCVConfig} {report : CPCVDiagnosticReport}

/-- What the builder does with label ends that it takes. -/
lemma buildCpcvDiagnostic_ok (hcausal : CausalLabels labelEndIndices)
    (hcount : config.groupCount ≤ labelEndIndices.length) :
    ∃ report, buildCpcvDiagnostic labelEndIndices config = .ok report := by
  have hlabels : ¬ (labelEndIndices.zipIdx.any fun label =>
      label.1 < label.2 || (labelEndIndices.length : ℤ) ≤ label.1) = true := by
    simp only [List.any_eq_true, Bool.or_eq_true, decide_eq_true_eq, not_exists, not_and, not_or,
      not_lt, not_le]
    exact hcausal
  simp only [buildCpcvDiagnostic, raiseIf_of_not (not_lt.mpr hcount), raiseIf_of_not hlabels,
    ok_bind]
  exact ⟨_, rfl⟩

lemma splits_of_build (h : buildCpcvDiagnostic labelEndIndices config = .ok report) :
    report.splits = buildSplits labelEndIndices config := by
  simp only [buildCpcvDiagnostic, bind_eq_ok, pure_eq_ok] at h
  obtain ⟨_, -, _, -, rfl⟩ := h
  rfl

/-- A split of the report is that of a choice of test groups. -/
lemma mem_buildSplits {split : CPCVSplit} : split ∈ buildSplits labelEndIndices config ↔
    ∃ splitIndex testGroupIds, (testGroupIds, splitIndex) ∈
      (combinations config.testGroupCount (List.range config.groupCount)).zipIdx ∧
      split = buildSplit labelEndIndices config (splitIndex + 1) testGroupIds := by
  rw [buildSplits, List.mem_map]
  constructor
  · rintro ⟨⟨testGroupIds, splitIndex⟩, hmem, rfl⟩
    exact ⟨splitIndex, testGroupIds, hmem, rfl⟩
  · rintro ⟨splitIndex, testGroupIds, hmem, rfl⟩
    exact ⟨(testGroupIds, splitIndex), hmem, rfl⟩

lemma sublist_of_mem_zipIdx {testGroupIds : List ℕ} {splitIndex : ℕ}
    (h : (testGroupIds, splitIndex) ∈
      (combinations config.testGroupCount (List.range config.groupCount)).zipIdx) :
    testGroupIds.Sublist (List.range config.groupCount) ∧
      testGroupIds.length = config.testGroupCount :=
  mem_combinations.mp (List.fst_mem_of_mem_zipIdx h)

lemma purgedSplit_buildSplit {testGroupIds : List ℕ} (splitIndex : ℕ)
    (h : testGroupIds.Sublist (List.range config.groupCount)) :
    PurgedSplit labelEndIndices config
      (buildSplit labelEndIndices config splitIndex testGroupIds) := by
  refine ⟨split_partitioned h, ?_, ?_⟩
  · intro i hi j hj
    obtain ⟨-, hpurged, -⟩ := mem_trainIndices.mp hi
    rw [isPurged, List.any_eq_false] at hpurged
    exact Bool.eq_false_of_not_eq_true (hpurged _ (List.mem_map_of_mem hj))
  · intro i hlt htest htrain
    have hraw : i ∈ rawTrain labelEndIndices config testGroupIds := by
      have hall := (testIndices_append_rawTrain labelEndIndices h).mem_iff.mpr
        (List.mem_range.mpr hlt)
      exact (List.mem_append.mp hall).resolve_left htest
    by_cases hpurged : isPurged labelEndIndices config testGroupIds i = true
    · rw [isPurged, List.any_map, List.any_eq_true] at hpurged
      obtain ⟨j, hj, hoverlaps⟩ := hpurged
      exact .inl ⟨j, hj, hoverlaps⟩
    · have hembargoed : isEmbargoed labelEndIndices config testGroupIds i = true := by
        by_contra hfree
        exact htrain (mem_trainIndices.mpr ⟨hraw, Bool.eq_false_of_not_eq_true hpurged,
          Bool.eq_false_of_not_eq_true hfree⟩)
      rw [isEmbargoed, zipIdx_eq_map _ [], List.any_map, List.any_eq_true] at hembargoed
      obtain ⟨groupId, -, hfollows⟩ := hembargoed
      simp only [Function.comp_apply, Bool.and_eq_true, decide_eq_true_eq, follows,
        Option.any_eq_true] at hfollows
      obtain ⟨hid, last, hlast, hafter, hwithin⟩ := hfollows
      exact .inr ⟨groupId, hid, last, hlast, hafter, hwithin⟩

/-- A sample is tested in as many splits as there are choices of the other test groups. -/
lemma countP_tested {index : ℕ} (hindex : index < labelEndIndices.length) :
    (buildSplits labelEndIndices config).countP (index ∈ ·.testIndices) =
      (config.groupCount - 1).choose (config.testGroupCount - 1) := by
  obtain ⟨groupId, hid, hmem⟩ := exists_groupAt config hindex
  obtain ⟨others, hothers⟩ := Nat.exists_eq_add_of_le' config.testGroupCount_bounds.1
  have hgroups : (buildSplits labelEndIndices config).countP (index ∈ ·.testIndices) =
      ((combinations config.testGroupCount (List.range config.groupCount)).zipIdx.map
        Prod.fst).countP (groupId ∈ ·) := by
    rw [buildSplits, List.countP_map, List.countP_map]
    refine List.countP_congr fun ids hids => ?_
    have hsublist := (sublist_of_mem_zipIdx hids).1
    simpa [buildSplit] using mem_testIndices hsublist hid hmem
  rw [hgroups, List.zipIdx_map_fst, hothers,
    countP_mem_combinations List.nodup_range (List.mem_range.mpr hid), List.length_range,
    Nat.add_sub_cancel]

end All

/-- **The splits are purged.**  For causal and bounded label ends, with a sample for each group,
every split is purged, and every sample is tested in as many splits as there are choices of the
other test groups. -/
theorem cpcv_splits_are_purged {labelEndIndices : List ℤ} {config : CPCVConfig}
    (hcausal : CausalLabels labelEndIndices)
    (hcount : config.groupCount ≤ labelEndIndices.length) :
    ∃ report, buildCpcvDiagnostic labelEndIndices config = .ok report ∧
      (∀ split ∈ report.splits, PurgedSplit labelEndIndices config split) ∧
      ∀ index < labelEndIndices.length, report.splits.countP (index ∈ ·.testIndices) =
        (config.groupCount - 1).choose (config.testGroupCount - 1) := by
  obtain ⟨report, hreport⟩ := buildCpcvDiagnostic_ok hcausal hcount
  refine ⟨report, hreport, fun split hsplit => ?_, fun index hindex => ?_⟩
  · rw [splits_of_build hreport] at hsplit
    obtain ⟨splitIndex, testGroupIds, hmem, rfl⟩ := mem_buildSplits.mp hsplit
    exact purgedSplit_buildSplit _ (sublist_of_mem_zipIdx hmem).1
  · rw [splits_of_build hreport]
    exact countP_tested hindex

/-- Three groups, of which one is tested. -/
def threeGroups : CPCVConfig where
  groupCount := 3
  testGroupCount := 1
  groupCount_bounds := by norm_num
  testGroupCount_bounds := by norm_num
  minimumSplits_pos := by norm_num

/-- Seven labels that reach one sample ahead: three splits, and every sample tested once. -/
theorem seven_labels_purged : ∃ report,
    buildCpcvDiagnostic [1, 2, 3, 4, 5, 6, 6] threeGroups = .ok report ∧
      (∀ split ∈ report.splits, PurgedSplit [1, 2, 3, 4, 5, 6, 6] threeGroups split) ∧
      ∀ index < 7, report.splits.countP (index ∈ ·.testIndices) = 1 :=
  cpcv_splits_are_purged (by decide) (by decide)

end Ai4Binance

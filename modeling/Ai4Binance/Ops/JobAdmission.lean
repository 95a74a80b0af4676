/-
The admission of unattended jobs (`ops/jobs.py`).

A runner has a job manifest, a capability manifest, and directories for evidence and audit.  A
request is admitted when nothing of it is blocked; the report of an assessment names the files
of its evidence.

* `JobManifest`, `CapabilityManifest`, `RunnerManifest`, `JobRequest`: what is declared;
* `assessJobAdmission`, `assessRunnerAdmission`: the two assessments;
* `assessRunnerAdmission_returns`: an assessment at an aware time returns a report;
* `runnerBlockers_eq_nil`: a request is admitted when no condition of the tables holds;
* `PathsConfined`: what the paths of admitted requests should be;
* `paths_confined_iff`: **they are, exactly when the texts that name the evidence stay below
  their directory and lead to different places**;
* `parent_segments_escape`: a key with parent segments leads out of the evidence directory.
-/
import Ai4Binance.Lib.PosixPath
import Ai4Binance.Lib.Python
import Ai4Binance.Lib.Text

open Check Text PosixPath

namespace Ai4Binance

/-! ### Declarations -/

/-- `JobCapability`. -/
inductive JobCapability where
  | readRepository
  | writeArtifact
  | runFixedQualityCommands
  | runLocalAdvisoryFixtures
  deriving DecidableEq

/-- `JobAuthorityCeiling`. -/
inductive JobAuthorityCeiling where
  | reportOnly
  | researchOnly
  deriving DecidableEq

/-- `JobSideEffect`. -/
inductive JobSideEffect where
  | readRepository
  | writeRuntimeArtifacts
  | appendAuditEvidence
  | runFixedQualityCommands
  | runLocalAdvisoryFixtures
  deriving DecidableEq

/-- `RunnerAdmissionStatus`. -/
inductive RunnerAdmissionStatus where
  | admittedReportOnly
  | admittedResearchOnly
  | blocked
  deriving DecidableEq

/-- The side effect that a capability needs. -/
def JobCapability.sideEffect : JobCapability → JobSideEffect
  | .readRepository => .readRepository
  | .writeArtifact => .writeRuntimeArtifacts
  | .runFixedQualityCommands => .runFixedQualityCommands
  | .runLocalAdvisoryFixtures => .runLocalAdvisoryFixtures

/-- `_required_side_effects_for_capabilities`. -/
def requiredSideEffectsForCapabilities (capabilities : List JobCapability) : List JobSideEffect :=
  capabilities.map JobCapability.sideEffect

/-- The capabilities that run commands. -/
def commandCapabilities : List JobCapability :=
  [.runFixedQualityCommands, .runLocalAdvisoryFixtures]

/-- `_require_unique_text`. -/
def requireUniqueText (name : String) (values : List String) : List (Bool × String) :=
  [(values.any isBlank, name ++ " cannot contain blanks"),
    (¬ values.Nodup, name ++ " must be unique")]

/-- `value.tzinfo is None or value.utcoffset() is None`. -/
def isNaive : Datetime → Bool
  | .aware _ => false
  | .naive _ => true

/-- `_require_aware`. -/
def requireAware (name : String) (value : Datetime) : List (Bool × String) :=
  [(isNaive value, name ++ " must be timezone-aware")]

/-- The fields that every record declares. -/
structure Authority where
  executionAllowed : Bool := false
  promotionStatus : String := "RESEARCH_ONLY"
  liveEligibilityStatus : String := "LIVE_ORDER_BLOCKED"

/-- `_require_fail_closed`. -/
def requireFailClosed (authority : Authority) (label : String) : List (Bool × String) :=
  [(authority.executionAllowed, label ++ " cannot authorize trading"),
    (authority.promotionStatus ≠ "RESEARCH_ONLY", label ++ " cannot promote production state"),
    (authority.liveEligibilityStatus ≠ "LIVE_ORDER_BLOCKED",
      label ++ " must remain live blocked")]

/-- The fields of a `JobManifest`. -/
structure JobManifestFields where
  jobId : String
  allowedCapabilities : List JobCapability
  allowedRoots : List Path
  timeoutSeconds : ℤ
  maximumOutputBytes : ℤ
  maximumConcurrency : ℤ
  lockPath : Path
  networkAllowed : Bool := false
  secretAccessAllowed : Bool := false
  tradingAuthority : Bool := false

/-- The checks of `JobManifest`. -/
def JobManifestFields.checks (m : JobManifestFields) : List (Bool × String) :=
  [(isBlank m.jobId, "job manifest identity is required"),
    (m.allowedCapabilities = [] ∨ ¬ m.allowedCapabilities.Nodup,
      "job capabilities must be non-empty and unique"),
    (m.allowedRoots.isEmpty ∨ m.allowedRoots.any (!·.isAbsolute),
      "job roots must be non-empty absolute paths"),
    (!m.lockPath.isAbsolute, "job lock path must be absolute"),
    (¬ (1 ≤ m.timeoutSeconds ∧ m.timeoutSeconds ≤ 3600),
      "job timeout must be between 1 and 3600 seconds"),
    (¬ (1024 ≤ m.maximumOutputBytes ∧ m.maximumOutputBytes ≤ 10000000),
      "job output limit is invalid"),
    (¬ (1 ≤ m.maximumConcurrency ∧ m.maximumConcurrency ≤ 16),
      "job concurrency limit is invalid"),
    (m.networkAllowed ∨ m.secretAccessAllowed ∨ m.tradingAuthority,
      "unattended research jobs cannot receive elevated authority")]

/-- `JobManifest`. -/
abbrev JobManifest : Type := {m : JobManifestFields // Passes m.checks}

/-- The fields of a `CapabilityManifest`. -/
structure CapabilityManifestFields extends Authority where
  manifestId : String
  jobId : String
  allowedCapabilities : List JobCapability
  authorityCeiling : JobAuthorityCeiling
  sideEffectAllowlist : List JobSideEffect
  allowedRoots : List Path
  fixedCommandRefs : List String := []
  requiredAuditChannels : List String := ["RUN_CARD", "PERSISTENT_EVIDENCE", "AUDIT"]

/-- The checks of `CapabilityManifest`. -/
def CapabilityManifestFields.checks (m : CapabilityManifestFields) : List (Bool × String) :=
  [(isBlank m.manifestId || isBlank m.jobId, "capability manifest identity is required"),
    (m.allowedCapabilities = [] ∨ ¬ m.allowedCapabilities.Nodup,
      "capability manifest capabilities must be non-empty and unique"),
    (m.allowedRoots.isEmpty ∨ m.allowedRoots.any (!·.isAbsolute),
      "capability manifest roots must be non-empty absolute paths"),
    (m.sideEffectAllowlist = [], "capability manifest side effects must be non-empty"),
    (¬ m.sideEffectAllowlist.Nodup, "capability manifest side effects must be unique")] ++
  requireUniqueText "capability manifest command refs" m.fixedCommandRefs ++
  requireUniqueText "capability manifest audit channels" m.requiredAuditChannels ++
  [(decide (¬ requiredSideEffectsForCapabilities m.allowedCapabilities ⊆ m.sideEffectAllowlist),
      "capability manifest side effects must cover every allowed capability"),
    (m.allowedCapabilities.any (· ∈ commandCapabilities) ∧ m.fixedCommandRefs = [],
      "capability manifest requires fixed command refs for runnable work")] ++
  requireFailClosed m.toAuthority "capability manifest"

/-- `CapabilityManifest`. -/
abbrev CapabilityManifest : Type := {m : CapabilityManifestFields // Passes m.checks}

/-- What every runner enforces. -/
def requiredEnforcement : List String :=
  ["TIMEOUT_ENFORCED", "LOCK_ACQUIRED", "PATH_SCOPE_ENFORCED", "LIVE_ORDER_BLOCKED"]

/-- The fields of a `RunnerManifest`. -/
structure RunnerManifestFields extends Authority where
  runnerId : String
  jobManifest : JobManifest
  capabilityManifest : CapabilityManifest
  evidenceRoot : Path
  auditRoot : Path
  universalEnforcement : List String := requiredEnforcement

/-- The checks of `RunnerManifest`. -/
def RunnerManifestFields.checks (m : RunnerManifestFields) : List (Bool × String) :=
  [(isBlank m.runnerId, "runner manifest identity is required"),
    (m.jobManifest.val.jobId ≠ m.capabilityManifest.val.jobId,
      "runner manifest job and capability manifests must agree"),
    (!m.evidenceRoot.isAbsolute || !m.auditRoot.isAbsolute,
      "runner evidence and audit roots must be absolute")] ++
  requireUniqueText "runner universal enforcement" m.universalEnforcement ++
  [(decide (¬ requiredEnforcement ⊆ m.universalEnforcement),
      "runner manifest must include universal enforcement controls")] ++
  requireFailClosed m.toAuthority "runner manifest"

/-- `RunnerManifest`. -/
abbrev RunnerManifest : Type := {m : RunnerManifestFields // Passes m.checks}

/-- The fields of a `JobRequest`. -/
structure JobRequestFields where
  jobId : String
  idempotencyKey : String
  requestedCapabilities : List JobCapability
  targetPaths : List Path
  timeoutEnforcedByRunner : Bool
  lockAcquired : Bool
  networkRequested : Bool := false
  requestedSideEffects : List JobSideEffect := []
  runnerId : String := ""
  commandRef : String := ""

/-- The checks of `JobRequest`. -/
def JobRequestFields.checks (r : JobRequestFields) : List (Bool × String) :=
  [(isBlank r.jobId ∨ isBlank r.idempotencyKey, "job request identity is required"),
    (r.requestedCapabilities = [], "job request capabilities cannot be empty"),
    (r.targetPaths.any (!·.isAbsolute), "job request paths must be absolute"),
    (¬ r.requestedCapabilities.Nodup, "job request capabilities must be unique"),
    (¬ r.requestedSideEffects.Nodup, "job request side effects must be unique")]

/-- `JobRequest`. -/
abbrev JobRequest : Type := {r : JobRequestFields // Passes r.checks}

/-! ### Reports -/

/-- The fields of a `JobAdmission`. -/
structure JobAdmissionFields extends Authority where
  jobId : String
  idempotencyKey : String
  admitted : Bool
  blockers : List String
  timeoutLimitSeconds : Option ℤ := none
  maximumOutputBytes : Option ℤ := none
  timeoutEnforcedByRunner : Bool := false
  resourceBudgetStatus : String := "NOT_VERIFIED"

/-- The checks of `JobAdmission`. -/
def JobAdmissionFields.checks (a : JobAdmissionFields) : List (Bool × String) :=
  requireUniqueText "job admission blockers" a.blockers ++
  [(decide (a.resourceBudgetStatus ≠ "NOT_VERIFIED"),
      "job admission cannot approve an unmeasured resource budget"),
    (a.timeoutLimitSeconds.any (· ≤ 0), "job admission timeout limit is invalid"),
    (a.maximumOutputBytes.any (· ≤ 0), "job admission output limit is invalid"),
    (a.admitted = !a.blockers.isEmpty, "job admission and blockers disagree")] ++
  requireFailClosed a.toAuthority "job admission"

/-- `JobAdmission`. -/
abbrev JobAdmission : Type := {a : JobAdmissionFields // Passes a.checks}

/-- The fields of a `RunnerRunCard`. -/
structure RunnerRunCardFields extends Authority where
  runCardId : String
  runnerId : String
  jobId : String
  manifestRef : String
  status : RunnerAdmissionStatus
  authorityCeiling : JobAuthorityCeiling
  requestedCapabilities : List JobCapability
  requestedSideEffects : List JobSideEffect
  targetPaths : List Path
  enforcementApplied : List String
  createdAt : Datetime
  blockers : List String := []
  commandRef : String := ""

/-- The checks of `RunnerRunCard`. -/
def RunnerRunCardFields.checks (c : RunnerRunCardFields) : List (Bool × String) :=
  [([c.runCardId, c.runnerId, c.jobId, c.manifestRef].any isBlank,
      "runner run card identity is required")] ++
  requireUniqueText "runner run card blockers" c.blockers ++
  requireUniqueText "runner run card enforcement" c.enforcementApplied ++
  requireAware "runner run card created_at" c.createdAt ++
  [(c.targetPaths.any (!·.isAbsolute), "runner run card target paths must be absolute"),
    (c.status = .blocked ∧ c.blockers = [], "blocked runner run card requires blockers"),
    (c.status ≠ .blocked ∧ c.blockers ≠ [], "admitted runner run card cannot contain blockers"),
    (.runFixedQualityCommands ∈ c.requestedCapabilities ∧ c.status ≠ .blocked ∧
        isBlank c.commandRef,
      "admitted fixed-command run card requires command_ref")] ++
  requireFailClosed c.toAuthority "runner run card"

/-- `RunnerRunCard`. -/
abbrev RunnerRunCard : Type := {c : RunnerRunCardFields // Passes c.checks}

/-- The fields of a `RunnerPersistentEvidence`. -/
structure RunnerPersistentEvidenceFields extends Authority where
  recordId : String
  runCardId : String
  manifestRef : String
  artifactPath : Path
  auditPath : Path
  auditChannels : List String
  createdAt : Datetime
  blockers : List String := []

/-- The checks of `RunnerPersistentEvidence`. -/
def RunnerPersistentEvidenceFields.checks (e : RunnerPersistentEvidenceFields) :
    List (Bool × String) :=
  [([e.recordId, e.runCardId, e.manifestRef].any isBlank,
      "runner persistent evidence identity is required"),
    (!e.artifactPath.isAbsolute || !e.auditPath.isAbsolute,
      "runner persistent evidence paths must be absolute")] ++
  requireUniqueText "runner persistent evidence audit channels" e.auditChannels ++
  requireUniqueText "runner persistent evidence blockers" e.blockers ++
  requireAware "runner persistent evidence created_at" e.createdAt ++
  requireFailClosed e.toAuthority "runner persistent evidence"

/-- `RunnerPersistentEvidence`. -/
abbrev RunnerPersistentEvidence : Type :=
  {e : RunnerPersistentEvidenceFields // Passes e.checks}

/-- The two types of audit events. -/
inductive RunnerEventType where
  | admissionBlocked
  | admissionAccepted
  deriving DecidableEq

/-- The fields of a `RunnerAuditRecord`.  The event types are in upper snake case, as the
constructor asks. -/
structure RunnerAuditRecordFields extends Authority where
  eventId : String
  eventType : RunnerEventType
  runnerId : String
  subjectRef : String
  evidenceRefs : List String
  blockers : List String
  createdAt : Datetime

/-- The checks of `RunnerAuditRecord`. -/
def RunnerAuditRecordFields.checks (a : RunnerAuditRecordFields) : List (Bool × String) :=
  [([a.eventId, a.runnerId, a.subjectRef].any isBlank,
      "runner audit record identity is required")] ++
  requireUniqueText "runner audit evidence refs" a.evidenceRefs ++
  requireUniqueText "runner audit blockers" a.blockers ++
  requireAware "runner audit created_at" a.createdAt ++
  requireFailClosed a.toAuthority "runner audit record"

/-- `RunnerAuditRecord`. -/
abbrev RunnerAuditRecord : Type := {a : RunnerAuditRecordFields // Passes a.checks}

/-- The fields of a `RunnerAdmissionReport`. -/
structure RunnerAdmissionReportFields extends Authority where
  runnerId : String
  jobId : String
  authorityCeiling : JobAuthorityCeiling
  status : RunnerAdmissionStatus
  admission : JobAdmission
  runCard : RunnerRunCard
  persistentEvidence : RunnerPersistentEvidence
  auditRecord : RunnerAuditRecord
  blockers : List String

/-- The checks of `RunnerAdmissionReport`. -/
def RunnerAdmissionReportFields.checks (r : RunnerAdmissionReportFields) :
    List (Bool × String) :=
  [(isBlank r.runnerId || isBlank r.jobId, "runner admission report identity is required")] ++
  requireUniqueText "runner admission blockers" r.blockers ++
  [(decide (r.status = .blocked ∧ r.blockers = []),
      "blocked runner admission report requires blockers"),
    (r.status ≠ .blocked ∧ r.blockers ≠ [],
      "admitted runner admission report cannot contain blockers"),
    (r.admission.val.jobId ≠ r.jobId ∨ r.runCard.val.jobId ≠ r.jobId,
      "runner admission report job identifiers must agree"),
    (r.runCard.val.runnerId ≠ r.runnerId,
      "runner admission report runner identifiers must agree"),
    (¬ (r.blockers ≠ [] ↔ r.status = .blocked),
      "runner admission report status and blockers disagree")] ++
  requireFailClosed r.toAuthority "runner admission report"

/-- `RunnerAdmissionReport`. -/
abbrev RunnerAdmissionReport : Type := {r : RunnerAdmissionReportFields // Passes r.checks}

/-! ### Assessments -/

/-- `_is_within`. -/
def isWithin (fs : FileSystem) (path : Path) (roots : List Path) : Bool :=
  (roots.map (Path.resolve fs)).any fun root =>
    path.resolve fs = root ∨ root ∈ parents (path.resolve fs)

/-- The texts of the conditions that hold, in order. -/
def blockersOf (conditions : List (Bool × String)) : List String :=
  (conditions.filter (·.1)).map (·.2)

section Assessments

variable (fs : FileSystem)

/-- What blocks a request of a job. -/
def jobConditions (manifest : JobManifestFields) (request : JobRequestFields) :
    List (Bool × String) :=
  [(manifest.jobId ≠ request.jobId, "JOB_IDENTITY_MISMATCH"),
    (¬ request.requestedCapabilities ⊆ manifest.allowedCapabilities,
      "JOB_CAPABILITY_NOT_ALLOWED"),
    (request.targetPaths.any fun path => !isWithin fs path manifest.allowedRoots,
      "JOB_PATH_NOT_ALLOWED"),
    (request.networkRequested, "JOB_NETWORK_NOT_ALLOWED"),
    (!request.timeoutEnforcedByRunner, "JOB_TIMEOUT_NOT_ENFORCED"),
    (!request.lockAcquired, "JOB_LOCK_NOT_ACQUIRED")]

/-- `assess_job_admission`. -/
def assessJobAdmission (manifest : JobManifest) (request : JobRequest) :
    Except PyError JobAdmission :=
  let blockers := blockersOf (jobConditions fs manifest request)
  construct JobAdmissionFields.checks {
    jobId := request.val.jobId
    idempotencyKey := request.val.idempotencyKey
    admitted := blockers.isEmpty
    blockers := blockers.eraseDups
    timeoutLimitSeconds := some manifest.val.timeoutSeconds
    maximumOutputBytes := some manifest.val.maximumOutputBytes
    timeoutEnforcedByRunner := request.val.timeoutEnforcedByRunner }

/-- What else blocks a request of a runner. -/
def runnerConditions (runnerId : String) (manifest : CapabilityManifestFields)
    (request : JobRequestFields) : List (Bool × String) :=
  let commandRequested := request.requestedCapabilities.any (· ∈ commandCapabilities)
  [(request.runnerId ≠ "" ∧ request.runnerId ≠ runnerId, "RUNNER_IDENTITY_MISMATCH"),
    (¬ request.requestedCapabilities ⊆ manifest.allowedCapabilities,
      "RUNNER_CAPABILITY_MANIFEST_MISMATCH"),
    (request.targetPaths.any fun path => !isWithin fs path manifest.allowedRoots,
      "RUNNER_CAPABILITY_ROOT_NOT_ALLOWED"),
    (request.requestedSideEffects ≠ [] ∧
        ¬ request.requestedSideEffects ⊆ manifest.sideEffectAllowlist,
      "RUNNER_SIDE_EFFECT_NOT_ALLOWED"),
    (¬ requiredSideEffectsForCapabilities request.requestedCapabilities ⊆
        request.requestedSideEffects,
      "RUNNER_SIDE_EFFECT_REQUIRED"),
    (commandRequested ∧ isBlank request.commandRef, "RUNNER_COMMAND_REF_REQUIRED"),
    (commandRequested ∧ isBlank request.commandRef = false ∧
        request.commandRef ∉ manifest.fixedCommandRefs,
      "RUNNER_COMMAND_NOT_ALLOWLISTED"),
    (isBlank request.commandRef = false ∧ commandRequested = false,
      "RUNNER_COMMAND_CAPABILITY_REQUIRED")]

/-- The status of a request with some blockers. -/
def runnerStatus (blockers : List String) (ceiling : JobAuthorityCeiling) :
    RunnerAdmissionStatus :=
  if blockers ≠ [] then .blocked
  else if ceiling = .reportOnly then .admittedReportOnly
  else .admittedResearchOnly

/-- `f"{request.job_id}-{request.idempotency_key}"`. -/
def recordName (jobId idempotencyKey : String) : String := jobId ++ "-" ++ idempotencyKey

/-- `assess_runner_admission`. -/
def assessRunnerAdmission (runnerManifest : RunnerManifest) (request : JobRequest)
    (observedAt : Datetime) : Except PyError RunnerAdmissionReport := do
  raiseIf (isNaive observedAt)
    (.value "runner admission observed_at must be timezone-aware")
  let jobAdmission ← assessJobAdmission fs runnerManifest.val.jobManifest request
  let capabilityManifest := runnerManifest.val.capabilityManifest.val
  let runnerId := runnerManifest.val.runnerId
  let jobId := request.val.jobId
  let key := request.val.idempotencyKey
  let blockers := (jobAdmission.val.blockers ++
    blockersOf (runnerConditions fs runnerId capabilityManifest request)).eraseDups
  let status := runnerStatus blockers capabilityManifest.authorityCeiling
  let admission ← construct JobAdmissionFields.checks {
    jobId
    idempotencyKey := key
    admitted := blockers.isEmpty
    blockers }
  let runCardId := "runner-run-card:" ++ runnerId ++ ":" ++ key
  let evidenceId := "runner-persistent-evidence:" ++ runnerId ++ ":" ++ key
  let runCard ← construct RunnerRunCardFields.checks {
    runCardId
    runnerId
    jobId
    manifestRef := capabilityManifest.manifestId
    status
    authorityCeiling := capabilityManifest.authorityCeiling
    requestedCapabilities := request.val.requestedCapabilities
    requestedSideEffects := request.val.requestedSideEffects
    targetPaths := request.val.targetPaths
    enforcementApplied := runnerManifest.val.universalEnforcement
    createdAt := observedAt
    blockers
    commandRef := request.val.commandRef }
  let persistentEvidence ← construct RunnerPersistentEvidenceFields.checks {
    recordId := evidenceId
    runCardId
    manifestRef := capabilityManifest.manifestId
    artifactPath := runnerManifest.val.evidenceRoot.join (recordName jobId key ++ ".json")
    auditPath := runnerManifest.val.auditRoot.join (recordName jobId key ++ ".jsonl")
    auditChannels := capabilityManifest.requiredAuditChannels
    createdAt := observedAt
    blockers }
  let auditRecord ← construct RunnerAuditRecordFields.checks {
    eventId := "runner-audit:" ++ runnerId ++ ":" ++ key
    eventType := if blockers ≠ [] then .admissionBlocked else .admissionAccepted
    runnerId
    subjectRef := jobId
    evidenceRefs := [runCardId, evidenceId]
    blockers := (blockers ++ ["LIVE_ORDER_BLOCKED"]).eraseDups
    createdAt := observedAt }
  construct RunnerAdmissionReportFields.checks {
    runnerId
    jobId
    authorityCeiling := capabilityManifest.authorityCeiling
    status
    admission
    runCard
    persistentEvidence
    auditRecord
    blockers }

end Assessments

/-! ### An assessment returns -/

section Returns

variable {conditions : List (Bool × String)} {values : List String}

@[simp] lemma passes_requireUniqueText {name : String} : Passes (requireUniqueText name values) ↔
    (∀ value ∈ values, isBlank value = false) ∧ values.Nodup := by
  simp [requireUniqueText]

@[simp] lemma passes_requireFailClosed (label : String) : Passes (requireFailClosed {} label) := by
  simp [requireFailClosed]

@[simp] lemma passes_requireAware {name : String} {value : Datetime} :
    Passes (requireAware name value) ↔ isNaive value = false := by
  simp only [requireAware, passes_cons, passes_nil, and_true]

lemma blockersOf_eq_nil : blockersOf conditions = [] ↔ Passes conditions := by
  simp [blockersOf, Passes, List.filter_eq_nil_iff]

/-- The texts of a table without blank texts. -/
lemma not_blank_of_mem_blockersOf (h : ∀ c ∈ conditions, isBlank c.2 = false) :
    ∀ blocker ∈ blockersOf conditions, isBlank blocker = false := by
  intro blocker hblocker
  obtain ⟨c, hc, rfl⟩ := List.mem_map.mp hblocker
  exact h c (List.mem_of_mem_filter hc)

lemma isBlank_append (s t : String) : isBlank (s ++ t) = (isBlank s && isBlank t) := by
  rw [isBlank, String.toList_append, List.all_append]
  rfl

variable (fs : FileSystem) (manifest : RunnerManifest) (request : JobRequest)

/-- All that blocks a request. -/
def runnerBlockers : List String :=
  ((blockersOf (jobConditions fs manifest.val.jobManifest request)).eraseDups ++
    blockersOf (runnerConditions fs manifest.val.runnerId manifest.val.capabilityManifest
      request)).eraseDups

lemma not_blank_of_mem_jobConditions (job : JobManifestFields) :
    ∀ blocker ∈ blockersOf (jobConditions fs job request), isBlank blocker = false := by
  refine not_blank_of_mem_blockersOf ?_
  simp only [jobConditions, List.forall_mem_cons, List.not_mem_nil, false_imp_iff, forall_const,
    and_true]
  decide

lemma not_blank_of_mem_runnerConditions (runnerId : String)
    (capability : CapabilityManifestFields) :
    ∀ blocker ∈ blockersOf (runnerConditions fs runnerId capability request),
      isBlank blocker = false := by
  refine not_blank_of_mem_blockersOf ?_
  simp only [runnerConditions, List.forall_mem_cons, List.not_mem_nil, false_imp_iff,
    forall_const, and_true]
  decide

lemma not_blank_of_mem_runnerBlockers :
    ∀ blocker ∈ runnerBlockers fs manifest request, isBlank blocker = false := by
  intro blocker hblocker
  rw [runnerBlockers, mem_eraseDups, List.mem_append, mem_eraseDups] at hblocker
  exact hblocker.elim (not_blank_of_mem_jobConditions fs request _ blocker)
    (not_blank_of_mem_runnerConditions fs request _ _ blocker)

/-- Nothing blocks a request when no condition holds. -/
lemma runnerBlockers_eq_nil : runnerBlockers fs manifest request = [] ↔
    Passes (jobConditions fs manifest.val.jobManifest request) ∧
      Passes (runnerConditions fs manifest.val.runnerId manifest.val.capabilityManifest
        request) := by
  rw [runnerBlockers, eraseDups_eq_nil, List.append_eq_nil_iff, eraseDups_eq_nil,
    blockersOf_eq_nil, blockersOf_eq_nil]

/-- What a runner manifest declares. -/
lemma RunnerManifest.declared : isBlank manifest.val.runnerId = false ∧
    manifest.val.evidenceRoot.isAbsolute ∧ manifest.val.auditRoot.isAbsolute ∧
    (∀ value ∈ manifest.val.universalEnforcement, isBlank value = false) ∧
    manifest.val.universalEnforcement.Nodup := by
  have h := manifest.property
  simp only [RunnerManifestFields.checks, passes_append, passes_cons, passes_requireUniqueText,
    Bool.or_eq_false_iff, Bool.not_eq_false'] at h
  exact ⟨h.1.1.1.1, h.1.1.1.2.2.1.1, h.1.1.1.2.2.1.2, h.1.1.2⟩

lemma CapabilityManifest.declared (manifest : CapabilityManifest) :
    isBlank manifest.val.manifestId = false ∧
      (∀ value ∈ manifest.val.requiredAuditChannels, isBlank value = false) ∧
      manifest.val.requiredAuditChannels.Nodup := by
  have h := manifest.property
  simp only [CapabilityManifestFields.checks, passes_append, passes_cons,
    passes_requireUniqueText, Bool.or_eq_false_iff] at h
  exact ⟨h.1.1.1.1.1.1, h.1.1.2⟩

lemma JobRequest.declared : isBlank request.val.jobId = false ∧
    isBlank request.val.idempotencyKey = false ∧
    request.val.targetPaths.any (!·.isAbsolute) = false := by
  have h := request.property
  simp only [JobRequestFields.checks, passes_cons, decide_eq_false_iff_not, not_or,
    Bool.not_eq_true] at h
  exact ⟨h.1.1, h.1.2, h.2.2.1⟩

lemma JobManifest.declared (manifest : JobManifest) :
    0 < manifest.val.timeoutSeconds ∧ 0 < manifest.val.maximumOutputBytes := by
  have h := manifest.property
  simp only [JobManifestFields.checks, passes_cons, decide_eq_false_iff_not, not_not] at h
  exact ⟨by omega, by omega⟩

lemma runnerStatus_eq_blocked {blockers : List String} {ceiling : JobAuthorityCeiling} :
    runnerStatus blockers ceiling = .blocked ↔ blockers ≠ [] := by
  rw [runnerStatus]
  split_ifs with h h' <;> simp [h]

/-- A request without blockers, for a capability that runs commands, names a command. -/
lemma commandRef_not_blank {runnerId : String} {capability : CapabilityManifestFields}
    (h : Passes (runnerConditions fs runnerId capability request.val))
    (hcommand : .runFixedQualityCommands ∈ request.val.requestedCapabilities) :
    isBlank request.val.commandRef = false := by
  simp only [runnerConditions, passes_cons, decide_eq_false_iff_not, not_and,
    Bool.not_eq_true] at h
  exact h.2.2.2.2.2.1 (List.any_eq_true.mpr ⟨_, hcommand, by decide⟩)

/-- The identities of the run card and of the evidence differ. -/
lemma runCardId_ne_evidenceId (s t : String) :
    "runner-run-card:" ++ s ≠ "runner-persistent-evidence:" ++ t := by
  intro h
  have htake := congrArg (fun text : String => text.toList.take 8) h
  simp only [String.toList_append] at htake
  rw [List.take_append_of_le_length (by decide), List.take_append_of_le_length (by decide)]
    at htake
  exact absurd htake (by decide)

/-- The assessment of a job returns. -/
lemma assessJobAdmission_returns (manifest : JobManifest) : ∃ admission,
    assessJobAdmission fs manifest request = .ok admission ∧ admission.val.blockers =
      (blockersOf (jobConditions fs manifest request)).eraseDups := by
  obtain ⟨htimeout, houtput⟩ := manifest.declared
  refine ⟨_, construct_of_passes ?_, rfl⟩
  simp only [JobAdmissionFields.checks, passes_append, passes_cons, passes_nil,
    passes_requireUniqueText, passes_requireFailClosed, mem_eraseDups, nodup_eraseDups]
  refine ⟨⟨⟨not_blank_of_mem_jobConditions fs request _, trivial⟩, ?_⟩, trivial⟩
  cases hblockers : blockersOf (jobConditions fs manifest request) with
  | nil => simp [htimeout, houtput]
  | cons blocker blockers => simp [htimeout, houtput, List.eraseDups_cons]

/-- **An assessment at an aware time returns a report**: every record that it makes passes its
own checks. -/
theorem assessRunnerAdmission_returns (instant : ℤ) :
    ∃ report, assessRunnerAdmission fs manifest request (.aware instant) = .ok report := by
  obtain ⟨hrunner, hevidence, haudit, henforced⟩ := RunnerManifest.declared manifest
  obtain ⟨hmanifest, hchannels⟩ := manifest.val.capabilityManifest.declared
  obtain ⟨hjob, -, htargets⟩ := JobRequest.declared request
  obtain ⟨jobAdmission, hjobAdmission, hjobBlockers⟩ :=
    assessJobAdmission_returns fs request manifest.val.jobManifest
  have hblank := not_blank_of_mem_runnerBlockers fs manifest request
  have hnodup : (runnerBlockers fs manifest request).Nodup := nodup_eraseDups _
  have hcommand := fun h => ((runnerBlockers_eq_nil fs manifest request).mp h).2
  have hall : ((blockersOf (jobConditions fs manifest.val.jobManifest request)).eraseDups ++
      blockersOf (runnerConditions fs manifest.val.runnerId manifest.val.capabilityManifest
        request)).eraseDups = runnerBlockers fs manifest request := rfl
  have haware : ¬ isNaive (.aware instant) = true := Bool.false_ne_true
  rw [assessRunnerAdmission, raiseIf_of_not haware, ok_bind, hjobAdmission, ok_bind]
  simp only [hjobBlockers, hall]
  generalize runnerBlockers fs manifest request = blockers at *
  rw [construct_of_passes]
  rotate_left
  · simp only [JobAdmissionFields.checks, passes_append, passes_cons, passes_nil,
      passes_requireUniqueText, passes_requireFailClosed]
    refine ⟨⟨⟨hblank, hnodup⟩, ?_⟩, trivial⟩
    simp
  rw [ok_bind, construct_of_passes]
  rotate_left
  · simp only [RunnerRunCardFields.checks, passes_append, passes_cons, passes_nil,
      passes_requireUniqueText, passes_requireFailClosed, passes_requireAware, isBlank_append,
      List.any_cons, List.any_nil, hrunner, hjob, hmanifest, runnerStatus_eq_blocked,
      decide_eq_false_iff_not, Bool.and_false, Bool.false_and, Bool.or_false, and_true, true_and]
    refine ⟨⟨⟨⟨hblank, hnodup⟩, henforced⟩, rfl⟩, htargets, fun h => h.1 h.2,
      fun h => h.1 (runnerStatus_eq_blocked.mpr h.2), fun h => ?_⟩
    have hnone : blockers = [] := by
      by_contra hsome
      exact h.2.1 (runnerStatus_eq_blocked.mpr hsome)
    have hcommandRef := commandRef_not_blank fs request (hcommand hnone) h.1
    rw [h.2.2] at hcommandRef
    cases hcommandRef
  rw [ok_bind, construct_of_passes]
  rotate_left
  · simp only [RunnerPersistentEvidenceFields.checks, passes_append, passes_cons, passes_nil,
      passes_requireUniqueText, passes_requireFailClosed, passes_requireAware, isBlank_append,
      List.any_cons, List.any_nil, hrunner, hmanifest, Path.isAbsolute_join hevidence,
      Path.isAbsolute_join haudit, Bool.and_false, Bool.false_and, Bool.or_false, Bool.not_true,
      and_true, true_and]
    exact ⟨⟨hchannels, hblank, hnodup⟩, rfl⟩
  rw [ok_bind, construct_of_passes]
  rotate_left
  · simp only [RunnerAuditRecordFields.checks, passes_append, passes_cons, passes_nil,
      passes_requireUniqueText, passes_requireFailClosed, passes_requireAware, isBlank_append,
      List.any_cons, List.any_nil, hrunner, hjob, mem_eraseDups, nodup_eraseDups,
      List.forall_mem_cons, List.forall_mem_append, Bool.and_false, Bool.false_and,
      Bool.or_false, and_true, true_and]
    refine ⟨⟨⟨fun _ h => absurd h List.not_mem_nil, ?_⟩, hblank, by decide,
      fun _ h => absurd h List.not_mem_nil⟩, rfl⟩
    rw [List.nodup_cons, List.mem_singleton]
    simp only [String.append_assoc]
    exact ⟨runCardId_ne_evidenceId _ _, List.nodup_singleton _⟩
  rw [ok_bind, construct_of_passes]
  rotate_left
  · simp only [RunnerAdmissionReportFields.checks, passes_append, passes_cons, passes_nil,
      passes_requireUniqueText, passes_requireFailClosed, hrunner, hjob, runnerStatus_eq_blocked,
      decide_eq_false_iff_not, Bool.or_false, and_true, true_and]
    exact ⟨⟨hblank, hnodup⟩, fun h => h.1 h.2, fun h => h.1 (runnerStatus_eq_blocked.mpr h.2),
      fun h => h.elim (· rfl) (· rfl), fun h => h rfl, fun h => h trivial⟩
  exact ⟨_, rfl⟩

end Returns

/-! ### The paths of admitted requests -/

section Paths

/-- The request is admitted. -/
def RunnerAdmissionReport.Admitted (report : RunnerAdmissionReport) : Prop :=
  report.val.admission.val.admitted

/-- The target paths resolve inside roots that both manifests allow, and the evidence and the
audit inside their directories. -/
structure Confined (fs : FileSystem) (manifest : RunnerManifest) (request : JobRequest)
    (report : RunnerAdmissionReport) : Prop where
  targets : ∀ path ∈ request.val.targetPaths,
    isWithin fs path manifest.val.jobManifest.val.allowedRoots ∧
      isWithin fs path manifest.val.capabilityManifest.val.allowedRoots
  artifact : isWithin fs report.val.persistentEvidence.val.artifactPath [manifest.val.evidenceRoot]
  audit : isWithin fs report.val.persistentEvidence.val.auditPath [manifest.val.auditRoot]

/-- Two reports name one file. -/
def Shared (fs : FileSystem) (report report' : RunnerAdmissionReport) : Prop :=
  report.val.persistentEvidence.val.artifactPath.resolve fs =
      report'.val.persistentEvidence.val.artifactPath.resolve fs ∨
    report.val.persistentEvidence.val.auditPath.resolve fs =
      report'.val.persistentEvidence.val.auditPath.resolve fs

/-- Admitted requests of a job with these keys are confined, and share no file if the keys
differ: for every runner without symbolic links below its directories. -/
def PathsConfined (jobId key key' : String) : Prop :=
  ∀ (fs : FileSystem) (manifest : RunnerManifest) (request request' : JobRequest)
    (observedAt observedAt' : Datetime) (report report' : RunnerAdmissionReport),
    LinkFree fs manifest.val.evidenceRoot → LinkFree fs manifest.val.auditRoot →
    request.val.jobId = jobId → request.val.idempotencyKey = key →
    request'.val.idempotencyKey = key' →
    assessRunnerAdmission fs manifest request observedAt = .ok report → report.Admitted →
    assessRunnerAdmission fs manifest request' observedAt' = .ok report' → report'.Admitted →
      Confined fs manifest request report ∧ Confined fs manifest request' report' ∧
        (key ≠ key' → ¬ Shared fs report report')

variable {fs : FileSystem} {manifest : RunnerManifest} {request request' : JobRequest}
  {observedAt observedAt' : Datetime} {report report' : RunnerAdmissionReport}

/-- What a report says. -/
lemma report_eq (h : assessRunnerAdmission fs manifest request observedAt = .ok report) :
    (report.Admitted ↔ runnerBlockers fs manifest request = []) ∧
      report.val.persistentEvidence.val.artifactPath = manifest.val.evidenceRoot.join
        (recordName request.val.jobId request.val.idempotencyKey ++ ".json") ∧
      report.val.persistentEvidence.val.auditPath = manifest.val.auditRoot.join
        (recordName request.val.jobId request.val.idempotencyKey ++ ".jsonl") := by
  rw [assessRunnerAdmission] at h
  simp only [bind_eq_ok, construct_eq_ok] at h
  obtain ⟨_, -, jobAdmission, hjob, admission, hadmission, runCard, -, evidence, hevidence,
    audit, -, hreport⟩ := h
  obtain ⟨jobAdmission', hjob', hblockers⟩ :=
    assessJobAdmission_returns fs request manifest.val.jobManifest
  obtain rfl := Except.ok.inj (hjob.symm.trans hjob')
  rw [RunnerAdmissionReport.Admitted, hreport]
  dsimp only
  rw [hadmission, hevidence, hblockers]
  exact ⟨List.isEmpty_iff, rfl, rfl⟩

lemma isWithin_iff {path : Path} {roots : List Path} : isWithin fs path roots ↔
    ∃ root ∈ roots, root.resolve fs <+: path.resolve fs := by
  simp only [isWithin, List.any_map, List.any_eq_true, Function.comp_apply, decide_eq_true_eq,
    within_iff_prefix]

lemma isWithin_singleton {path root : Path} :
    isWithin fs path [root] ↔ root.resolve fs <+: path.resolve fs := by
  simp [isWithin_iff]

/-- **What an admitted request satisfies**: it is of the manifest's job, and its target paths
resolve inside roots that both manifests allow. -/
lemma admitted_targets (h : runnerBlockers fs manifest request = []) :
    request.val.jobId = manifest.val.jobManifest.val.jobId ∧
      ∀ path ∈ request.val.targetPaths,
        isWithin fs path manifest.val.jobManifest.val.allowedRoots ∧
          isWithin fs path manifest.val.capabilityManifest.val.allowedRoots := by
  obtain ⟨hjob, hrunner⟩ := (runnerBlockers_eq_nil fs manifest request).mp h
  simp only [jobConditions, passes_cons, decide_eq_false_iff_not, not_not, List.any_eq_false,
    Bool.not_eq_true', Bool.not_eq_false] at hjob
  simp only [runnerConditions, passes_cons, List.any_eq_false, Bool.not_eq_true',
    Bool.not_eq_false] at hrunner
  exact ⟨hjob.1.symm, fun path hpath => ⟨hjob.2.2.1 path hpath, hrunner.2.2.1 path hpath⟩⟩

lemma slash_notMem_json : '/' ∉ ".json".toList ∧ '/' ∉ ".jsonl".toList := by decide

lemma length_json : 2 < ".json".length ∧ 2 < ".jsonl".length := by decide

lemma recordName_ne_empty (jobId key : String) : recordName jobId key ≠ "" := by
  intro h
  have hlength := congrArg String.length h
  rw [recordName, String.length_append, String.length_append, show "-".length = 1 from rfl,
    show "".length = 0 from rfl] at hlength
  omega

/-- The audit stays below its directory when the artifact does. -/
lemma staysBelow_jsonl {jobId key : String} (h : StaysBelow (recordName jobId key ++ ".json")) :
    StaysBelow (recordName jobId key ++ ".jsonl") :=
  ⟨(rootOf_suffix_iff (recordName_ne_empty _ _)).mp h.1,
    (isSome_inside_suffix_iff slash_notMem_json.1 length_json.1 slash_notMem_json.2
      length_json.2).mp h.2⟩

/-- The files of an admitted request lie below their directories when its names stay there. -/
lemma confined_of_staysBelow (hevidence : LinkFree fs manifest.val.evidenceRoot)
    (haudit : LinkFree fs manifest.val.auditRoot)
    (hreport : assessRunnerAdmission fs manifest request observedAt = .ok report)
    (hadmitted : report.Admitted)
    (hstays : StaysBelow
      (recordName request.val.jobId request.val.idempotencyKey ++ ".json")) :
    Confined fs manifest request report := by
  obtain ⟨hblockers, hartifact, hauditPath⟩ := report_eq hreport
  obtain ⟨below, hbelow⟩ := Option.isSome_iff_exists.mp hstays.2
  obtain ⟨below', hbelow'⟩ := Option.isSome_iff_exists.mp (staysBelow_jsonl hstays).2
  refine ⟨(admitted_targets (hblockers.mp hadmitted)).2, ?_, ?_⟩
  · rw [isWithin_singleton, hartifact, resolve_join_eq hevidence hstays.1 hbelow]
    exact List.prefix_append _ _
  · rw [isWithin_singleton, hauditPath,
      resolve_join_eq haudit (staysBelow_jsonl hstays).1 hbelow']
    exact List.prefix_append _ _

/-- Names that stay below and lead to different places are not shared. -/
lemma not_shared_of_ne (hevidence : LinkFree fs manifest.val.evidenceRoot)
    (haudit : LinkFree fs manifest.val.auditRoot)
    (hreport : assessRunnerAdmission fs manifest request observedAt = .ok report)
    (hreport' : assessRunnerAdmission fs manifest request' observedAt' = .ok report')
    (hstays : StaysBelow (recordName request.val.jobId request.val.idempotencyKey ++ ".json"))
    (hstays' : StaysBelow
      (recordName request'.val.jobId request'.val.idempotencyKey ++ ".json"))
    (hne : inside (partsOf
        (recordName request.val.jobId request.val.idempotencyKey ++ ".json")) ≠
      inside (partsOf
        (recordName request'.val.jobId request'.val.idempotencyKey ++ ".json"))) :
    ¬ Shared fs report report' := by
  obtain ⟨-, hartifact, hauditPath⟩ := report_eq hreport
  obtain ⟨-, hartifact', hauditPath'⟩ := report_eq hreport'
  have hjsonl := mt (inside_suffix_eq_iff slash_notMem_json.1 length_json.1
    slash_notMem_json.2 length_json.2).mpr hne
  rw [Shared, hartifact, hartifact', hauditPath, hauditPath']
  rintro (hsame | hsame)
  · obtain ⟨below, hbelow⟩ := Option.isSome_iff_exists.mp hstays.2
    obtain ⟨below', hbelow'⟩ := Option.isSome_iff_exists.mp hstays'.2
    rw [resolve_join_eq hevidence hstays.1 hbelow, resolve_join_eq hevidence hstays'.1 hbelow',
      List.append_cancel_left_eq] at hsame
    exact hne (by rw [hbelow, hbelow', hsame])
  · obtain ⟨below, hbelow⟩ := Option.isSome_iff_exists.mp (staysBelow_jsonl hstays).2
    obtain ⟨below', hbelow'⟩ := Option.isSome_iff_exists.mp (staysBelow_jsonl hstays').2
    rw [resolve_join_eq haudit (staysBelow_jsonl hstays).1 hbelow,
      resolve_join_eq haudit (staysBelow_jsonl hstays').1 hbelow',
      List.append_cancel_left_eq] at hsame
    exact hjsonl (by rw [hbelow, hbelow', hsame])

end Paths

/-! ### A runner of one directory -/

section Sole

variable {jobId key : String} {root : Path}

/-- A runner that reads, and keeps all that it writes in one directory. -/
def soleRunner (hjob : isBlank jobId = false) (hroot : root.isAbsolute) : RunnerManifest :=
  ⟨{ runnerId := "runner"
     jobManifest := ⟨{
       jobId
       allowedCapabilities := [.readRepository]
       allowedRoots := [root]
       timeoutSeconds := 1
       maximumOutputBytes := 1024
       maximumConcurrency := 1
       lockPath := root }, by simp [JobManifestFields.checks, hjob, hroot]⟩
     capabilityManifest := ⟨{
       manifestId := "manifest"
       jobId
       allowedCapabilities := [.readRepository]
       authorityCeiling := .reportOnly
       sideEffectAllowlist := [.readRepository]
       allowedRoots := [root] }, by
         have hmanifest : isBlank "manifest" = false := by decide
         have hchannels : (∀ channel ∈ ["RUN_CARD", "PERSISTENT_EVIDENCE", "AUDIT"],
             isBlank channel = false) := by decide
         simp [CapabilityManifestFields.checks, hjob, hroot, hmanifest, hchannels,
           requiredSideEffectsForCapabilities, JobCapability.sideEffect, commandCapabilities]⟩
     evidenceRoot := root
     auditRoot := root }, by
       have hrunner : isBlank "runner" = false := by decide
       have henforced : ∀ value ∈ requiredEnforcement, isBlank value = false := by decide
       have hnodup : requiredEnforcement.Nodup := by decide
       simpa [RunnerManifestFields.checks, hroot, hrunner, hnodup] using henforced⟩

/-- A request to read. -/
def soleRequest (hjob : isBlank jobId = false) (hkey : isBlank key = false) : JobRequest :=
  ⟨{ jobId
     idempotencyKey := key
     requestedCapabilities := [.readRepository]
     targetPaths := []
     timeoutEnforcedByRunner := true
     lockAcquired := true
     requestedSideEffects := [.readRepository] }, by simp [JobRequestFields.checks, hjob, hkey]⟩

lemma soleRequest_admitted (fs : FileSystem) (hjob : isBlank jobId = false)
    (hkey : isBlank key = false) (hroot : root.isAbsolute) :
    runnerBlockers fs (soleRunner hjob hroot) (soleRequest hjob hkey) = [] := by
  rw [runnerBlockers_eq_nil]
  constructor
  · simp [jobConditions, soleRunner, soleRequest]
  · have hcommand : isBlank "" = true := by decide
    simp [runnerConditions, soleRunner, soleRequest, hcommand,
      requiredSideEffectsForCapabilities, JobCapability.sideEffect, commandCapabilities]

end Sole

/-! ### When the paths are confined -/

/-- **The paths of admitted requests are confined exactly when the names of their evidence stay
below its directory, and the names of different keys lead to different places.** -/
theorem paths_confined_iff {jobId key key' : String} (hjob : isBlank jobId = false)
    (hkey : isBlank key = false) (hkey' : isBlank key' = false) :
    PathsConfined jobId key key' ↔
      StaysBelow (recordName jobId key ++ ".json") ∧
        StaysBelow (recordName jobId key' ++ ".json") ∧
        (key ≠ key' → inside (partsOf (recordName jobId key ++ ".json")) ≠
          inside (partsOf (recordName jobId key' ++ ".json"))) := by
  constructor
  · intro h
    -- a directory whose name is none of the segments of the names
    obtain ⟨name, hname, hup, hfresh⟩ := exists_fresh (partsOf (recordName jobId key ++ ".json") ++
      partsOf (recordName jobId key' ++ ".json"))
    rw [List.mem_append, not_or] at hfresh
    let root : Path := ⟨"/", [name], by decide, fun _ hmem => List.mem_singleton.mp hmem ▸ hname⟩
    have hroot : root.isAbsolute := rfl
    have hresolve : root.resolve {} = [name] := by
      rw [Path.resolve, List.foldl_cons, List.foldl_nil, FileSystem.walk, if_neg hup]
      rfl
    have hlinks : LinkFree {} root := fun _ _ => rfl
    obtain ⟨report, hreport⟩ := assessRunnerAdmission_returns {} (soleRunner hjob hroot)
      (soleRequest hjob hkey) 0
    obtain ⟨report', hreport'⟩ := assessRunnerAdmission_returns {} (soleRunner hjob hroot)
      (soleRequest hjob hkey') 0
    obtain ⟨hadmitted, hartifact, -⟩ := report_eq hreport
    obtain ⟨hadmitted', hartifact', -⟩ := report_eq hreport'
    obtain ⟨hconfined, hconfined', hshared⟩ := h {} _ _ _ _ _ _ _ hlinks hlinks rfl rfl rfl
      hreport (hadmitted.mpr (soleRequest_admitted _ _ _ _)) hreport'
      (hadmitted'.mpr (soleRequest_admitted _ _ _ _))
    have hwithin := isWithin_singleton.mp hconfined.artifact
    have hwithin' := isWithin_singleton.mp hconfined'.artifact
    rw [hartifact] at hwithin
    rw [hartifact'] at hwithin'
    have hstays := staysBelow_of_prefix (fun _ => rfl) hresolve hfresh.1 hwithin
    have hstays' := staysBelow_of_prefix (fun _ => rfl) hresolve hfresh.2 hwithin'
    refine ⟨hstays, hstays', fun hne hsame => ?_⟩
    obtain ⟨below, hbelow⟩ := Option.isSome_iff_exists.mp hstays.2
    refine hshared hne (.inl ?_)
    rw [hartifact, hartifact']
    exact (resolve_join_eq hlinks hstays.1 hbelow).trans
      (resolve_join_eq hlinks hstays'.1 (hsame.symm.trans hbelow)).symm
  · rintro ⟨hstays, hstays', hne⟩ fs manifest request request' observedAt observedAt' report
      report' hevidence haudit rfl rfl rfl hreport hadmitted hreport' hadmitted'
    have hjobs : request'.val.jobId = request.val.jobId := by
      rw [(admitted_targets ((report_eq hreport).1.mp hadmitted)).1,
        (admitted_targets ((report_eq hreport').1.mp hadmitted')).1]
    rw [← hjobs] at hstays'
    refine ⟨confined_of_staysBelow hevidence haudit hreport hadmitted hstays,
      confined_of_staysBelow hevidence haudit hreport' hadmitted' hstays', fun hkeys => ?_⟩
    refine not_shared_of_ne hevidence haudit hreport hreport' hstays hstays' ?_
    rw [hjobs]
    exact hne hkeys

/-- Keys without separators. -/
theorem plain_keys_confined : PathsConfined "nightly-quality-triage" "2026-07-01" "2026-07-02" :=
  (paths_confined_iff (by decide) (by decide) (by decide)).mpr (by decide)

/-! ### The nightly runner -/

/-- `nightly_quality_job_manifest`. -/
def nightlyQualityJobManifest (repositoryRoot outputDirectory : Path) :
    Except PyError JobManifest := do
  raiseIf (!repositoryRoot.isAbsolute || !outputDirectory.isAbsolute)
    (.value "nightly quality paths must be absolute")
  construct JobManifestFields.checks {
    jobId := "nightly-quality-triage"
    allowedCapabilities := [.readRepository, .writeArtifact, .runFixedQualityCommands]
    allowedRoots := [repositoryRoot, outputDirectory]
    timeoutSeconds := 600
    maximumOutputBytes := 1000000
    maximumConcurrency := 1
    lockPath := outputDirectory.join "quality_triage.lock" }

/-- `nightly_quality_runner_manifest`. -/
def nightlyQualityRunnerManifest (repositoryRoot outputDirectory : Path) :
    Except PyError RunnerManifest := do
  let jobManifest ← nightlyQualityJobManifest repositoryRoot outputDirectory
  let capabilityManifest ← construct CapabilityManifestFields.checks {
    manifestId := "runner-manifest:nightly-quality-triage:v1"
    jobId := jobManifest.val.jobId
    allowedCapabilities := jobManifest.val.allowedCapabilities
    authorityCeiling := .reportOnly
    sideEffectAllowlist := [.readRepository, .writeRuntimeArtifacts, .appendAuditEvidence,
      .runFixedQualityCommands]
    allowedRoots := jobManifest.val.allowedRoots
    fixedCommandRefs := ["python -m ai4binance.ops.quality_triage",
      "powershell.exe -NoProfile -ExecutionPolicy Bypass -File .\\scripts\\quality.ps1"] }
  construct RunnerManifestFields.checks {
    runnerId := "runner:nightly-quality-triage"
    jobManifest
    capabilityManifest
    evidenceRoot := outputDirectory
    auditRoot := (repositoryRoot.join "runtime").join "logs" }

/-- A request to read, assessed for the nightly runner. -/
def nightlyAssessment (key : String) : Except PyError (RunnerManifest × RunnerAdmissionReport) := do
  let manifest ← nightlyQualityRunnerManifest (.ofText "/srv/repository")
    (.ofText "/srv/repository/runtime/quality")
  let request ← construct JobRequestFields.checks {
    jobId := "nightly-quality-triage"
    idempotencyKey := key
    requestedCapabilities := [.readRepository]
    targetPaths := [.ofText "/srv/repository/src"]
    timeoutEnforcedByRunner := true
    lockAcquired := true
    requestedSideEffects := [.readRepository] }
  let report ← assessRunnerAdmission {} manifest request (.aware 0)
  return (manifest, report)

/-- **A key with parent segments leads out of the evidence directory**, and the request is
admitted. -/
theorem parent_segments_escape : ∃ manifest report,
    nightlyAssessment "x/../../y" = .ok (manifest, report) ∧ report.Admitted ∧
      isWithin {} report.val.persistentEvidence.val.artifactPath
        [manifest.val.evidenceRoot] = false := by
  obtain ⟨⟨manifest, report⟩, hrun, htest⟩ := exists_ok_of_any (x := nightlyAssessment "x/../../y")
    (p := fun run => run.2.val.admission.val.admitted &&
      !isWithin {} run.2.val.persistentEvidence.val.artifactPath [run.1.val.evidenceRoot])
    (by decide)
  rw [Bool.and_eq_true, Bool.not_eq_true'] at htest
  exact ⟨manifest, report, hrun, htest⟩

end Ai4Binance

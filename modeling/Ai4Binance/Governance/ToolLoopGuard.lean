/-
The loop guard of tool calls (`governance/tool_loop_guard.py`).

Before a call its signature is looked up: after too many failures since the last success, or too
many successes with one result in a row, the call is blocked.  After a call that was not, its
outcome is noted.

* `ToolLoopGuard`, `beforeCall`, `afterCall`: the guard;
* `GuardedRun`, `GuardedRun.attempt`: calls that are made unless they are blocked, and the record
  of those that were;
* `Repeats`: what a record says about a call;
* `Remembers`, `remembers_run`: the guard keeps what it needs of the record;
* `loop_guard_iff`: **a call is blocked exactly when the record says so**, with results that agree
  in the bytes that the guard compares;
* `late_difference_blocked`: results that differ behind those bytes count as equal.
-/
import Ai4Binance.Governance.CapabilityStore
import Ai4Binance.Lib.Encoding
import Ai4Binance.Lib.Python
import Ai4Binance.Lib.Text

open Check Text

namespace Ai4Binance

/-! ### Signatures -/

/-- A value of which a text can be made: `json.dumps(value, ensure_ascii=True, sort_keys=True,
separators=(",", ":"), default=str)`, which is none where that raises `TypeError`, and
`repr(value)`. -/
class PyObject (ν : Type) where
  dumps : ν → Option PyStr
  repr : ν → PyStr

/-- `hashlib.sha256(value.encode("utf-8")).hexdigest()`. -/
class TextDigest (δ : Type) where
  sha256 : PyStr → δ

variable {ν δ : Type} [PyObject ν]

/-- `_canonical_json`. -/
def canonicalJson (value : ν) : PyStr := (PyObject.dumps value).getD (PyObject.repr value)

/-- The canonical text of `arguments or {}`. -/
def argumentText (arguments : Option ν) : PyStr :=
  (arguments.map canonicalJson).getD (PyStr.of "\x7b\x7d")

/-- `ToolCallSignature`.  A digest has the length that the constructor asks for. -/
@[ext] structure ToolCallSignature (δ : Type) where
  toolName : String
  argsHash : δ
  name_not_blank : isBlank toolName = false

instance [DecidableEq δ] : DecidableEq (ToolCallSignature δ) := fun _ _ =>
  decidable_of_iff _ ToolCallSignature.ext_iff.symm

/-- `ToolCallSignature.from_call`. -/
def ToolCallSignature.fromCall [TextDigest δ] (toolName : String) (arguments : Option ν) :
    Except PyError (ToolCallSignature δ) :=
  if h : isBlank toolName = false then
    .ok ⟨toolName, TextDigest.sha256 (argumentText arguments), h⟩
  else .error (.value "tool call signature requires a tool name")

/-! ### The guard -/

/-- `ToolLoopAction`. -/
inductive ToolLoopAction where
  | allow
  | warn
  | block
  deriving DecidableEq

/-- `ToolLoopDecision`. -/
structure ToolLoopDecision (δ : Type) where
  action : ToolLoopAction := .allow
  code : String := "LOOP_GUARD_ALLOWED"
  toolName : String := ""
  count : ℕ := 0
  signature : Option (ToolCallSignature δ) := none
  resultHash : Option δ := none

/-- `ToolLoopDecision.blocked`. -/
def ToolLoopDecision.blocked (d : ToolLoopDecision δ) : Bool := d.action = .block

/-- `ToolLoopGuardConfig`. -/
structure ToolLoopGuardConfig where
  exactFailureWarnAfter : ℕ := 2
  exactFailureBlockAfter : ℕ := 5
  noProgressWarnAfter : ℕ := 2
  noProgressBlockAfter : ℕ := 4
  maxResultFingerprintBytes : ℕ := 16384
  idempotentSideEffects : List ToolSideEffect := [.readLocal, .networkRead]
  valid : 1 ≤ exactFailureWarnAfter ∧ exactFailureWarnAfter ≤ exactFailureBlockAfter ∧
    1 ≤ noProgressWarnAfter ∧ noProgressWarnAfter ≤ noProgressBlockAfter ∧
    1 ≤ maxResultFingerprintBytes := by decide

/-- `ToolLoopGuard`; a dictionary is the function that looks a key up. -/
structure ToolLoopGuard (δ : Type) where
  config : ToolLoopGuardConfig
  exactFailures : ToolCallSignature δ → Option ℕ := fun _ => none
  noProgress : ToolCallSignature δ → Option (δ × ℕ) := fun _ => none

/-- The part of a result that is compared: `encoded[:max_bytes].decode("utf-8", "replace")`. -/
def comparedText (maxBytes : ℕ) (result : ν) : PyStr :=
  Encoding.decodeReplace ((Encoding.encodeReplace (canonicalJson result)).take maxBytes)

/-- `_fingerprint_result`. -/
def fingerprintResult [TextDigest δ] (result : ν) (maxBytes : ℕ) : δ :=
  TextDigest.sha256 (comparedText maxBytes result)

namespace ToolLoopGuard

variable [TextDigest δ] [DecidableEq δ] (guard : ToolLoopGuard δ)

/-- `before_call`. -/
def beforeCall (toolName : String) (arguments : Option ν) (sideEffect : ToolSideEffect) :
    Except PyError (ToolLoopDecision δ) := do
  let signature ← ToolCallSignature.fromCall toolName arguments
  let failureCount := (guard.exactFailures signature).getD 0
  if guard.config.exactFailureBlockAfter ≤ failureCount then
    return {
      action := .block
      code := "REPEATED_EXACT_FAILURE_BLOCKED"
      toolName
      count := failureCount
      signature := some signature }
  match guard.noProgress signature with
  | some (resultHash, count) =>
      if sideEffect ∈ guard.config.idempotentSideEffects ∧
          guard.config.noProgressBlockAfter ≤ count then
        return {
          action := .block
          code := "IDEMPOTENT_NO_PROGRESS_BLOCKED"
          toolName
          count
          signature := some signature
          resultHash := some resultHash }
      else return { toolName, signature := some signature }
  | none => return { toolName, signature := some signature }

/-- `after_call`: the guard afterwards, and the decision. -/
def afterCall (toolName : String) (arguments : Option ν) (sideEffect : ToolSideEffect)
    (result : ν) (failed : Bool) : Except PyError (ToolLoopGuard δ × ToolLoopDecision δ) := do
  let signature ← ToolCallSignature.fromCall toolName arguments
  if failed then
    let count := (guard.exactFailures signature).getD 0 + 1
    let guard := { guard with
      exactFailures := Function.update guard.exactFailures signature (some count)
      noProgress := Function.update guard.noProgress signature none }
    if guard.config.exactFailureWarnAfter ≤ count then
      return (guard, {
        action := .warn
        code := "REPEATED_EXACT_FAILURE_WARNING"
        toolName
        count
        signature := some signature })
    else return (guard, { toolName, count, signature := some signature })
  else
    let exactFailures := Function.update guard.exactFailures signature none
    if sideEffect ∉ guard.config.idempotentSideEffects then
      return ({ guard with
        exactFailures
        noProgress := Function.update guard.noProgress signature none },
        { toolName, signature := some signature })
    else
      let resultHash : δ := fingerprintResult result guard.config.maxResultFingerprintBytes
      let count := match guard.noProgress signature with
        | some (previous, count) => if previous = resultHash then count + 1 else 1
        | none => 1
      let guard := { guard with
        exactFailures
        noProgress := Function.update guard.noProgress signature (some (resultHash, count)) }
      if guard.config.noProgressWarnAfter ≤ count then
        return (guard, {
          action := .warn
          code := "IDEMPOTENT_NO_PROGRESS_WARNING"
          toolName
          count
          signature := some signature
          resultHash := some resultHash })
      else
        return (guard, {
          toolName
          count
          signature := some signature
          resultHash := some resultHash })

end ToolLoopGuard

/-! ### Runs -/

/-- A call, with what it does if it is made. -/
structure ToolCall (ν : Type) where
  toolName : String
  arguments : Option ν
  result : ν
  failed : Bool

/-- The guard of a run, and the calls that were made, the latest first. -/
structure GuardedRun (ν δ : Type) where
  guard : ToolLoopGuard δ
  completed : List (ToolCall ν) := []

section Runs

variable [TextDigest δ] [DecidableEq δ] (sideEffects : String → ToolSideEffect)

/-- A call is made unless it is blocked or refused, and its outcome is noted. -/
def GuardedRun.attempt (run : GuardedRun ν δ) (call : ToolCall ν) : GuardedRun ν δ :=
  match run.guard.beforeCall call.toolName call.arguments (sideEffects call.toolName) with
  | .error _ => run
  | .ok decision =>
      if decision.blocked then run
      else
        match run.guard.afterCall call.toolName call.arguments (sideEffects call.toolName)
            call.result call.failed with
        | .error _ => run
        | .ok (guard, _) => { guard, completed := call :: run.completed }

/-- The run of some attempts. -/
def guardedRun (config : ToolLoopGuardConfig) (calls : List (ToolCall ν)) : GuardedRun ν δ :=
  calls.foldl (GuardedRun.attempt sideEffects) { guard := { config } }

end Runs

/-! ### What a record says -/

/-- The calls of one tool with one canonical text of arguments. -/
def past (completed : List (ToolCall ν)) (toolName : String) (arguments : Option ν) :
    List (ToolCall ν) :=
  completed.filter fun call =>
    call.toolName = toolName ∧ argumentText call.arguments = argumentText arguments

/-- The number of failures since the last success. -/
def failuresSince (calls : List (ToolCall ν)) : ℕ := (calls.takeWhile (·.failed)).length

/-- The last `n` calls succeeded, with results that agree in the bytes that are compared. -/
def NoProgress (maxBytes n : ℕ) (calls : List (ToolCall ν)) : Prop :=
  n ≤ calls.length ∧ ∀ call ∈ calls.take n, call.failed = false ∧ ∀ call' ∈ calls.take n,
    comparedText maxBytes call.result = comparedText maxBytes call'.result

/-- Too many failures, or no progress of an idempotent call. -/
def Repeats (config : ToolLoopGuardConfig) (sideEffect : ToolSideEffect)
    (calls : List (ToolCall ν)) : Prop :=
  config.exactFailureBlockAfter ≤ failuresSince calls ∨
    sideEffect ∈ config.idempotentSideEffects ∧
      NoProgress config.maxResultFingerprintBytes config.noProgressBlockAfter calls

/-! ### The guard remembers -/

section Lemmas

lemma past_cons (call : ToolCall ν) (completed : List (ToolCall ν)) (toolName : String)
    (arguments : Option ν) : past (call :: completed) toolName arguments =
      if call.toolName = toolName ∧ argumentText call.arguments = argumentText arguments then
        call :: past completed toolName arguments
      else past completed toolName arguments := by
  rw [past, List.filter_cons]
  simp only [decide_eq_true_eq]
  rfl

/-- A run of elements at the head, of at least some length. -/
lemma le_length_takeWhile {α : Type} {p : α → Bool} {l : List α} {n : ℕ} :
    n ≤ (l.takeWhile p).length ↔ n ≤ l.length ∧ ∀ a ∈ l.take n, p a := by
  induction l generalizing n with
  | nil => simp
  | cons a l ih =>
      cases n with
      | zero => simp
      | succ n =>
          rw [List.takeWhile_cons, List.take_succ_cons, List.length_cons]
          by_cases ha : p a
          · rw [if_pos ha, List.length_cons, Nat.succ_le_succ_iff, Nat.succ_le_succ_iff, ih,
              List.forall_mem_cons, and_iff_right ha]
          · rw [if_neg ha]
            exact iff_of_false (Nat.not_succ_le_zero n) fun h => ha (h.2 a List.mem_cons_self)

variable [TextDigest δ] {toolName toolName' : String} {arguments arguments' : Option ν}
  {signature signature' : ToolCallSignature δ}

lemma fromCall_eq_ok : ToolCallSignature.fromCall toolName arguments = .ok signature ↔
    signature.toolName = toolName ∧
      signature.argsHash = TextDigest.sha256 (argumentText arguments) := by
  rw [ToolCallSignature.fromCall]
  split_ifs with hblank
  · constructor
    · rintro ⟨⟩
      exact ⟨rfl, rfl⟩
    · rintro ⟨rfl, hhash⟩
      obtain ⟨name, hash, h⟩ := signature
      exact congrArg Except.ok (by rw [ToolCallSignature.mk.injEq]; exact ⟨rfl, hhash.symm⟩)
  · refine iff_of_false nofun ?_
    rintro ⟨rfl, -⟩
    exact hblank signature.name_not_blank

/-- One signature, one tool and one canonical text of arguments. -/
lemma signature_eq_iff (hdigest : Function.Injective (TextDigest.sha256 : PyStr → δ))
    (h : ToolCallSignature.fromCall toolName arguments = .ok signature)
    (h' : ToolCallSignature.fromCall toolName' arguments' = .ok signature') :
    signature = signature' ↔ toolName = toolName' ∧
      argumentText arguments = argumentText arguments' := by
  obtain ⟨rfl, hhash⟩ := fromCall_eq_ok.mp h
  obtain ⟨rfl, hhash'⟩ := fromCall_eq_ok.mp h'
  rw [← hdigest.eq_iff, ← hhash, ← hhash']
  cases signature
  cases signature'
  rw [ToolCallSignature.mk.injEq]

end Lemmas

section Remembers

variable [TextDigest δ] [DecidableEq δ]

/-- The run of equal results at the head of a record, as the guard keeps it. -/
def progressOf (config : ToolLoopGuardConfig) (sideEffect : ToolSideEffect) :
    List (ToolCall ν) → Option (δ × ℕ)
  | [] => none
  | call :: calls =>
      if call.failed ∨ sideEffect ∉ config.idempotentSideEffects then none
      else
        let resultHash : δ := fingerprintResult call.result config.maxResultFingerprintBytes
        some (resultHash, ((call :: calls).takeWhile fun call' => !call'.failed &&
          fingerprintResult call'.result config.maxResultFingerprintBytes = resultHash).length)

variable (config : ToolLoopGuardConfig) (sideEffects : String → ToolSideEffect)

/-- The dictionaries of a guard say of each signature what the record says of its calls. -/
structure Remembers (run : GuardedRun ν δ) : Prop where
  config_eq : run.guard.config = config
  named : ∀ call ∈ run.completed, isBlank call.toolName = false
  failures : ∀ {toolName} {arguments : Option ν} {signature : ToolCallSignature δ},
    ToolCallSignature.fromCall toolName arguments = .ok signature →
      (run.guard.exactFailures signature).getD 0 =
        failuresSince (past run.completed toolName arguments)
  progress : ∀ {toolName} {arguments : Option ν} {signature : ToolCallSignature δ},
    ToolCallSignature.fromCall toolName arguments = .ok signature →
      run.guard.noProgress signature =
        progressOf config (sideEffects toolName) (past run.completed toolName arguments)

variable {config sideEffects} {run : GuardedRun ν δ} {call : ToolCall ν} {toolName : String}
  {arguments : Option ν} {signature : ToolCallSignature δ} {guard guard' : ToolLoopGuard δ}
  {decision : ToolLoopDecision δ} {sideEffect : ToolSideEffect} {result : ν} {failed : Bool}

omit [DecidableEq δ] in
/-- **What `before_call` decides.** -/
lemma beforeCall_blocked_iff (h : ToolCallSignature.fromCall toolName arguments = .ok signature) :
    (∃ decision, guard.beforeCall toolName arguments sideEffect = .ok decision ∧
        decision.blocked) ↔
      guard.config.exactFailureBlockAfter ≤ (guard.exactFailures signature).getD 0 ∨
        sideEffect ∈ guard.config.idempotentSideEffects ∧
          ∃ progress ∈ guard.noProgress signature,
            guard.config.noProgressBlockAfter ≤ progress.2 := by
  rw [ToolLoopGuard.beforeCall, h, ok_bind]
  dsimp only
  split_ifs with hfailures
  · exact iff_of_true ⟨_, rfl, rfl⟩ (.inl hfailures)
  · rw [or_iff_right hfailures]
    cases hprogress : guard.noProgress signature with
    | none =>
        refine iff_of_false ?_ ?_
        · rintro ⟨decision, hok, hblocked⟩
          rw [← Except.ok.inj hok] at hblocked
          cases hblocked
        · rintro ⟨-, progress, hmem, -⟩
          cases hmem
    | some progress =>
        simp only [Option.mem_some_iff, exists_eq_left']
        split_ifs with hcount
        · exact iff_of_true ⟨_, rfl, rfl⟩ hcount
        · refine iff_of_false ?_ hcount
          rintro ⟨decision, hok, hblocked⟩
          rw [← Except.ok.inj hok] at hblocked
          cases hblocked

variable (guard sideEffect result failed) in
/-- **What `after_call` notes.** -/
lemma afterCall_eq (h : ToolCallSignature.fromCall toolName arguments = .ok signature) :
    ∃ decision, guard.afterCall toolName arguments sideEffect result failed = .ok ({ guard with
      exactFailures := Function.update guard.exactFailures signature
        (if failed then some ((guard.exactFailures signature).getD 0 + 1) else none)
      noProgress := Function.update guard.noProgress signature
        (if failed ∨ sideEffect ∉ guard.config.idempotentSideEffects then none
        else
          let resultHash := fingerprintResult result guard.config.maxResultFingerprintBytes
          some (resultHash, match guard.noProgress signature with
            | some (previous, count) => if previous = resultHash then count + 1 else 1
            | none => 1)) }, decision) := by
  rw [ToolLoopGuard.afterCall, h, ok_bind]
  cases failed with
  | true =>
      simp only [if_true, true_or]
      split_ifs <;> exact ⟨_, rfl⟩
  | false =>
      simp only [Bool.false_eq_true, if_false, false_or]
      split_ifs <;> exact ⟨_, rfl⟩

omit [DecidableEq δ] in
lemma fingerprint_eq_iff (hdigest : Function.Injective (TextDigest.sha256 : PyStr → δ))
    {maxBytes : ℕ} {result result' : ν} :
    (fingerprintResult result maxBytes : δ) = fingerprintResult result' maxBytes ↔
      comparedText maxBytes result = comparedText maxBytes result' :=
  hdigest.eq_iff

/-- One more success of an idempotent call. -/
lemma count_eq {calls : List (ToolCall ν)} (hfailed : call.failed = false)
    (heffect : sideEffect ∈ config.idempotentSideEffects) :
    (match (progressOf config sideEffect calls : Option (δ × ℕ)) with
      | some (previous, count) =>
          if previous = fingerprintResult call.result config.maxResultFingerprintBytes then
            count + 1 else 1
      | none => 1) =
      ((call :: calls).takeWhile fun call' => !call'.failed &&
        (fingerprintResult call'.result config.maxResultFingerprintBytes : δ) =
          fingerprintResult call.result config.maxResultFingerprintBytes).length := by
  rw [List.takeWhile_cons, if_pos (by simp [hfailed]), List.length_cons]
  cases calls with
  | nil => rfl
  | cons call' calls =>
      rw [progressOf]
      by_cases hfailed' : call'.failed
      · simp [hfailed']
      · rw [if_neg (by simp [hfailed', heffect])]
        dsimp only
        split_ifs with hsame
        · rw [hsame]
        · rw [List.takeWhile_cons, if_neg (by simp [hsame])]
          rfl

/-- **A call keeps the memory.** -/
lemma Remembers.attempt (hdigest : Function.Injective (TextDigest.sha256 : PyStr → δ))
    (h : Remembers config sideEffects run) (call : ToolCall ν) :
    Remembers config sideEffects (run.attempt sideEffects call) := by
  rw [GuardedRun.attempt]
  split
  · exact h
  · next decision hbefore =>
    split_ifs with hblocked
    · exact h
    obtain ⟨signature, hsignature, -⟩ := bind_eq_ok.mp hbefore
    obtain ⟨_, hafter⟩ := afterCall_eq run.guard (sideEffects call.toolName) call.result
      call.failed hsignature
    rw [hafter, h.config_eq]
    dsimp only
    refine ⟨rfl, ?_, ?_, ?_⟩
    · intro call' hcall'
      rcases List.mem_cons.mp hcall' with rfl | hmem
      · rw [← (fromCall_eq_ok.mp hsignature).1]
        exact signature.name_not_blank
      · exact h.named call' hmem
    · intro toolName arguments signature' hsignature'
      have hiff := signature_eq_iff hdigest hsignature hsignature'
      dsimp only
      by_cases hsame : signature' = signature
      · subst hsame
        rw [Function.update_self, past_cons, if_pos (hiff.mp rfl), failuresSince, List.takeWhile_cons,
          h.failures hsignature']
        cases call.failed <;> rfl
      · have hother := mt hiff.mpr (Ne.symm hsame)
        rw [Function.update_of_ne hsame, h.failures hsignature', past_cons, if_neg hother]
    · intro toolName arguments signature' hsignature'
      have hiff := signature_eq_iff hdigest hsignature hsignature'
      dsimp only
      by_cases hsame : signature' = signature
      · subst hsame
        obtain ⟨hname, -⟩ := hiff.mp rfl
        rw [Function.update_self, past_cons, if_pos (hiff.mp rfl), progressOf, hname, h.progress hsignature']
        split_ifs with hskip
        · rfl
        · rw [not_or, Bool.not_eq_true, not_not] at hskip
          exact congrArg (fun count => some (_, count)) (count_eq hskip.1 hskip.2)
      · have hother := mt hiff.mpr (Ne.symm hsame)
        rw [Function.update_of_ne hsame, h.progress hsignature', past_cons, if_neg hother]

/-- **The guard of a run remembers its record.** -/
lemma remembers_run (hdigest : Function.Injective (TextDigest.sha256 : PyStr → δ))
    (calls : List (ToolCall ν)) :
    Remembers config sideEffects (guardedRun sideEffects config calls : GuardedRun ν δ) := by
  refine (Run.foldl (GuardedRun.attempt sideEffects) _ calls).invariant ?_
    ⟨rfl, nofun, fun _ => rfl, fun _ => rfl⟩
  rintro run call _ rfl h
  exact h.attempt hdigest call

/-- The count of a record is large enough when its last calls made no progress. -/
lemma progressOf_iff (hdigest : Function.Injective (TextDigest.sha256 : PyStr → δ))
    {calls : List (ToolCall ν)} {n : ℕ} (hn : 1 ≤ n)
    (heffect : sideEffect ∈ config.idempotentSideEffects) :
    (∃ progress ∈ (progressOf config sideEffect calls : Option (δ × ℕ)), n ≤ progress.2) ↔
      NoProgress config.maxResultFingerprintBytes n calls := by
  cases calls with
  | nil => exact iff_of_false (by simp [progressOf]) fun h => absurd h.1 (by simp; omega)
  | cons call calls =>
      have hhead : call ∈ (call :: calls).take n := by
        obtain ⟨n, rfl⟩ := Nat.exists_eq_add_of_le' hn
        exact List.mem_cons_self
      rw [progressOf]
      by_cases hfailed : call.failed
      · refine iff_of_false (by simp [hfailed]) fun h => ?_
        rw [(h.2 call hhead).1] at hfailed
        cases hfailed
      · rw [if_neg (by simp [hfailed, heffect])]
        simp only [Option.mem_some_iff, exists_eq_left', le_length_takeWhile, NoProgress,
          Bool.and_eq_true, Bool.not_eq_true', decide_eq_true_eq, fingerprint_eq_iff hdigest]
        refine and_congr_right fun _ => ⟨fun h call' hcall' => ?_, fun h call' hcall' => ?_⟩
        · exact ⟨(h call' hcall').1, fun call₂ hcall₂ => (h call' hcall').2.trans
            (h call₂ hcall₂).2.symm⟩
        · exact ⟨(h call' hcall').1, (h call' hcall').2 call hhead⟩

end Remembers

/-- **The loop guard blocks exactly the repeated calls**, where results are compared by the text of
their first bytes and arguments by their canonical text. -/
theorem loop_guard_iff [TextDigest δ] [DecidableEq δ]
    (hdigest : Function.Injective (TextDigest.sha256 : PyStr → δ))
    (sideEffects : String → ToolSideEffect) (config : ToolLoopGuardConfig)
    (calls : List (ToolCall ν)) (toolName : String) (arguments : Option ν) :
    let run : GuardedRun ν δ := guardedRun sideEffects config calls
    (∃ decision, run.guard.beforeCall toolName arguments (sideEffects toolName) = .ok decision ∧
        decision.blocked) ↔
      Repeats config (sideEffects toolName) (past run.completed toolName arguments) := by
  intro run
  have h : Remembers config sideEffects run := remembers_run hdigest calls
  obtain ⟨hwarn, hfailures, hprogress, hcount, -⟩ := config.valid
  by_cases hblank : isBlank toolName = false
  · have hsignature : ToolCallSignature.fromCall toolName arguments =
        .ok ⟨toolName, (TextDigest.sha256 (argumentText arguments) : δ), hblank⟩ :=
      fromCall_eq_ok.mpr ⟨rfl, rfl⟩
    rw [beforeCall_blocked_iff hsignature, h.config_eq, h.failures hsignature,
      h.progress hsignature, Repeats]
    exact or_congr_right (and_congr_right fun heffect =>
      progressOf_iff hdigest (hprogress.trans hcount) heffect)
  · -- a blank name is refused, and no call of it is on record
    have hpast : past run.completed toolName arguments = [] := by
      refine List.filter_eq_nil_iff.mpr fun call hcall hsame => hblank ?_
      rw [← (of_decide_eq_true hsame).1]
      exact h.named call hcall
    rw [hpast]
    refine iff_of_false ?_ ?_
    · rintro ⟨decision, hok, -⟩
      obtain ⟨signature, hsignature, -⟩ := bind_eq_ok.mp hok
      have hname := (fromCall_eq_ok.mp hsignature).1
      exact hblank (hname ▸ signature.name_not_blank)
    · rintro (hle | ⟨-, hle, -⟩)
      · exact absurd hle (by simp [failuresSince]; omega)
      · exact absurd hle (by simp; omega)

/-! ### Results of one beginning -/

section Pages

/-- Texts that are written between quotes. -/
@[reducible] def quotedTexts : PyObject String where
  dumps s := some (34 :: PyStr.of s ++ [34])
  repr s := 39 :: PyStr.of s ++ [39]

/-- The text as its own digest. -/
@[reducible] def textItself : TextDigest PyStr := ⟨id⟩

/-- Two results in a row, compared in their first four bytes. -/
def shortConfig : ToolLoopGuardConfig where
  noProgressBlockAfter := 2
  maxResultFingerprintBytes := 4

/-- A call that reads a page. -/
def pageRead (result : String) : ToolCall String := ⟨"reader", none, result, false⟩

/-- The run that reads some pages. -/
def readingRun (pages : List String) : GuardedRun String PyStr :=
  @guardedRun String PyStr quotedTexts textItself _ (fun _ => .readLocal) shortConfig
    (pages.map pageRead)

/-- **The same page twice** is no progress. -/
theorem same_page_blocked : ∃ decision,
    @ToolLoopGuard.beforeCall String PyStr quotedTexts textItself
      (readingRun ["page", "page"]).guard "reader" none .readLocal = .ok decision ∧
    decision.blocked :=
  (@loop_guard_iff String PyStr quotedTexts textItself _ Function.injective_id
    (fun _ => .readLocal) shortConfig (["page", "page"].map pageRead) "reader" none).mpr
    (.inr ⟨by decide, by decide +kernel, by decide +kernel⟩)

/-- The last `n` calls succeeded, with results that are equal. -/
def EqualResults (n : ℕ) (calls : List (ToolCall String)) : Prop :=
  n ≤ calls.length ∧ ∀ call ∈ calls.take n, call.failed = false ∧ ∀ call' ∈ calls.take n,
    call.result = call'.result

instance (n : ℕ) (calls : List (ToolCall String)) : Decidable (EqualResults n calls) :=
  inferInstanceAs (Decidable (_ ∧ _))

/-- **Results that differ late are blocked too**: two pages of one beginning, of which the guard
compares the beginning alone. -/
theorem late_difference_blocked :
    (∃ decision, @ToolLoopGuard.beforeCall String PyStr quotedTexts textItself
      (readingRun ["page 1", "page 2"]).guard "reader" none .readLocal = .ok decision ∧
        decision.blocked) ∧
    ¬ (shortConfig.exactFailureBlockAfter ≤
        failuresSince (@past _ quotedTexts (readingRun ["page 1", "page 2"]).completed "reader" none) ∨
      EqualResults shortConfig.noProgressBlockAfter
        (@past _ quotedTexts (readingRun ["page 1", "page 2"]).completed "reader" none)) :=
  ⟨exists_ok_of_any (by decide +kernel), by decide +kernel⟩

end Pages

end Ai4Binance

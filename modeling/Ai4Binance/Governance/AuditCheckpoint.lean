/-
Checkpoints of the audit journal (`governance/audit_checkpoint.py`).

A checkpoint binds the position and the digest of the last record of a journal, and is kept
elsewhere.  The journal is verified twice, under its lock, and its last record is read in between,
without the lock: other processes may write at any time.

* `AuditChainCheckpoint`: a checkpoint that passed the checks of its constructor;
* `checkpointAuditChain`, `verifyAuditCheckpoint`: making one, and looking whether a journal still
  has it;
* `scanCheckpoint_iff`: what the scan of a verified journal finds;
* `checkpoint_head`: **a checkpoint is of the head of a chain** that the processes wrote;
* `checkpoint_binds_history`: **a journal that has a checkpoint begins with its events**;
* `checkpoint_stays`: **a journal that is only written to** keeps its checkpoints.
-/
import Ai4Binance.Storage.AuditTamper

open Check Encoding Text

namespace Ai4Binance.Storage

/-! ### Checkpoints -/

/-- `AuditAnchorStatus`. -/
inductive AuditAnchorStatus where
  | localOnly
  | externalAnchorRecorded
  deriving DecidableEq, Repr

/-- `AuditRetentionDirective`.  A date is the number of its day. -/
structure AuditRetentionDirective where
  retentionClass : String
  retainUntil : Option ℤ
  legalHold : Bool
  dispositionAuthority : String
  required : ¬ (isBlank retentionClass || isBlank dispositionAuthority)
  legalHold_ok : ¬ (legalHold && retainUntil.isSome)

/-- The fields of `AuditChainCheckpoint`. -/
structure CheckpointFields where
  checkpointId : String
  journalRef : String
  journalPathSha256 : PyStr
  chainPosition : ℤ
  recordSha256 : PyStr
  createdAt : PyDatetime
  retention : AuditRetentionDirective
  anchorStatus : AuditAnchorStatus := .localOnly
  externalAnchorRef : Option String := none
  externalAnchorSha256 : Option PyStr := none
  executionAllowed : Bool := false
  liveEligibilityStatus : String := "LIVE_ORDER_BLOCKED"

/-- `_require_sha256`. -/
def requireSha256 (name : String) (value : PyStr) : Except AuditFault Unit :=
  raiseIf (value.length ≠ 64 ∨ ¬ value.all fun c => 48 ≤ c && c ≤ 57 || 97 ≤ c && c ≤ 102)
    (.value (name ++ " must be a lowercase SHA-256 digest"))

/-- The time is one of UTC. -/
def isUtc [TzData] : PyDatetime → Bool
  | .aware t => t.utcoffset = 0
  | .naive _ => false

/-- `AuditChainCheckpoint.__post_init__`. -/
def CheckpointFields.postInit [TzData] (c : CheckpointFields) : Except AuditFault Unit := do
  raiseIf (isBlank c.checkpointId || isBlank c.journalRef)
    (.value "audit checkpoint identity is required")
  raiseIf (c.chainPosition < 1) (.value "audit checkpoint chain_position must be positive")
  requireSha256 "record_sha256" c.recordSha256
  requireSha256 "journal_path_sha256" c.journalPathSha256
  raiseIf (!isUtc c.createdAt) (.value "audit checkpoint created_at must be UTC")
  raiseIf ((c.externalAnchorRef.isNone || c.externalAnchorSha256.isNone) ≠
      (c.externalAnchorRef.isNone && c.externalAnchorSha256.isNone))
    (.value "external audit anchor binding must be complete")
  match c.externalAnchorSha256 with
  | none => pure ()
  | some sha256 => do
      requireSha256 "external_anchor_sha256" sha256
      raiseIf (c.externalAnchorRef.all isBlank)
        (.value "external audit anchor reference is required")
  raiseIf (c.anchorStatus = .externalAnchorRecorded ∧ c.externalAnchorRef.isNone)
    (.value "recorded external anchor requires reference and hash")
  raiseIf (c.anchorStatus = .localOnly ∧ c.externalAnchorRef.isSome)
    (.value "local-only checkpoint cannot claim an external anchor")
  raiseIf (c.executionAllowed || c.liveEligibilityStatus ≠ "LIVE_ORDER_BLOCKED")
    (.value "audit checkpoint cannot grant execution authority")

/-- `AuditChainCheckpoint`. -/
structure AuditChainCheckpoint [TzData] extends CheckpointFields where
  checked : toCheckpointFields.postInit = .ok ()

lemma AuditChainCheckpoint.one_le_position [TzData] (checkpoint : AuditChainCheckpoint) :
    1 ≤ checkpoint.chainPosition := by
  obtain ⟨_, -, h⟩ := bind_eq_ok.mp checkpoint.checked
  obtain ⟨_, hposition, -⟩ := bind_eq_ok.mp h
  exact not_lt.mp (raiseIf_eq_ok.mp hposition)

/-- The constructor of `AuditChainCheckpoint`. -/
def CheckpointFields.construct [TzData] (c : CheckpointFields) :
    Except AuditFault AuditChainCheckpoint :=
  match h : c.postInit with
  | .ok () => .ok ⟨c, h⟩
  | .error e => .error e

/-- What `checkpoint_audit_chain` is called with. -/
structure CheckpointRequest where
  checkpointId : String
  journalRef : String
  createdAt : PyDatetime
  retention : AuditRetentionDirective
  externalAnchorRef : Option String := none
  externalAnchorSha256 : Option PyStr := none

/-! ### Reading records -/

section Reading

variable {φ : Type}

/-- The integer that a value is an instance of; `True` is one. -/
def integer? : Json φ → Option ℤ
  | .int n => some n
  | .bool b => some (if b then 1 else 0)
  | _ => none

/-- The text that a value is. -/
def text? : Json φ → Option PyStr
  | .str s => some s
  | _ => none

/-- The object that a value is. -/
def object? : Json φ → Option (AuditRecord φ)
  | .obj members => some members
  | _ => none

/-- `json.loads(line.decode("utf-8"))`; a `UnicodeDecodeError` and a `JSONDecodeError` are caught. -/
def decodedLine (φ : Type) [FloatText φ] (limits : JsonLimits) (line : Bytes) :
    Except AuditFault (Option (Json φ)) :=
  match decodeStrict line with
  | none => .ok none
  | some text =>
      match Json.loadsText limits text with
      | .ok value => .ok (some value)
      | .error .decode => .ok none
      | .error e => .error (.json e)

/-- `read_bounded_jsonl_tail(path, max_lines=1)`. -/
def readLastLine (journal : Option Bytes) : Except AuditFault (List Bytes) := do
  let content ← orRaise journal (.os "No such file or directory")
  match readBoundedJsonlTail content tailReadChunkBytes 1 defaultMaxTailBytes
      (content.length + 1) with
  | some (.ok lines) => return lines
  | some (.error (.value message)) => throw (.value message)
  | some (.error (.os message)) => throw (.os message)
  | none => return []

end Reading

/-! ### Making and verifying checkpoints -/

/-- `_journal_path_sha256`, of a path that was resolved. -/
def journalPathSha256 [Sha256] (path : PyStr) : Except AuditFault PyStr :=
  (orRaise (encodeUtf8 path) .unicode).map Sha256.hexdigest

section Checkpoints

variable [TzData] [Sha256] (limits : JsonLimits)

/-- `checkpoint_audit_chain`: the journal is verified in `first`, its last record is read from `seen`,
and it is verified again in `last`. -/
def checkpointAuditChain (φ : Type) [FloatText φ] [FloatValue φ] (store : JsonlAuditStore)
    (path : PyStr) (request : CheckpointRequest) (first : AuditFiles) (seen : Option Bytes)
    (last : AuditFiles) : Except AuditFault AuditChainCheckpoint := do
  let head ← store.verifyChain limits φ first
  let tail ← readLastLine seen
  let line ← orRaise tail.head?
    (.value "audit checkpoint requires at least one journal record")
  let value ← orRaise (← decodedLine φ limits line)
    (.value "audit checkpoint journal tail is invalid")
  let record ← orRaise (object? value)
    (.value "audit checkpoint journal tail must be an object")
  let position ← orRaise ((lastValue (PyStr.of "chain_position") record).bind integer?)
    (.value "audit checkpoint requires a tamper-evident journal")
  let recordHash ← orRaise ((lastValue (PyStr.of "record_sha256") record).bind text?)
    (.value "audit checkpoint requires a tamper-evident journal")
  raiseIf (recordHash ≠ head) (.value "audit checkpoint head mismatch")
  let again ← store.verifyChain limits φ last
  raiseIf (again ≠ head) (.value "audit checkpoint journal changed during checkpoint")
  CheckpointFields.construct
    { checkpointId := request.checkpointId
      journalRef := request.journalRef
      journalPathSha256 := ← journalPathSha256 path
      chainPosition := position
      recordSha256 := recordHash
      createdAt := request.createdAt
      retention := request.retention
      anchorStatus :=
        if request.externalAnchorRef.isSome then .externalAnchorRecorded else .localOnly
      externalAnchorRef := request.externalAnchorRef
      externalAnchorSha256 := request.externalAnchorSha256 }

/-- The loop of `verify_audit_checkpoint`. -/
def scanCheckpoint (φ : Type) [FloatText φ] [FloatValue φ] (checkpoint : AuditChainCheckpoint) :
    List Bytes → Except AuditFault Bool
  | [] => .ok false
  | line :: lines =>
      if isBlankLine line then .ok false
      else do
        match ← decodedLine φ limits line with
        | some (.obj record) =>
            let position := lastValue (PyStr.of "chain_position") record
            if position.any fun value => Json.pyEq true value (.int checkpoint.chainPosition) then
              return (lastValue (PyStr.of "record_sha256") record).any fun value =>
                Json.pyEq true value (.str checkpoint.recordSha256)
            else if (position.bind integer?).any fun n => checkpoint.chainPosition < n then
              return false
            else scanCheckpoint φ checkpoint lines
        | _ => return false

/-- `verify_audit_checkpoint`: the journal is verified in `files`, and `scanned` is what is read of it
afterwards. -/
def verifyAuditCheckpoint (φ : Type) [FloatText φ] [FloatValue φ] (store : JsonlAuditStore)
    (path : PyStr) (checkpoint : AuditChainCheckpoint) (files : AuditFiles)
    (scanned : Option Bytes) : Except AuditFault Bool := do
  let pathSha256 ← journalPathSha256 path
  if checkpoint.journalPathSha256 ≠ pathSha256 then return false
  let _ ← store.verifyChain limits φ files
  let content ← orRaise scanned (.os "No such file or directory")
  scanCheckpoint limits φ checkpoint (byteLines content)

end Checkpoints

/-! ### Scanning a verified journal -/

section Scanning

variable [TzData] [Sha256] {φ : Type} [FloatText φ] [FloatValue φ] {limits : JsonLimits}
  {checkpoint : AuditChainCheckpoint} {record : AuditRecord φ} {value : Json φ} {line : Bytes}
  {lines : List (Bytes × ℕ)} {label : String} {previous digest : PyStr} {position k : ℤ}
  {state : PyStr × ℤ}

omit [TzData] [Sha256] [FloatText φ] in
/-- A value is equal to an integer if it is a number of that value. -/
lemma pyEq_int {n : ℤ} :
    Json.pyEq true value (.int n) = true ↔ Json.number? value = some (.finite (n : ℚ)) := by
  cases value with
  | float x => cases x <;> simp [Json.pyEq, Json.number?, Json.numberEq]
  | null => simp [Json.pyEq, Json.number?]
  | bool b => simp [Json.pyEq, Json.number?, Json.numberEq]
  | int m => simp [Json.pyEq, Json.number?, Json.numberEq]
  | str s => simp [Json.pyEq, Json.number?]
  | arr items => simp [Json.pyEq, Json.number?]
  | obj members => simp [Json.pyEq, Json.number?]

omit [TzData] [Sha256] [FloatText φ] in
/-- It is equal to one integer only. -/
lemma eq_of_pyEq_int {m n : ℤ} (hm : Json.pyEq true value (.int m) = true)
    (hn : Json.pyEq true value (.int n) = true) : m = n := by
  have hsame := (pyEq_int.mp hm).symm.trans (pyEq_int.mp hn)
  simpa using hsame

omit [TzData] [Sha256] [FloatText φ] in
/-- That is the one that it is an instance of, if it is of any. -/
lemma eq_of_integer? {m n : ℤ} (hm : integer? value = some m)
    (hn : Json.pyEq true value (.int n) = true) : m = n := by
  refine eq_of_pyEq_int (pyEq_int.mpr ?_) hn
  cases value with
  | int i =>
      obtain rfl := Option.some.inj hm
      rfl
  | bool b =>
      obtain rfl := Option.some.inj hm
      cases b <;> simp [Json.number?]
  | _ => cases hm

omit [TzData] [Sha256] [FloatValue φ] in
lemma decodedLine_of_loadEventLine (h : loadEventLine limits line label = .ok record) :
    decodedLine φ limits line = .ok (some (.obj record)) := by
  obtain ⟨text, hdecode, hloads⟩ := loadEventLine_eq_ok.mp h
  rw [decodedLine, hdecode]
  dsimp only
  rw [hloads]

omit [TzData] [Sha256] [FloatValue φ] in
lemma loadEventLine_of_decodedLine (h : decodedLine φ limits line = .ok (some (.obj record))) :
    loadEventLine limits line label = .ok record := by
  rw [decodedLine] at h
  split at h
  · cases h
  · next text hdecode =>
      split at h
      · next value hloads =>
          obtain rfl := Option.some.inj (Except.ok.inj h)
          exact loadEventLine_eq_ok.mpr ⟨text, hdecode, hloads⟩
      · cases h
      · cases h

/-- **A turn of the scan** on a line that is verified at a position not behind the checkpoint's. -/
lemma scanCheckpoint_cons {numbered : Bytes × ℕ}
    (h : verifyLine limits φ (previous, k) numbered = .ok state) (hk : k ≤ checkpoint.chainPosition)
    (rest : List Bytes) :
    scanCheckpoint limits φ checkpoint (numbered.1 :: rest) =
      if k = checkpoint.chainPosition then .ok (decide (state.1 = checkpoint.recordSha256))
      else scanCheckpoint limits φ checkpoint rest := by
  obtain ⟨record, label, hblank, hload, hverify, -⟩ := verifyLine_ok h
  obtain ⟨⟨value, hvalue, hequal⟩, hdigest⟩ := verifyRecord_shows hverify
  rw [scanCheckpoint, if_neg (by simp [hblank]), decodedLine_of_loadEventLine hload, ok_bind]
  dsimp only
  rw [hvalue, hdigest, Option.any_some, Option.any_some, Option.bind_some]
  by_cases hsame : k = checkpoint.chainPosition
  · rw [if_pos hsame, if_pos (hsame ▸ hequal), Json.pyEq]
    rfl
  · have hbefore : ¬ (integer? value).any fun n => checkpoint.chainPosition < n := by
      cases hn : integer? value with
      | none => simp
      | some n =>
          have hposition := eq_of_integer? hn hequal
          simp
          omega
    rw [if_neg hsame, if_neg fun h => hsame (eq_of_pyEq_int hequal h), if_neg hbefore]

omit [TzData] in
/-- Every line that is verified moves the position by one. -/
lemma position_of_verified (h : lines.foldlM (verifyLine limits φ) (previous, k) = .ok state) :
    state.2 = k + lines.length := by
  induction lines generalizing previous k with
  | nil =>
      obtain rfl := pure_eq_ok.mp h
      simp
  | cons line lines ih =>
      rw [List.foldlM_cons] at h
      obtain ⟨⟨digest, position⟩, hline, h⟩ := bind_eq_ok.mp h
      obtain ⟨-, -, -, -, -, hposition⟩ := verifyLine_ok hline
      have hrest := ih h
      rw [List.length_cons]
      push_cast
      omega

/-- **What the scan of a verified journal finds**: lines up to the position of the checkpoint, of
which the last has the digest of the checkpoint. -/
theorem scanCheckpoint_iff (h : lines.foldlM (verifyLine limits φ) (previous, k) = .ok state)
    (hk : k ≤ checkpoint.chainPosition) :
    scanCheckpoint limits φ checkpoint (lines.map Prod.fst) = .ok true ↔
      ∃ before after, lines = before ++ after ∧
        before.foldlM (verifyLine limits φ) (previous, k) =
          .ok (checkpoint.recordSha256, checkpoint.chainPosition + 1) := by
  induction lines generalizing previous k with
  | nil =>
      constructor
      · intro hscan
        cases hscan
      · rintro ⟨before, after, hsplit, hbefore⟩
        obtain ⟨rfl, -⟩ := List.append_eq_nil_iff.mp hsplit.symm
        have hposition := position_of_verified hbefore
        simp at hposition
        omega
  | cons line lines ih =>
      rw [List.foldlM_cons] at h
      obtain ⟨⟨digest, position⟩, hline, h⟩ := bind_eq_ok.mp h
      obtain ⟨-, -, -, -, -, hposition⟩ := verifyLine_ok hline
      dsimp only at hposition
      subst hposition
      -- no lines at all do not end at the position of the checkpoint
      have hsplit : (∃ before after, line :: lines = before ++ after ∧
          before.foldlM (verifyLine limits φ) (previous, k) =
            .ok (checkpoint.recordSha256, checkpoint.chainPosition + 1)) ↔
          ∃ before after, lines = before ++ after ∧
            before.foldlM (verifyLine limits φ) (digest, k + 1) =
              .ok (checkpoint.recordSha256, checkpoint.chainPosition + 1) := by
        constructor
        · rintro ⟨before, after, hsplit, hbefore⟩
          cases before with
          | nil =>
              have hposition := position_of_verified hbefore
              simp at hposition
              omega
          | cons first before =>
              obtain ⟨rfl, rfl⟩ := List.cons.inj hsplit
              rw [List.foldlM_cons, hline] at hbefore
              exact ⟨before, after, rfl, hbefore⟩
        · rintro ⟨before, after, rfl, hbefore⟩
          refine ⟨line :: before, after, rfl, ?_⟩
          rw [List.foldlM_cons, hline]
          exact hbefore
      rw [List.map_cons, scanCheckpoint_cons hline hk, hsplit]
      split_ifs with hsame
      · rw [Except.ok.injEq, decide_eq_true_eq]
        constructor
        · intro hdigest
          exact ⟨[], lines, rfl, by rw [← hdigest, ← hsame]; rfl⟩
        · rintro ⟨before, after, -, hbefore⟩
          have hlength := position_of_verified hbefore
          have hempty : before = [] := List.eq_nil_iff_length_eq_zero.mpr (by dsimp only at hlength; omega)
          subst hempty
          exact congrArg Prod.fst (pure_eq_ok.mp hbefore)
      · exact ih h (by omega)

end Scanning

/-! ### The last record of a journal -/

section LastRecord

variable {a part line content base data : Bytes} {lines : List Bytes}

/-- What is not white space at its end ends a text. -/
lemma rstrip_append (a : Bytes) (h : rstrip part ≠ []) : rstrip (a ++ part) = a ++ rstrip part := by
  have hdrop : part.reverse.dropWhile isTrimmed ≠ [] := fun hnil =>
    h (by rw [rstrip, List.rdropWhile, hnil, List.reverse_nil])
  rw [rstrip, List.rdropWhile, List.reverse_append, List.dropWhile_append,
    if_neg (by simpa using hdrop), List.reverse_append, List.reverse_reverse]
  rfl

/-- What is read of a file is its last record. -/
lemma readLastLine_eq {seen : Option Bytes} (hread : readLastLine seen = .ok lines) :
    lines = lastLines 1 (recordLines (rstrip (seen.getD []))) := by
  obtain ⟨file, hfile, h⟩ := bind_eq_ok.mp hread
  rw [orRaise_eq_ok.mp hfile, Option.getD_some]
  obtain ⟨result, hresult, htail⟩ := readBoundedJsonlTail_reads file tailReadChunkBytes
    (by decide : (1 : ℤ) ≤ 1) (by decide : 1 ≤ defaultMaxTailBytes) (Nat.lt_add_one _)
  rw [hresult] at h
  cases result with
  | error e => cases e <;> cases h
  | ok found =>
      obtain rfl := pure_eq_ok.mp h
      exact htail

/-- **The last line** of a file, which begins with a brace, is what is read of it. -/
lemma readLastLine_ok {seen : Option Bytes} (hseen : seen.getD [] = content)
    (hstrip : rstrip content = base ++ line) (hends : EndsLine base)
    (hbrace : line.head? = some 123) (hline : ∀ b ∈ line, isLineEnd b = false)
    (hread : readLastLine seen = .ok lines) : lines = [line] := by
  have hbase : base.getLast?.all isLineEnd := by
    cases hlast : base.getLast? with
    | none => rfl
    | some b =>
        rw [hends b hlast]
        rfl
  have hblank : isBlankLine line = false := by
    obtain ⟨rest, rfl⟩ := List.head?_eq_some_iff.mp hbrace
    rfl
  have hrecords : recordLines (base ++ line) = recordLines base ++ [line] := by
    rw [recordLines_append (.inl hbase), recordLines_eq line, List.splitOnP_eq_singleton hline]
    simp [nonblankLines, hblank]
  rw [readLastLine_eq hread, hseen, hstrip, hrecords, lastLines]
  simp

end LastRecord

/-! ### What a checkpoint is of -/

section Head

variable [TzData] [Sha256] {φ : Type} [FloatText φ] [FloatValue φ] {limits : JsonLimits}
  {checkpoint : AuditChainCheckpoint} {store : JsonlAuditStore} {path : PyStr}
  {request : CheckpointRequest} {first last : AuditFiles} {seen : Option Bytes}
  {record : AuditRecord φ} {records : List (AuditRecord φ)} {line content data rest : Bytes}
  {previous head : PyStr} {position : ℤ}

omit [Sha256] in
lemma construct_eq_ok {c : CheckpointFields} (h : c.construct = .ok checkpoint) :
    checkpoint.toCheckpointFields = c := by
  rw [CheckpointFields.construct] at h
  split at h
  · rw [← Except.ok.inj h]
  · cases h

omit [TzData] [Sha256] [FloatText φ] [FloatValue φ] in
lemma object?_eq_some {value : Json φ} : object? value = some record ↔ value = .obj record := by
  cases value <;> simp [object?]

/-- **A checkpoint that was made**: what its position and its digest were read from. -/
lemma checkpointAuditChain_ok
    (hmade : checkpointAuditChain limits φ store path request first seen last = .ok checkpoint) :
    ∃ line lines, ∃ record : AuditRecord φ, readLastLine seen = .ok (line :: lines) ∧
      decodedLine φ limits line = .ok (some (.obj record)) ∧
      (lastValue (PyStr.of "chain_position") record).bind integer? =
        some checkpoint.chainPosition ∧
      (lastValue (PyStr.of "record_sha256") record).bind text? = some checkpoint.recordSha256 ∧
      journalPathSha256 path = .ok checkpoint.journalPathSha256 := by
  obtain ⟨head, -, h⟩ := bind_eq_ok.mp hmade
  obtain ⟨tail, htail, h⟩ := bind_eq_ok.mp h
  obtain ⟨line, hline, h⟩ := bind_eq_ok.mp h
  obtain ⟨decoded, hdecoded, h⟩ := bind_eq_ok.mp h
  obtain ⟨value, hvalue, h⟩ := bind_eq_ok.mp h
  obtain ⟨record, hrecord, h⟩ := bind_eq_ok.mp h
  obtain ⟨position, hposition, h⟩ := bind_eq_ok.mp h
  obtain ⟨recordHash, hhash, h⟩ := bind_eq_ok.mp h
  obtain ⟨_, -, h⟩ := bind_eq_ok.mp h
  obtain ⟨again, -, h⟩ := bind_eq_ok.mp h
  obtain ⟨_, -, h⟩ := bind_eq_ok.mp h
  obtain ⟨pathSha256, hpath, h⟩ := bind_eq_ok.mp h
  have hfields := construct_eq_ok h
  obtain ⟨lines, hlines⟩ := List.head?_eq_some_iff.mp (orRaise_eq_ok.mp hline)
  have hobject : value = .obj record := object?_eq_some.mp (orRaise_eq_ok.mp hrecord)
  rw [hlines] at htail
  rw [orRaise_eq_ok.mp hvalue, hobject] at hdecoded
  refine ⟨line, lines, record, htail, hdecoded, ?_, ?_, ?_⟩
  · rw [hfields]
    exact orRaise_eq_ok.mp hposition
  · rw [hfields]
    exact orRaise_eq_ok.mp hhash
  · rw [hfields]
    exact hpath

/-- What a record is that a checkpoint was read from. -/
def IsHead (checkpoint : AuditChainCheckpoint) (position : ℤ) (head : PyStr) : Prop :=
  checkpoint.chainPosition = position ∧ checkpoint.recordSha256 = head

variable [LawfulFloatText φ]

omit [TzData] [Sha256] [FloatValue φ] in
/-- The text of a record is one line of any file. -/
lemma isLineEnd_line (hplain : Json.Plain false (.obj record))
    (hdata : canonicalBytes limits (.obj record) = .ok data) : ∀ b ∈ data, isLineEnd b = false := by
  intro b hb
  have hbyte := le_toNat_of_mem_line hplain hdata hb
  cases hend : isLineEnd b with
  | false => rfl
  | true =>
      have hcases : b = 13 ∨ b = newlineByte := by simpa [isLineEnd] using hend
      rcases hcases with rfl | rfl
      · exact absurd hbyte (by decide)
      · exact absurd hbyte (by decide)

/-- **A sealed record** at the end of a journal is what a checkpoint of it is of, with its newline or
without. -/
lemma isHead_line (hends : EndsLine content) (hevent : IsEvent record) (hprevious : IsDigest previous)
    (s : Seal limits previous position record)
    (hdata : canonicalBytes limits (.obj s.record) = .ok data) {ending : Bytes}
    (hending : ∀ b ∈ ending, isTrimmed b) (hseen : seen.getD [] = content ++ (data ++ ending))
    (hmade : checkpointAuditChain limits φ store path request first seen last = .ok checkpoint) :
    IsHead checkpoint position s.recordSha256 := by
  have hplain := plain_record s hevent hprevious
  obtain ⟨inner, hbraces⟩ := line_braces hdata
  obtain ⟨line, lines, read, hread, hdecoded, hposition, hdigest, -⟩ := checkpointAuditChain_ok hmade
  have hstrip : rstrip (content ++ (data ++ ending)) = content ++ data := by
    have hreverse : ∀ b ∈ ending.reverse, isTrimmed b := fun b hb =>
      hending b (List.mem_reverse.mp hb)
    have hlast : isTrimmed 125 = false := by decide
    rw [hbraces, ← List.append_assoc, rstrip, List.rdropWhile, List.reverse_append,
      List.dropWhile_append_of_pos hreverse]
    simp [hlast]
  have hline := readLastLine_ok hseen hstrip hends (by rw [hbraces]; rfl)
    (isLineEnd_line hplain hdata) hread
  obtain rfl := (List.cons.inj hline).1
  have hempty : decodeStrict [] = some [] := rfl
  have hload := loadEventLine_line hplain hdata hempty rfl "audit record"
  rw [List.append_nil] at hload
  obtain rfl := Json.obj.inj (Option.some.inj
    (Except.ok.inj (hdecoded.symm.trans (decodedLine_of_loadEventLine hload))))
  have hposition' := lastValue_field s hevent (m := (PyStr.of "chain_position", .int position))
    (by simp [Seal.fields])
  have hdigest' := lastValue_field s hevent
    (m := (PyStr.of "record_sha256", .str s.recordSha256)) (by simp [Seal.fields])
  rw [hposition'] at hposition
  rw [hdigest'] at hdigest
  exact ⟨(Option.some.inj hposition).symm, (Option.some.inj hdigest).symm⟩

/-- **A record that was cut** is one of which no checkpoint is made. -/
lemma not_made_cut (hends : EndsLine content) (hplain : Json.Plain false (.obj record))
    (hdata : canonicalBytes limits (.obj record) = .ok (data ++ rest)) (hne : data ≠ [])
    (hrest : rest ≠ []) (hseen : seen.getD [] = content ++ data) :
    checkpointAuditChain limits φ store path request first seen last ≠ .ok checkpoint := by
  intro hmade
  obtain ⟨line, lines, read, hread, hdecoded, -, -, -⟩ := checkpointAuditChain_ok hmade
  obtain ⟨inner, hbraces⟩ := line_braces hdata
  have hbrace : data.head? = some 123 := by
    obtain ⟨b, tail, rfl⟩ := List.exists_cons_of_ne_nil hne
    rw [(List.cons.inj hbraces).1]
    rfl
  -- what is left of it without the white space at its end is a part of the record as well
  obtain ⟨space, hspace⟩ := List.rdropWhile_prefix isTrimmed data
  change rstrip data ++ space = data at hspace
  have hstripped : rstrip data ≠ [] := fun hnil => by
    have hall := List.rdropWhile_eq_nil_iff.mp hnil 123 (List.mem_of_mem_head? hbrace)
    exact absurd hall (by decide)
  have hbrace' : (rstrip data).head? = some 123 := by
    rw [← hspace, List.head?_append_of_ne_nil _ hstripped] at hbrace
    exact hbrace
  have hpart : canonicalBytes limits (.obj record) = .ok (rstrip data ++ (space ++ rest)) := by
    rw [← List.append_assoc, hspace]
    exact hdata
  have hline := readLastLine_ok hseen (rstrip_append content hstripped) hends hbrace' (fun b hb =>
    isLineEnd_line hplain hpart b (List.mem_append_left _ hb)) hread
  obtain rfl := (List.cons.inj hline).1
  have hmore : space ++ rest ≠ [] := by simp [hrest]
  exact loadEventLine_cut hplain hpart hmore "audit record" read (loadEventLine_of_decodedLine hdecoded)

/-- **A checkpoint of a chain** is of its head, and the chain is not empty. -/
lemma isHead_chain (hchain : Chain limits records content head) (hseen : seen.getD [] = content)
    (hmade : checkpointAuditChain limits φ store path request first seen last = .ok checkpoint) :
    IsHead checkpoint records.length head := by
  cases hchain with
  | nil =>
      obtain ⟨line, lines, -, hread, -⟩ := checkpointAuditChain_ok hmade
      have hlines := readLastLine_eq hread
      rw [hseen] at hlines
      cases hlines
  | snoc hbefore hevent s hdata =>
      rw [List.length_append, List.length_singleton, Nat.cast_add, Nat.cast_one]
      exact isHead_line hbefore.endsLine hevent hbefore.isDigest s hdata
        (List.forall_mem_singleton.mpr isTrimmed_newline) hseen hmade

end Head

/-! ### Checkpoints in runs -/

section Runs

variable [TzData] {φ : Type} [FloatText φ] [FloatValue φ] [FloatBits φ] [Sha256] [LowerData]
  [ReprData] [LawfulFloatText φ] {limits : JsonLimits} {checkpoint : AuditChainCheckpoint}
  {store : JsonlAuditStore} {path : PyStr} {request : CheckpointRequest}
  {first last files : AuditFiles} {seen legacy : Option Bytes}
  {state : List AuditEvent × AuditFiles} {call : AuditCall} {head : PyStr} {position : ℤ}

/-- The checkpoint is of the events, and their chain is what the journal begins with. -/
def Binds (φ : Type) [FloatText φ] [FloatBits φ] (limits : JsonLimits)
    (checkpoint : AuditChainCheckpoint) (written : List AuditEvent) (journal : Bytes) : Prop :=
  ∃ (records : List (AuditRecord φ)) (content : Bytes),
    List.Forall₂ (fun event record => event.members = .ok record) written records ∧
    Chain limits records content checkpoint.recordSha256 ∧
    checkpoint.chainPosition = written.length ∧ content <+: journal

/-- **A checkpoint is of the head of a chain that the processes wrote**: of the events before the
call that was under way while its record was read, or of those and the event of that call. -/
lemma checkpoint_head (hholds : Holds φ limits state) (hcall : call.TamperEvident)
    (hbefore : state.2.journal.getD [] <+: seen.getD [])
    (hafter : seen.getD [] <+: (AuditCall.step limits φ state call).2.journal.getD [])
    (hmade : checkpointAuditChain limits φ store path request first seen last = .ok checkpoint) :
    ∃ written, (written = state.1 ∨ written = (AuditCall.step limits φ state call).1) ∧
      Binds φ limits checkpoint written
        ((AuditCall.step limits φ state call).2.journal.getD []) := by
  obtain ⟨records, head, hrecords, hchain⟩ := hholds
  -- the call has written nothing so far
  have hsame : seen.getD [] = state.2.journal.getD [] → Binds φ limits checkpoint state.1
      ((AuditCall.step limits φ state call).2.journal.getD []) := by
    intro hseen
    obtain ⟨hposition, rfl⟩ := isHead_chain hchain hseen hmade
    refine ⟨records, _, hrecords, hchain, by rw [hposition, hrecords.length_eq], ?_⟩
    exact hbefore.trans hafter
  rcases apply_reported hcall hchain with
    ⟨-, hrefused⟩ | ⟨event, hevent, record, s, data, hmembers, hdata, hjournal⟩
  · refine ⟨state.1, .inl rfl, hsame ?_⟩
    rw [AuditCall.step, hrefused] at hafter
    exact hafter.eq_of_length_le hbefore.length_le
  · have hisevent := (AuditEvent.members_ok hmembers).1
    have hstep : (AuditCall.step limits φ state call).2.journal =
        some (state.2.journal.getD [] ++ (data ++ [newlineByte])) := hjournal
    -- the call has written its record, with its newline or without
    have hwritten : ∀ ending : Bytes, (∀ b ∈ ending, isTrimmed b) →
        seen.getD [] = state.2.journal.getD [] ++ (data ++ ending) →
        Binds φ limits checkpoint (AuditCall.step limits φ state call).1
          ((AuditCall.step limits φ state call).2.journal.getD []) := by
      intro ending hending hseen
      obtain ⟨hposition, hdigest⟩ :=
        isHead_line hchain.endsLine hisevent hchain.isDigest s hdata hending hseen hmade
      have hone : (AuditCall.step limits φ state call).1 = state.1 ++ [event] := by
        rw [AuditCall.step, hevent]
        rfl
      refine ⟨records ++ [record], _, ?_, hdigest ▸ hchain.snoc hisevent s hdata, ?_, ?_⟩
      · rw [hone]
        exact List.rel_append hrecords (.cons hmembers .nil)
      · rw [hone, hposition, List.length_append, hrecords.length_eq]
        rfl
      · rw [hstep]
        exact List.prefix_rfl
    rw [hstep, Option.getD_some] at hafter
    obtain ⟨part, hpart⟩ := hbefore
    obtain ⟨rest, hrest⟩ := (List.prefix_append_right_inj _).mp (hpart ▸ hafter)
    rcases List.eq_nil_or_concat rest with rfl | ⟨cut, b, rfl⟩
    · rw [List.append_nil] at hrest
      exact ⟨_, .inr rfl, hwritten [newlineByte] (List.forall_mem_singleton.mpr isTrimmed_newline)
        (by rw [← hpart, hrest])⟩
    rw [List.concat_eq_append, ← List.append_assoc] at hrest
    obtain ⟨rfl, -⟩ := List.append_inj' hrest rfl
    by_cases hnone : part = []
    · exact ⟨_, .inl rfl, hsame (by rw [← hpart, hnone, List.append_nil])⟩
    by_cases hcut : cut = []
    · subst hcut
      exact ⟨_, .inr rfl, hwritten [] (by simp) (by rw [← hpart]; simp)⟩
    · have hplain := plain_record s hisevent hchain.isDigest
      exact absurd hmade (not_made_cut hchain.endsLine hplain hdata hnone hcut hpart.symm)

omit [FloatBits φ] [LowerData] [ReprData] [LawfulFloatText φ] in
/-- **A journal that has a checkpoint** is verified, and begins with as many events as the position of
the checkpoint says, which are digested for its digest. -/
lemma events_of_verified (htamper : store.tamperEvident)
    (h : verifyAuditCheckpoint limits φ store path checkpoint files files.journal = .ok true) :
    ∃ (events : List (AuditRecord φ)) (first : List (AuditRecord φ)) (contents : List Bytes),
      readEvents φ limits files.journal = .ok events ∧ first <+: events ∧
      (first.length : ℤ) = checkpoint.chainPosition ∧
      Digested limits first.reverse contents checkpoint.recordSha256 := by
  obtain ⟨pathSha256, -, h⟩ := bind_eq_ok.mp h
  split_ifs at h
  · cases h
  obtain ⟨verified, hverified, h⟩ := bind_eq_ok.mp h
  obtain ⟨content, hcontent, hscan⟩ := bind_eq_ok.mp h
  obtain ⟨state, hstate, -⟩ := map_eq_ok.mp hverified
  have hchain := verifyChainState_of_chainStateOrFail htamper hstate
  rw [orRaise_eq_ok.mp hcontent] at hchain ⊢
  obtain ⟨events, -, hread, -, -⟩ := verified_hashChain hchain
  rw [verifyChainState, Option.getD_some] at hchain
  rw [← List.zipIdx_map_fst 1 (byteLines content)] at hscan
  obtain ⟨before, after, hsplit, hbefore⟩ := (scanCheckpoint_iff hchain checkpoint.one_le_position).mp hscan
  have hgenesis : Digested (φ := φ) limits [] [] genesisRecordHash := ⟨[], .nil, .nil⟩
  obtain ⟨first, contents, hfirst, hdigested, hposition⟩ := digested_foldlM hgenesis hbefore
  rw [List.append_nil] at hdigested hposition
  refine ⟨events, first, contents, hread, ?_, ?_, hdigested⟩
  · rw [readEvents, Option.getD_some, ← List.zipIdx_map_fst 1 (byteLines content), hsplit,
      List.map_append, List.mapM_append, hfirst, ok_bind] at hread
    obtain ⟨more, -, hread⟩ := bind_eq_ok.mp hread
    exact ⟨more, pure_eq_ok.mp hread⟩
  · rw [List.length_reverse] at hposition
    dsimp only at hposition
    omega

/-- **A journal that has a checkpoint begins with its events.**  The checkpoint was made after a run
of calls of any processes, its record read while another call was under way, at any byte of what that
call writes.  If any journal has the checkpoint, whoever wrote it, then it begins with the events that
were reported as written when the checkpoint was made, that of the call under way perhaps among them:
as many, in the same order, and the same but for the order in which the members of their objects
stand; or a content that was digested for the checkpoint and another one that is digested to verify
the journal have the same digest. -/
theorem checkpoint_binds_history {calls : List AuditCall} (hcalls : ∀ call ∈ calls, call.TamperEvident)
    (hrun : AuditCall.run limits φ calls ([], { legacy := legacy }) = state)
    (hcall : call.TamperEvident) (hbefore : state.2.journal.getD [] <+: seen.getD [])
    (hafter : seen.getD [] <+: (AuditCall.step limits φ state call).2.journal.getD [])
    (hmade : checkpointAuditChain limits φ store path request first seen last = .ok checkpoint)
    {store' : JsonlAuditStore} (htamper : store'.tamperEvident) {path' : PyStr}
    (hverify : verifyAuditCheckpoint limits φ store' path' checkpoint files files.journal = .ok true) :
    ∃ written, (written = state.1 ∨ written = (AuditCall.step limits φ state call).1) ∧
      checkpoint.chainPosition = written.length ∧
      ∃ (records events : List (AuditRecord φ)) (contents contents' : List Bytes),
        List.Forall₂ (fun event record => event.members = .ok record) written records ∧
        readEvents φ limits files.journal = .ok events ∧
        Digested limits records.reverse contents checkpoint.recordSha256 ∧
        Digested limits (events.take written.length).reverse contents' checkpoint.recordSha256 ∧
        (records.map stored = (events.take written.length).map stored ∨
          Collides Sha256.hexdigest contents contents') := by
  have hempty : Holds φ limits ([], { legacy := legacy }) := ⟨[], genesisRecordHash, .nil, .nil⟩
  obtain ⟨written, hwritten, records, content, hrecords, hchain, hposition, -⟩ :=
    checkpoint_head (hrun ▸ holds_run hcalls hempty) hcall hbefore hafter hmade
  obtain ⟨events, first, contents', hread, hfirst, hlength, hdigested'⟩ :=
    events_of_verified htamper hverify
  have htake : events.take written.length = first := by
    rw [List.prefix_iff_eq_take.mp hfirst]
    congr 1
    omega
  obtain ⟨contents, hdigested⟩ := hchain.digested
  refine ⟨written, hwritten, hposition, records, events, contents, contents', hrecords, hread,
    hdigested, htake ▸ hdigested', ?_⟩
  rw [htake]
  have hplain : ∀ event ∈ first, Json.Plain false (.obj event) := fun event hevent =>
    plain_of_readEvents hread event (hfirst.subset hevent)
  refine (hdigested.eq_or_collides (by simpa using hchain.plain) (by simpa using hplain)
    hdigested').imp_left fun hsorted => ?_
  rw [List.map_reverse, List.map_reverse] at hsorted
  exact List.reverse_injective hsorted

/-- **A journal that is only written to keeps its checkpoints.**  The checkpoint was made as above.
After every further run of calls, of which some are between the two readings of the journal, it is
found there, if the legacy file that the store names is as it was. -/
theorem checkpoint_stays {calls : List AuditCall} (hcalls : ∀ call ∈ calls, call.TamperEvident)
    (hrun : AuditCall.run limits φ calls ([], { legacy := legacy }) = state)
    (hcall : call.TamperEvident) (hbefore : state.2.journal.getD [] <+: seen.getD [])
    (hafter : seen.getD [] <+: (AuditCall.step limits φ state call).2.journal.getD [])
    (hmade : checkpointAuditChain limits φ store path request first seen last = .ok checkpoint)
    {later between : List AuditCall} (hlater : ∀ call ∈ later, call.TamperEvident)
    (hbetween : ∀ call ∈ between, call.TamperEvident) {verified scanned : List AuditEvent × AuditFiles}
    (hverified : AuditCall.run limits φ later (AuditCall.step limits φ state call) = verified)
    (hscanned : AuditCall.run limits φ between verified = scanned) {store' : JsonlAuditStore}
    (hlegacy : ∀ sha256 ∈ store'.legacySha256,
      verified.2.legacy.map Sha256.hexdigest = sha256) :
    verifyAuditCheckpoint limits φ store' path checkpoint verified.2 scanned.2.journal = .ok true := by
  have hempty : Holds φ limits ([], { legacy := legacy }) := ⟨[], genesisRecordHash, .nil, .nil⟩
  have hstate : Holds φ limits state := hrun ▸ holds_run hcalls hempty
  have hstep := holds_step hcall hstate
  have hholds : Holds φ limits verified := hverified ▸ holds_run hlater hstep
  have hholds' : Holds φ limits scanned := hscanned ▸ holds_run hbetween hholds
  obtain ⟨written, -, records, content, hrecords, hchain, hposition, hprefix⟩ :=
    checkpoint_head hstate hcall hbefore hafter hmade
  have hlonger : (AuditCall.step limits φ state call).2.journal.getD [] <+:
      scanned.2.journal.getD [] := by
    rw [← hscanned, ← hverified]
    exact (prefix_run hlater hstep).trans (hverified ▸ prefix_run hbetween hholds)
  obtain ⟨rest, hrest⟩ := hprefix.trans hlonger
  -- there is a record that was read
  obtain ⟨journal, hjournal⟩ : ∃ journal, scanned.2.journal = some journal := by
    cases hjournal : scanned.2.journal with
    | some journal => exact ⟨journal, rfl⟩
    | none =>
        rw [hjournal, Option.getD_none] at hrest
        have hwritten : records = [] := hchain.eq_nil (List.append_eq_nil_iff.mp hrest).1
        have hnone : written.length = 0 := by rw [hrecords.length_eq, hwritten, List.length_nil]
        have hpositive := checkpoint.one_le_position
        omega
  obtain ⟨-, -, -, -, -, -, -, hpath⟩ := checkpointAuditChain_ok hmade
  obtain ⟨head, hverify⟩ := verifyChain_of_holds hholds hlegacy
  obtain ⟨records', head', -, hchain'⟩ := hholds'
  rw [hjournal, Option.getD_some] at hrest hchain'
  rw [verifyAuditCheckpoint, hpath, ok_bind, if_neg (by simp), hverify, ok_bind, hjournal]
  change scanCheckpoint limits φ checkpoint (byteLines journal) = .ok true
  have hlines := hchain'.verified
  rw [verifyChainState, Option.getD_some] at hlines
  rw [← List.zipIdx_map_fst 1 (byteLines journal)]
  refine (scanCheckpoint_iff hlines checkpoint.one_le_position).mpr
    ⟨(byteLines content).zipIdx 1, (byteLines rest).zipIdx (1 + (byteLines content).length), ?_, ?_⟩
  · rw [← hrest, byteLines_append hchain.endsLine, List.zipIdx_append]
  · rw [hposition, hrecords.length_eq]
    exact hchain.verified

end Runs

/-! ### A checkpoint of a first record -/

/-- A request of a checkpoint that is anchored nowhere else. -/
def firstRequest : CheckpointRequest where
  checkpointId := "checkpoint-1"
  journalRef := "runtime/audit/example.jsonl"
  createdAt := .aware { wall := 0, tz := .fixed 0 }
  retention :=
    { retentionClass := "AUDIT_CRITICAL"
      retainUntil := none
      legalHold := true
      dispositionAuthority := "Legal"
      required := by decide
      legalHold_ok := by decide }

lemma first_checkpoint_found :
    letI := FloatText.zero
    letI := FloatValue.zero
    letI := FloatBits.zero
    letI := Sha256.checksum
    letI := ReprData.const
    (fun files : AuditFiles => (checkpointAuditChain { maxDepth := 100 } Unit sealingStore [97]
        firstRequest files files.journal files >>= fun checkpoint =>
      verifyAuditCheckpoint { maxDepth := 100 } Unit sealingStore [97] checkpoint files
        files.journal).toOption)
      (AuditCall.run { maxDepth := 100 } Unit
        [.append sealingStore processStarted, .writeLegacy [10]] ([], {})).2 = some true := by
  decide +kernel

/-- **The first journal** has a checkpoint of its one event. -/
theorem first_checkpoint_binds :
    letI := FloatText.zero
    letI := FloatValue.zero
    letI := FloatBits.zero
    letI := Sha256.checksum
    letI := ReprData.const
    ∃ (checkpoint : AuditChainCheckpoint) (files : AuditFiles), checkpoint.chainPosition = 1 ∧
      verifyAuditCheckpoint { maxDepth := 100 } Unit sealingStore [97] checkpoint files
        files.journal = .ok true ∧
      ∃ (records events : List (AuditRecord Unit)) (contents contents' : List Bytes),
        readEvents Unit { maxDepth := 100 } files.journal = .ok events ∧
        (records.map stored = (events.take 1).map stored ∨
          Collides Sha256.hexdigest contents contents') := by
  let := FloatText.zero
  let := FloatValue.zero
  let := FloatBits.zero
  let := Sha256.checksum
  let := ReprData.const
  have := FloatText.lawful_zero
  have hreported := first_append_reported
  have hfound := first_checkpoint_found
  have hcalls : ∀ call ∈ [AuditCall.append sealingStore processStarted, .writeLegacy [10]],
      call.TamperEvident := by
    simp [AuditCall.TamperEvident, sealingStore]
  generalize hrun : AuditCall.run { maxDepth := 100 } Unit
    [.append sealingStore processStarted, .writeLegacy [10]] ([], {}) = state at hreported hfound
  obtain ⟨checkpoint, hmade, hverify⟩ := bind_eq_ok.mp (toOption_eq_some.mp hfound)
  have hcall : (AuditCall.writeLegacy []).TamperEvident := trivial
  obtain ⟨written, hwritten, hposition, records, events, contents, contents', -, hread, -, -, hagree⟩ :=
    checkpoint_binds_history hcalls hrun hcall List.prefix_rfl List.prefix_rfl hmade rfl hverify
  have hstep : (AuditCall.step { maxDepth := 100 } Unit state (.writeLegacy [])).1 = state.1 :=
    List.append_nil _
  rw [hstep, or_self] at hwritten
  rw [hwritten, hreported] at hposition hagree
  exact ⟨checkpoint, state.2, hposition, hverify, records, events, contents, contents', hread, hagree⟩

/-- **After further appends** the checkpoint is found, one of them between the two readings. -/
theorem first_checkpoint_stays :
    letI := FloatText.zero
    letI := FloatValue.zero
    letI := FloatBits.zero
    letI := Sha256.checksum
    letI := ReprData.const
    ∃ (checkpoint : AuditChainCheckpoint) (state : List AuditEvent × AuditFiles),
      state.1.length = 1 ∧
      ∀ verified scanned, AuditCall.run { maxDepth := 100 } Unit
          [.append sealingStore processStarted] state = verified →
        AuditCall.run { maxDepth := 100 } Unit
          [.append sealingStore processStarted] verified = scanned →
        verifyAuditCheckpoint { maxDepth := 100 } Unit sealingStore [97] checkpoint verified.2
          scanned.2.journal = .ok true := by
  let := FloatText.zero
  let := FloatValue.zero
  let := FloatBits.zero
  let := Sha256.checksum
  let := ReprData.const
  have := FloatText.lawful_zero
  have hreported := first_append_reported
  have hfound := first_checkpoint_found
  have hcalls : ∀ call ∈ [AuditCall.append sealingStore processStarted, .writeLegacy [10]],
      call.TamperEvident := by
    simp [AuditCall.TamperEvident, sealingStore]
  have hlater : ∀ call ∈ [AuditCall.append sealingStore processStarted], call.TamperEvident := by
    simp [AuditCall.TamperEvident, sealingStore]
  generalize hrun : AuditCall.run { maxDepth := 100 } Unit
    [.append sealingStore processStarted, .writeLegacy [10]] ([], {}) = state at hreported hfound
  obtain ⟨checkpoint, hmade, -⟩ := bind_eq_ok.mp (toOption_eq_some.mp hfound)
  have hcall : (AuditCall.writeLegacy []).TamperEvident := trivial
  refine ⟨checkpoint, AuditCall.step { maxDepth := 100 } Unit state (.writeLegacy []), ?_,
    fun verified scanned hverified hscanned => ?_⟩
  · rw [AuditCall.step, List.length_append, hreported]
    rfl
  · exact checkpoint_stays hcalls hrun hcall List.prefix_rfl List.prefix_rfl hmade hlater hlater
      hverified hscanned (by simp [sealingStore])

end Ai4Binance.Storage

/-
The audit journal (`storage/jsonl.py`): a file of records, one a line, of which each is sealed to the
one before it.

A call holds the lock of the file, so the calls of all processes come one after another.  A record is
written as a text of JSON and read back as one; the digest of a text is a parameter (`Sha256`).

* `sealTamperEvidentRecord`, `render`: the text of a record;
* `verifyChainState`: what `verify_chain` makes of a file;
* `append`, `appendVerified`, `appendVerifiedIdempotent`: writing;
* `AuditCall.run`: the calls of all processes, one after another.
-/
import Ai4Binance.Lib.JsonEq
import Ai4Binance.Lib.Utf8
import Ai4Binance.Storage.BoundedTail
import Ai4Binance.Storage.Redaction

open Check Encoding Text

/-- `hashlib.sha256(data).hexdigest()`: sixty-four hexadecimal digits. -/
class Sha256 where
  hexdigest : Bytes → PyStr
  length_hexdigest : ∀ data, (hexdigest data).length = 64
  hexdigest_hex : ∀ data, ∀ c ∈ hexdigest data, 48 ≤ c ∧ c ≤ 57 ∨ 97 ≤ c ∧ c ≤ 102

/-- The `float` of some bits. -/
class FloatBits (φ : Type) where
  ofBits : UInt64 → PyFloat φ

namespace Ai4Binance.Storage

/-! ### Values as JSON -/

namespace PyValue

variable {φ : Type} [FloatBits φ]

mutual

/-- The JSON value of a value that `json.dumps` has a text for. -/
def toJson : PyValue → Option (Json φ)
  | .leaf .none => some .null
  | .leaf (.bool b) => some (.bool b)
  | .leaf (.int n) => some (.int n)
  | .leaf (.float bits) => some (.float (FloatBits.ofBits bits))
  | .leaf (.str s) => some (.str (PyStr.of s))
  | .mapping items => (itemsToJson items).map .obj
  | .list items => (listToJson items).map .arr
  | .tuple items => (listToJson items).map .arr
  | _ => none

/-- The members of an object. -/
def itemsToJson : List (String × PyValue) → Option (List (PyStr × Json φ))
  | [] => some []
  | (key, item) :: items =>
      (toJson item).bind fun value => (itemsToJson items).map ((PyStr.of key, value) :: ·)

/-- The items of an array. -/
def listToJson : List PyValue → Option (List (Json φ))
  | [] => some []
  | item :: items => (toJson item).bind fun value => (listToJson items).map (value :: ·)

end

end PyValue

/-- What the journal raises: `ValueError` and `OSError` with their texts, the exceptions of the codecs
and of `json`, those of the conversion, and the `DestinationVerificationError` of a blocker. -/
inductive AuditFault where
  | value (message : String)
  | os (message : String)
  | unicode
  | json (fault : JsonFault)
  | render (error : RenderError)
  | verification (blocker : String)
  deriving DecidableEq

/-- `JsonlAuditStore`, without its path and locks.  A chained successor has the digest of the legacy
file that its anchor names, or `none` where there was no such file. -/
structure JsonlAuditStore where
  tamperEvident : Bool := false
  maxEventBytes : ℤ := 8 * 1024 * 1024
  legacySha256 : Option (Option PyStr) := none
  maxEventBytes_pos : 1 ≤ maxEventBytes

/-- The files that a store reads: its journal, and the legacy journal. -/
structure AuditFiles where
  journal : Option Bytes := none
  legacy : Option Bytes := none

/-- A JSON object. -/
abbrev AuditRecord (φ : Type) : Type := List (PyStr × Json φ)

/-- `VerifiedWriteResult`, without its destination, subject and time. -/
structure VerifiedWrite where
  operation : String
  expectedSha256 : PyStr
  observedSha256 : PyStr
  deriving DecidableEq

/-- `_GENESIS_RECORD_HASH`. -/
def genesisRecordHash : PyStr := PyStr.of "GENESIS"

-- whether a key is one of a seal is decided here, and not by what a module happens to import
scoped instance : LawfulBEq PyStr := inferInstanceAs (LawfulBEq (List ℕ))

/-- The five keys of a seal. -/
def sealKeys : List PyStr :=
  ["chain_position", "tamper_evident", "previous_record_sha256", "event_sha256",
    "record_sha256"].map PyStr.of

/-! ### Lines -/

/-- The lines of a binary stream, each with its newline. -/
def byteLines : Bytes → List Bytes
  | [] => []
  | b :: rest =>
      if b = newlineByte then [b] :: byteLines rest
      else match byteLines rest with
        | [] => [[b]]
        | line :: lines => (b :: line) :: lines

/-- `not value.strip()`. -/
def isBlankText (s : PyStr) : Bool := s.all fun c => isSpace (Char.ofNat c)

variable {φ : Type} [FloatText φ] [FloatValue φ] [FloatBits φ] [Sha256] [LowerData] [ReprData]

/-- `_load_event_line`. -/
def loadEventLine (limits : JsonLimits) (rawLine : Bytes) (label : String) :
    Except AuditFault (AuditRecord φ) := do
  let text ← orRaise (decodeStrict rawLine) .unicode
  match ← (Json.loadsText limits text : Except JsonFault (Json φ)).mapError .json with
  | .obj members => return members
  | _ => throw (.value (label ++ " must be a JSON object"))

/-- `_text_field`. -/
def textField (record : AuditRecord φ) (name label : String) : Except AuditFault PyStr :=
  match lastValue (PyStr.of name) record with
  | some (.str s) =>
      if isBlankText s then .error (.value (label ++ " " ++ name ++ " is invalid")) else .ok s
  | _ => .error (.value (label ++ " " ++ name ++ " is invalid"))

/-! ### Records -/

section Records

variable (limits : JsonLimits)

/-- The canonical text of a value, in bytes. -/
def canonicalBytes (value : Json φ) : Except AuditFault Bytes := do
  let text ← (Json.dumps limits false value).mapError .json
  orRaise (encodeUtf8 text) .unicode

/-- `_canonical_json_sha256`. -/
def canonicalJsonSha256 (value : Json φ) : Except AuditFault PyStr :=
  (canonicalBytes limits value).map Sha256.hexdigest

/-- What the digest of a record is taken of. -/
def recordLink (chainPosition : ℤ) (eventSha256 previousRecordHash : PyStr) : Json φ :=
  .obj [(PyStr.of "chain_position", .int chainPosition),
    (PyStr.of "event_sha256", .str eventSha256),
    (PyStr.of "previous_record_sha256", .str previousRecordHash)]

/-- `_seal_tamper_evident_record`. -/
def sealTamperEvidentRecord (previousRecordHash : PyStr) (chainPosition : ℤ)
    (event : AuditRecord φ) : Except AuditFault (AuditRecord φ) := do
  let eventSha256 ← canonicalJsonSha256 limits (.obj event)
  let recordSha256 ← canonicalJsonSha256 limits
    (recordLink chainPosition eventSha256 previousRecordHash : Json φ)
  let payload := Dict.set (PyStr.of "chain_position") (.int chainPosition) event
  let payload := Dict.set (PyStr.of "tamper_evident") (.bool true) payload
  let payload := Dict.set (PyStr.of "previous_record_sha256") (.str previousRecordHash) payload
  let payload := Dict.set (PyStr.of "event_sha256") (.str eventSha256) payload
  return Dict.set (PyStr.of "record_sha256") (.str recordSha256) payload

/-- `redactor.redact(to_primitive(event))`, as the JSON object that is written. -/
def AuditEvent.members (event : AuditEvent) : Except AuditFault (AuditRecord φ) := do
  let recorded ← event.record.mapError .render
  match (recorded.toJson : Option (Json φ)) with
  | some (.obj members) => return members
  | _ => throw (.render .notSerializable)

/-! ### The chain -/

/-- The checks of `_verify_chain_state_unlocked` on the object of a line, at the line's place in the
chain; the result is the record's digest. -/
def verifyRecord (label : String) (expectedPrevious : PyStr) (expectedPosition : ℤ)
    (event : AuditRecord φ) : Except AuditFault PyStr := do
  raiseIf ((lastValue (PyStr.of "tamper_evident") event).all fun value =>
      match value with
      | .bool true => false
      | _ => true) (.value (label ++ " is missing sealing"))
  raiseIf ((lastValue (PyStr.of "chain_position") event).all fun value =>
      !Json.pyEq true value (.int expectedPosition)) (.value (label ++ " position is invalid"))
  let previousRecordHash ← textField event "previous_record_sha256" label
  raiseIf (previousRecordHash ≠ expectedPrevious) (.value (label ++ " hash chain is broken"))
  let eventSha256 ← textField event "event_sha256" label
  let recordSha256 ← textField event "record_sha256" label
  let expectedEventSha256 ← canonicalJsonSha256 limits
    (.obj (event.filter fun m => m.1 ∉ sealKeys))
  raiseIf (eventSha256 ≠ expectedEventSha256) (.value (label ++ " event hash is invalid"))
  let expectedRecordSha256 ← canonicalJsonSha256 limits
    (recordLink expectedPosition expectedEventSha256 expectedPrevious : Json φ)
  raiseIf (recordSha256 ≠ expectedRecordSha256) (.value (label ++ " record hash is invalid"))
  return recordSha256

/-- A turn of the loop of `_verify_chain_state_unlocked`, with a line and its number. -/
def verifyLine (φ : Type) [FloatText φ] [FloatValue φ] (state : PyStr × ℤ) (line : Bytes × ℕ) :
    Except AuditFault (PyStr × ℤ) := do
  let label := "tamper-evident JSONL line " ++ toString line.2
  raiseIf (isBlankLine line.1) (.value (label ++ " cannot be blank"))
  let event ← loadEventLine (φ := φ) limits line.1 label
  let recordSha256 ← verifyRecord limits label state.1 state.2 event
  return (recordSha256, state.2 + 1)

/-- `_verify_chain_state_unlocked`. -/
def verifyChainState (φ : Type) [FloatText φ] [FloatValue φ] (journal : Option Bytes) :
    Except AuditFault (PyStr × ℤ) :=
  ((byteLines (journal.getD [])).zipIdx 1).foldlM (verifyLine limits φ) (genesisRecordHash, 1)

end Records

/-! ### The store -/

/-- `_event_by_identity_unlocked` names a record: its type, and its snapshot, of which a record may
have none. -/
def hasIdentity (eventType : String) (snapshotId : Option String) (record : AuditRecord φ) : Bool :=
  (match lastValue (PyStr.of "event_type") record with
    | some (.str s) => s = PyStr.of eventType
    | _ => false) &&
  match lastValue (PyStr.of "snapshot_id") record, snapshotId with
    | some (.str s), some id => s = PyStr.of id
    | some .null, none => true
    | none, none => true
    | _, _ => false

/-- The keys of an event. -/
def eventKeys : List PyStr :=
  ["event_type", "timestamp", "payload", "snapshot_id", "schema_version"].map PyStr.of

/-- `existing_event`. -/
def existingEvent (existing : AuditRecord φ) : AuditRecord φ :=
  eventKeys.map fun key => (key, (lastValue key existing).getD .null)

/-- The loop of `_event_by_identity_unlocked`, over lines and their numbers. -/
def findByIdentity (limits : JsonLimits) (eventType : String) (snapshotId : Option String) :
    List (Bytes × ℕ) → Except AuditFault (Option (AuditRecord φ))
  | [] => .ok none
  | line :: lines => do
      let label := "JSONL audit line " ++ toString line.2
      raiseIf (isBlankLine line.1) (.value (label ++ " cannot be blank"))
      let record ← loadEventLine limits line.1 label
      if hasIdentity eventType snapshotId record then return some record
      else findByIdentity limits eventType snapshotId lines

/-- `_event_by_identity_unlocked`. -/
def eventByIdentity (φ : Type) [FloatText φ] (limits : JsonLimits) (eventType : String)
    (snapshotId : Option String) (journal : Option Bytes) :
    Except AuditFault (Option (AuditRecord φ)) :=
  findByIdentity limits eventType snapshotId ((byteLines (journal.getD [])).zipIdx 1)

namespace JsonlAuditStore

variable (store : JsonlAuditStore) (limits : JsonLimits)

/-- What `_chain_state_or_fail` tries: the legacy file is as it was, and the chain is verified. -/
def chainState (φ : Type) [FloatText φ] [FloatValue φ] (files : AuditFiles) :
    Except AuditFault (PyStr × ℤ) := do
  raiseIf (store.legacySha256.any fun sha256 => files.legacy.map Sha256.hexdigest ≠ sha256)
    (.value "JSONL_AUDIT_LEGACY_ANCHOR_MISMATCH")
  if store.tamperEvident then verifyChainState limits φ files.journal
  else return (genesisRecordHash, 1)

/-- `_chain_state_or_fail`: a `RecursionError` is the one exception that is not replaced. -/
def chainStateOrFail (φ : Type) [FloatText φ] [FloatValue φ] (files : AuditFiles) :
    Except AuditFault (PyStr × ℤ) :=
  match store.chainState limits φ files with
  | .ok state => .ok state
  | .error (.json .recursion) => .error (.json .recursion)
  | .error _ => .error (.verification "JSONL_AUDIT_TAMPER_EVIDENT_CHAIN_INVALID")

/-- `verify_chain`. -/
def verifyChain (φ : Type) [FloatText φ] [FloatValue φ] (files : AuditFiles) :
    Except AuditFault PyStr :=
  (store.chainStateOrFail limits φ files).map Prod.fst

/-- `_render`, of an event that was redacted. -/
def render (previousRecordHash : PyStr) (chainPosition : ℤ) (event : AuditRecord φ) :
    Except AuditFault PyStr := do
  let record ← (if store.tamperEvident then
      sealTamperEvidentRecord limits previousRecordHash chainPosition event
    else .ok event : Except AuditFault (AuditRecord φ))
  (Json.dumps limits false (.obj record)).mapError .json

/-- `_append_line`; the result is the journal. -/
def appendLine (line : PyStr) (journal : Option Bytes) : Except AuditFault Bytes := do
  let data ← orRaise (encodeUtf8 line) .unicode
  raiseIf (store.maxEventBytes < data.length) (.os "JSONL event exceeds bounded write limit")
  return journal.getD [] ++ data ++ [newlineByte]

/-- The line that an append writes. -/
def nextLine (φ : Type) [FloatText φ] [FloatValue φ] [FloatBits φ] (event : AuditEvent)
    (files : AuditFiles) : Except AuditFault PyStr := do
  let state ← store.chainStateOrFail limits φ files
  let members ← event.members (φ := φ)
  store.render limits state.1 state.2 members

/-- `append`: its outcome, and the files after it. -/
def append (φ : Type) [FloatText φ] [FloatValue φ] [FloatBits φ] (event : AuditEvent)
    (files : AuditFiles) : Except AuditFault Unit × AuditFiles :=
  match (do store.appendLine (← store.nextLine limits φ event files) files.journal) with
  | .ok content => (.ok (), { files with journal := some content })
  | .error e => (.error e, files)

/-- `_last_event_unlocked`. -/
def lastEvent (content : Bytes) : Except AuditFault (Json φ) := do
  let line ← ((readLastNonemptyLine content tailReadChunkBytes store.maxEventBytes
    (content.length + 1)).getD (.error ⟨"JSONL destination contains no event"⟩)).mapError
      fun e => AuditFault.os e.message
  let text ← orRaise (decodeStrict line) .unicode
  (Json.loadsText limits text).mapError .json

/-- The end of a verified append: the record is read back and compared. -/
def confirm (operation : String) (expected : Json φ) (content : Bytes) :
    Except AuditFault VerifiedWrite := do
  let observed ← store.lastEvent limits content
  raiseIf (!Json.pyEq true observed expected)
    (.verification "JSONL_AUDIT_DESTINATION_VERIFY_FAILED")
  return ⟨operation, ← canonicalJsonSha256 limits expected, ← canonicalJsonSha256 limits observed⟩

/-- What a verified append expects, and the journal that it writes. -/
def expectedWrite (φ : Type) [FloatText φ] [FloatValue φ] [FloatBits φ] (event : AuditEvent)
    (files : AuditFiles) : Except AuditFault (Json φ × Bytes) := do
  let line ← store.nextLine limits φ event files
  let expected ← (Json.loadsText limits line).mapError .json
  return (expected, ← store.appendLine line files.journal)

/-- `append_verified`. -/
def appendVerified (φ : Type) [FloatText φ] [FloatValue φ] [FloatBits φ] (event : AuditEvent)
    (files : AuditFiles) : Except AuditFault VerifiedWrite × AuditFiles :=
  match store.expectedWrite limits φ event files with
  | .ok (expected, content) =>
      (store.confirm limits "jsonl_append" expected content, { files with journal := some content })
  | .error e => (.error e, files)

/-- What `append_verified_idempotent` finds: whether the event is in the journal already.  Whether a
`nan` of the event is the object that the reader makes is a parameter. -/
def replays (φ : Type) [FloatText φ] [FloatValue φ] [FloatBits φ] (sameNan : Bool)
    (event : AuditEvent) (files : AuditFiles) : Except AuditFault Bool := do
  let expectedEvent ← event.members (φ := φ)
  let _ ← store.chainStateOrFail limits φ files
  match ← eventByIdentity φ limits event.eventType event.snapshotId files.journal with
  | none => return false
  | some existing => do
      raiseIf (!Json.pyEq sameNan (.obj (existingEvent existing)) (.obj expectedEvent))
        (.value "JSONL_AUDIT_IDEMPOTENCY_CONFLICT")
      return true

/-- `append_verified_idempotent`. -/
def appendVerifiedIdempotent (φ : Type) [FloatText φ] [FloatValue φ] [FloatBits φ] (sameNan : Bool)
    (event : AuditEvent) (files : AuditFiles) :
    Except AuditFault (Option VerifiedWrite) × AuditFiles :=
  match store.replays limits φ sameNan event files with
  | .error e => (.error e, files)
  | .ok true => (.ok none, files)
  | .ok false =>
      match store.expectedWrite limits φ event files with
      | .ok (expected, content) =>
          ((store.confirm limits "jsonl_append_idempotent" expected content).map some,
            { files with journal := some content })
      | .error e => (.error e, files)

end JsonlAuditStore

/-- A call of one of the processes, and a change of the legacy file. -/
inductive AuditCall where
  | append (store : JsonlAuditStore) (event : AuditEvent)
  | appendVerified (store : JsonlAuditStore) (event : AuditEvent)
  | appendVerifiedIdempotent (store : JsonlAuditStore) (sameNan : Bool) (event : AuditEvent)
  | writeLegacy (content : Bytes)

namespace AuditCall

/-- The store of a call is tamper evident. -/
def TamperEvident : AuditCall → Prop
  | append store _ => store.tamperEvident
  | appendVerified store _ => store.tamperEvident
  | appendVerifiedIdempotent store _ _ => store.tamperEvident
  | writeLegacy _ => True

/-- A call: the event that it reports as written, and the files after it. -/
def apply (limits : JsonLimits) (φ : Type) [FloatText φ] [FloatValue φ] [FloatBits φ]
    (files : AuditFiles) : AuditCall → Option AuditEvent × AuditFiles
  | append store event =>
      let (result, files) := store.append limits φ event files
      (if result.isOk then some event else none, files)
  | appendVerified store event =>
      let (result, files) := store.appendVerified limits φ event files
      (if result.isOk then some event else none, files)
  | appendVerifiedIdempotent store sameNan event =>
      let (result, files) := store.appendVerifiedIdempotent limits φ sameNan event files
      (if result.toOption.any Option.isSome then some event else none, files)
  | writeLegacy content => (none, { files with legacy := some content })

/-- A call after others: the events that were reported as written, in their order, and the files. -/
def step (limits : JsonLimits) (φ : Type) [FloatText φ] [FloatValue φ] [FloatBits φ]
    (state : List AuditEvent × AuditFiles) (call : AuditCall) : List AuditEvent × AuditFiles :=
  (state.1 ++ (call.apply limits φ state.2).1.toList, (call.apply limits φ state.2).2)

/-- The calls of all processes, one after another. -/
def run (limits : JsonLimits) (φ : Type) [FloatText φ] [FloatValue φ] [FloatBits φ]
    (calls : List AuditCall) (state : List AuditEvent × AuditFiles) : List AuditEvent × AuditFiles :=
  calls.foldl (step limits φ) state

end AuditCall

end Ai4Binance.Storage

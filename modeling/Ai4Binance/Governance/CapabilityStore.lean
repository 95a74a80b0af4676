/-
The store of capability leases (`governance/capability_store.py`, with the statements of
`migrations/queries/capability_store.sql`).

A lease is issued, consumed once for an execution, and verified before enforcement.  Every call
opens a connection of its own on the database, and the statements of several calls interleave:
a write is seen by the others when it is committed, and only one call at a time has a write
that is not.  A call may fail at any statement, and then its write is rolled back.

* `CapabilityLease`: leases, with the checks of their constructor;
* `insertLease`, `selectLease`, `consumeRow`: the statements;
* `CapabilityCall`, `CallProgress`: calls, and what is left of one;
* `CapabilitySystem.advance`, `CapabilityStep`: one statement of a call, and the steps of the
  system.
-/
import Ai4Binance.Lib.Isoformat
import Ai4Binance.Lib.Python
import Ai4Binance.Lib.Run

open Text Check

namespace Ai4Binance

/-! ### Leases -/

/-- `ToolPermission`. -/
inductive ToolPermission where
  | readOnly
  | networkRead
  | writeApproved
  deriving DecidableEq, Repr

/-- `permission.value`. -/
def ToolPermission.value : ToolPermission → String
  | .readOnly => "READ_ONLY"
  | .networkRead => "NETWORK_READ"
  | .writeApproved => "WRITE_APPROVED"

/-- `ToolSideEffect`. -/
inductive ToolSideEffect where
  | readLocal
  | networkRead
  | writeLocal
  | externalWrite
  | financial
  | forbidden
  deriving DecidableEq, Repr

/-- The fields of `ToolDescriptor` that the store reads. -/
structure ToolDescriptor where
  name : String
  allowedProjects : List String
  sideEffect : ToolSideEffect

/-- The exceptions of the store. -/
inductive CapabilityError where
  | value (message : String)
  | permission (code : String)
  | overflow
  | database
  deriving DecidableEq, Repr

/-- The fields of `CapabilityLease`. -/
structure LeaseFields where
  runId : String
  project : String
  toolName : String
  permission : ToolPermission
  policyHash : String
  issuedAt : AwareDatetime
  expiresAt : AwareDatetime
  leaseId : String
  consumedAt : Option AwareDatetime := none
  executionId : Option String := none
  scopeHash : String := ""
  deriving DecidableEq

/-- `CapabilityLease.__post_init__`. -/
def LeaseFields.checks (lease : LeaseFields) : List (Bool × String) :=
  [([lease.leaseId, lease.runId, lease.project, lease.toolName].any isBlank,
      "capability lease identity is required"),
    (lease.expiresAt.val.instant ≤ lease.issuedAt.val.instant,
      "capability lease expiry must be after issue time"),
    (lease.policyHash.length ≠ 64, "capability lease policy hash is invalid"),
    (lease.scopeHash ≠ "" ∧ (lease.scopeHash.length ≠ 64 ∨
        lease.scopeHash.toList.any fun c => !"0123456789abcdef".toList.contains c),
      "capability lease scope_hash is invalid")]

/-- `CapabilityLease`. -/
structure CapabilityLease extends LeaseFields where
  passes : Passes toLeaseFields.checks
  deriving DecidableEq

namespace CapabilityLease

/-- `CapabilityLease(…)`. -/
def create (lease : LeaseFields) : Except CapabilityError CapabilityLease :=
  if h : Passes lease.checks then .ok ⟨lease, h⟩ else .error (.value (firstRefusal lease.checks))

/-- The lease that `consume` returns. -/
def consume (lease : CapabilityLease) (now : AwareDatetime) (executionId : String) :
    CapabilityLease where
  toLeaseFields := { lease.toLeaseFields with
    consumedAt := some now
    executionId := some executionId }
  passes := lease.passes

/-- The columns that bind a lease, without its identity. -/
def binding (lease : CapabilityLease) : List String :=
  [lease.runId, lease.project, lease.toolName, lease.permission.value, lease.policyHash,
    lease.issuedAt.val.isoformat, lease.expiresAt.val.isoformat, lease.scopeHash]

end CapabilityLease

/-- The arguments of `issue`. -/
structure LeaseRequest where
  runId : String
  project : String
  descriptor : ToolDescriptor
  permission : ToolPermission
  policyHash : String
  scopeHash : String := ""

/-- The lease that `issue` builds: `leaseId` is the one it draws, `ttl` that of its store. -/
def LeaseRequest.lease (request : LeaseRequest) (leaseId : String) (issuedAt : AwareDatetime)
    (ttl : ℤ) : Except CapabilityError CapabilityLease := do
  raiseIf (request.descriptor.sideEffect ∈ [.externalWrite, .financial, .forbidden])
    (.permission "CAPABILITY_LEASE_PROHIBITED")
  raiseIf (request.descriptor.sideEffect = .writeLocal)
    (.permission "CAPABILITY_LEASE_APPROVAL_REQUIRED")
  raiseIf (request.project ∉ request.descriptor.allowedProjects)
    (.permission "CAPABILITY_PROJECT_NOT_ALLOWED")
  if h : (issuedAt.val.add ttl).InRange then
    CapabilityLease.create {
      runId := request.runId
      project := request.project
      toolName := request.descriptor.name
      permission := request.permission
      policyHash := request.policyHash
      issuedAt
      expiresAt := ⟨issuedAt.val.add ttl, h⟩
      leaseId
      scopeHash := request.scopeHash }
  else .error .overflow

/-! ### The table and its statements -/

/-- A row of `capability_leases`. -/
structure LeaseRow where
  leaseId : String
  binding : List String
  consumedAt : Option String := none
  executionId : Option String := none
  deriving DecidableEq

/-- The row of a lease that was issued. -/
def CapabilityLease.row (lease : CapabilityLease) : LeaseRow := ⟨lease.leaseId, lease.binding, none, none⟩

/-- `statement_02`: nothing when the primary key is taken. -/
def insertLease (rows : List LeaseRow) (row : LeaseRow) : Option (List LeaseRow) :=
  if row.leaseId ∈ rows.map (·.leaseId) then none else some (rows ++ [row])

/-- `statement_03` and `statement_05`. -/
def selectLease (rows : List LeaseRow) (leaseId : String) : Option LeaseRow :=
  rows.find? (·.leaseId = leaseId)

/-- The condition of `statement_04`. -/
def LeaseRow.Unconsumed (row : LeaseRow) (leaseId : String) : Prop :=
  row.leaseId = leaseId ∧ row.consumedAt = none

instance (row : LeaseRow) (leaseId : String) : Decidable (row.Unconsumed leaseId) :=
  inferInstanceAs (Decidable (_ ∧ _))

/-- `statement_04`: the rows and `rowcount`, or nothing when another row has the execution. -/
def consumeRow (rows : List LeaseRow) (consumedAt executionId leaseId : String) :
    Option (List LeaseRow × ℕ) :=
  let matched := rows.filter (·.Unconsumed leaseId)
  if matched ≠ [] ∧ ∃ row ∈ rows, ¬ row.Unconsumed leaseId ∧ row.executionId = some executionId then
    none
  else
    some (rows.map fun row =>
      if row.Unconsumed leaseId then
        { row with consumedAt := some consumedAt, executionId := some executionId }
      else row, matched.length)

/-- What `consume` checks of the row of its lease. -/
def checkConsume (row : Option LeaseRow) (lease : CapabilityLease) (now : AwareDatetime) :
    Except CapabilityError Unit := do
  let row ← orRaise row (.permission "CAPABILITY_NOT_REGISTERED")
  raiseIf (row.binding ≠ lease.binding) (.permission "CAPABILITY_BINDING_MISMATCH")
  raiseIf row.consumedAt.isSome (.permission "CAPABILITY_REPLAY_BLOCKED")
  raiseIf (lease.expiresAt.val.instant < now.val.instant) (.permission "CAPABILITY_EXPIRED")

/-- What `verify_consumed` checks of the row of its lease. -/
def checkConsumed (row : Option LeaseRow) (lease : CapabilityLease) (executionId : String)
    (enforcedAt : AwareDatetime) : Except CapabilityError Unit := do
  let row ← orRaise row (.permission "CAPABILITY_NOT_REGISTERED")
  raiseIf (row.binding ≠ lease.binding) (.permission "CAPABILITY_BINDING_MISMATCH")
  let consumedAt ← orRaise (if row.executionId = some executionId then row.consumedAt else none)
    (.permission "CAPABILITY_NOT_CONSUMED_FOR_ENFORCEMENT")
  let consumed ← orRaise (Timestamp.fromisoformat consumedAt) (.value "Invalid isoformat string")
  raiseIf (lease.consumedAt.map (·.val.instant) ≠ some consumed.instant ∨ consumed.utcoffset ≠ 0 ∨
      lease.expiresAt.val.instant < consumed.instant)
    (.permission "CAPABILITY_CONSUMPTION_OUT_OF_WINDOW")
  raiseIf (enforcedAt.val.instant < consumed.instant)
    (.permission "CAPABILITY_CONSUMPTION_AFTER_ENFORCEMENT")

/-! ### Calls -/

/-- A call, with the times that it reads from its clock. -/
inductive CapabilityCall where
  | issue (request : LeaseRequest) (leaseId : String) (now : AwareDatetime) (ttl : ℤ)
  | consume (lease : CapabilityLease) (executionId : String) (now : AwareDatetime)
  | verifyConsumed (lease : CapabilityLease) (executionId : String) (enforcedAt : AwareDatetime)

/-- What is left of a call: its next statement, where a write is left to be committed too. -/
inductive CallProgress where
  | inserting (lease : CapabilityLease)
  | inserted (lease : CapabilityLease)
  | selecting (lease : CapabilityLease) (executionId : String) (now : AwareDatetime)
  | updating (lease : CapabilityLease) (executionId : String) (now : AwareDatetime)
  | updated (lease : CapabilityLease) (executionId : String) (now : AwareDatetime)
  | verifying (lease : CapabilityLease) (executionId : String) (enforcedAt : AwareDatetime)

namespace CapabilityCall

/-- The clock of a call is a UTC clock. -/
def UtcClock : CapabilityCall → Prop
  | .issue _ _ now _ => now.val.utcoffset = 0
  | .consume _ _ now => now.val.utcoffset = 0
  | .verifyConsumed .. => True

/-- What a call does before its first statement. -/
def start : CapabilityCall → Except CapabilityError CallProgress
  | .issue request leaseId now ttl => do
      return .inserting (← request.lease leaseId now ttl)
  | .consume lease executionId now => do
      raiseIf (isBlank executionId) (.value "capability execution id is required")
      return .selecting lease executionId now
  | .verifyConsumed lease executionId enforcedAt => do
      raiseIf (enforcedAt.val.utcoffset ≠ 0) (.value "capability enforcement time must be UTC")
      return .verifying lease executionId enforcedAt

end CapabilityCall

/-- What happens to a call: it begins, runs a statement, returns or raises. -/
inductive CapabilityEvent where
  | begun (id : ℕ)
  | ran (id : ℕ)
  | issued (id : ℕ) (lease : CapabilityLease)
  | consumed (id : ℕ) (lease : CapabilityLease)
  | verified (id : ℕ) (lease : CapabilityLease) (executionId : String) (enforcedAt : AwareDatetime)
  | raised (id : ℕ) (error : CapabilityError)
  deriving DecidableEq

/-- The committed rows, the rows that one call has written and not committed, and the calls. -/
structure CapabilitySystem where
  rows : List LeaseRow := []
  writer : Option (ℕ × List LeaseRow) := none
  calls : ℕ → Option CallProgress := fun _ => none

namespace CapabilitySystem

variable (s : CapabilitySystem) (id : ℕ)

/-- A call goes on with what is left of it. -/
def goOn (progress : Option CallProgress) : CapabilitySystem :=
  { s with calls := Function.update s.calls id progress }

/-- A call raises: what it wrote is rolled back. -/
def raising (error : CapabilityError) : CapabilityEvent × CapabilitySystem :=
  (.raised id error, { s.goOn id none with writer := s.writer.filter (·.1 ≠ id) })

/-- A call ends with the commit of what it wrote. -/
def commit (event : CapabilityEvent) : Option (CapabilityEvent × CapabilitySystem) :=
  s.writer.bind fun (writer, rows) =>
    if writer = id then some (event, { s.goOn id none with rows, writer := none }) else none

/-- A call writes rows, unless another call has written some. -/
def write (progress : CallProgress) (rows : List LeaseRow) :
    Option (CapabilityEvent × CapabilitySystem) :=
  if s.writer = none then some (.ran id, { s.goOn id progress with writer := some (id, rows) })
  else none

/-- The next statement of a call.  A write waits while another call has one. -/
def advance : Option (CapabilityEvent × CapabilitySystem) :=
  match s.calls id with
  | none => none
  | some (.inserting lease) =>
      match insertLease s.rows lease.row with
      | none => if s.writer = none then some (s.raising id .database) else none
      | some rows => s.write id (.inserted lease) rows
  | some (.inserted lease) => s.commit id (.issued id lease)
  | some (.selecting lease executionId now) =>
      match checkConsume (selectLease s.rows lease.leaseId) lease now with
      | .error error => some (s.raising id error)
      | .ok () => some (.ran id, s.goOn id (some (.updating lease executionId now)))
  | some (.updating lease executionId now) =>
      match consumeRow s.rows now.val.isoformat executionId lease.leaseId with
      | none =>
          if s.writer = none then
            some (s.raising id (.permission "CAPABILITY_EXECUTION_REPLAY_BLOCKED"))
          else none
      | some (rows, updated) =>
          if updated ≠ 1 then
            if s.writer = none then some (s.raising id (.permission "CAPABILITY_REPLAY_BLOCKED"))
            else none
          else s.write id (.updated lease executionId now) rows
  | some (.updated lease executionId now) =>
      s.commit id (.consumed id (lease.consume now executionId))
  | some (.verifying lease executionId enforcedAt) =>
      match checkConsumed (selectLease s.rows lease.leaseId) lease executionId enforcedAt with
      | .error error => some (s.raising id error)
      | .ok () => some (.verified id lease executionId enforcedAt, s.goOn id none)

end CapabilitySystem

/-- The steps of the calls on one database. -/
inductive CapabilityStep : CapabilitySystem → CapabilityEvent → CapabilitySystem → Prop
  | begin {s : CapabilitySystem} {id : ℕ} {call : CapabilityCall} {progress : CallProgress}
      (idle : s.calls id = none) (utc : call.UtcClock) (start : call.start = .ok progress) :
      CapabilityStep s (.begun id) (s.goOn id (some progress))
  | refuse {s : CapabilitySystem} {id : ℕ} {call : CapabilityCall} {error : CapabilityError}
      (idle : s.calls id = none) (start : call.start = .error error) :
      CapabilityStep s (.raised id error) s
  | advance {s t : CapabilitySystem} {id : ℕ} {event : CapabilityEvent}
      (next : s.advance id = some (event, t)) : CapabilityStep s event t
  | fail {s : CapabilitySystem} {id : ℕ} {progress : CallProgress}
      (open_ : s.calls id = some progress) :
      CapabilityStep s (s.raising id .database).1 (s.raising id .database).2

end Ai4Binance

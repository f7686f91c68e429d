/-
# YHarness.Approval.Record -- one approval record and its lifecycle

The record checks and the two settlements of `src/approval/mod.rs`.  A record is
submitted as `pending` and leaves that status once, by a decision or by being
orphaned; `now` is the clock reading of the call.

`settleRecord_eq_ok` and `orphanRecord_eq_ok` say when a settlement succeeds and
what it writes.
-/
import YHarness.Runtime.Types
import YHarness.Kernel.Sizes
import YHarness.Kernel.Storage

namespace YHarness.Approval

open YHarness.Lib YHarness.Kernel
open YHarness.Runtime (ApprovalRecord ApprovalRecordStatus)
open YHarness.State (maxApprovalRecordBytes approvalInboxSchemaVersion)

set_option autoImplicit false

def maxApprovalReasonBytes : Nat := 4096
def approvalTerminalRecordReserveBytes : Nat := maxApprovalReasonBytes + 1024

/-! ## Encodings -/

def statusJson : ApprovalRecordStatus → Json
  | .pending => .obj [("status", .str "pending")]
  | .settled decision decidedBy =>
    .obj [("status", .str "settled"), ("decision", decision.toJson),
      ("decided_by", decidedBy.toJson)]
  | .orphaned reason => .obj [("status", .str "orphaned"), ("reason", .str reason)]

def recordJson (record : ApprovalRecord) : Json :=
  .obj ([("schema_version", jsonU32 record.schemaVersion), ("request", record.request.toJson)] ++
    skipNone "tenant_id" .str record.tenantId ++
    [("status", statusJson record.status), ("revision", jsonU64 record.revision),
      ("requested_at_ms", jsonU64 record.requestedAtMs),
      ("settled_at_ms", nullable jsonU64 record.settledAtMs)])

/-! ## Checks -/

def approvalJsonError (kind : String) (maximum : Nat) : BoundedJsonError → HarnessError
  | .limitExceeded => .approval s!"{kind} exceeds {maximum} bytes"
  | .cannotEncode => .approval s!"{kind} cannot be encoded"

def validateIdentity (kind value : String) : Except HarnessError Unit :=
  rejectIf (value.isEmpty || decide (256 < value.utf8ByteSize) || hasControl value)
    (.approval s!"{kind} identity must be 1-256 non-control bytes")

def validateReason (kind reason : String) : Except HarnessError Unit :=
  rejectIf (isBlank reason || decide (maxApprovalReasonBytes < reason.utf8ByteSize) ||
      hasControl reason)
    (.approval s!"{kind} reason must be 1-{maxApprovalReasonBytes} non-control bytes")

def validateDecision : ApprovalDecision → Except HarnessError Unit
  | .approve => .ok ()
  | .deny reason => validateReason "denial" reason

def validateRecordActor (kind : String) (actor : ApprovalActor) : Except HarnessError Unit :=
  (actor.validateShapeMessage kind).mapError .approval

def validateCurrentActor (kind : String) (actor : ApprovalActor) : Except HarnessError Unit :=
  actor.validateCurrent kind

def validateAuthority (authority : AuthorityContext) : Except HarnessError Unit :=
  (authority.validateCurrent "approval authority").mapError HarnessError.asApproval

def validateShape (kind : String) (value : Json) : Except HarnessError Unit :=
  (validateValueShape value).mapError fun _ =>
    .approval s!"{kind} exceeds the supported JSON depth or node count"

def validateRequest (request : ApprovalRequest) : Except HarnessError Unit := do
  validateIdentity "approval" request.id
  validateRecordActor "approval requester" request.requestedBy
  validateIdentity "thread" request.authorization.threadId
  validateIdentity "turn" request.authorization.turnId
  validateIdentity "tool call" request.authorization.callId
  validateCapabilityName "approval Tool" request.authorization.descriptor.name
  validateReason "Policy" request.reason
  rejectIf (isBlank request.authorization.descriptor.description)
    (.approval "approval Tool description is empty")
  validateShape "approval Tool input schema" request.authorization.descriptor.inputSchema
  validateShape "approval Tool input" request.authorization.input
  let _ ← (boundedSerializedSize request.toJson maxApprovalRecordBytes).mapError
    (approvalJsonError "approval request" maxApprovalRecordBytes)

def validateCurrentRequest (request : ApprovalRequest) : Except HarnessError Unit := do
  validateRequest request
  validateCurrentActor "approval requester" request.requestedBy

def validateSubmissionAuthority (request : ApprovalRequest) (authority : AuthorityContext) :
    Except HarnessError Unit := do
  validateAuthority authority
  rejectIf (request.requestedBy != authority.actor)
    (.approval "approval requester does not match submitting authority")

/-- A pending record leaves room for its settlement. -/
def maximumBytes (status : ApprovalRecordStatus) : Nat :=
  if status = .pending then maxApprovalRecordBytes - approvalTerminalRecordReserveBytes
  else maxApprovalRecordBytes

def validateStatus (record : ApprovalRecord) : Except HarnessError Unit :=
  match record.status, record.settledAtMs with
  | .pending, none => .ok ()
  | .settled decision decidedBy, some _ => do
    validateDecision decision
    validateRecordActor "approval settler" decidedBy
    rejectIf (record.request.requestedBy == decidedBy && decidedBy != .unattributedLegacy)
      (.approval "approval requester and settler identities are equal")
  | .orphaned reason, some _ => validateReason "orphan" reason
  | _, _ => .error (.approval "approval status and settlement timestamp disagree")

def validateRecord (record : ApprovalRecord) : Except HarnessError Unit := do
  rejectIf (record.schemaVersion != approvalInboxSchemaVersion || record.revision == 0)
    (.approval "approval record has unsupported schema or revision")
  validateRequest record.request
  (validateTenant record.tenantId).mapError HarnessError.asApproval
  rejectIf (record.request.requestedBy == .unattributedLegacy && record.status == .pending)
    (.approval "legacy unattributed approval request cannot remain pending")
  validateStatus record
  let _ ← (boundedSerializedSize (recordJson record) (maximumBytes record.status)).mapError
    (approvalJsonError "approval record lifecycle" (maximumBytes record.status))

/-! ## The lifecycle -/

def newRecord (request : ApprovalRequest) (tenantId : Option String) (now : UInt64) :
    ApprovalRecord :=
  ⟨approvalInboxSchemaVersion, request, tenantId, .pending, 1, now, none⟩

def matchingRequest (existing : ApprovalRecord) (request : ApprovalRequest)
    (tenantId : Option String) : Except HarnessError ApprovalRecord :=
  if existing.request = request ∧ existing.tenantId = tenantId then .ok existing
  else .error (.approval s!"approval {request.id} was reused with different content")

def nextRevision (revision : UInt64) : Except HarnessError UInt64 :=
  checkedNext (.approval "approval revision overflow") revision

/-- The record a decision leaves. -/
def settleRecord (record : ApprovalRecord) (expectedRevision : UInt64)
    (decision : ApprovalDecision) (decidedBy : ApprovalActor) (now : UInt64) :
    Except HarnessError ApprovalRecord := do
  rejectIf (record.revision != expectedRevision)
    (.approvalConflict record.request.id expectedRevision record.revision)
  rejectIf (record.status != .pending)
    (.approval s!"approval {record.request.id} is already terminal")
  validateCurrentActor "approval settler" decidedBy
  rejectIf (record.request.requestedBy == decidedBy)
    (.approval s!"approval {record.request.id} requester cannot settle the same request")
  let revision ← nextRevision record.revision
  let candidate := { record with
    revision, status := .settled decision decidedBy, settledAtMs := some now }
  validateRecord candidate
  .ok candidate

/-- The record that orphaning leaves; one that is not pending stays. -/
def orphanRecord (record : ApprovalRecord) (reason : String) (now : UInt64) :
    Except HarnessError ApprovalRecord :=
  if record.status ≠ .pending then .ok record
  else do
    let revision ← nextRevision record.revision
    let candidate := { record with
      revision, status := .orphaned reason, settledAtMs := some now }
    validateRecord candidate
    .ok candidate

/-- The record that a submission under a new identity creates. -/
def admitRecord (request : ApprovalRequest) (authority : AuthorityContext) (now : UInt64) :
    Except HarnessError ApprovalRecord := do
  validateCurrentRequest request
  validateSubmissionAuthority request authority
  let record := newRecord request authority.tenantId now
  validateRecord record
  .ok record

end YHarness.Approval

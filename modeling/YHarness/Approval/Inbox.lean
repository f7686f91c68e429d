/-
# YHarness.Approval.Inbox -- the in-memory and the SQLite Approval Inbox

A call holds the lock of the map or runs in one transaction, so it is one step on
the inbox.  A failed transaction leaves the table; the loop that orphans the records
of a Turn works on the map itself, so what it orphaned before an error stays.

A row of the table holds the record that its JSON text encodes beside the columns the
queries select by.  A reader of the text may give a fraction of the Tool input back with
other digits, on which no status, revision, tenant, Turn or requester depends.  The clock is
read when a record is made or settled.
-/
import YHarness.Kernel.Storage
import YHarness.Approval.Reserve

namespace YHarness.Approval

open YHarness.Lib YHarness.Kernel
open YHarness.Runtime (ApprovalRecord ApprovalRecordStatus)
open YHarness.State (maxApprovalRecordBytes approvalInboxSchemaVersion)

set_option autoImplicit false

def maxApprovalPage : Nat := 16
def maxApprovalsPerTurn : Nat := 256

def validatePage (limit : Nat) : Except HarnessError Unit :=
  rejectIf (!(decide (1 ≤ limit) && decide (limit ≤ maxApprovalPage)))
    (.approval s!"approval page limit must be 1-{maxApprovalPage}")

def doesNotExist (approvalId : ApprovalId) : HarnessError :=
  .approval s!"approval {approvalId} does not exist"

def turnExceeds : HarnessError :=
  .approval s!"Turn exceeds {maxApprovalsPerTurn} approval records"

def ofTurn (threadId : ThreadId) (turnId : TurnId) (tenantId : Option String)
    (record : ApprovalRecord) : Bool :=
  record.tenantId == tenantId && record.request.authorization.threadId == threadId &&
    record.request.authorization.turnId == turnId

def isPending (record : ApprovalRecord) : Bool :=
  record.status == .pending

/-- The order of a page of pending records. -/
def pageOrder (left right : ApprovalRecord) : Ordering :=
  (compare left.requestedAtMs right.requestedAtMs).then (compare left.request.id right.request.id)

/-- One turn of the loop that collects a page: `binary_search_by`, `insert` and `pop`. -/
def selectPending (limit : Nat) (selected : List ApprovalRecord) (record : ApprovalRecord) :
    List ApprovalRecord :=
  let position := (selected.takeWhile fun existing => pageOrder existing record == .lt).length
  if position < limit then (selected.insertIdx position record).take limit else selected

/-! ## Rows -/

/-- A row of `approval_records`. -/
structure ApprovalRow where
  tenantId : Option String
  threadId : ThreadId
  turnId : TurnId
  status : String
  revision : Int
  requestedAtMs : Int
  record : ApprovalRecord

def statusName : ApprovalRecordStatus → String
  | .pending => "pending"
  | .settled .. => "settled"
  | .orphaned _ => "orphaned"

def toSqlU64 (kind : String) (value : UInt64) : Except HarnessError Int :=
  i64TryFrom (.approval s!"{kind} exceeds SQLite INTEGER") value

def boundedText (kind : String) (maximum bytes : Nat) : Except HarnessError Unit :=
  rejectIf (decide (maximum < bytes)) (.approval s!"{kind} exceeds {maximum} bytes")

/-- The checks of `encode_record`. -/
def encodeRecord (record : ApprovalRecord) : Except HarnessError Unit := do
  validateRecord record
  let _ ← (boundedSerializedSize (recordJson record) maxApprovalRecordBytes).mapError
    (approvalJsonError "approval record" maxApprovalRecordBytes)

namespace ApprovalRow

/-- `read_indexed_record`. -/
def readIndexedRecord (row : ApprovalRow) : Except HarnessError Unit := do
  boundedText "stored approval status" 8 row.status.utf8ByteSize
  checkSome (fun tenant : String =>
    boundedText "stored approval tenant identity" 128 tenant.utf8ByteSize) row.tenantId
  boundedText "stored approval Thread identity" 256 row.threadId.utf8ByteSize
  boundedText "stored approval Turn identity" 256 row.turnId.utf8ByteSize
  boundedText "stored approval record" maxApprovalRecordBytes (recordJson row.record).encodedLen

/-- `decode_indexed_record`. -/
def decodeIndexedRecord (row : ApprovalRow) : Except HarnessError ApprovalRecord := do
  rejectIf (decide (maxApprovalRecordBytes < (recordJson row.record).encodedLen))
    (.approval s!"stored approval record exceeds {maxApprovalRecordBytes} bytes")
  validateRecord row.record
  rejectIf (decide (row.revision < 0)) (.approval "invalid stored approval revision")
  rejectIf (row.status != statusName row.record.status ||
      row.revision != row.record.revision.toNat || row.tenantId != row.record.tenantId ||
      row.threadId != row.record.request.authorization.threadId ||
      row.turnId != row.record.request.authorization.turnId)
    (.approval "approval record indexes do not match its body")
  .ok row.record

/-- A selected row. -/
def read (row : ApprovalRow) : Except HarnessError ApprovalRecord := do
  row.readIndexedRecord
  row.decodeIndexedRecord

def ofTurn (threadId : ThreadId) (turnId : TurnId) (tenantId : Option String)
    (row : ApprovalRow) : Bool :=
  row.tenantId == tenantId && row.threadId == threadId && row.turnId == turnId

/-- The row of a record. -/
def ofRecord (record : ApprovalRecord) : ApprovalRow :=
  ⟨record.tenantId, record.request.authorization.threadId, record.request.authorization.turnId,
    statusName record.status, record.revision.toNat, record.requestedAtMs.toNat, record⟩

end ApprovalRow

/-! ## The two inboxes -/

inductive ApprovalInbox where
  | memory (records : OrdMap ApprovalId ApprovalRecord)
  | sqlite (approvalRecords : OrdMap ApprovalId ApprovalRow)

/-- `WHERE approval_id = ?1 AND tenant_id IS ?2`. -/
def selectRow (rows : OrdMap ApprovalId ApprovalRow) (approvalId : ApprovalId)
    (tenantId : Option String) : Option ApprovalRow :=
  rows[approvalId]?.filter fun row => row.tenantId == tenantId

/-- `records.get(approval_id).filter(tenant)`. -/
def ownRecord (records : OrdMap ApprovalId ApprovalRecord) (approvalId : ApprovalId)
    (tenantId : Option String) : Option ApprovalRecord :=
  records[approvalId]?.filter fun record => record.tenantId == tenantId

/-- The loop of `orphan_turn_as` over the records of the map; `now` reads the clock. -/
def orphanRecords (reason : String) (now : ApprovalId → UInt64) :
    List (ApprovalId × ApprovalRecord) → OrdMap ApprovalId ApprovalRecord → Nat →
      Except HarnessError Nat × OrdMap ApprovalId ApprovalRecord
  | [], records, changed => (.ok changed, records)
  | (approvalId, record) :: rest, records, changed =>
    match orphanRecord record reason (now approvalId) with
    | .error error => (.error error, records)
    | .ok orphaned =>
      orphanRecords reason now rest (records.insert approvalId orphaned) (changed + 1)

/-- The loop of the transaction over the selected identities. -/
def orphanRows (reason : String) (tenantId : Option String) (now : ApprovalId → UInt64) :
    List ApprovalId → OrdMap ApprovalId ApprovalRow → Nat →
      Except HarnessError (Nat × OrdMap ApprovalId ApprovalRow)
  | [], rows, changed => .ok (changed, rows)
  | approvalId :: rest, rows, changed => do
    let row ← orError (.approval s!"approval {approvalId} disappeared during orphaning")
      (selectRow rows approvalId tenantId)
    let record ← row.read
    let orphaned ← orphanRecord record reason (now approvalId)
    encodeRecord orphaned
    let revision ← toSqlU64 "approval revision" orphaned.revision
    match (selectRow rows orphaned.request.id tenantId).filter
        fun stored => stored.status == "pending" with
    | none => orphanRows reason tenantId now rest rows changed
    | some stored =>
      orphanRows reason tenantId now rest (rows.insert orphaned.request.id
        { stored with status := "orphaned", revision, record := orphaned }) (changed + 1)

/-- The transaction of `orphan_turn_as`. -/
def orphanTransaction (rows : OrdMap ApprovalId ApprovalRow) (threadId : ThreadId)
    (turnId : TurnId) (reason : String) (tenantId : Option String) (now : ApprovalId → UInt64) :
    Except HarnessError (Nat × OrdMap ApprovalId ApprovalRow) := do
  let selected := (rows.toList.filter fun entry =>
    ApprovalRow.ofTurn threadId turnId tenantId entry.2 && entry.2.status == "pending").take
      maxApprovalsPerTurn
  checkAll (fun entry : ApprovalId × ApprovalRow =>
    boundedText "stored approval identity" 256 entry.1.utf8ByteSize) selected
  orphanRows reason tenantId now (selected.map (·.1)) rows 0

def validateOrphan (threadId : ThreadId) (turnId : TurnId) (reason : String)
    (authority : AuthorityContext) : Except HarnessError Unit := do
  validateIdentity "thread" threadId
  validateIdentity "turn" turnId
  validateReason "orphan" reason
  validateAuthority authority

namespace ApprovalInbox

/-- The record and the inbox after a submission. -/
def submitAs (inbox : ApprovalInbox) (request : ApprovalRequest) (authority : AuthorityContext)
    (now : UInt64) : Except HarnessError (ApprovalRecord × ApprovalInbox) := do
  validateCurrentRequest request
  validateSubmissionAuthority request authority
  let ⟨threadId, turnId, _, _, _, _⟩ := request.authorization
  match inbox with
  | memory records =>
    match records[request.id]? with
    | some existing => do
      let existing ← matchingRequest existing request authority.tenantId
      .ok (existing, inbox)
    | none => do
      rejectIf (decide (maxApprovalsPerTurn ≤ ((OrdMap.values records).filter
        (ofTurn threadId turnId authority.tenantId)).length)) turnExceeds
      let record := newRecord request authority.tenantId now
      validateRecord record
      .ok (record, memory (records.insert request.id record))
  | sqlite rows =>
    match selectRow rows request.id authority.tenantId with
    | some row => do
      let existing ← row.read
      let existing ← matchingRequest existing request authority.tenantId
      .ok (existing, inbox)
    | none => do
      rejectIf (decide (maxApprovalsPerTurn ≤ ((OrdMap.values rows).filter
        (ApprovalRow.ofTurn threadId turnId authority.tenantId)).length)) turnExceeds
      let record := newRecord request authority.tenantId now
      encodeRecord record
      let revision ← toSqlU64 "approval revision" record.revision
      let requestedAtMs ← toSqlU64 "approval timestamp" record.requestedAtMs
      -- the primary key is the identity alone
      rejectIf (rows.contains request.id)
        (.approval "UNIQUE constraint failed: approval_records.approval_id")
      .ok (record, sqlite (rows.insert request.id
        ⟨record.tenantId, threadId, turnId, "pending", revision, requestedAtMs, record⟩))

def getAs (inbox : ApprovalInbox) (approvalId : ApprovalId) (authority : AuthorityContext) :
    Except HarnessError (Option ApprovalRecord) := do
  validateIdentity "approval" approvalId
  validateAuthority authority
  match inbox with
  | memory records => .ok (ownRecord records approvalId authority.tenantId)
  | sqlite rows =>
    match selectRow rows approvalId authority.tenantId with
    | none => .ok none
    | some row => do
      let record ← row.read
      .ok (some record)

def pendingAs (inbox : ApprovalInbox) (limit : Nat) (authority : AuthorityContext) :
    Except HarnessError (List ApprovalRecord) := do
  validatePage limit
  validateAuthority authority
  match inbox with
  | memory records =>
    .ok (((OrdMap.values records).filter fun record =>
      record.tenantId == authority.tenantId && isPending record).foldl (selectPending limit) [])
  | sqlite rows =>
    let selected := (rows.toList.filter fun entry =>
      entry.2.tenantId == authority.tenantId && entry.2.status == "pending").mergeSort
        fun left right => ((compare left.2.requestedAtMs right.2.requestedAtMs).then
          (compare left.1 right.1)).isLE
    (selected.take limit).mapM fun entry => do
      let record ← entry.2.read
      rejectIf (!isPending record)
        (.approval "pending approval index returned a terminal record")
      .ok record

/-- The settled record and the inbox after a decision. -/
def settleAs (inbox : ApprovalInbox) (approvalId : ApprovalId) (expectedRevision : UInt64)
    (decision : ApprovalDecision) (authority : AuthorityContext) (now : UInt64) :
    Except HarnessError (ApprovalRecord × ApprovalInbox) := do
  validateIdentity "approval" approvalId
  validateDecision decision
  validateAuthority authority
  match inbox with
  | memory records => do
    let record ← orError (doesNotExist approvalId)
      (ownRecord records approvalId authority.tenantId)
    let settled ← settleRecord record expectedRevision decision authority.actor now
    .ok (settled, memory (records.insert approvalId settled))
  | sqlite rows => do
    let row ← orError (doesNotExist approvalId) (selectRow rows approvalId authority.tenantId)
    let record ← row.read
    let settled ← settleRecord record expectedRevision decision authority.actor now
    encodeRecord settled
    let revision ← toSqlU64 "approval revision" settled.revision
    let expected ← toSqlU64 "expected approval revision" expectedRevision
    rejectIf (row.revision != expected || row.status != "pending")
      (.approvalConflict approvalId expectedRevision settled.revision)
    .ok (settled, sqlite (rows.insert approvalId
      { row with status := "settled", revision, record := settled }))

/-- The count of `orphan_turn_as` and the inbox it leaves, also when it fails. -/
def orphanTurnAs (inbox : ApprovalInbox) (threadId : ThreadId) (turnId : TurnId) (reason : String)
    (authority : AuthorityContext) (now : ApprovalId → UInt64) :
    Except HarnessError Nat × ApprovalInbox :=
  match validateOrphan threadId turnId reason authority with
  | .error error => (.error error, inbox)
  | .ok () =>
    match inbox with
    | memory records =>
      let entries := records.toList.filter fun entry =>
        ofTurn threadId turnId authority.tenantId entry.2 && isPending entry.2
      let result := orphanRecords reason now entries records 0
      (result.1, memory result.2)
    | sqlite rows =>
      match orphanTransaction rows threadId turnId reason authority.tenantId now with
      | .error error => (.error error, inbox)
      | .ok (changed, rows) => (.ok changed, sqlite rows)

end ApprovalInbox

end YHarness.Approval

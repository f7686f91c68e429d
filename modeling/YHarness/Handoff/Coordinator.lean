/-
# YHarness.Handoff.Coordinator -- the stores of Human Handoffs

The in-memory and the SQLite Human Handoff Coordinator of
`src/human_handoff/coordinator.rs`: every call holds the lock of the map, or runs in
one transaction that an error rolls back, so a run of a coordinator is a sequence of
calls.  A row holds what the JSON text of its Handoff says, and five columns of it
that queue pages and scans select by.
-/
import YHarness.Kernel.Storage
import YHarness.Handoff.Aggregate

namespace YHarness.Handoff

open YHarness.Lib YHarness.Kernel

set_option autoImplicit false

structure HumanHandoffSnapshot where
  id : HumanHandoffId
  tenantId : Option String
  revision : UInt64
  handoff : HumanHandoff
deriving DecidableEq

structure HumanHandoffCommandResult where
  snapshot : HumanHandoffSnapshot
  outcome : HumanHandoffApplyOutcome

def validateAccess (handoffId : HumanHandoffId) (authority : AuthorityContext) :
    Except HarnessError Unit := do
  authority.validateCurrent "Human Handoff Coordinator authority"
  validateIdentity "Human Handoff" handoffId

def validateExpectedRevision (revision : UInt64) : Except HarnessError Unit :=
  rejectIf (revision == 0) (.humanHandoff "Human Handoff revision must be positive")

def missingHandoff (handoffId : HumanHandoffId) : HarnessError :=
  .humanHandoff s!"Human Handoff {handoffId} does not exist"

def existsDifferently (handoffId : HumanHandoffId) : HarnessError :=
  .humanHandoff
    s!"Human Handoff {handoffId} already exists with different actor or creation content"

def nextRevision (revision : UInt64) : Except HarnessError UInt64 :=
  checkedNext (.humanHandoff "Human Handoff revision overflow") revision

def statusName : HumanHandoffStatus → String
  | .queued => "queued"
  | .claimed _ => "claimed"
  | .resolved .. => "resolved"
  | .cancelled _ => "cancelled"

structure MemoryHumanHandoffCoordinator where
  handoffs : OrdMap StoreKey HumanHandoffSnapshot

section Memory

variable [Sha256]

namespace MemoryHumanHandoffCoordinator

def empty : MemoryHumanHandoffCoordinator :=
  ⟨∅⟩

/-- The snapshot and the map after a creation. -/
def createAs (store : MemoryHumanHandoffCoordinator) (handoffId : HumanHandoffId)
    (request : HumanHandoffCreateRequest) (appliedAtMs : UInt64) (authority : AuthorityContext) :
    Except HarnessError (HumanHandoffSnapshot × MemoryHumanHandoffCoordinator) := do
  validateAccess handoffId authority
  match store.handoffs[storageKey handoffId authority.tenantId]? with
  | some existing => do
    let same ← existing.handoff.createMatches request authority.actor
    if same then .ok (existing, store) else .error (existsDifferently handoffId)
  | none => do
    let handoff ← HumanHandoff.new request appliedAtMs authority
    let snapshot : HumanHandoffSnapshot := ⟨handoffId, authority.tenantId, 1, handoff⟩
    .ok (snapshot,
      ⟨store.handoffs.insert (storageKey handoffId authority.tenantId) snapshot⟩)

def loadAs (store : MemoryHumanHandoffCoordinator) (handoffId : HumanHandoffId)
    (authority : AuthorityContext) : Except HarnessError (Option HumanHandoffSnapshot) := do
  validateAccess handoffId authority
  .ok store.handoffs[storageKey handoffId authority.tenantId]?

/-- The result and the map after a command. -/
def applyAs (store : MemoryHumanHandoffCoordinator) (handoffId : HumanHandoffId)
    (expectedRevision : UInt64) (command : HumanHandoffCommand) (appliedAtMs : UInt64)
    (authority : AuthorityContext) :
    Except HarnessError (HumanHandoffCommandResult × MemoryHumanHandoffCoordinator) := do
  validateAccess handoffId authority
  validateExpectedRevision expectedRevision
  let current ← orError (missingHandoff handoffId)
    store.handoffs[storageKey handoffId authority.tenantId]?
  let recognized ← current.handoff.recognizesCommand command authority.actor
  if recognized then .ok (⟨current, .duplicate⟩, store)
  else do
    rejectIf (current.revision != expectedRevision)
      (.humanHandoffConflict handoffId expectedRevision current.revision)
    let (handoff, outcome) ← current.handoff.apply command appliedAtMs authority
    let revision ← nextRevision current.revision
    let saved : HumanHandoffSnapshot := ⟨current.id, current.tenantId, revision, handoff⟩
    .ok (⟨saved, outcome⟩,
      ⟨store.handoffs.insert (storageKey handoffId authority.tenantId) saved⟩)

end MemoryHumanHandoffCoordinator

end Memory

/-! ## The SQLite coordinator -/

def humanHandoffSchemaVersion : Int := 1
def maxHandoffQueueBytes : Nat := 64
def maxHandoffStatusBytes : Nat := 9

/-- An error of SQLite has no text of its own before it. -/
def sqlError (message : String) : HarnessError :=
  .humanHandoff message

def sqlRevision (revision : UInt64) : Except HarnessError Int :=
  i64TryFrom (.humanHandoff "Handoff revision exceeds SQLite") revision

def sqlTime (value : UInt64) : Except HarnessError Int :=
  i64TryFrom (.humanHandoff "Handoff time exceeds SQLite") value

/-- `u64::try_from` of a column. -/
def fromSql (invalid : String) (column : Int) : Except HarnessError UInt64 :=
  u64TryFrom (.humanHandoff invalid) column

/-- `u8::try_from` of the priority column. -/
def priorityFromSql (column : Int) : Except HarnessError UInt8 :=
  if 0 ≤ column ∧ column < 256 then .ok (UInt8.ofNat column.toNat)
  else .error (.humanHandoff "invalid Handoff priority")

def boundedTextColumn (kind : String) (maximum bytes : Nat) : Except HarnessError Unit :=
  rejectIf (decide (maximum < bytes)) (sqlError s!"{kind} exceeds {maximum} bytes")

/-- What the JSON text of a Handoff says: all but its charge. -/
structure HumanHandoffWire where
  subject : HumanHandoffSubject
  queue : String
  reasonCode : String
  priority : UInt8
  requestedAtMs : UInt64
  status : HumanHandoffStatus
  transitions : List HumanHandoffTransition

def HumanHandoff.toWire (h : HumanHandoff) : HumanHandoffWire :=
  ⟨h.subject, h.queue, h.reasonCode, h.priority, h.requestedAtMs, h.status, h.transitions⟩

/-- The Handoff of a text before its charge is computed. -/
def HumanHandoffWire.uncharged (w : HumanHandoffWire) : HumanHandoff :=
  ⟨w.subject, w.queue, w.reasonCode, w.priority, w.requestedAtMs, w.status, w.transitions, 0⟩

/-- A row of `human_handoffs`; its key is the tenant and the identity. -/
structure HumanHandoffRow where
  schemaVersion : Int
  revision : Int
  queue : String
  priority : Int
  requestedAtMs : Int
  status : String
  handoff : HumanHandoffWire

structure SqliteHumanHandoffCoordinator where
  handoffs : OrdMap StoreKey HumanHandoffRow

section Sqlite

variable [Sha256]

/-- `Deserialize`; the position that the decoder adds to an error is left out. -/
def HumanHandoffWire.deserialize (w : HumanHandoffWire) : Except HarnessError HumanHandoff :=
  (do
    w.uncharged.validate
    let materializationChargeBytes ← w.uncharged.encodedSize
    .ok { w.uncharged with materializationChargeBytes }).mapError fun error : HarnessError =>
      .humanHandoff ("decode Human Handoff: " ++ error.display)

/-- `decode_snapshot`. -/
def decodeSnapshot (handoffId : HumanHandoffId) (tenantId : Option String)
    (row : HumanHandoffRow) : Except HarnessError HumanHandoffSnapshot := do
  rejectIf (row.schemaVersion != humanHandoffSchemaVersion)
    (.humanHandoff s!"Human Handoff {handoffId} uses unsupported schema {row.schemaVersion}")
  let revision ← fromSql "invalid Handoff revision" row.revision
  validateExpectedRevision revision
  let priority ← priorityFromSql row.priority
  let requestedAtMs ← fromSql "invalid Handoff request time" row.requestedAtMs
  let handoff ← row.handoff.deserialize
  handoff.validate
  rejectIf (handoff.queue != row.queue || handoff.priority != priority ||
      handoff.requestedAtMs != requestedAtMs || statusName handoff.status != row.status)
    (.humanHandoff "Human Handoff SQLite projection differs from aggregate")
  .ok ⟨handoffId, tenantId, revision, handoff⟩

/-- The checks of `encode_handoff`. -/
def encodeHandoff (h : HumanHandoff) : Except HarnessError Unit := do
  h.validate
  rejectIf (decide (maxHandoffJsonBytes < h.toJson.encodedLen))
    (.humanHandoff s!"Human Handoff exceeds {maxHandoffJsonBytes} encoded bytes")

namespace SqliteHumanHandoffCoordinator

def empty : SqliteHumanHandoffCoordinator :=
  ⟨∅⟩

def loadSnapshot (store : SqliteHumanHandoffCoordinator) (handoffId : HumanHandoffId)
    (tenantId : Option String) : Except HarnessError (Option HumanHandoffSnapshot) :=
  match store.handoffs[storageKey handoffId tenantId]? with
  | none => .ok none
  | some row => do
    boundedTextColumn "Human Handoff queue" maxHandoffQueueBytes row.queue.utf8ByteSize
    boundedTextColumn "Human Handoff status" maxHandoffStatusBytes row.status.utf8ByteSize
    boundedTextColumn "Human Handoff" maxHandoffJsonBytes row.handoff.uncharged.toJson.encodedLen
    let snapshot ← decodeSnapshot handoffId tenantId row
    .ok (some snapshot)

/-- The snapshot and the table after a creation. -/
def createAs (store : SqliteHumanHandoffCoordinator) (handoffId : HumanHandoffId)
    (request : HumanHandoffCreateRequest) (appliedAtMs : UInt64) (authority : AuthorityContext) :
    Except HarnessError (HumanHandoffSnapshot × SqliteHumanHandoffCoordinator) := do
  validateAccess handoffId authority
  let found ← store.loadSnapshot handoffId authority.tenantId
  match found with
  | some existing => do
    let same ← existing.handoff.createMatches request authority.actor
    if same then .ok (existing, store) else .error (existsDifferently handoffId)
  | none => do
    let handoff ← HumanHandoff.new request appliedAtMs authority
    encodeHandoff handoff
    let requestedAtMs ← sqlTime handoff.requestedAtMs
    rejectIf (decide (requestedAtMs ≤ 0))
      (sqlError "CHECK constraint failed: requested_at_ms > 0")
    rejectIf (store.handoffs.contains (storageKey handoffId authority.tenantId))
      (sqlError "UNIQUE constraint failed: human_handoffs.tenant_id, human_handoffs.handoff_id")
    .ok (⟨handoffId, authority.tenantId, 1, handoff⟩,
      ⟨store.handoffs.insert (storageKey handoffId authority.tenantId)
        ⟨humanHandoffSchemaVersion, 1, handoff.queue, handoff.priority.toNat, requestedAtMs,
          statusName handoff.status, handoff.toWire⟩⟩)

def loadAs (store : SqliteHumanHandoffCoordinator) (handoffId : HumanHandoffId)
    (authority : AuthorityContext) : Except HarnessError (Option HumanHandoffSnapshot) := do
  validateAccess handoffId authority
  store.loadSnapshot handoffId authority.tenantId

/-- The result and the table after a command. -/
def applyAs (store : SqliteHumanHandoffCoordinator) (handoffId : HumanHandoffId)
    (expectedRevision : UInt64) (command : HumanHandoffCommand) (appliedAtMs : UInt64)
    (authority : AuthorityContext) :
    Except HarnessError (HumanHandoffCommandResult × SqliteHumanHandoffCoordinator) := do
  validateAccess handoffId authority
  validateExpectedRevision expectedRevision
  let found ← store.loadSnapshot handoffId authority.tenantId
  let current ← orError (missingHandoff handoffId) found
  let recognized ← current.handoff.recognizesCommand command authority.actor
  if recognized then .ok (⟨current, .duplicate⟩, store)
  else do
    rejectIf (current.revision != expectedRevision)
      (.humanHandoffConflict handoffId expectedRevision current.revision)
    let (handoff, outcome) ← current.handoff.apply command appliedAtMs authority
    let revision ← nextRevision current.revision
    encodeHandoff handoff
    let nextSql ← sqlRevision revision
    let currentSql ← sqlRevision current.revision
    let row ← orError (.humanHandoff "Human Handoff atomic update changed an unexpected row count")
      (store.handoffs[storageKey handoffId authority.tenantId]?.filter fun row =>
        row.revision == currentSql)
    .ok (⟨⟨handoffId, current.tenantId, revision, handoff⟩, outcome⟩,
      ⟨store.handoffs.insert (storageKey handoffId authority.tenantId)
        { row with
          revision := nextSql, status := statusName handoff.status, handoff := handoff.toWire }⟩)

end SqliteHumanHandoffCoordinator

end Sqlite

end YHarness.Handoff

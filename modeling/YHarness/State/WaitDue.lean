/-
# YHarness.State.WaitDue -- the live-wait row beside the journal

The pure reducer of `src/state/wait_due.rs`: the fixed-size row an Event Store
keeps for a Thread with an open wait, how one stored event changes it, and the
due index key and discovery record derived from it.
-/
import YHarness.State.Wait

namespace YHarness.State

open YHarness.Lib YHarness.Kernel

set_option autoImplicit false

def invalidDue (reason : String) : HarnessError :=
  .state ("Agent Loop due scan " ++ reason)

def validateIdentity (kind value : String) : Except HarnessError Unit :=
  rejectIf (value.isEmpty || decide (256 < value.utf8ByteSize) || hasControl value)
    (invalidDue (kind ++ " identity must be 1-256 non-control bytes"))

inductive AgentLoopDuePhase where
  | waiting | readyAllow | readyDeny
deriving DecidableEq

/-- The live row of one Thread. -/
structure AgentLoopWaitProjection where
  phase : AgentLoopDuePhase
  tenantId : Option String
  threadId : ThreadId
  turnId : TurnId
  waitId : AgentLoopWaitId
  revision : UInt64
  dueAtMs : Option UInt64
  approvalId : ApprovalId
  envelopeSha256 : String
  waitStartedEventId : EventId
  currentTransitionEventId : EventId
  resumeCommandId : Option AgentLoopResumeCommandId

structure AgentLoopDueIndexKey where
  tenantId : Option String
  dueAtMs : UInt64
  threadId : ThreadId
  turnId : TurnId
  waitId : AgentLoopWaitId
deriving DecidableEq

namespace AgentLoopWaitProjection

/-- The phase agrees with the revision, the resume command and the transition. -/
def phaseConsistent (row : AgentLoopWaitProjection) : Bool :=
  match row.phase with
  | .waiting => row.revision == 1 && row.resumeCommandId.isNone &&
      row.currentTransitionEventId == row.waitStartedEventId
  | .readyAllow | .readyDeny => decide (2 ≤ row.revision) && row.resumeCommandId.isSome &&
      row.currentTransitionEventId != row.waitStartedEventId

def validate (row : AgentLoopWaitProjection) : Except HarnessError Unit := do
  validateIdentity "projection Thread" row.threadId
  validateIdentity "projection Turn" row.turnId
  validateIdentity "projection wait" row.waitId
  validateIdentity "projection Approval" row.approvalId
  validateIdentity "projection wait-start event" row.waitStartedEventId
  validateIdentity "projection transition event" row.currentTransitionEventId
  checkSome (validateIdentity "projection resume command") row.resumeCommandId
  (validateTenant row.tenantId).mapError fun _ => invalidDue "projection tenant is invalid"
  rejectIf (row.dueAtMs == some 0 || !isLowerSha256 row.envelopeSha256)
    (invalidDue "projection due time or envelope digest is invalid")
  rejectIf (!row.phaseConsistent)
    (invalidDue "projection phase, revision, or transition is inconsistent")
  rejectIf (row.phase == .readyDeny && row.dueAtMs.isNone)
    (invalidDue "accepted denial must be immediately due")

def dueIndexKey (row : AgentLoopWaitProjection) : Option AgentLoopDueIndexKey :=
  row.dueAtMs.map fun dueAtMs => ⟨row.tenantId, dueAtMs, row.threadId, row.turnId, row.waitId⟩

end AgentLoopWaitProjection

/-! ## The reducer -/

inductive AgentLoopWaitProjectionChange where
  | unchanged
  | upsert (row : AgentLoopWaitProjection)
  | delete (row : AgentLoopWaitProjection)

def requireCurrent (current : Option AgentLoopWaitProjection) (threadId : ThreadId)
    (turnId : TurnId) : Except HarnessError AgentLoopWaitProjection := do
  let row ← orError (invalidDue "lifecycle event has no live row") current
  rejectIf (row.threadId != threadId || row.turnId != turnId)
    (invalidDue "lifecycle event coordinates differ")
  row.validate
  .ok row

/-- `settlement_matches_projection`.  Only migration validation passes another
source Thread, so the row's own Thread is the one compared. -/
def settlementMatchesProjection (settlement : ApprovalSettlementEvidence)
    (row : AgentLoopWaitProjection) : Bool :=
  settlement.request.id == row.approvalId && settlement.tenantId == row.tenantId &&
    settlement.request.authorization.threadId == row.threadId &&
    settlement.request.authorization.turnId == row.turnId

/-- The phase and due time an accepted settlement moves a row to. -/
def settledPhase (row : AgentLoopWaitProjection) (evidence : ResumeEvidence) :
    AgentLoopDuePhase × Option UInt64 :=
  match evidence.settlement.decision with
  | .approve => (.readyAllow, row.dueAtMs)
  | .deny _ => (.readyDeny, some evidence.acceptedAtMs)

/-- The change of `projection_change` before its row is validated. -/
def requestedChange (stored : StoredEvent) (current : Option AgentLoopWaitProjection) :
    Except HarnessError AgentLoopWaitProjectionChange :=
  match stored.event with
  | .waitStarted turnId _ transition => do
    rejectIf current.isSome (invalidDue "WaitStarted found an existing live row")
    match transition.kind with
    | .agentLoopWaitStarted envelope => do
      rejectIf (stored.threadId != envelope.threadId || turnId != envelope.turnId)
        (invalidDue "WaitStarted coordinates differ")
      .ok (.upsert
        { phase := .waiting
          tenantId := envelope.tenantId
          threadId := stored.threadId
          turnId
          waitId := envelope.waitId
          revision := envelope.revision
          dueAtMs := envelope.expiresAtMs
          approvalId := envelope.waitKind.request.id
          envelopeSha256 := envelope.envelopeSha256
          waitStartedEventId := stored.eventId
          currentTransitionEventId := stored.eventId
          resumeCommandId := none })
    | _ => .error (invalidDue "WaitStarted transition kind is invalid")
  | .acceptResume turnId _ transition => do
    let row ← requireCurrent current stored.threadId turnId
    rejectIf (row.phase != .waiting) (invalidDue "AcceptResume requires Waiting")
    match transition.kind with
    | .agentLoopResumeAccepted evidence => do
      rejectIf (evidence.waitId != row.waitId || evidence.previousRevision != row.revision ||
          checkedSucc row.revision != some evidence.revision ||
          !settlementMatchesProjection evidence.settlement row)
        (invalidDue "AcceptResume fence differs")
      let (phase, dueAtMs) := settledPhase row evidence
      .ok (.upsert { row with
        phase
        revision := evidence.revision
        dueAtMs
        currentTransitionEventId := stored.eventId
        resumeCommandId := some evidence.commandId })
    | _ => .error (invalidDue "AcceptResume transition kind is invalid")
  | .claimReady turnId transition => do
    let row ← requireCurrent current stored.threadId turnId
    match transition.kind with
    | .agentLoopReadyClaimed evidence => do
      rejectIf (row.phase != .readyAllow || evidence.waitId != row.waitId ||
          evidence.previousRevision != row.revision ||
          checkedSucc row.revision != some evidence.revision ||
          row.resumeCommandId != some evidence.resumeCommandId)
        (invalidDue "ClaimReady fence differs")
      .ok (.delete row)
    | _ => .error (invalidDue "ClaimReady transition kind is invalid")
  | .waitClosed turnId _ transition _ => do
    let row ← requireCurrent current stored.threadId turnId
    match transition.kind with
    | .agentLoopWaitClosed evidence => do
      rejectIf (row.phase == .readyDeny || evidence.waitId != row.waitId ||
          evidence.previousRevision != row.revision ||
          checkedSucc row.revision != some evidence.revision)
        (invalidDue "WaitClosed fence differs")
      .ok (.delete row)
    | _ => .error (invalidDue "WaitClosed transition kind is invalid")
  | .denyWait turnId _ transition => do
    let row ← requireCurrent current stored.threadId turnId
    match transition.kind with
    | .agentLoopWaitDenied evidence => do
      rejectIf (row.phase == .readyAllow || evidence.waitId != row.waitId ||
          evidence.previousRevision != row.revision ||
          checkedSucc row.revision != some evidence.revision ||
          !settlementMatchesProjection evidence.settlement row ||
          !evidence.settlement.decision.isDeny)
        (invalidDue "DenyWait fence differs")
      .ok (.delete row)
    | _ => .error (invalidDue "DenyWait transition kind is invalid")
  | .turnFinished turnId _ | .turnCompleted turnId _ => do
    rejectIf (current.any fun row => row.turnId == turnId)
      (invalidDue "ordinary terminal event cannot bypass a live wait row")
    .ok .unchanged
  | _ => .ok .unchanged

def validateChange : AgentLoopWaitProjectionChange → Except HarnessError Unit
  | .upsert row => row.validate
  | _ => .ok ()

/-- `projection_change`. -/
def projectionChange (stored : StoredEvent) (current : Option AgentLoopWaitProjection) :
    Except HarnessError AgentLoopWaitProjectionChange := do
  let change ← requestedChange stored current
  validateChange change
  .ok change

/-! ## Due discovery -/

/-- The exact wait fence a due scan returns. -/
structure AgentLoopDueWait where
  phase : AgentLoopDuePhase
  tenantId : Option String
  threadId : ThreadId
  turnId : TurnId
  waitId : AgentLoopWaitId
  revision : UInt64
  dueAtMs : UInt64
  envelopeSha256 : String
  waitStartedEventId : EventId
  currentTransitionEventId : EventId
  expectedStreamVersion : Nat
  expectedStreamRecoveryBytes : Nat

/-- `AgentLoopDueWait::validate`. -/
def AgentLoopDueWait.validate (due : AgentLoopDueWait) (atMs : UInt64)
    (expectedTenantId : Option String) : Except HarnessError Unit := do
  rejectIf (atMs == 0 || due.dueAtMs == 0 || decide (atMs < due.dueAtMs))
    (invalidDue "wait has not reached its server due time")
  validateIdentity "Thread" due.threadId
  validateIdentity "Turn" due.turnId
  validateIdentity "wait" due.waitId
  (validateTenant due.tenantId).mapError fun _ => invalidDue "tenant identity is invalid"
  rejectIf (due.tenantId != expectedTenantId)
    (invalidDue "tenant projection differs from scan authority")
  rejectIf (!(match due.phase with
      | .waiting => due.revision == 1
      | .readyAllow | .readyDeny => decide (2 ≤ due.revision)))
    (invalidDue "phase and revision are inconsistent")
  rejectIf (!isLowerSha256 due.envelopeSha256)
    (invalidDue "envelope digest is not lowercase SHA-256")
  validateIdentity "wait-start event" due.waitStartedEventId
  validateIdentity "current transition event" due.currentTransitionEventId
  rejectIf (!(match due.phase with
      | .waiting => due.currentTransitionEventId == due.waitStartedEventId
      | .readyAllow | .readyDeny => due.currentTransitionEventId != due.waitStartedEventId))
    (invalidDue "phase and current transition event are inconsistent")
  rejectIf (due.expectedStreamVersion == 0 || due.expectedStreamRecoveryBytes == 0)
    (invalidDue "stream version and recovery-byte fences must be non-zero")

/-- `AgentLoopWaitProjection::due_wait`. -/
def AgentLoopWaitProjection.dueWait (row : AgentLoopWaitProjection)
    (expectedStreamVersion expectedStreamRecoveryBytes : Nat) :
    Except HarnessError AgentLoopDueWait := do
  let dueAtMs ← orError (invalidDue "projection is not scheduled") row.dueAtMs
  let due : AgentLoopDueWait :=
    { phase := row.phase, tenantId := row.tenantId, threadId := row.threadId,
      turnId := row.turnId, waitId := row.waitId, revision := row.revision, dueAtMs,
      envelopeSha256 := row.envelopeSha256, waitStartedEventId := row.waitStartedEventId,
      currentTransitionEventId := row.currentTransitionEventId, expectedStreamVersion,
      expectedStreamRecoveryBytes }
  due.validate dueAtMs row.tenantId
  .ok due

end YHarness.State

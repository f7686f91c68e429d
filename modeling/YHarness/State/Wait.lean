/-
# YHarness.State.Wait -- the durable Approval wait of a Turn

The wait envelope, the evidence of its transitions and the projection that reads
them back from a Turn's Items (`src/state/mod.rs`).  A Turn is `Waiting` after
its envelope is recorded, `Ready` after a settlement is accepted, `Executing`
after a worker claims the approved call; a closure or a denial ends the Turn.
-/
import YHarness.Completion

namespace YHarness.State

open YHarness.Lib YHarness.Kernel

set_option autoImplicit false

def maxAgentLoopWaitMs : Nat := 86400000
def maxApprovalRecordBytes : Nat := 525312
def approvalInboxSchemaVersion : UInt32 := 3
def maxStateEventBytes : Nat := 8388608

def stateJsonError (kind : String) (maximum : Nat) : BoundedJsonError → HarnessError
  | .limitExceeded => .state s!"{kind} exceeds {maximum} bytes"
  | .cannotEncode => .state s!"cannot encode {kind}"

/-- `state_completion_error`. -/
def stateCompletionError : HarnessError → HarnessError
  | .state message => .state message
  | error => error.asState

/-- A 64-bit successor that stops at the maximum (`saturating_add(1)`). -/
def saturatingSucc (n : UInt64) : UInt64 :=
  if n.toNat + 1 < UInt64.size then n + 1 else n

/-- `checked_add(1)`. -/
def checkedSucc (n : UInt64) : Option UInt64 :=
  if n.toNat + 1 < UInt64.size then some (n + 1) else none

def validateStateId (kind value : String) : Except HarnessError Unit :=
  rejectIf (value.isEmpty || decide (256 < value.utf8ByteSize) || hasControl value)
    (.state (kind ++ " identity must be 1-256 non-control bytes"))

/-! ## Approval requests and settlements -/

def isObject : Json → Bool
  | .obj _ => true
  | _ => false

def shapeFails (value : Json) : Bool :=
  match validateValueShape value with
  | .ok () => false
  | .error _ => true

def validateApprovalRequestShape (request : ApprovalRequest) : Except HarnessError Unit := do
  validateStateId "approval" request.id
  request.requestedBy.validateCurrentState "State approval requester"
  validateStateId "approval Thread" request.authorization.threadId
  validateStateId "approval Turn" request.authorization.turnId
  validateStateId "approval Tool call" request.authorization.callId
  (validateCapabilityName "approval Tool" request.authorization.descriptor.name).mapError
    HarnessError.asState
  (validateCapabilityOrigin request.authorization.origin).mapError HarnessError.asState
  let descriptor := request.authorization.descriptor
  rejectIf (isBlank descriptor.description ||
      decide (65536 < descriptor.description.utf8ByteSize) || hasControl descriptor.description ||
      !isObject descriptor.inputSchema || shapeFails descriptor.inputSchema ||
      shapeFails request.authorization.input)
    (.state "approval Tool descriptor or input violates bounded State shape")
  rejectIf (isBlank request.reason || decide (4096 < request.reason.utf8ByteSize) ||
      hasControl request.reason)
    (.state "approval reason must be 1-4096 trimmed non-control bytes")

def validateApprovalSettlementShape (settlement : ApprovalSettlementEvidence) :
    Except HarnessError Unit := do
  let _ ← (boundedSerializedSize settlement.toJson maxApprovalRecordBytes).mapError
    (stateJsonError "Approval settlement evidence" maxApprovalRecordBytes)
  validateApprovalRequestShape settlement.request
  settlement.decidedBy.validateCurrentState "Approval settlement actor"
  (validateTenant settlement.tenantId).mapError HarnessError.asState
  rejectIf (settlement.inboxSchemaVersion != approvalInboxSchemaVersion ||
      decide (settlement.inboxRevision < 2) || settlement.requestedAtMs == 0 ||
      decide (settlement.settledAtMs < settlement.requestedAtMs) ||
      settlement.decidedBy == settlement.request.requestedBy)
    (.state
      "Approval settlement evidence violates schema, revision, time, or actor separation")
  match settlement.decision with
  | .approve => .ok ()
  | .deny reason =>
    rejectIf (isBlank reason || decide (4096 < reason.utf8ByteSize) || hasControl reason)
      (.state "Approval denial reason must be 1-4096 trimmed non-control bytes")

def validateApprovalSettlement (envelope : TurnWaitEnvelope)
    (settlement : ApprovalSettlementEvidence) : Except HarnessError Unit := do
  validateApprovalSettlementShape settlement
  rejectIf (settlement.request != envelope.waitKind.request ||
      settlement.tenantId != envelope.tenantId)
    (.state "Approval Inbox settlement differs from the exact durable wait")

/-! ## Evidence digests -/

/-- `state_evidence_sha256`: the digest of `(domain, value)`. -/
def stateEvidenceSha256 [Sha256] (domain : String) (value : Json) : Except HarnessError String :=
  (boundedSerializedSha256 (.arr [.str domain, value]) maxStateEventBytes).mapError
    (stateJsonError "Agent Loop evidence" maxStateEventBytes)

inductive AgentLoopLifecycleEvent where
  | waitStarted | resumeAccepted | waitDenied | waitClosed | readyClaimed

def AgentLoopLifecycleEvent.domain : AgentLoopLifecycleEvent → String
  | waitStarted => "y-harness.agent-loop.event.wait-started.v1"
  | resumeAccepted => "y-harness.agent-loop.event.resume-accepted.v1"
  | waitDenied => "y-harness.agent-loop.event.wait-denied.v1"
  | waitClosed => "y-harness.agent-loop.event.wait-closed.v1"
  | readyClaimed => "y-harness.agent-loop.event.ready-claimed.v1"

def agentLoopLifecycleEventId [Sha256] (event : AgentLoopLifecycleEvent) (threadId : ThreadId)
    (turnId : TurnId) (stableIdentity : String) : Except HarnessError EventId := do
  let digest ← stateEvidenceSha256 event.domain
    (.arr [.str threadId, .str turnId, .str stableIdentity])
  .ok ("agent-loop-event-v1-" ++ digest)

def waitEnvelopeSha256 [Sha256] (envelope : TurnWaitEnvelope) : Except HarnessError String :=
  stateEvidenceSha256 "y-harness.agent-loop.wait-envelope.v1"
    { envelope with envelopeSha256 := "" }.toJson

def resumeCommandSha256 [Sha256] (threadId : ThreadId) (turnId : TurnId)
    (waitId : AgentLoopWaitId) (expectedRevision : UInt64)
    (commandId : AgentLoopResumeCommandId) (settlement : ApprovalSettlementEvidence)
    (authority : AuthorityContext) : Except HarnessError String :=
  stateEvidenceSha256 "y-harness.agent-loop.resume-command.v1"
    (.arr [.str threadId, .str turnId, .str waitId, jsonU64 expectedRevision, .str commandId,
      settlement.toJson, authority.toJson])

structure AgentLoopReadyClaimCommand where
  waitId : AgentLoopWaitId
  expectedRevision : UInt64
  resumeCommandId : AgentLoopResumeCommandId
  claimId : AgentLoopClaimId
  workerId : AgentLoopWorkerId

def executionClaimSha256 [Sha256] (threadId : ThreadId) (turnId : TurnId)
    (command : AgentLoopReadyClaimCommand) (authority : AuthorityContext) :
    Except HarnessError String :=
  stateEvidenceSha256 "y-harness.agent-loop.execution-claim.v1"
    (.arr [.str threadId, .str turnId, .str command.waitId, jsonU64 command.expectedRevision,
      .str command.resumeCommandId, .str command.claimId, .str command.workerId,
      authority.toJson])

structure AgentLoopWaitCloseCommand where
  waitId : AgentLoopWaitId
  expectedRevision : UInt64
  commandId : AgentLoopCloseCommandId
  status : TurnStatus
  reason : TurnStopReason

def waitCloseCommandSha256 [Sha256] (threadId : ThreadId) (turnId : TurnId)
    (command : AgentLoopWaitCloseCommand) (authority : AuthorityContext) :
    Except HarnessError String :=
  stateEvidenceSha256 "y-harness.agent-loop.wait-close-command.v1"
    (.arr [.str threadId, .str turnId, .str command.waitId, jsonU64 command.expectedRevision,
      .str command.commandId, command.status.toJson, command.reason.toJson, authority.toJson])

def waitDenialCommandSha256 [Sha256] (threadId : ThreadId) (turnId : TurnId)
    (waitId : AgentLoopWaitId) (expectedRevision : UInt64) (commandId : AgentLoopDenyCommandId)
    (settlement : ApprovalSettlementEvidence) (authority : AuthorityContext) :
    Except HarnessError String :=
  stateEvidenceSha256 "y-harness.agent-loop.wait-denial-command.v1"
    (.arr [.str threadId, .str turnId, .str waitId, jsonU64 expectedRevision, .str commandId,
      settlement.toJson, authority.toJson])

/-! ## Transition evidence -/

/-- Whether `n` milliseconds are in `1..=MAX_AGENT_LOOP_WAIT_MS`. -/
def waitMsInRange (n : UInt64) : Bool :=
  decide (1 ≤ n.toNat) && decide (n.toNat ≤ maxAgentLoopWaitMs)

def validateRemainingActiveTimeout (value : Option UInt64) : Except HarnessError Unit :=
  rejectIf (value.any fun ms => !waitMsInRange ms)
    (.state "remaining active timeout must be 1-86400000 milliseconds")

/-- The expiry lies after the start, by at most the longest wait. -/
def expiryInRange (startedAtMs expiresAtMs : UInt64) : Bool :=
  decide (startedAtMs.toNat + 1 ≤ expiresAtMs.toNat) &&
    decide (expiresAtMs.toNat ≤ startedAtMs.toNat + maxAgentLoopWaitMs)

def validateWaitEnvelope [Sha256] (envelope : TurnWaitEnvelope) : Except HarnessError Unit := do
  validateStateId "Agent Loop wait" envelope.waitId
  validateStateId "Agent Loop wait Thread" envelope.threadId
  validateStateId "Agent Loop wait Turn" envelope.turnId
  rejectIf (envelope.revision != 1 || envelope.serverStartedAtMs == 0)
    (.state "new Agent Loop wait requires revision one and non-zero server time")
  envelope.requestedBy.validateCurrentState "Agent Loop wait requester"
  (validateTenant envelope.tenantId).mapError HarnessError.asState
  validateRemainingActiveTimeout envelope.remainingActiveTimeoutMs
  rejectIf (envelope.expiresAtMs.any fun expiry =>
      !expiryInRange envelope.serverStartedAtMs expiry)
    (.state "Agent Loop wait expiry violates its server-time bound")
  (validateGeneration envelope.completionGeneration).mapError stateCompletionError
  let request := envelope.waitKind.request
  validateApprovalRequestShape request
  rejectIf (request.id.isEmpty || request.requestedBy != envelope.requestedBy ||
      request.authorization.threadId != envelope.threadId ||
      request.authorization.turnId != envelope.turnId ||
      !isLowerSha256 envelope.waitKind.modelRequestSha256 ||
      envelope.waitKind.modelRequestSha256 != envelope.completionGeneration.modelRequestSha256)
    (.state "Agent Loop wait Approval coordinates do not match its envelope")
  rejectIf (!isLowerSha256 envelope.envelopeSha256)
    (.state "Agent Loop wait envelope digest mismatch")
  let digest ← waitEnvelopeSha256 envelope
  rejectIf (digest != envelope.envelopeSha256)
    (.state "Agent Loop wait envelope digest mismatch")

def validateWaitCloseStatus (status : TurnStatus) (reason : TurnStopReason) :
    Except HarnessError Unit :=
  match status, reason with
  | .cancelled, .cancelled | .timedOut, .timedOut => .ok ()
  | _, _ => .error (.state
      "wait closure requires exactly Cancelled/cancelled or TimedOut/timed_out")

/-- The authority an envelope was opened under. -/
def envelopeAuthority (envelope : TurnWaitEnvelope) : Except HarnessError AuthorityContext :=
  (AuthorityContext.new envelope.requestedBy envelope.tenantId).mapError HarnessError.asState

def validateResumeEvidence [Sha256] (envelope : TurnWaitEnvelope) (evidence : ResumeEvidence) :
    Except HarnessError Unit := do
  validateStateId "Agent Loop resume command" evidence.commandId
  validateApprovalSettlement envelope evidence.settlement
  rejectIf (evidence.waitId != envelope.waitId ||
      evidence.previousRevision != envelope.revision ||
      evidence.revision != saturatingSucc envelope.revision ||
      decide (evidence.acceptedAtMs < envelope.serverStartedAtMs) ||
      decide (evidence.acceptedAtMs < evidence.settlement.settledAtMs) ||
      !isLowerSha256 evidence.commandSha256)
    (.state "Agent Loop resume evidence violates wait revision, time, or digest shape")
  let authority ← envelopeAuthority envelope
  let expected ← resumeCommandSha256 envelope.threadId envelope.turnId envelope.waitId
    evidence.previousRevision evidence.commandId evidence.settlement authority
  rejectIf (expected != evidence.commandSha256)
    (.state "Agent Loop resume command digest mismatch")

def validateWaitClosureEvidence [Sha256] (envelope : TurnWaitEnvelope)
    (evidence : WaitClosureEvidence) : Except HarnessError Unit := do
  validateStateId "Agent Loop close command" evidence.commandId
  validateWaitCloseStatus evidence.status evidence.reason
  let nextRevision ← orError (.state "Agent Loop closure revision overflow")
    (checkedSucc evidence.previousRevision)
  rejectIf (evidence.waitId != envelope.waitId || evidence.previousRevision == 0 ||
      evidence.revision != nextRevision ||
      decide (evidence.closedAtMs < envelope.serverStartedAtMs) ||
      !isLowerSha256 evidence.commandSha256)
    (.state "Agent Loop closure evidence violates wait revision, time, or digest shape")
  rejectIf (evidence.status == .timedOut &&
      envelope.expiresAtMs.all fun expiry => decide (evidence.closedAtMs < expiry))
    (.state "TimedOut wait closure requires an elapsed server expiry")
  let authority ← envelopeAuthority envelope
  let expected ← waitCloseCommandSha256 envelope.threadId envelope.turnId
    ⟨envelope.waitId, evidence.previousRevision, evidence.commandId, evidence.status,
      evidence.reason⟩ authority
  rejectIf (expected != evidence.commandSha256)
    (.state "Agent Loop wait closure command digest mismatch")

def validateWaitDenialEvidence [Sha256] (envelope : TurnWaitEnvelope)
    (evidence : WaitDenialEvidence) : Except HarnessError Unit := do
  validateStateId "Agent Loop denial command" evidence.commandId
  validateApprovalSettlement envelope evidence.settlement
  rejectIf (!evidence.settlement.decision.isDeny)
    (.state "Agent Loop denial evidence does not contain a Deny settlement")
  let nextRevision ← orError (.state "Agent Loop denial revision overflow")
    (checkedSucc evidence.previousRevision)
  rejectIf (evidence.waitId != envelope.waitId || evidence.previousRevision == 0 ||
      evidence.revision != nextRevision ||
      decide (evidence.deniedAtMs < envelope.serverStartedAtMs) ||
      decide (evidence.deniedAtMs < evidence.settlement.settledAtMs) ||
      !isLowerSha256 evidence.commandSha256)
    (.state "Agent Loop denial evidence violates wait revision, time, or digest shape")
  let authority ← envelopeAuthority envelope
  let expected ← waitDenialCommandSha256 envelope.threadId envelope.turnId envelope.waitId
    evidence.previousRevision evidence.commandId evidence.settlement authority
  rejectIf (expected != evidence.commandSha256)
    (.state "Agent Loop wait denial command digest mismatch")

def validateClaimEvidence [Sha256] (envelope : TurnWaitEnvelope) (resume : ResumeEvidence)
    (evidence : ExecutionClaimEvidence) : Except HarnessError Unit := do
  validateStateId "Agent Loop claim" evidence.claimId
  validateStateId "Agent Loop worker" evidence.workerId
  rejectIf (evidence.waitId != envelope.waitId ||
      evidence.previousRevision != resume.revision ||
      evidence.revision != saturatingSucc resume.revision ||
      evidence.resumeCommandId != resume.commandId ||
      decide (evidence.claimedAtMs < resume.acceptedAtMs) ||
      !isLowerSha256 evidence.claimSha256)
    (.state ("Agent Loop claim evidence violates ready revision, worker, time, or digest " ++
      "shape"))
  let authority ← envelopeAuthority envelope
  let expected ← executionClaimSha256 envelope.threadId envelope.turnId
    ⟨envelope.waitId, evidence.previousRevision, evidence.resumeCommandId, evidence.claimId,
      evidence.workerId⟩ authority
  rejectIf (expected != evidence.claimSha256)
    (.state "Agent Loop execution claim digest mismatch")

/-! ## What accepted evidence says -/

/-- The coordinates of an accepted envelope. -/
structure EnvelopeValid (envelope : TurnWaitEnvelope) : Prop where
  waitId : validateStateId "Agent Loop wait" envelope.waitId = .ok ()
  threadId : validateStateId "Agent Loop wait Thread" envelope.threadId = .ok ()
  turnId : validateStateId "Agent Loop wait Turn" envelope.turnId = .ok ()
  revision : envelope.revision = 1
  started : envelope.serverStartedAtMs ≠ 0
  requester : envelope.requestedBy.validateCurrentMessage "Agent Loop wait requester" = .ok ()
  tenant : validateTenant envelope.tenantId = .ok ()

variable {envelope : TurnWaitEnvelope}

theorem validateWaitEnvelope_valid [Sha256] {u : Unit}
    (valid : validateWaitEnvelope envelope = .ok u) : EnvelopeValid envelope := by
  simp only [validateWaitEnvelope, ActorIdentity.validateCurrentState, seq_eq_ok, rejectIf_eq_ok,
    Bool.or_eq_false_iff, bne_eq_false_iff_eq, beq_eq_false_iff_ne, mapError_eq_ok] at valid
  obtain ⟨waitId, threadId, turnId, ⟨revision, started⟩, requester, tenant, _⟩ := valid
  exact ⟨waitId, threadId, turnId, revision, started, requester, tenant⟩

/-- What an accepted resume says of the wait it settles. -/
structure ResumeValid (envelope : TurnWaitEnvelope) (evidence : ResumeEvidence) : Prop where
  commandId : validateStateId "Agent Loop resume command" evidence.commandId = .ok ()
  settlement : validateApprovalSettlement envelope evidence.settlement = .ok ()
  waitId : evidence.waitId = envelope.waitId
  previousRevision : evidence.previousRevision = envelope.revision
  revision : evidence.revision = saturatingSucc envelope.revision
  afterStart : envelope.serverStartedAtMs ≤ evidence.acceptedAtMs
  afterSettlement : evidence.settlement.settledAtMs ≤ evidence.acceptedAtMs

theorem validateResumeEvidence_valid [Sha256] {evidence : ResumeEvidence} {u : Unit}
    (valid : validateResumeEvidence envelope evidence = .ok u) :
    ResumeValid envelope evidence := by
  simp only [validateResumeEvidence, seq_eq_ok, rejectIf_eq_ok, Bool.or_eq_false_iff,
    bne_eq_false_iff_eq, decide_eq_false_iff_not, UInt64.not_lt] at valid
  obtain ⟨commandId, settlement, ⟨⟨⟨⟨⟨waitId, previous⟩, revision⟩, started⟩, settled⟩, _⟩, _⟩ :=
    valid
  exact ⟨commandId, settlement, waitId, previous, revision, started, settled⟩

/-- The authority of an accepted envelope is the one of its requester. -/
theorem envelopeAuthority_eq_ok (valid : EnvelopeValid envelope) :
    envelopeAuthority envelope = .ok ⟨envelope.requestedBy, envelope.tenantId⟩ := by
  have requester : envelope.requestedBy.validateCurrentMessage "authority context" = .ok () := by
    have checked := valid.requester
    generalize envelope.requestedBy = actor at checked
    cases actor <;> simp_all [ActorIdentity.validateCurrentMessage,
      ActorIdentity.validateShapeMessage, validateActorIdentity, seq_eq_ok]
  simp only [envelopeAuthority, AuthorityContext.new, AuthorityContext.validateCurrent,
    ActorIdentity.validateCurrent, mapError_eq_ok, seq_eq_ok]
  exact ⟨⟨requester, valid.tenant⟩, trivial⟩

/-! ## Items adjacent to a transition -/

def approvalRequestedMatchesEnvelope (item : Item) (envelope : TurnWaitEnvelope) : Bool :=
  let request := envelope.waitKind.request
  item.kind == .approvalRequested request.id request.authorization.callId
    request.authorization.descriptor.name request.reason request.risk (some request.requestedBy)
    (some request.authorization.origin) (some envelope.waitKind.modelRequestSha256)

def approvalDecisionMatchesResume (item : Item) (evidence : ResumeEvidence) : Bool :=
  item.kind == .approvalDecision evidence.settlement.request.id
    evidence.settlement.request.authorization.callId evidence.settlement.decision

def approvalDecisionMatchesDenial (item : Item) (evidence : WaitDenialEvidence) : Bool :=
  item.kind == .approvalDecision evidence.settlement.request.id
    evidence.settlement.request.authorization.callId evidence.settlement.decision &&
    evidence.settlement.decision.isDeny

def turnStoppedMatchesClosure (item : Item) (evidence : WaitClosureEvidence) : Bool :=
  item.createdAtMs == evidence.closedAtMs && item.kind == .turnStopped evidence.reason .approval

end YHarness.State

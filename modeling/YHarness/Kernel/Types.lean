/-
# YHarness.Kernel.Types -- identities, Items, State events and projections

The serializable contracts of `src/kernel/types.rs`, with the completion records
of `src/completion.rs` that they embed.  Every identity is an opaque text, as
the source's `id_type!` newtypes are.  A 64-bit field that is serialized is a
`UInt64`; the engine's own counters (stream version, recovery charge, sequence)
are naturals whose additions are checked where the source checks them.
-/
import YHarness.Lib.Json

namespace YHarness.Kernel

open YHarness.Lib (Json)

set_option autoImplicit false

abbrev ThreadId := String
abbrev TurnId := String
abbrev ItemId := String
abbrev EventId := String
abbrev CheckpointId := String
abbrev ApprovalId := String
abbrev SteeringId := String
abbrev ToolCallBatchId := String
abbrev AgentLoopWaitId := String
abbrev AgentLoopResumeCommandId := String
abbrev AgentLoopClaimId := String
abbrev AgentLoopWorkerId := String
abbrev AgentLoopCloseCommandId := String
abbrev AgentLoopDenyCommandId := String
abbrev TaskGraphId := String
abbrev HumanHandoffId := String
abbrev WorkflowRunId := String
abbrev EffectId := String

inductive ExecutionPhase where
  | context | model | policy | approval | tool | effect | verification | evaluation
deriving DecidableEq

namespace ExecutionPhase

/-- The `Debug` text of a phase. -/
def debug : ExecutionPhase → String
  | context => "Context"
  | model => "Model"
  | policy => "Policy"
  | approval => "Approval"
  | tool => "Tool"
  | effect => "Effect"
  | verification => "Verification"
  | evaluation => "Evaluation"

end ExecutionPhase

inductive InboxTombstoneReason where
  | settled | cancelled | timeout | denied | terminalFailure
deriving DecidableEq

/-- The `Debug` text of a tombstone reason. -/
def InboxTombstoneReason.debug : InboxTombstoneReason → String
  | settled => "Settled"
  | cancelled => "Cancelled"
  | timeout => "Timeout"
  | denied => "Denied"
  | terminalFailure => "TerminalFailure"

inductive ModelProviderFailureKind where
  | authentication | authorization | rateLimited | quotaExhausted | requestRejected
  | modelUnavailable | contentPolicy | overloaded | server | transport | protocol
deriving DecidableEq

def ModelProviderFailureKind.display : ModelProviderFailureKind → String
  | authentication => "authentication"
  | authorization => "authorization"
  | rateLimited => "rate_limited"
  | quotaExhausted => "quota_exhausted"
  | requestRejected => "request_rejected"
  | modelUnavailable => "model_unavailable"
  | contentPolicy => "content_policy"
  | overloaded => "overloaded"
  | server => "server"
  | transport => "transport"
  | protocol => "protocol"

structure ModelProviderFailure where
  kind : ModelProviderFailureKind
  message : String
  httpStatus : Option UInt16
  retryAfterMs : Option UInt64
deriving DecidableEq

/-- Failures of the modelled operations.  The constructors that only other
subsystems raise are left out. -/
inductive HarnessError where
  | invalidConfiguration (message : String)
  | invalidCapability (message : String)
  | duplicateCapability (name : String)
  | unknownTool (name : String)
  | policyDenied (tool reason : String)
  | approvalDenied (tool reason : String)
  | model (message : String)
  | modelProvider (failure : ModelProviderFailure)
  | policy (message : String)
  | approval (message : String)
  | approvalConflict (approvalId : ApprovalId) (expected actual : UInt64)
  | verification (message : String)
  | orchestration (message : String)
  | orchestrationConflict (graphId : TaskGraphId) (expected actual : UInt64)
  | workflow (message : String)
  | workflowConflict (runId : WorkflowRunId) (expected actual : UInt64)
  | humanHandoff (message : String)
  | humanHandoffConflict (handoffId : HumanHandoffId) (expected actual : UInt64)
  | effect (message : String)
  | effectConflict (effectId : EffectId) (expected actual : UInt64)
  | temporal (message : String)
  | tool (message : String)
  | skill (message : String)
  | memory (message : String)
  | protocol (message : String)
  | runtimeOverloaded (limit : Nat)
  | capabilityPanicked (phase : ExecutionPhase)
  | state (message : String)
  | stateConflict (threadId : ThreadId) (expected actual : Nat)
  | maxSteps (max : Nat)
  | noProgress (cyclePeriod repetitions : Nat)
  | maxModelAttempts (max : Nat)
  | cancelled (phase : ExecutionPhase)
  | timedOut (phase : ExecutionPhase)
  | staleWaitSettlement (waitId : AgentLoopWaitId) (reason : InboxTombstoneReason)
      (tombstonedAtMs : UInt64)
deriving DecidableEq

namespace HarnessError

/-- The `Display` text of an error. -/
def display : HarnessError → String
  | invalidConfiguration message => "invalid configuration: " ++ message
  | invalidCapability message => "invalid capability: " ++ message
  | duplicateCapability name => "duplicate capability: " ++ name
  | unknownTool name => "unknown tool: " ++ name
  | policyDenied name reason => s!"policy denied tool {name}: {reason}"
  | approvalDenied name reason => s!"approval denied tool {name}: {reason}"
  | model message => "model error: " ++ message
  | modelProvider failure =>
    s!"model Provider error ({failure.kind.display}): {failure.message}" ++
      (match failure.httpStatus with
        | some status => s!" [HTTP {status.toNat}]"
        | none => "") ++
      (match failure.retryAfterMs with
        | some delay => s!" [retry after {delay.toNat} ms]"
        | none => "")
  | policy message => "policy error: " ++ message
  | approval message => "approval error: " ++ message
  | approvalConflict approvalId expected actual =>
    s!"approval conflict on {approvalId}: expected revision {expected.toNat}, " ++
      s!"found {actual.toNat}"
  | verification message => "verification error: " ++ message
  | orchestration message => "orchestration error: " ++ message
  | orchestrationConflict graphId expected actual =>
    s!"orchestration conflict on graph {graphId}: expected revision {expected.toNat}, " ++
      s!"found {actual.toNat}"
  | workflow message => "workflow error: " ++ message
  | workflowConflict runId expected actual =>
    s!"workflow conflict on run {runId}: expected revision {expected.toNat}, " ++
      s!"found {actual.toNat}"
  | humanHandoff message => "human handoff error: " ++ message
  | humanHandoffConflict handoffId expected actual =>
    s!"human handoff conflict on {handoffId}: expected revision {expected.toNat}, " ++
      s!"found {actual.toNat}"
  | effect message => "effect error: " ++ message
  | effectConflict effectId expected actual =>
    s!"effect conflict on {effectId}: expected revision {expected.toNat}, " ++
      s!"found {actual.toNat}"
  | temporal message => "temporal driver error: " ++ message
  | tool message => "tool error: " ++ message
  | skill message => "skill error: " ++ message
  | memory message => "memory error: " ++ message
  | protocol message => "protocol error: " ++ message
  | runtimeOverloaded limit => s!"runtime concurrent Turn limit {limit} reached"
  | capabilityPanicked phase => "capability panicked during " ++ phase.debug
  | state message => "state error: " ++ message
  | stateConflict threadId expected actual =>
    s!"state conflict on thread {threadId}: expected stream version {expected}, " ++
      s!"found {actual}"
  | maxSteps max => s!"agent loop exceeded {max} steps"
  | noProgress cyclePeriod repetitions =>
    s!"agent loop repeated an equivalent failure-bearing Tool cycle of period {cyclePeriod} " ++
      s!"{repetitions} times without new information"
  | maxModelAttempts max => s!"model step exceeded {max} Provider attempts"
  | cancelled phase => "turn cancelled during " ++ phase.debug
  | timedOut phase => "turn timed out during " ++ phase.debug
  | staleWaitSettlement waitId reason tombstonedAtMs =>
    s!"stale settlement against wait {waitId}: tombstoned at {tombstonedAtMs.toNat}ms " ++
      s!"reason={reason.debug}"

/-- `.map_err(|error| HarnessError::State(error.to_string()))`. -/
def asState (error : HarnessError) : HarnessError :=
  .state error.display

/-- `.map_err(|error| HarnessError::Effect(error.to_string()))`. -/
def asEffect (error : HarnessError) : HarnessError :=
  .effect error.display

/-- `.map_err(|error| HarnessError::Workflow(error.to_string()))`. -/
def asWorkflow (error : HarnessError) : HarnessError :=
  .workflow error.display

/-- `.map_err(|error| HarnessError::HumanHandoff(error.to_string()))`. -/
def asHumanHandoff (error : HarnessError) : HarnessError :=
  .humanHandoff error.display

/-- `.map_err(|error| HarnessError::Approval(error.to_string()))`. -/
def asApproval (error : HarnessError) : HarnessError :=
  .approval error.display

end HarnessError

/-! ## Authority, capabilities and decisions -/

inductive ActorIdentity where
  | localProcess
  | authenticated (authority subject : String)
  | unattributedLegacy
deriving DecidableEq

abbrev ApprovalActor := ActorIdentity

structure AuthorityContext where
  actor : ActorIdentity
  tenantId : Option String
deriving DecidableEq

def AuthorityContext.localProcess : AuthorityContext :=
  ⟨.localProcess, none⟩

inductive CapabilityOrigin where
  | builtIn
  | trustedExtension (id : String)
  | external (id : String)
deriving DecidableEq

inductive RiskLevel where
  | low | medium | high | critical
deriving DecidableEq

inductive PolicyDecision where
  | allow
  | deny (reason : String)
  | ask (reason : String) (risk : RiskLevel)
deriving DecidableEq

inductive ApprovalDecision where
  | approve
  | deny (reason : String)
deriving DecidableEq

def ApprovalDecision.isDeny : ApprovalDecision → Bool
  | approve => false
  | deny _ => true

inductive VerificationOutcome where
  | passed (summary : Option String)
  | failed (reason : String) (retryable : Bool)
deriving DecidableEq

structure ToolDescriptor where
  name : String
  description : String
  inputSchema : Json
deriving DecidableEq

structure ToolCallBatch where
  id : ToolCallBatchId
  index : Nat
  size : Nat
deriving DecidableEq

structure ToolAuthorization where
  threadId : ThreadId
  turnId : TurnId
  callId : String
  descriptor : ToolDescriptor
  origin : CapabilityOrigin
  input : Json
deriving DecidableEq

structure ApprovalRequest where
  id : ApprovalId
  requestedBy : ApprovalActor
  authorization : ToolAuthorization
  reason : String
  risk : RiskLevel
deriving DecidableEq

/-! ## Completion records -/

inductive CompletionRequirementStatus where
  | notRequired | satisfied
deriving DecidableEq

inductive CompletionAssurance where
  | runtimeMeasured | deploymentBound
deriving DecidableEq

structure CompletionContract where
  artifact : CompletionRequirementStatus
  effect : CompletionRequirementStatus
  businessDelivery : CompletionRequirementStatus
deriving DecidableEq

structure CompletionGeneration where
  formatVersion : UInt32
  modelRequestSha256 : String
  modelRouteSha256 : String
  toolViewSha256 : String
  verifierManifestSha256 : String
  runtimeGovernanceSha256 : String
  executionBindingSha256 : Option String
  assurance : CompletionAssurance
  generationSha256 : String
deriving DecidableEq

structure CompletionReceipt where
  formatVersion : UInt32
  authority : AuthorityContext
  sourceThreadId : ThreadId
  turnId : TurnId
  candidateItemId : ItemId
  candidateSha256 : String
  turnEvidenceSha256 : String
  verifierResultsSha256 : String
  verifierCount : UInt32
  generation : CompletionGeneration
  contract : CompletionContract
deriving DecidableEq

/-! ## Evidence carried by Items -/

structure InvocationContextEvidence where
  source : String
  reference : String
  sourceSha256 : String
  contentSha256 : String
  estimatedTokens : Nat
  serializedBytes : Nat
deriving DecidableEq

structure ExecutionBinding where
  issuer : String
  name : String
  version : String
  configurationSha256 : String
  environmentSha256 : String
  revision : UInt64
  tenantId : Option String
deriving DecidableEq

structure ConnectorEvidenceClaim where
  source : String
  resource : String
  version : String
  observedAtMs : UInt64
  validUntilMs : Option UInt64
  idempotencyKey : Option String
deriving DecidableEq

structure ConnectorEvidence where
  connector : String
  connectorOrigin : CapabilityOrigin
  authority : AuthorityContext
  outputSha256 : String
  claim : ConnectorEvidenceClaim
deriving DecidableEq

structure ModelContinuation where
  format : String
  items : List Json
deriving DecidableEq

inductive TurnStatus where
  | running | completed | failed | cancelled | timedOut | interrupted
deriving DecidableEq

inductive TurnStopReason where
  | cancelled | timedOut
deriving DecidableEq

inductive MemoryContextRecordStatus where
  | loaded | degraded
deriving DecidableEq

/-! ## The durable Agent Loop wait -/

/-- Why a Turn waits; `Approval` is the only kind of the source. -/
structure WaitKind where
  request : ApprovalRequest
  modelRequestSha256 : String
deriving DecidableEq

structure TurnWaitEnvelope where
  waitId : AgentLoopWaitId
  revision : UInt64
  threadId : ThreadId
  turnId : TurnId
  tenantId : Option String
  requestedBy : ApprovalActor
  serverStartedAtMs : UInt64
  expiresAtMs : Option UInt64
  remainingActiveTimeoutMs : Option UInt64
  completionGeneration : CompletionGeneration
  waitKind : WaitKind
  envelopeSha256 : String
deriving DecidableEq

structure ApprovalSettlementEvidence where
  inboxSchemaVersion : UInt32
  request : ApprovalRequest
  tenantId : Option String
  decision : ApprovalDecision
  decidedBy : ApprovalActor
  inboxRevision : UInt64
  requestedAtMs : UInt64
  settledAtMs : UInt64
deriving DecidableEq

structure ResumeEvidence where
  waitId : AgentLoopWaitId
  previousRevision : UInt64
  revision : UInt64
  commandId : AgentLoopResumeCommandId
  commandSha256 : String
  settlement : ApprovalSettlementEvidence
  acceptedAtMs : UInt64
deriving DecidableEq

structure ExecutionClaimEvidence where
  waitId : AgentLoopWaitId
  previousRevision : UInt64
  revision : UInt64
  resumeCommandId : AgentLoopResumeCommandId
  claimId : AgentLoopClaimId
  workerId : AgentLoopWorkerId
  claimSha256 : String
  claimedAtMs : UInt64
deriving DecidableEq

structure WaitClosureEvidence where
  waitId : AgentLoopWaitId
  previousRevision : UInt64
  revision : UInt64
  commandId : AgentLoopCloseCommandId
  status : TurnStatus
  reason : TurnStopReason
  commandSha256 : String
  closedAtMs : UInt64
deriving DecidableEq

structure WaitDenialEvidence where
  waitId : AgentLoopWaitId
  previousRevision : UInt64
  revision : UInt64
  commandId : AgentLoopDenyCommandId
  commandSha256 : String
  settlement : ApprovalSettlementEvidence
  deniedAtMs : UInt64
deriving DecidableEq

inductive AgentLoopExecution where
  | waiting (envelope : TurnWaitEnvelope)
  | ready (envelope : TurnWaitEnvelope) (resume : ResumeEvidence)
  | executing (envelope : TurnWaitEnvelope) (resume : ResumeEvidence)
      (claim : ExecutionClaimEvidence)

namespace AgentLoopExecution

def envelope : AgentLoopExecution → TurnWaitEnvelope
  | waiting envelope | ready envelope _ | executing envelope _ _ => envelope

def waitId (execution : AgentLoopExecution) : AgentLoopWaitId :=
  execution.envelope.waitId

def revision : AgentLoopExecution → UInt64
  | waiting envelope => envelope.revision
  | ready _ resume => resume.revision
  | executing _ _ claim => claim.revision

/-- `Some(Waiting { .. } | Ready { .. })`, the open phases. -/
def isOpen : AgentLoopExecution → Bool
  | waiting _ | ready _ _ => true
  | executing _ _ _ => false

end AgentLoopExecution

/-! ## Items, Turns and Threads -/

inductive ItemKind where
  | userMessage (content : String)
  | executionBinding (boundBy : ActorIdentity) (binding : ExecutionBinding)
  | steeringQueued (steeringId : SteeringId) (submittedBy : ActorIdentity) (content : String)
  | steeringApplied (steeringId : SteeringId) (content : String)
  | assistantMessage (modelId : Option String) (modelOrigin : Option CapabilityOrigin)
      (modelRequestSha256 : Option String) (content : String)
  | providerContinuation (modelId : String) (modelOrigin : CapabilityOrigin)
      (continuation : ModelContinuation)
  | toolCall (modelId : Option String) (modelOrigin : Option CapabilityOrigin)
      (callId name : String) (input : Json) (batch : Option ToolCallBatch)
  | policyDecision (callId : String) (toolOrigin : Option CapabilityOrigin)
      (decision : PolicyDecision)
  | approvalRequested (approvalId : ApprovalId) (callId tool reason : String)
      (risk : RiskLevel) (requestedBy : Option ApprovalActor)
      (toolOrigin : Option CapabilityOrigin) (modelRequestSha256 : Option String)
  | approvalDecision (approvalId : ApprovalId) (callId : String) (decision : ApprovalDecision)
  | agentLoopWaitStarted (envelope : TurnWaitEnvelope)
  | agentLoopResumeAccepted (evidence : ResumeEvidence)
  | agentLoopReadyClaimed (evidence : ExecutionClaimEvidence)
  | agentLoopWaitClosed (evidence : WaitClosureEvidence)
  | agentLoopWaitDenied (evidence : WaitDenialEvidence)
  | toolResult (callId : String) (output : Json) (isError : Bool)
      (connectorEvidence : List ConnectorEvidence)
  | memoryContext (provider : String) (status : MemoryContextRecordStatus)
      (references : List String) (packedTokens : Nat) (warnings : List String)
  | conversationContext (includedTurns : List TurnId) (droppedTurns estimatedTokens : Nat)
  | conversationSummary (compactor : String) (coveredTurns : List TurnId)
      (olderOmittedTurns : Nat) (sourceSha256 contentSha256 : String)
      (estimatedTokens serializedBytes : Nat)
  | invocationContext (submittedBy : ActorIdentity) (blocks : List InvocationContextEvidence)
  | runtimeError (message : String)
  | turnStopped (reason : TurnStopReason) (phase : ExecutionPhase)
  | verificationResult (verifier : String) (candidateItemId : Option ItemId)
      (verifierOrigin : Option CapabilityOrigin) (verifierBindingSha256 : Option String)
      (outcome : VerificationOutcome)
deriving DecidableEq

structure Item where
  id : ItemId
  createdAtMs : UInt64
  kind : ItemKind
deriving DecidableEq

structure Turn where
  id : TurnId
  threadId : ThreadId
  status : TurnStatus
  items : List Item
  completionReceipt : Option CompletionReceipt

structure Checkpoint where
  id : CheckpointId
  threadId : ThreadId
  turnId : Option TurnId
  targetSequence : Nat
  createdAtMs : UInt64
  label : Option String
deriving DecidableEq

structure ThreadLineage where
  parentThreadId : ThreadId
  parentThroughSequence : Nat
  parentStreamVersion : Nat
  parentEventsSha256 : String
deriving DecidableEq

structure ThreadImportOrigin where
  sourceThreadId : ThreadId
  sourceStreamVersion : Nat
  sourceLastSequence : Nat
  sourceEventsSha256 : String
  sourceLineage : Option ThreadLineage
deriving DecidableEq

structure Thread where
  id : ThreadId
  tenantId : Option String
  name : Option String
  lineage : Option ThreadLineage
  importOrigin : Option ThreadImportOrigin
  createdAtMs : UInt64
  turns : List Turn
  checkpoints : List Checkpoint

/-! ## State events -/

inductive StateEvent where
  | threadCreated (createdAtMs : UInt64) (tenantId : Option String)
  | threadNamed (name : Option String)
  | threadForked (lineage : ThreadLineage)
  | threadImported (origin : ThreadImportOrigin)
  | turnStarted (turnId : TurnId)
  | itemAppended (turnId : TurnId) (item : Item)
  | toolCallsAppended (turnId : TurnId) (calls : List Item)
  | waitStarted (turnId : TurnId) (approvalRequested transition : Item)
  | acceptResume (turnId : TurnId) (approvalDecision transition : Item)
  | claimReady (turnId : TurnId) (transition : Item)
  | waitClosed (turnId : TurnId) (stopped transition : Item) (status : TurnStatus)
  | denyWait (turnId : TurnId) (approvalDecision transition : Item)
  | turnCompleted (turnId : TurnId) (receipt : CompletionReceipt)
  | turnFinished (turnId : TurnId) (status : TurnStatus)
  | checkpointCreated (checkpoint : Checkpoint)
deriving DecidableEq

/-- The four event kinds that may enter the terminal reserve. -/
def StateEvent.isTerminal : StateEvent → Bool
  | turnFinished _ _ | turnCompleted _ _ | waitClosed _ _ _ _ | denyWait _ _ _ => true
  | _ => false

structure PendingEvent where
  eventId : EventId
  threadId : ThreadId
  expectedStreamVersion : Nat
  expectedStreamRecoveryBytes : Nat
  recordedAtMs : UInt64
  event : StateEvent

structure NewStreamEvent where
  eventId : EventId
  schemaVersion : Nat
  recordedAtMs : UInt64
  event : StateEvent

structure StoredEvent where
  schemaVersion : Nat
  sequence : Nat
  eventId : EventId
  threadId : ThreadId
  recordedAtMs : UInt64
  event : StateEvent

end YHarness.Kernel

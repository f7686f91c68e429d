/-
# YHarness.Runtime.Resume -- continuing a Turn at an approval boundary

`prepare_durable_wait_resume` and `prepare_approval_resume` of
`src/runtime/mod.rs`: what was pending is rebuilt from the stored Items and
compared with the configuration and, for a durable wait, with its envelope; then
the approval is consumed and the pending calls are executed.
-/
import YHarness.Runtime.Tools

namespace YHarness.Runtime

open YHarness.Lib YHarness.Kernel YHarness.State

set_option autoImplicit false

/-- What the loop starts from: the Turn, the conversation before it, its context,
the Model steps it has consumed and the call ids it has used. -/
structure PreparedExecution where
  turn : Turn
  conversation : List Item
  blocks : List ContextBlock
  step : Nat
  toolCallIds : List String

inductive DurableResumePreparation where
  | waiting (wait : ApprovalWait)
  | claimed (prepared : PreparedExecution) (activeDeadline : Option Nat)

variable [Sha256] (x : Execution)

/-! ## The stored Turn -/

def notRunningTurn {α : Type} (thread : StoredThread) (turnId : TurnId) : Except HarnessError α :=
  .error (.state s!"turn {turnId} is not the running turn in thread {thread.id}")

/-- The Turn to resume, which must be the only one that runs. -/
def soleRunningTurn (thread : StoredThread) (turns : List Turn) (turnId : TurnId) :
    Except HarnessError Turn :=
  match turns.filter fun turn => turn.status == .running with
  | [] => notRunningTurn thread turnId
  | turn :: others =>
    if turn.id = turnId then do
      rejectIf (!others.isEmpty)
        (.state "thread projection contains multiple running turns")
      .ok turn
    else notRunningTurn thread turnId

/-- `thread_capacity_as` and `require_runtime_capacity`. -/
def requireRuntimeCapacity : RuntimeM Unit := do
  check (x.thread.requireAccess x.options.authority)
  let capacity ← ask .requireCapacity
  check capacity

/-- The Model and the Tool of a pending call are configured as they were. -/
def requireSameCapabilities (runtime : HarnessRuntime) (evidence : ApprovalResumeEvidence)
    (since : String) : Except HarnessError RegisteredTool := do
  rejectIf (!runtime.models.contains evidence.modelId evidence.modelOrigin)
    (.state ("approval continuation Model identity or origin is absent from the configured " ++
      "route"))
  rejectIf (!decide (evidence.tool ∈ runtime.toolView.names))
    (.state "approval continuation Tool is absent from the active capability view")
  let registered ← orError
    (.state s!"approval continuation Tool {evidence.tool} is not registered")
    (runtime.tools.get evidence.tool)
  rejectIf (registered.origin != evidence.toolOrigin)
    (.state s!"approval continuation Tool origin changed after {since}")
  .ok registered

/-- The approval request the evidence stands for. -/
def evidenceRequest (turnId : TurnId) (evidence : ApprovalResumeEvidence)
    (registered : RegisteredTool) : ApprovalRequest :=
  ⟨evidence.approvalId, evidence.requestedBy,
    ⟨x.thread.id, turnId, evidence.callId, registered.descriptor, registered.origin,
      evidence.input⟩,
    evidence.reason, evidence.risk⟩

/-- The request of a Model step at these Items. -/
def modelRequestOf (turnId : TurnId) (conversation items : List Item)
    (blocks : List ContextBlock) : ModelRequest where
  threadId := x.thread.id
  turnId := turnId
  authority := x.options.authority
  items := deriveMessages conversation items
  context := blocks
  tools := x.runtime.toolView.descriptors

/-- The summary of the Turns a conversation leaves out, when one is configured. -/
def conversationSummary (site : Site) (conversation : ConversationContext) (prompt : String)
    (deadline : Option Nat) : RuntimeM (Option ContextBlock) :=
  match x.runtime.context.conversationCompactorName conversation with
  | none => check (.ok none)
  | some _ => do
    let summary ← ask (.invoke site (.compileConversationSummary conversation prompt) deadline)
    check summary

def contextCompilation (site : Site) (prompt : String) (memoryScope : MemoryScope)
    (deadline : Option Nat) : RuntimeM ContextCompilation := do
  let compilation ← ask (.invoke site (.compile prompt memoryScope) deadline)
  check compilation

/-- The blocks of a compilation with the summary and the context of the Turn. -/
def mergeContext (compilation : ContextCompilation) (summary : Option ContextBlock) :
    Except HarnessError ContextCompilation := do
  let compilation ← x.runtime.context.mergeConversationSummary compilation summary
  x.runtime.context.mergeTurnContext compilation x.options.context

/-- The Turns before the one that is resumed. -/
def priorTurns (turns : List Turn) (turnId : TurnId) : List Turn :=
  turns.filter fun turn => turn.id != turnId

/-! ## Closing a durable wait -/

/-- `close_durable_wait`. -/
def closeDurableWait (turn : Turn) (envelope : TurnWaitEnvelope) (expectedRevision : UInt64)
    (status : TurnStatus) (reason : TurnStopReason) : RuntimeM Unit := do
  let stamp ← ask .stamp
  closeWaitAs x.thread turn
    { waitId := envelope.waitId, expectedRevision, commandId := stamp.id, status, reason }
    x.options.authority
  let _ ← TryTask.attempt (abandonDurableApproval x turn.id
    "authoritative durable wait was closed before settlement consumption" x.options.authority)
  check (.ok ())

/-- Close a wait and return the stop it was closed for. -/
def closeWith {α : Type} (turn : Turn) (envelope : TurnWaitEnvelope) (expectedRevision : UInt64)
    (reason : TurnStopReason) : RuntimeM α := do
  match reason with
  | .cancelled => do
    closeDurableWait x turn envelope expectedRevision .cancelled .cancelled
    check (.error (.cancelled .approval))
  | .timedOut => do
    closeDurableWait x turn envelope expectedRevision .timedOut .timedOut
    check (.error (.timedOut .approval))

/-- The stop an unclaimed wait has to be closed for. -/
def waitStop (envelope : TurnWaitEnvelope) : RuntimeM (Option TurnStopReason) := do
  let cancelled ← ask (.isCancelled .resume)
  if cancelled then check (.ok (some .cancelled))
  else match envelope.expiresAtMs with
    | none => check (.ok none)
    | some expiresAtMs => do
      let nowMs ← ask .now
      check (.ok (if expiresAtMs ≤ nowMs then some .timedOut else none))

/-- Close a wait whose worker was cancelled or came too late. -/
def closeIfStopped (turn : Turn) (envelope : TurnWaitEnvelope) (expectedRevision : UInt64) :
    RuntimeM Unit := do
  let stop ← waitStop envelope
  match stop with
  | none => check (.ok ())
  | some reason => closeWith x turn envelope expectedRevision reason

/-- A capability of the preparation whose cancellation closes the wait. -/
def orClose {α : Type} (turn : Turn) (envelope : TurnWaitEnvelope) (expectedRevision : UInt64)
    (task : RuntimeM α) : RuntimeM α := do
  let outcome ← TryTask.attempt task
  match outcome with
  | .ok a => check (.ok a)
  | .error (.cancelled phase) => do
    closeDurableWait x turn envelope expectedRevision .cancelled .cancelled
    check (.error (.cancelled phase))
  | .error error => check (.error error)

/-! ## Settling a durable wait -/

/-- `deny_durable_wait`. -/
def denyDurableWait (turn : Turn) (envelope : TurnWaitEnvelope) (execution : AgentLoopExecution)
    (record : ApprovalRecord) : RuntimeM Unit := do
  let commandId ← check (deterministicDenialCommandId envelope record)
  denyWaitAs x.thread turn envelope.waitId execution.revision commandId record
    x.options.authority

/-- `resume_accepted_event`: the evidence of a stored acceptance. -/
def acceptedResume (transition : Item) : Except HarnessError ResumeEvidence :=
  match transition.kind with
  | .agentLoopResumeAccepted evidence => .ok evidence
  | _ => .error (.state "resume transition has no accepted evidence")

/-- The acceptance a wait is claimed by. -/
def acceptDurableWait (turn : Turn) (envelope : TurnWaitEnvelope) (record : ApprovalRecord) :
    AgentLoopExecution → RuntimeM (Turn × ResumeEvidence)
  | .waiting _ => do
    let commandId ← check (deterministicResumeCommandId envelope record)
    let (decision, transition) ← acceptResumeAs x.thread turn envelope.waitId envelope.revision
      commandId record x.options.authority
    let resume ← check (acceptedResume transition)
    check (.ok ({ turn with items := turn.items ++ [decision, transition] }, resume))
  | .ready _ resume => do
    check (validateReadySettlement resume record)
    check (.ok (turn, resume))
  | .executing _ _ _ => check (.error
      (.state "durable execution claim changed during resume"))

/-- `accept_and_claim_durable_wait`. -/
def acceptAndClaimDurableWait (turn : Turn) (envelope : TurnWaitEnvelope)
    (execution : AgentLoopExecution) (record : ApprovalRecord) : RuntimeM Turn := do
  closeIfStopped x turn envelope execution.revision
  let (turn, resume) ← acceptDurableWait x turn envelope record execution
  closeIfStopped x turn envelope resume.revision
  let stamp ← ask .stamp
  let claimed ← claimReadyAs x.thread turn
    { waitId := envelope.waitId
      expectedRevision := resume.revision
      resumeCommandId := resume.commandId
      claimId := stamp.id
      workerId := x.runtime.workerId }
    x.options.authority
  check (.ok { turn with items := turn.items ++ [claimed] })

/-! ## The durable wait -/

/-- The settlement of an accepted resume that was denied. -/
def acceptedDenial : AgentLoopExecution → Except HarnessError (Option (ApprovalRecord × String))
  | .ready _ resume =>
    match resume.settlement.decision with
    | .deny reason => do
      let record ← approvalRecordFromResume resume
      .ok (some (record, reason))
    | .approve => .ok none
  | _ => .ok none

/-- The wait as the Inbox sees it: a record that settles it, or the status to
return. -/
def readInbox (request : ApprovalRequest) :
    RuntimeM (Except ApprovalWaitStatus ApprovalRecord) := do
  let submitted ← TryTask.attempt (submitDurableApproval request x.options.authority)
  match submitted with
  | .error error => check (.ok (.error (deliveryRetry .submit error)))
  | .ok _ => do
    let read ← TryTask.attempt (readDurableApproval request x.options.authority)
    match read with
    | .error error => check (.ok (.error (deliveryRetry .read error)))
    | .ok none => check (.ok (.error (.deliveryRetry .read
        "Approval request is absent after idempotent repair submission")))
    | .ok (some record) =>
      match approvalWaitStatus record request x.options.authority with
      | .error error => check (.ok (.error (deliveryRetry .read error)))
      | .ok .settled => check (.ok (.ok record))
      | .ok status => check (.ok (.error status))

/-- The record a resume settles the wait with. -/
def settledRecord (request : ApprovalRequest) :
    AgentLoopExecution → RuntimeM (Except ApprovalWaitStatus ApprovalRecord)
  | .ready _ resume => do
    let record ← check (approvalRecordFromResume resume)
    check (.ok (.ok record))
  | _ => readInbox x request

/-- The wait is denied by the Inbox, or has room to go on. -/
def requireApproved (turn : Turn) (envelope : TurnWaitEnvelope) (execution : AgentLoopExecution)
    (record : ApprovalRecord) : RuntimeM Unit := do
  let decision ← check (settledApprovalDecision record)
  match decision with
  | .approve => requireRuntimeCapacity x
  | .deny reason => do
    denyDurableWait x turn envelope execution record
    check (.error (.approvalDenied
      envelope.waitKind.request.authorization.descriptor.name reason))

/-- What was pending at the wait, checked against the configuration and the
envelope. -/
def durableEvidence (turn : Turn) (envelope : TurnWaitEnvelope) :
    Except HarnessError (Turn × ApprovalResumeEvidence × MemoryScope) := do
  let request := envelope.waitKind.request
  let boundaryTurn ← turnAtWaitBoundary turn envelope
  let evidence ← approvalResumeEvidence boundaryTurn envelope.requestedBy
  rejectIf (evidence.batchCalls.length != 1 || evidence.currentBatchIndex != 0)
    (.state "durable Approval resume accepts only one non-batch Tool call")
  validateDurableApprovalEvidence evidence request envelope.waitKind.modelRequestSha256
  let memoryScope ← x.options.validatedMemoryScope
  x.runtime.context.validateTurnContextInputs x.options.context
  let _ ← x.options.validatedExecutionBinding
  requireExecutionBinding boundaryTurn x.options.executionBinding
  x.runtime.models.validate
  let registered ← requireSameCapabilities x.runtime evidence "suspension"
  rejectIf (evidenceRequest x turn.id evidence registered != request)
    (.state "durable Approval request differs from its original Turn evidence")
  .ok (boundaryTurn, evidence, memoryScope)

/-- The generation and the request of the wait are still the Turn's. -/
def requireSameGeneration (boundaryTurn : Turn) (envelope : TurnWaitEnvelope)
    (evidence : ApprovalResumeEvidence) (conversation : ConversationContext)
    (compilation : ContextCompilation) : Except HarnessError Unit := do
  let digest ← modelRequestSha256 (modelRequestOf x boundaryTurn.id conversation.items
    (boundaryTurn.items.take evidence.modelRequestItemIndex) compilation.blocks)
  rejectIf (digest != evidence.modelRequestSha256)
    (.state "durable approval continuation Model request changed after suspension")
  let generation ← x.runtime.completionGenerationForModelRequest boundaryTurn
    evidence.modelRequestSha256
  rejectIf (generation != envelope.completionGeneration)
    (.state "durable approval continuation generation changed after suspension")

/-- The conversation and the context of the wait, compiled again. -/
def recompileAtWait (turns : List Turn) (turn boundaryTurn : Turn) (envelope : TurnWaitEnvelope)
    (execution : AgentLoopExecution) (memoryScope : MemoryScope) :
    RuntimeM (ConversationContext × ContextCompilation) := do
  let conversation ← check
    (x.runtime.context.compileConversation (priorTurns turns turn.id))
  let prompt ← check (turnPrompt boundaryTurn)
  let summary ← orClose x turn envelope execution.revision
    (conversationSummary x .preparation conversation prompt none)
  let compilation ← orClose x turn envelope execution.revision
    (contextCompilation .preparation prompt memoryScope none)
  let compilation ← check (mergeContext x compilation summary)
  check (.ok (conversation, compilation))

def readDeadline (remainingActiveTimeoutMs : Option UInt64) : RuntimeM (Option Nat) :=
  match remainingActiveTimeoutMs with
  | none => check (deadlineFromRemaining none 0)
  | some milliseconds => do
    let instant ← ask (.instant none)
    check (deadlineFromRemaining (some milliseconds) instant)

/-- The approved call of a wait, claimed and executed. -/
def claimAndExecute (turns : List Turn) (turn : Turn) (envelope : TurnWaitEnvelope)
    (execution : AgentLoopExecution) (record : ApprovalRecord) :
    RuntimeM DurableResumePreparation := do
  let (boundaryTurn, evidence, memoryScope) ← check (durableEvidence x turn envelope)
  let (conversation, compilation) ← recompileAtWait x turns turn boundaryTurn envelope execution
    memoryScope
  check (requireSameGeneration x boundaryTurn envelope evidence conversation compilation)
  let turn ← acceptAndClaimDurableWait x turn envelope execution record
  let activeDeadline ← readDeadline envelope.remainingActiveTimeoutMs
  let call ← check (orError (.state "approval continuation has no call") evidence.batchCalls.head?)
  let (turn, superseded) ← supersedeToolBeforeEffect x.thread turn call.callId
  let turn ← if superseded then check (.ok turn)
    else executeToolCall x turn call activeDeadline
  check (.ok (.claimed ⟨turn, conversation.items, compilation.blocks, evidence.consumedSteps,
    evidence.toolCallIds⟩ activeDeadline))

/-- The live wait of a Turn, which no worker has claimed. -/
def unclaimedWait (turnId : TurnId) (exact : Option DurableWaitResumeFence) :
    RuntimeM AgentLoopExecution := do
  let execution ← agentLoopExecutionAs x.thread turnId x.options.authority
  let execution ← check (orError (.state s!"turn {turnId} has no live durable wait") execution)
  check (checkSome (validateExactWaitResume execution) exact)
  check (rejectIf (!execution.isOpen)
    (.state ("durable wait was already claimed; generic replay after a possibly started effect " ++
      "is forbidden")))
  let authority ← check (waitAuthority execution.envelope)
  check (rejectIf (authority != x.options.authority)
    (.approval ("durable wait execution authority differs from the frozen original " ++
      "authority")))
  check (.ok execution)

/-- `prepare_durable_wait_resume`. -/
def prepareDurableWaitResume (turnId : TurnId) (exact : Option DurableWaitResumeFence) :
    RuntimeM DurableResumePreparation := do
  let turns ← requireThreadAs x.thread x.options.authority
  let turn ← check (soleRunningTurn x.thread turns turnId)
  let execution ← unclaimedWait x turnId exact
  let envelope := execution.envelope
  let denial ← check (acceptedDenial execution)
  match denial with
  | some (record, reason) => do
    denyDurableWait x turn envelope execution record
    check (.error (.approvalDenied record.request.authorization.descriptor.name reason))
  | none => do
    closeIfStopped x turn envelope execution.revision
    let record ← settledRecord x envelope.waitKind.request execution
    match record with
    | .error status => check (.ok (.waiting ⟨turn, envelope, status⟩))
    | .ok record => do
      requireApproved x turn envelope execution record
      claimAndExecute x turns turn envelope execution record

/-! ## The blocking approval -/

/-- The rest of a batch is authorized and the whole of it executed. -/
def authorizeAll (turn : Turn) (modelRequestSha256 : String) (deadline : Option Nat) :
    List ModelToolCall → RuntimeM Turn
  | [] => check (.ok turn)
  | call :: calls => do
    let turn ← authorizeToolCall x turn call modelRequestSha256 deadline
    authorizeAll turn modelRequestSha256 deadline calls

/-- The decision of the handler about a request that was recorded before. -/
def decideRecorded (request : ApprovalRequest) (deadline : Option Nat) :
    RuntimeM ApprovalDecision := do
  rejectIfTombstoned request.id
  let approval ← ask (.invoke .preparation (.decideApproval request x.options.authority) deadline)
  let approval ← check approval
  check (validateApprovalDecision approval)
  recordTombstone request.id .settled
  ask (.enqueueRepairOp request.id)
  check (.ok approval)

/-- The pending calls of a Turn whose approval was decided. -/
def continueApproved (turn : Turn) (evidence : ApprovalResumeEvidence) (deadline : Option Nat) :
    RuntimeM Turn := do
  let turn ← authorizeAll x turn evidence.modelRequestSha256 deadline
    (evidence.batchCalls.drop (evidence.currentBatchIndex + 1))
  check (validateResumedBatchAuthority turn
    (evidence.batchCalls.take (evidence.currentBatchIndex + 1)) x.runtime.tools)
  let (turn, _) ← executeToolBatch x turn evidence.batchCalls deadline
  check (.ok turn)

/-- The conversation and the context of a blocked Turn, compiled again. -/
def recompileBlocked (turns : List Turn) (turn : Turn) (memoryScope : MemoryScope)
    (deadline : Option Nat) : RuntimeM (ConversationContext × ContextCompilation) := do
  let conversation ← check
    (x.runtime.context.compileConversation (priorTurns turns turn.id))
  let prompt ← check (turnPrompt turn)
  let summary ← conversationSummary x .preparation conversation prompt deadline
  let compilation ← contextCompilation .preparation prompt memoryScope deadline
  let compilation ← check (mergeContext x compilation summary)
  check (.ok (conversation, compilation))

/-- The request of the blocked step is still the Turn's. -/
def requireSameRequest (turn : Turn) (evidence : ApprovalResumeEvidence)
    (conversation : ConversationContext) (compilation : ContextCompilation) :
    Except HarnessError Unit := do
  let digest ← modelRequestSha256 (modelRequestOf x turn.id conversation.items
    (turn.items.take evidence.modelRequestItemIndex) compilation.blocks)
  rejectIf (digest != evidence.modelRequestSha256)
    (.state "approval continuation Model request changed after restart")

/-- `prepare_approval_resume`. -/
def prepareApprovalResume (turnId : TurnId) (deadline : Option Nat) :
    RuntimeM PreparedExecution := do
  let memoryScope ← check x.options.validatedMemoryScope
  let turns ← requireThreadAs x.thread x.options.authority
  requireRuntimeCapacity x
  let turn ← check (soleRunningTurn x.thread turns turnId)
  check (requireExecutionBinding turn x.options.executionBinding)
  let evidence ← check (approvalResumeEvidence turn x.options.authority.actor)
  let registered ← check (requireSameCapabilities x.runtime evidence "restart")
  let (conversation, compilation) ← recompileBlocked x turns turn memoryScope deadline
  check (requireSameRequest x turn evidence conversation compilation)
  let approval ← decideRecorded x (evidenceRequest x turnId evidence registered) deadline
  let turn ← record x.thread turn
    (.approvalDecision evidence.approvalId evidence.callId approval)
  match approval with
  | .deny reason => failWith x.thread turn (.approvalDenied evidence.tool reason)
  | .approve => do
    let turn ← continueApproved x turn evidence deadline
    check (.ok ⟨turn, conversation.items, compilation.blocks, evidence.consumedSteps,
      evidence.toolCallIds⟩)

end YHarness.Runtime

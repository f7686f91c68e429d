/-
# YHarness.Runtime.Loop -- the Agent Loop

`execute_turn` of `src/runtime/mod.rs` and the calls that run it.  A Turn is
started or prepared for its resume; then each step governs progress, asks the
Model and acts on its decision, until an answer is complete, an approval has to
wait or the steps are used up.
-/
import YHarness.Runtime.Resume
import YHarness.Runtime.Route

namespace YHarness.Runtime

open YHarness.Lib YHarness.Kernel YHarness.State

set_option autoImplicit false

/-- How a step of the loop ends. -/
inductive StepOutcome where
  | again (turn : Turn) (toolCallIds : List String)
  | ended (result : TurnExecutionResult)

/-- How the verification of a candidate ends. -/
inductive CandidateOutcome where
  | superseded (turn : Turn)
  | verified (turn : Turn) (retry : Bool)

variable [Sha256] (x : Execution)

/-! ## Messages -/

/-- The provider continuation a decision carries. -/
def continuationKind (settled : SettledModelOutput) : Option ItemKind :=
  settled.continuation.map fun continuation =>
    .providerContinuation settled.modelId settled.modelOrigin continuation

/-- An error that gives way to steering that waits. -/
def applyOrFail (turn : Turn) (error : HarnessError) : RuntimeM CandidateOutcome := do
  let (turn, applied) ← applyPendingSteering x.thread turn true
  if applied then check (.ok (.superseded turn)) else failWith x.thread turn error

/-- The verifiers of a candidate in order.  A retryable failure lets the others
run. -/
def verifyCandidate (candidateItemId : ItemId) (request : VerificationRequest)
    (deadline : Option Nat) (turn : Turn) (retry : Bool) :
    List RegisteredVerifier → RuntimeM CandidateOutcome
  | [] => check (.ok (.verified turn retry))
  | verifier :: verifiers => do
    let outcome ← ask (.invoke .loop (.verify verifier.name request) deadline)
    match outcome with
    | .error error =>
      if (stopOf error).isSome then failWith x.thread turn error
      else applyOrFail x turn (.verification s!"{verifier.name}: {error.display}")
    | .ok outcome =>
      match validateOutcome verifier.name outcome with
      | .error error => applyOrFail x turn error
      | .ok () => do
        let (turn, superseded) ← recordVerificationResultIfCurrent x.thread turn
          candidateItemId verifier outcome
        if superseded then check (.ok (.superseded turn))
        else match outcome with
          | .failed reason false =>
            applyOrFail x turn (.verification s!"{verifier.name}: {reason}")
          | .failed _ true =>
            verifyCandidate candidateItemId request deadline turn true verifiers
          | .passed _ =>
            verifyCandidate candidateItemId request deadline turn retry verifiers

/-- A verified candidate completes the Turn. -/
def completeStep (turn : Turn) (candidateItemId : ItemId) (toolCallIds : List String) :
    RuntimeM StepOutcome := do
  let completed ← TryTask.attempt
    (completeCandidateIfCurrent x.thread x.runtime turn candidateItemId)
  match completed with
  | .ok (turn, some finalText) => check (.ok (.ended (.completed ⟨turn, finalText⟩)))
  | .ok (turn, none) => check (.ok (.again turn toolCallIds))
  | .error error => failWith x.thread turn error

/-- A step whose Model answers. -/
def messageStep (deadline : Option Nat) (turn : Turn) (toolCallIds : List String)
    (settled : SettledModelOutput) (content : String) : RuntimeM StepOutcome := do
  let (turn, superseded) ← recordModelDecisionIfCurrent x.thread turn (continuationKind settled)
    (.assistantMessage (some settled.modelId) (some settled.modelOrigin)
      (some settled.modelRequestSha256) content)
  if superseded then check (.ok (.again turn toolCallIds))
  else do
    let candidateItemId ← orSettle x.thread turn
      (check (currentAssistantCandidate turn settled.modelRequestSha256))
    let verification ← verifyCandidate x candidateItemId
      ⟨x.thread.id, turn.id, turn.items, content⟩ deadline turn false x.runtime.verification
    match verification with
    | .superseded turn => check (.ok (.again turn toolCallIds))
    | .verified turn true => do
      let (turn, _) ← applyPendingSteering x.thread turn false
      check (.ok (.again turn toolCallIds))
    | .verified turn false => completeStep x turn candidateItemId toolCallIds

/-! ## Tool calls -/

def reusedCallId (callId : String) : HarnessError :=
  .model s!"model reused Tool call id {debugText callId} within one Turn"

/-- An authorized call, unless steering supersedes it. -/
def executeAuthorized (deadline : Option Nat) (turn : Turn) (call : ModelToolCall)
    (toolCallIds : List String) : RuntimeM StepOutcome := do
  let (turn, superseded) ← supersedeToolBeforeEffect x.thread turn call.callId
  if superseded then check (.ok (.again turn toolCallIds))
  else do
    let turn ← executeToolCall x turn call deadline
    check (.ok (.again turn toolCallIds))

/-- A recorded call is authorized as the mode says and executed. -/
def authorizeAndExecute (mode : TurnExecutionMode) (deadline : Option Nat) (turn : Turn)
    (call : ModelToolCall) (requestSha256 : String) (toolCallIds : List String) :
    RuntimeM StepOutcome := do
  match mode with
  | .blocking => do
    let turn ← authorizeToolCall x turn call requestSha256 deadline
    executeAuthorized x deadline turn call toolCallIds
  | .durable (some waitTtlMs) => do
    let authorization ← authorizeToolCallUntilWait x turn call requestSha256 deadline waitTtlMs
    match authorization with
    | .authorized turn => executeAuthorized x deadline turn call toolCallIds
    | .restart turn => check (.ok (.again turn toolCallIds))
    | .waiting wait => check (.ok (.ended (.waiting wait)))
  | .durable none => check (.error
      (.state "durable execution has no wall-clock wait lifetime"))

/-- A step whose Model calls one Tool. -/
def toolCallStep (mode : TurnExecutionMode) (deadline : Option Nat) (turn : Turn)
    (toolCallIds : List String) (settled : SettledModelOutput) (call : ModelToolCall)
    (requestSha256 : String) : RuntimeM StepOutcome := do
  if call.callId ∈ toolCallIds then failWith x.thread turn (reusedCallId call.callId)
  else do
    let (turn, superseded) ← recordModelDecisionIfCurrent x.thread turn
      (continuationKind settled)
      (.toolCall (some settled.modelId) (some settled.modelOrigin) call.callId call.name call.input
        none)
    if superseded then check (.ok (.again turn toolCallIds))
    else authorizeAndExecute x mode deadline turn call requestSha256 (call.callId :: toolCallIds)

/-- The Items of a batch of calls. -/
def batchKinds (settled : SettledModelOutput) (batchId : ToolCallBatchId) (size : Nat) :
    Nat → List ModelToolCall → List ItemKind
  | _, [] => []
  | index, call :: calls =>
    .toolCall (some settled.modelId) (some settled.modelOrigin) call.callId call.name call.input
        (some ⟨batchId, index, size⟩) ::
      batchKinds settled batchId size (index + 1) calls

/-- A step whose Model calls several Tools. -/
def toolCallsStep (deadline : Option Nat) (turn : Turn) (toolCallIds : List String)
    (settled : SettledModelOutput) (calls : List ModelToolCall) (requestSha256 : String) :
    RuntimeM StepOutcome := do
  match calls.find? fun call => decide (call.callId ∈ toolCallIds) with
  | some call => failWith x.thread turn (reusedCallId call.callId)
  | none => do
    let stamp ← ask .stamp
    let (turn, superseded) ← recordModelToolBatchIfCurrent x.thread turn
      (continuationKind settled) (batchKinds settled stamp.id calls.length 0 calls)
    if superseded then check (.ok (.again turn toolCallIds))
    else do
      let turn ← authorizeAll x turn requestSha256 deadline calls
      let (turn, _) ← executeToolBatch x turn calls deadline
      check (.ok (.again turn (calls.map (·.callId) ++ toolCallIds)))

/-! ## The loop -/

section Loop

variable (mode : TurnExecutionMode) (deadline : Option Nat) (conversation : List Item)
  (blocks : List ContextBlock)

/-- One step: the Model decides and its decision is carried out. -/
def agentStep (turn : Turn) (toolCallIds : List String) : RuntimeM StepOutcome := do
  let request := modelRequestOf x turn.id conversation turn.items blocks
  let requestSha256 ← orSettle x.thread turn (check (modelRequestSha256 request))
  let settled ← orSettle x.thread turn (completeModelRouted x.runtime request deadline)
  let (turn, superseded) ← orSettle x.thread turn
    (validateModelOutputIfCurrent x.thread x.runtime.toolView turn settled.output)
  if superseded then check (.ok (.again turn toolCallIds))
  else match settled.output with
    | .message content => messageStep x deadline turn toolCallIds settled content
    | .toolCall callId name input =>
      toolCallStep x mode deadline turn toolCallIds settled ⟨callId, name, input⟩ requestSha256
    | .toolCalls calls => toolCallsStep x deadline turn toolCallIds settled calls requestSha256

/-- The end of a loop whose steps are used up. -/
def exhausted (progress : ProgressGovernor) (turn : Turn) : RuntimeM TurnExecutionResult := do
  let (_, turn) ← governProgressAtSafeBoundary x.thread progress turn true
  settleError x.thread turn (.maxSteps x.runtime.maxSteps) .exhaust
  check (.error (.maxSteps x.runtime.maxSteps))

/-- The steps that are left, the first of which has the given number. -/
def agentLoop : Nat → Nat → ProgressGovernor → Turn → List String →
    RuntimeM TurnExecutionResult
  | 0, _, progress, turn, _ => exhausted x progress turn
  | remaining + 1, step, progress, turn, toolCallIds => do
    let (decision, progress, turn) ← decidePreStep x.thread x.runtime step progress turn
    match decision with
    | .stop _ => exhausted x progress turn
    | .continue => do
      let outcome ← agentStep x mode deadline conversation blocks turn toolCallIds
      match outcome with
      | .ended result => check (.ok result)
      | .again turn toolCallIds =>
        agentLoop remaining (step + 1) progress turn toolCallIds

end Loop

/-- The loop over a prepared Turn. -/
def drive (mode : TurnExecutionMode) (deadline : Option Nat) (prepared : PreparedExecution) :
    RuntimeM TurnExecutionResult := do
  let progress ← orSettle x.thread prepared.turn (check
    (ProgressGovernor.fromItems x.runtime.progressPolicy prepared.turn.items))
  agentLoop x mode deadline prepared.conversation prepared.blocks
    (x.runtime.maxSteps - prepared.step) prepared.step progress prepared.turn
    prepared.toolCallIds

/-! ## Entering -/

/-- `register_turn_control`. -/
def registerTurnControl (turn : Turn) : RuntimeM Unit := do
  let pending ← check (pendingSteeringFromItems turn.items)
  check (rejectIf (decide (maxPendingSteering < pending.length) ||
      decide (maxPendingSteeringBytes < steeringBytes pending))
    (.state "recovered Turn exceeds pending steering capacity"))
  let registered ← ask (.registerControl ⟨turn.id, x.options.authority, true, pending,
    steeringBytes pending⟩)
  check registered

def recordAll (turn : Turn) : List ItemKind → RuntimeM Turn
  | [] => check (.ok turn)
  | kind :: kinds => do
    let turn ← record x.thread turn kind
    recordAll turn kinds

/-- The Items a new Turn opens with. -/
def openingKinds (prompt : String) (binding : Option ExecutionBinding)
    (conversation : ConversationContext) : List ItemKind :=
  .userMessage prompt ::
    ((binding.map (ItemKind.executionBinding x.options.authority.actor)).toList ++
      [.conversationContext conversation.includedTurns conversation.droppedTurns
        conversation.serializedBytes])

/-- The Items that tell where the context of a Turn came from. -/
def contextKinds (summary : Option ItemKind) (compilation : ContextCompilation) :
    List ItemKind :=
  summary.toList ++
    (invocationContextRecord compilation.blocks x.options.authority.actor).toList ++
    (compilation.memory.map fun observation => ItemKind.memoryContext observation.provider
      observation.status observation.references observation.packedTokens
      observation.warnings).toList

def summaryKind : Option ContextBlock → Except HarnessError (Option ItemKind)
  | none => .ok none
  | some block => do
    let record ← conversationSummaryRecord block
    .ok (some record)

/-- The context of a Turn that has started. -/
def compileStarted (turn : Turn) (prompt : String) (memoryScope : MemoryScope)
    (conversation : ConversationContext) (deadline : Option Nat) :
    RuntimeM (Option ItemKind × ContextCompilation) := do
  let summary ← orSettle x.thread turn
    (conversationSummary x .loop conversation prompt deadline)
  let summaryRecord ← orSettle x.thread turn (check (summaryKind summary))
  let compilation ← orSettle x.thread turn (contextCompilation .loop prompt memoryScope deadline)
  let compilation ← orSettle x.thread turn (check (mergeContext x compilation summary))
  check (.ok (summaryRecord, compilation))

/-- A started Turn up to its first step. -/
def openTurn (turn : Turn) (prompt : String) (memoryScope : MemoryScope)
    (binding : Option ExecutionBinding) (conversation : ConversationContext)
    (deadline : Option Nat) : RuntimeM PreparedExecution := do
  let turn ← recordAll x turn (openingKinds x prompt binding conversation)
  let (summary, compilation) ← compileStarted x turn prompt memoryScope conversation deadline
  let turn ← recordAll x turn (contextKinds x summary compilation)
  check (.ok ⟨turn, conversation.items, compilation.blocks, 0, []⟩)

/-- What `execute_turn` has settled before it claims the Thread. -/
structure Admission where
  mode : TurnExecutionMode
  executionBinding : Option ExecutionBinding
  memoryScope : Option MemoryScope
  deadline : Option Nat

/-- A new Turn; `existing` is the Thread as it was loaded before the claim. -/
def enterStart (admission : Admission) (existing : List Turn) (prompt : String) :
    RuntimeM TurnExecutionResult := do
  check (validatePrompt prompt)
  let memoryScope ← check (orError (.state "new Turn has no validated memory scope")
    admission.memoryScope)
  requireRuntimeCapacity x
  let conversation ← check (x.runtime.context.compileConversation existing)
  let turn ← startTurnAs x.thread x.options.authority
  registerTurnControl x turn
  let prepared ← openTurn x turn prompt memoryScope admission.executionBinding conversation
    admission.deadline
  drive x admission.mode admission.deadline prepared

/-- The running Turn of the Thread as it was loaded before the claim. -/
def existingRunning (existing : List Turn) (turnId : TurnId) : Except HarnessError Turn :=
  match existing.find? fun turn => turn.id == turnId && turn.status == .running with
  | some turn => .ok turn
  | none => notRunningTurn x.thread turnId

def enterResumeApproval (admission : Admission) (existing : List Turn) (turnId : TurnId) :
    RuntimeM TurnExecutionResult := do
  let turn ← check (existingRunning x existing turnId)
  registerTurnControl x turn
  let prepared ← prepareApprovalResume x turnId admission.deadline
  drive x admission.mode admission.deadline prepared

def enterResumeWait (admission : Admission) (existing : List Turn) (turnId : TurnId)
    (exact : Option DurableWaitResumeFence) : RuntimeM TurnExecutionResult := do
  let turn ← check (existingRunning x existing turnId)
  registerTurnControl x turn
  let preparation ← prepareDurableWaitResume x turnId exact
  match preparation with
  | .waiting wait => check (.ok (.waiting wait))
  | .claimed prepared activeDeadline => drive x admission.mode activeDeadline prepared

def enter (admission : Admission) (existing : List Turn) :
    TurnEntry → RuntimeM TurnExecutionResult
  | .start prompt => enterStart x admission existing prompt
  | .resumeApproval turnId => enterResumeApproval x admission existing turnId
  | .resumeWait turnId exact => enterResumeWait x admission existing turnId exact

/-- The part of `execute_turn` that holds the Thread.  Its guards are dropped
however it ends. -/
def executeClaimed (admission : Admission) (existing : List Turn) (entry : TurnEntry) :
    RuntimeM TurnExecutionResult := do
  let claimed ← ask .claimThread
  check claimed
  let outcome ← TryTask.attempt (enter x admission existing entry)
  ask .release
  check outcome

/-! ## Admission -/

def isAcceptedDenial : AgentLoopExecution → Bool
  | .ready _ resume => resume.settlement.decision.isDeny
  | _ => false

def isWaiting : AgentLoopExecution → Bool
  | .waiting _ => true
  | _ => false

/-- Close an unclaimed wait that was cancelled or has expired. -/
def closeUnclaimed (turnId : TurnId) (execution : AgentLoopExecution) (reason : TurnStopReason) :
    RuntimeM Unit := do
  check (rejectIf (!execution.isOpen)
    (.state "an already claimed durable wait cannot use unclaimed closure"))
  let turns ← requireThreadAs x.thread x.options.authority
  let turn ← check (orError (.state s!"turn {turnId} is not running")
    (turns.find? fun turn => turn.id == turnId && turn.status == .running))
  closeWith x turn execution.envelope execution.revision reason

/-- The checks of a durable resume before it claims the Thread: the lifetime of
its wait and whether the Approval handler must be durable. -/
def admitWait (turnId : TurnId) (exact : Option DurableWaitResumeFence) :
    RuntimeM (Nat × Bool) := do
  check (rejectIf x.options.timeoutMs.isSome
    (.invalidConfiguration "durable wait resume cannot replace the stored active timeout"))
  let execution ← agentLoopExecutionAs x.thread turnId x.options.authority
  let execution ← check (orError
    (.state s!"turn {turnId} has no live durable wait in thread {x.thread.id}") execution)
  check (checkSome (validateExactWaitResume execution) exact)
  let envelope := execution.envelope
  check (rejectIf (envelope.threadId != x.thread.id || envelope.turnId != turnId)
    (.state "durable wait coordinates differ from the requested Turn"))
  let authority ← check (waitAuthority envelope)
  check (rejectIf (x.options.authority != authority)
    (.approval "durable wait resume authority differs from the frozen original authority"))
  let waitTtlMs ← check (waitTtlFromEnvelope envelope)
  let stop ← if isAcceptedDenial execution then check (.ok none) else waitStop envelope
  match stop with
  | none => check (.ok ())
  | some reason => closeUnclaimed x turnId execution reason
  check (.ok (waitTtlMs, isWaiting execution))

def requireDurableHandler (required : Bool) : Except HarnessError Unit :=
  rejectIf (required && !x.runtime.supportsDurableWait)
    (.invalidConfiguration "run-until-wait requires a durable Approval handler")

/-- `deadline` of a Turn's timeout. -/
def turnDeadline (timeoutMs : Option Nat) : RuntimeM (Option Nat) :=
  match timeoutMs with
  | none => check (.ok none)
  | some timeoutMs => do
    let instant ← ask (.instant none)
    check (.ok (some (instant + timeoutMs)))

/-- The checks of `execute_turn` before it loads the Thread. -/
def admitTurn (entry : TurnEntry) (mode : TurnExecutionMode) : RuntimeM Admission :=
  match entry with
  | .resumeWait turnId exact => do
    let (waitTtlMs, waiting) ← admitWait x turnId exact
    check (requireDurableHandler x waiting)
    check (.ok ⟨mode.setWaitTtl waitTtlMs, none, none, none⟩)
  | _ => do
    check x.runtime.models.validate
    check (requireDurableHandler x mode.isDurable)
    let binding ← check x.options.validatedExecutionBinding
    check (x.runtime.context.validateTurnContextInputs x.options.context)
    let memoryScope ← check x.options.validatedMemoryScope
    let deadline ← turnDeadline x.options.timeoutMs
    check (.ok ⟨mode, binding, some memoryScope, deadline⟩)

/-- `execute_turn`. -/
def executeTurn (entry : TurnEntry) (mode : TurnExecutionMode) :
    RuntimeM TurnExecutionResult := do
  let admission ← admitTurn x entry mode
  let existing ← requireThreadAs x.thread x.options.authority
  executeClaimed x admission existing entry

end YHarness.Runtime

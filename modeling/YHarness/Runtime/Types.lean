/-
# YHarness.Runtime.Types -- what the Agent Loop is configured with and exchanges

The data of `src/runtime/mod.rs`: Model decisions and requests, the Turn-control
record steering goes through, registered Models, Tools and verifiers, and the
validators the loop applies to what its capabilities return.  The Context Engine
is a record of its pure functions: the loop only calls them.  Durations are
milliseconds.
-/
import YHarness.Completion
import YHarness.State.Validate

namespace YHarness.Runtime

open YHarness.Lib YHarness.Kernel
open YHarness.State (maxToolCallsPerBatch)

set_option autoImplicit false

def maxPromptBytes : Nat := 1048576
def maxModelTextBytes : Nat := 1048576
def maxModelToolInputBytes : Nat := 1048576
def maxModelToolBatchBytes : Nat := 4194304
def maxToolOutputBytes : Nat := 1048576
def maxModelRequestBytes : Nat := 16777216
def maxRuntimeErrorChars : Nat := 4096
def maxModelCallIdBytes : Nat := 256
def maxProviderEvidenceIdBytes : Nat := 256
def maxPolicyReasonBytes : Nat := 4096
def maxModelRouteEntries : Nat := 16
def minRuntimeGeneralEvents : Nat := 4
def maxPendingSteering : Nat := 64
def maxPendingSteeringBytes : Nat := 1048576
def maxModelProviderFailureMessageBytes : Nat := 4096
def maxModelProviderRetryAfterMs : Nat := 86400000

/-! ## Model decisions -/

structure ModelToolCall where
  callId : String
  name : String
  input : Json

def ModelToolCall.toJson (call : ModelToolCall) : Json :=
  .obj [("call_id", .str call.callId), ("name", .str call.name), ("input", call.input)]

inductive ModelOutput where
  | message (content : String)
  | toolCall (callId name : String) (input : Json)
  | toolCalls (calls : List ModelToolCall)

/-- A Model's decision; the usage it reports is only observed. -/
structure ModelResponse where
  output : ModelOutput
  providerModel : Option String
  providerRequestId : Option String
  continuation : Option ModelContinuation

structure SettledModelOutput where
  modelId : String
  modelOrigin : CapabilityOrigin
  modelRequestSha256 : String
  output : ModelOutput
  continuation : Option ModelContinuation

inductive ModelAttemptControl where
  | none | cancelled | deadlineElapsed
deriving DecidableEq

structure ToolCallSettlement where
  callId : String
  output : Json
  isError : Bool
  connectorEvidence : List ConnectorEvidence

/-! ## Context -/

inductive MemoryView where
  | locator | overview | detail

def MemoryView.toJson : MemoryView → Json
  | locator => .str "locator"
  | overview => .str "overview"
  | detail => .str "detail"

inductive ContextSource where
  | memory (provider reference : String) (selectedView : MemoryView) (detailUri : Option String)
  | skill (name version contentSha256 : String)
  | conversationSummary (compactor : String) (coveredTurns : List TurnId)
      (olderOmittedTurns : Nat) (sourceSha256 contentSha256 : String)
  | invocation (source reference sourceSha256 contentSha256 : String)

def ContextSource.toJson : ContextSource → Json
  | memory provider reference selectedView detailUri =>
    .obj [("type", .str "memory"), ("provider", .str provider), ("reference", .str reference),
      ("selected_view", selectedView.toJson), ("detail_uri", nullable .str detailUri)]
  | skill name version contentSha256 =>
    .obj [("type", .str "skill"), ("name", .str name), ("version", .str version),
      ("content_sha256", .str contentSha256)]
  | conversationSummary compactor coveredTurns olderOmittedTurns sourceSha256 contentSha256 =>
    .obj [("type", .str "conversation_summary"), ("compactor", .str compactor),
      ("covered_turns", .arr (coveredTurns.map .str)),
      ("older_omitted_turns", .nat olderOmittedTurns), ("source_sha256", .str sourceSha256),
      ("content_sha256", .str contentSha256)]
  | invocation source reference sourceSha256 contentSha256 =>
    .obj [("type", .str "invocation"), ("source", .str source), ("reference", .str reference),
      ("source_sha256", .str sourceSha256), ("content_sha256", .str contentSha256)]

structure ContextBlock where
  source : ContextSource
  text : String
  estimatedTokens : Nat

def ContextBlock.toJson (block : ContextBlock) : Json :=
  .obj [("source", block.source.toJson), ("text", .str block.text),
    ("estimated_tokens", .nat block.estimatedTokens)]

structure MemoryContextObservation where
  provider : String
  status : MemoryContextRecordStatus
  references : List String
  packedTokens : Nat
  warnings : List String

structure ContextCompilation where
  blocks : List ContextBlock
  memory : Option MemoryContextObservation

structure ConversationContext where
  items : List Item
  includedTurns : List TurnId
  droppedTurns : Nat
  serializedBytes : Nat

structure TurnContextInput where
  source : String
  reference : String
  text : String

structure MemoryScope where
  project : Option String
  tenantId : Option String
  tags : List String

/-- The pure functions of the Context Engine.  `compile_conversation` reads the
Turns of a Thread. -/
structure ContextEngine where
  compileConversation : List Turn → Except HarnessError ConversationContext
  conversationCompactorName : ConversationContext → Option String
  mergeConversationSummary : ContextCompilation → Option ContextBlock →
    Except HarnessError ContextCompilation
  mergeTurnContext : ContextCompilation → List TurnContextInput →
    Except HarnessError ContextCompilation
  validateTurnContextInputs : List TurnContextInput → Except HarnessError Unit

/-! ## Requests -/

/-- The authority is excluded from the serialized request. -/
structure ModelRequest where
  threadId : ThreadId
  turnId : TurnId
  authority : AuthorityContext
  items : List Item
  context : List ContextBlock
  tools : List ToolDescriptor

def ModelRequest.toJson (request : ModelRequest) : Json :=
  .obj [("thread_id", .str request.threadId), ("turn_id", .str request.turnId),
    ("items", .arr (request.items.map Item.toJson)),
    ("context", .arr (request.context.map ContextBlock.toJson)),
    ("tools", .arr (request.tools.map ToolDescriptor.toJson))]

/-- `model_visible_item`. -/
def modelVisibleItem (item : Item) : Option Item :=
  match item.kind with
  | .steeringApplied _ content => some { item with kind := .userMessage content }
  | .toolResult callId output isError _ =>
    some { item with kind := .toolResult callId output isError [] }
  | .assistantMessage modelId modelOrigin _ content =>
    some { item with kind := .assistantMessage modelId modelOrigin none content }
  | .verificationResult verifier _ _ _ outcome =>
    some { item with kind := .verificationResult verifier none none none outcome }
  | .userMessage _ | .providerContinuation _ _ _ | .toolCall _ _ _ _ _ _ => some item
  | _ => none

/-- `derive_messages`: the model-visible Items before and in the Turn. -/
def deriveMessages (prior current : List Item) : List Item :=
  prior.filterMap modelVisibleItem ++ current.filterMap modelVisibleItem

/-! ## Registered capabilities -/

inductive ToolBatchExecution where
  | sequential | parallelSafe
deriving DecidableEq

structure RegisteredTool where
  descriptor : ToolDescriptor
  origin : CapabilityOrigin
  batchExecution : ToolBatchExecution
  cancellationSettlementTimeoutMs : Nat

abbrev ToolRegistry := List RegisteredTool

def ToolRegistry.get (tools : ToolRegistry) (name : String) : Option RegisteredTool :=
  tools.find? fun tool => tool.descriptor.name == name

structure ToolCapabilityView where
  descriptors : List ToolDescriptor
  names : List String

inductive FrozenModelIdentity where
  | valid (id : String)
  | invalid
  | panicked
deriving DecidableEq

def FrozenModelIdentity.get : FrozenModelIdentity → Except HarnessError String
  | valid id => .ok id
  | invalid => .error (.invalidCapability "model identity does not satisfy the portable contract")
  | panicked => .error (.capabilityPanicked .model)

structure RuntimeModel where
  identity : FrozenModelIdentity
  origin : CapabilityOrigin

structure ModelRetryPolicy where
  maxRetries : Nat
  initialDelayMs : Nat
  maxDelayMs : Nat

structure ModelRoute where
  entries : List RuntimeModel
  attemptTimeoutMs : Option Nat
  retryPolicy : Option ModelRetryPolicy
  timeoutCooldownMs : Option Nat

def ModelRoute.validate (route : ModelRoute) : Except HarnessError Unit := do
  rejectIf (route.entries.isEmpty || decide (maxModelRouteEntries < route.entries.length))
    (.invalidConfiguration
      s!"Model failover route must contain 1-{maxModelRouteEntries} identities")
  checkAll (fun entry : RuntimeModel => do
    let _ ← entry.identity.get
    .ok ()) route.entries

def ModelRoute.contains (route : ModelRoute) (modelId : String) (origin : CapabilityOrigin) :
    Bool :=
  route.entries.any fun entry => entry.identity == .valid modelId && entry.origin == origin

structure RegisteredVerifier where
  name : String
  origin : CapabilityOrigin
  completionBinding : CompletionVerifierBinding

structure ProgressPolicy where
  maxFailureCycleRepetitions : Nat

/-- `HarnessRuntime` without the objects its calls go to. -/
structure HarnessRuntime where
  models : ModelRoute
  tools : ToolRegistry
  toolView : ToolCapabilityView
  context : ContextEngine
  verification : List RegisteredVerifier
  supportsDurableWait : Bool
  workerId : AgentLoopWorkerId
  maxConcurrentTurns : Nat
  maxParallelToolCalls : Nat
  maxModelAttemptsPerStep : Nat
  progressPolicy : ProgressPolicy
  maxSteps : Nat

structure TurnExecutionOptions where
  authority : AuthorityContext
  memoryScope : MemoryScope
  context : List TurnContextInput
  executionBinding : Option ExecutionBinding
  timeoutMs : Option Nat

inductive TurnExecutionMode where
  | blocking
  | durable (waitTtlMs : Option Nat)

def TurnExecutionMode.isDurable : TurnExecutionMode → Bool
  | blocking => false
  | durable _ => true

def TurnExecutionMode.setWaitTtl (waitTtlMs : Nat) : TurnExecutionMode → TurnExecutionMode
  | blocking => .blocking
  | durable _ => .durable (some waitTtlMs)

structure DurableWaitResumeFence where
  waitId : AgentLoopWaitId
  expectedRevision : UInt64

inductive TurnEntry where
  | start (prompt : String)
  | resumeApproval (turnId : TurnId)
  | resumeWait (turnId : TurnId) (exact : Option DurableWaitResumeFence)

/-! ## Steering -/

structure PendingSteering where
  steeringId : SteeringId
  content : String
deriving DecidableEq

structure ActiveTurnControl where
  turnId : TurnId
  authority : AuthorityContext
  acceptingSteering : Bool
  pendingSteering : List PendingSteering
  pendingSteeringBytes : Nat

structure SteeringReceipt where
  steeringId : SteeringId
  turnId : TurnId

/-! ## Approval records and results -/

inductive ApprovalRecordStatus where
  | pending
  | settled (decision : ApprovalDecision) (decidedBy : ApprovalActor)
  | orphaned (reason : String)
deriving DecidableEq

structure ApprovalRecord where
  schemaVersion : UInt32
  request : ApprovalRequest
  tenantId : Option String
  status : ApprovalRecordStatus
  revision : UInt64
  requestedAtMs : UInt64
  settledAtMs : Option UInt64
deriving DecidableEq

inductive ApprovalDeliveryOperation where
  | submit | read

inductive ApprovalWaitStatus where
  | pending
  | settled
  | orphaned (reason : String)
  | deliveryRetry (operation : ApprovalDeliveryOperation) (message : String)

structure ApprovalWait where
  turn : Turn
  envelope : TurnWaitEnvelope
  status : ApprovalWaitStatus

structure TurnOutcome where
  turn : Turn
  finalText : String

inductive TurnExecutionResult where
  | completed (outcome : TurnOutcome)
  | waiting (wait : ApprovalWait)

/-! ## Validators -/

/-- `1-maximum non-control bytes`, not all blank. -/
def isPlainText (maximum : Nat) (value : String) : Bool :=
  !isBlank value && decide (value.utf8ByteSize ≤ maximum) && !hasControl value

def validateDecisionReason (kind reason : String) : Except HarnessError Unit :=
  rejectIf (!isPlainText maxPolicyReasonBytes reason)
    (.invalidCapability s!"{kind} reason must be 1-{maxPolicyReasonBytes} non-control bytes")

def validatePolicyDecision : PolicyDecision → Except HarnessError Unit
  | .allow => .ok ()
  | .deny reason | .ask reason _ => validateDecisionReason "Policy" reason

def validateApprovalDecision : ApprovalDecision → Except HarnessError Unit
  | .approve => .ok ()
  | .deny reason => validateDecisionReason "approval" reason

/-- Text of `1-maximum` bytes, not all blank. -/
def isText (maximum : Nat) (value : String) : Bool :=
  !isBlank value && decide (value.utf8ByteSize ≤ maximum)

def validatePrompt (prompt : String) : Except HarnessError Unit :=
  rejectIf (!isText maxPromptBytes prompt)
    (.invalidConfiguration s!"prompt must be 1-{maxPromptBytes} bytes")

def validateRuntimeJsonShape (kind : String) (value : Json) (error : String → HarnessError) :
    Except HarnessError Unit :=
  (validateValueShape value).mapError fun _ =>
    error (kind ++ " exceeds the supported JSON depth or node count")

def runtimeJsonError (kind : String) (maximum : Nat) (error : String → HarnessError) :
    BoundedJsonError → HarnessError
  | .limitExceeded => error s!"{kind} exceeds {maximum} bytes"
  | .cannotEncode => error ("cannot encode " ++ kind)

def validateRuntimeJson (kind : String) (value : Json) (maximum : Nat)
    (error : String → HarnessError) : Except HarnessError Unit := do
  validateRuntimeJsonShape kind value error
  let _ ← (boundedSerializedSize value maximum).mapError (runtimeJsonError kind maximum error)
  .ok ()

def validateModelMessage (content : String) : Except HarnessError Unit :=
  rejectIf (!isText maxModelTextBytes content)
    (.model s!"assistant message must be 1-{maxModelTextBytes} bytes")

def validateModelToolCall (callId name : String) (input : Json) : Except HarnessError Unit := do
  rejectIf (!isPlainText maxModelCallIdBytes callId)
    (.model s!"tool call id must be 1-{maxModelCallIdBytes} non-control bytes")
  rejectIf (name.isEmpty || decide (64 < name.utf8ByteSize))
    (.model "tool name must be 1-64 bytes")
  validateRuntimeJson "tool input" input maxModelToolInputBytes .model

/-- The loop of `validate_model_tool_calls`, which rejects a repeated id. -/
def validateModelToolCallsFrom (seen : List String) : List ModelToolCall → Except HarnessError Unit
  | [] => .ok ()
  | call :: calls => do
    validateModelToolCall call.callId call.name call.input
    rejectIf (decide (call.callId ∈ seen))
      (.model s!"tool-call batch reused correlation id {debugText call.callId}")
    validateModelToolCallsFrom (call.callId :: seen) calls

def validateModelToolCalls (calls : List ModelToolCall) : Except HarnessError Unit := do
  rejectIf (!(decide (2 ≤ calls.length) && decide (calls.length ≤ maxToolCallsPerBatch)))
    (.model s!"tool-call batch must contain 2-{maxToolCallsPerBatch} calls")
  validateModelToolCallsFrom [] calls
  let _ ← (boundedSerializedSize (.arr (calls.map ModelToolCall.toJson))
    maxModelToolBatchBytes).mapError
      (runtimeJsonError "tool-call batch" maxModelToolBatchBytes .model)
  .ok ()

def validateModelOutput : ModelOutput → Except HarnessError Unit
  | .message content => validateModelMessage content
  | .toolCall callId name input => validateModelToolCall callId name input
  | .toolCalls calls => validateModelToolCalls calls

/-- `validate_model_response`. -/
def validateModelResponse (response : ModelResponse) : Except HarnessError Unit := do
  rejectIf (response.providerModel.any fun id => !isPlainText maxProviderEvidenceIdBytes id)
    (.model s!"provider model must be 1-{maxProviderEvidenceIdBytes} non-control bytes")
  rejectIf (response.providerRequestId.any fun id => !isPlainText maxProviderEvidenceIdBytes id)
    (.model s!"provider request id must be 1-{maxProviderEvidenceIdBytes} non-control bytes")
  checkSome ModelContinuation.validate response.continuation
  validateModelOutput response.output

def ModelProviderFailure.validate (failure : ModelProviderFailure) : Except HarnessError Unit := do
  rejectIf (!isPlainText maxModelProviderFailureMessageBytes failure.message)
    (.invalidCapability (s!"model Provider failure message must be " ++
      s!"1-{maxModelProviderFailureMessageBytes} non-control bytes"))
  rejectIf (failure.httpStatus.any fun status => decide (status < 100) || decide (599 < status))
    (.invalidCapability "model Provider HTTP status must be 100-599")
  rejectIf (failure.retryAfterMs.any fun delay =>
      delay == 0 || decide (maxModelProviderRetryAfterMs < delay.toNat))
    (.invalidCapability (s!"model Provider retry-after must be " ++
      s!"1-{maxModelProviderRetryAfterMs} milliseconds"))

/-- `validate_model_attempt_error`. -/
def validateModelAttemptError : HarnessError → HarnessError
  | .modelProvider failure =>
    match ModelProviderFailure.validate failure with
    | .ok () => .modelProvider failure
    | .error _ => .invalidCapability "Model returned invalid typed Provider failure metadata"
  | error => error

namespace ToolCapabilityView

def require (view : ToolCapabilityView) (name : String) : Except HarnessError Unit :=
  rejectIf (!decide (name ∈ view.names))
    (.model (s!"model requested Tool {debugText name} that was not disclosed in the current " ++
      "capability view"))

def validateOutput (view : ToolCapabilityView) : ModelOutput → Except HarnessError Unit
  | .message _ => .ok ()
  | .toolCall _ name _ => view.require name
  | .toolCalls calls => checkAll (fun call : ModelToolCall => view.require call.name) calls

end ToolCapabilityView

/-- `bounded_runtime_error`. -/
def boundedRuntimeError (message : String) : String :=
  let chars := message.toList
  if maxRuntimeErrorChars < chars.length then
    String.ofList (chars.take maxRuntimeErrorChars ++ ['…'])
  else message

def TurnExecutionOptions.validatedExecutionBinding (options : TurnExecutionOptions) :
    Except HarnessError (Option ExecutionBinding) :=
  match options.executionBinding with
  | none => .ok none
  | some binding => do
    binding.validate
    rejectIf (binding.tenantId != options.authority.tenantId)
      (.invalidConfiguration
        "execution binding tenant does not match the trusted Turn authority")
    .ok (some binding)

def isAuthenticated : ActorIdentity → Bool
  | .authenticated _ _ => true
  | _ => false

def TurnExecutionOptions.validatedMemoryScope (options : TurnExecutionOptions) :
    Except HarnessError MemoryScope := do
  options.authority.validateCurrent "Turn authority"
  checkSome validateTenantId options.memoryScope.tenantId
  match options.authority.tenantId, options.memoryScope.tenantId with
  | some authority, some requested => do
    rejectIf (authority != requested)
      (.invalidConfiguration "memory tenant does not match the trusted Turn authority")
    .ok options.memoryScope
  | some authority, none => .ok { options.memoryScope with tenantId := some authority }
  | none, some _ => do
    rejectIf (isAuthenticated options.authority.actor)
      (.invalidConfiguration
        "an unscoped authenticated actor cannot select a memory tenant")
    .ok options.memoryScope
  | none, none => .ok options.memoryScope

/-! ## Digests -/

/-- `validate_model_request_json_shapes`. -/
def validateModelRequestJsonShapes (request : ModelRequest) : Except HarnessError Unit := do
  checkAll (fun item : Item => match item.kind with
    | .providerContinuation modelId modelOrigin continuation => do
      (validateModelId modelId).mapError fun error => .model error.display
      (validateCapabilityOrigin modelOrigin).mapError fun error => .model error.display
      continuation.validate
    | .toolCall _ _ _ _ input _ => validateRuntimeJsonShape "model request Item" input .model
    | .toolResult _ output _ _ => validateRuntimeJsonShape "model request Item" output .model
    | _ => .ok ()) request.items
  checkAll (fun tool : ToolDescriptor =>
    validateRuntimeJsonShape "model request Tool schema" tool.inputSchema .model) request.tools

/-- `model_request_sha256`. -/
def modelRequestSha256 [Sha256] (request : ModelRequest) : Except HarnessError String := do
  validateModelRequestJsonShapes request
  (boundedSerializedSha256 request.toJson maxModelRequestBytes).mapError
    (runtimeJsonError "model request" maxModelRequestBytes .model)

def validateModelRequest (request : ModelRequest) : Except HarnessError Unit := do
  request.authority.validateCurrent "Model request authority"
  validateModelRequestJsonShapes request
  let _ ← (boundedSerializedSize request.toJson maxModelRequestBytes).mapError
    (runtimeJsonError "model request" maxModelRequestBytes .model)
  .ok ()

/-- `completion_model_request_sha256`. -/
def completionModelRequestSha256 [Sha256] (request : ModelRequest) : Except HarnessError String :=
  canonicalJsonSha256 "model-request" request.toJson maxCompletionHashInputBytes

end YHarness.Runtime

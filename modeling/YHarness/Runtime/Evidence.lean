/-
# YHarness.Runtime.Evidence -- what the Runtime reads back from a Turn's Items

The pure functions of `src/runtime/mod.rs` over recorded Items: the steering that
is still pending, the current assistant candidate, the completion generation, the
provider continuation a request is bound to, and the evidence from which an
approval continuation is rebuilt after its worker was released or stopped.
-/
import YHarness.Runtime.Types
import YHarness.State.Execution

namespace YHarness.Runtime

open YHarness.Lib YHarness.Kernel YHarness.State

set_option autoImplicit false

/-! ## Pending steering -/

structure SteeringScan where
  pending : List PendingSteering
  seen : List SteeringId

/-- One Item of `pending_steering_from_items`. -/
def scanSteeringItem (s : SteeringScan) (item : Item) : Except HarnessError SteeringScan :=
  match item.kind with
  | .steeringQueued steeringId _ content => do
    rejectIf (decide (steeringId ∈ s.seen)) (.state s!"duplicate steering identity {steeringId}")
    .ok { pending := s.pending ++ [⟨steeringId, content⟩], seen := s.seen ++ [steeringId] }
  | .steeringApplied steeringId content =>
    match s.pending with
    | [] => .error (.state s!"applied steering {steeringId} has no pending queue record")
    | queued :: rest => do
      rejectIf (queued != ⟨steeringId, content⟩)
        (.state (s!"applied steering {steeringId} does not match queue order and " ++
          "content"))
      .ok { s with pending := rest }
  | _ => .ok s

def scanSteering (items : List Item) : Except HarnessError SteeringScan :=
  items.foldlM scanSteeringItem ⟨[], []⟩

/-- `pending_steering_from_items`. -/
def pendingSteeringFromItems (items : List Item) : Except HarnessError (List PendingSteering) := do
  let s ← scanSteering items
  .ok s.pending

def steeringBytes (pending : List PendingSteering) : Nat :=
  (pending.map fun steering => steering.content.utf8ByteSize).sum

def requireControlTurn (control : ActiveTurnControl) (turn : Turn) : Except HarnessError Unit :=
  rejectIf (control.turnId != turn.id)
    (.state s!"Turn control {control.turnId} does not match active turn {turn.id}")

def supersededToolResult (callId : String) : ItemKind :=
  .toolResult callId
    (.obj [("error", .str "tool call superseded by user steering before execution")]) true []

/-! ## The assistant candidate -/

/-- `current_assistant_candidate`. -/
def currentAssistantCandidate (turn : Turn) (expectedModelRequestSha256 : String) :
    Except HarnessError ItemId :=
  match turn.items.getLast? with
  | none => .error (.state "recorded assistant candidate disappeared from the Turn")
  | some candidate =>
    match candidate.kind with
    | .assistantMessage (some _) (some _) (some actual) _ => do
      rejectIf (actual != expectedModelRequestSha256)
        (.state "recorded assistant candidate is missing its exact Model request binding")
      .ok candidate.id
    | _ => .error
        (.state "recorded assistant candidate is missing its exact Model request binding")

def isAttributedMessage (item : Item) : Bool :=
  match item.kind with
  | .assistantMessage (some _) (some _) (some _) _ => true
  | _ => false

def isResultFor (candidate : ItemId) (item : Item) : Bool :=
  match item.kind with
  | .verificationResult _ (some resultCandidate) _ _ _ => resultCandidate == candidate
  | _ => false

/-- `require_current_assistant_candidate`. -/
def requireCurrentAssistantCandidate (turn : Turn) (candidateItemId : ItemId) :
    Except HarnessError Unit := do
  rejectIf (turn.status != .running || turn.completionReceipt.isSome)
    (.state "verification requires an unsettled running Turn")
  let (_, candidate, suffix) ← orError
    (.state "verification candidate disappeared from the Turn")
    (splitAtItem candidateItemId turn.items)
  rejectIf (!isAttributedMessage candidate)
    (.state "verification candidate is not an attributed assistant message")
  rejectIf (suffix.any fun item => !isResultFor candidateItemId item)
    (.state "verification candidate is no longer the current Turn candidate")

def candidateModelRequestSha256 (turn : Turn) (candidateItemId : ItemId) :
    Except HarnessError String := do
  let candidate ← orError (.state "completion candidate disappeared from the Turn")
    (turn.items.find? fun item => item.id == candidateItemId)
  match candidate.kind with
  | .assistantMessage _ _ (some modelRequestSha256) _ => .ok modelRequestSha256
  | _ => .error (.state "completion candidate has no exact Model request digest")

def durableCandidateText (turn : Turn) (candidateItemId : ItemId) : Except HarnessError String := do
  let candidate ← orError
    (.state "completion receipt references a missing assistant candidate")
    (turn.items.find? fun item => item.id == candidateItemId)
  match candidate.kind with
  | .assistantMessage _ _ _ content => .ok content
  | _ => .error (.state "completion receipt candidate is not an assistant message")

/-! ## The completion generation -/

def durationMillisU64 (milliseconds : Nat) (label : String) : Except HarnessError UInt64 := do
  rejectIf (decide (UInt64.size ≤ milliseconds))
    (.invalidConfiguration (label ++ " exceeds the completion-generation millisecond range"))
  .ok (UInt64.ofNat milliseconds)

def optionalMillis (label : String) : Option Nat → Except HarnessError (Option UInt64)
  | none => .ok none
  | some milliseconds => do
    let ms ← durationMillisU64 milliseconds label
    .ok (some ms)

/-- The `CompletionModelRouteSnapshot` of a route. -/
def ModelRoute.snapshot (route : ModelRoute) : Except HarnessError Json := do
  let entries ← route.entries.mapM fun entry => do
    let modelId ← entry.identity.get
    .ok (Json.obj [("model_id", .str modelId), ("origin", entry.origin.toJson)])
  let retry ← match route.retryPolicy with
    | none => .ok none
    | some policy => do
      let initialDelayMs ← durationMillisU64 policy.initialDelayMs "Model initial retry delay"
      let maxDelayMs ← durationMillisU64 policy.maxDelayMs "Model maximum retry delay"
      .ok (some (Json.obj [("max_retries", .nat policy.maxRetries),
        ("initial_delay_ms", jsonU64 initialDelayMs), ("max_delay_ms", jsonU64 maxDelayMs)]))
  let attemptTimeoutMs ← optionalMillis "Model attempt timeout" route.attemptTimeoutMs
  let timeoutCooldownMs ← optionalMillis "Model timeout cooldown" route.timeoutCooldownMs
  .ok (.obj [("entries", .arr entries), ("attempt_timeout_ms", nullable jsonU64 attemptTimeoutMs),
    ("timeout_cooldown_ms", nullable jsonU64 timeoutCooldownMs), ("retry", nullable id retry)])

def ToolBatchExecution.toJson : ToolBatchExecution → Json
  | sequential => .str "sequential"
  | parallelSafe => .str "parallel_safe"

namespace HarnessRuntime

/-- The `CompletionToolViewSnapshot` of the frozen view. -/
def toolViewSnapshot (runtime : HarnessRuntime) : Except HarnessError Json := do
  let tools ← runtime.toolView.descriptors.mapM fun descriptor => do
    let registered ← orError
      (.state s!"frozen Tool view references missing registration {debugText descriptor.name}")
      (runtime.tools.get descriptor.name)
    let timeoutMs ← durationMillisU64 registered.cancellationSettlementTimeoutMs
      "Tool cancellation settlement timeout"
    .ok (Json.obj [("descriptor", descriptor.toJson), ("origin", registered.origin.toJson),
      ("batch_execution", registered.batchExecution.toJson),
      ("cancellation_settlement_timeout_ms", jsonU64 timeoutMs)])
  .ok (.obj [("tools", .arr tools)])

def governanceSnapshot (runtime : HarnessRuntime) : Json :=
  .obj [("max_steps", .nat runtime.maxSteps),
    ("max_model_attempts_per_step", .nat runtime.maxModelAttemptsPerStep),
    ("max_parallel_tool_calls", .nat runtime.maxParallelToolCalls),
    ("max_concurrent_turns", .nat runtime.maxConcurrentTurns),
    ("max_failure_cycle_repetitions",
      .nat runtime.progressPolicy.maxFailureCycleRepetitions)]

/-- The digest of the Turn's only `ExecutionBinding` Item, if it has one. -/
def executionBindingSha256 [Sha256] (turn : Turn) : Except HarnessError (Option String) :=
  match turn.items.filter isExecutionBinding with
  | [] => .ok none
  | first :: rest => do
    let digest ← completionExecutionBindingSha256 first
    rejectIf (!rest.isEmpty)
      (.state "completion Turn contains multiple ExecutionBinding Items")
    .ok (some digest)

/-- `completion_generation_for_model_request`. -/
def completionGenerationForModelRequest [Sha256] (runtime : HarnessRuntime) (turn : Turn)
    (modelRequestSha256 : String) : Except HarnessError CompletionGeneration := do
  let route ← runtime.models.snapshot
  let toolView ← runtime.toolViewSnapshot
  let executionBindingSha256 ← executionBindingSha256 turn
  let modelRouteSha256 ← canonicalJsonSha256 "model-route" route maxCompletionHashInputBytes
  let toolViewSha256 ← canonicalJsonSha256 "tool-view" toolView maxCompletionHashInputBytes
  let verifierManifestSha256 ← completionVerifierManifestSha256
    (runtime.verification.map (·.completionBinding))
  let runtimeGovernanceSha256 ← canonicalJsonSha256 "runtime-governance"
    runtime.governanceSnapshot maxCompletionHashInputBytes
  let generation : CompletionGeneration :=
    { formatVersion := completionFormatVersion
      modelRequestSha256
      modelRouteSha256
      toolViewSha256
      verifierManifestSha256
      runtimeGovernanceSha256
      executionBindingSha256
      assurance := if executionBindingSha256.isSome then .deploymentBound else .runtimeMeasured
      generationSha256 := "" }
  validateComponents generation
  let generationSha256 ← computeGenerationSha256 generation
  .ok { generation with generationSha256 }

/-- `completion_generation`. -/
def completionGeneration [Sha256] (runtime : HarnessRuntime) (turn : Turn)
    (candidateItemId : ItemId) : Except HarnessError CompletionGeneration := do
  requireCurrentAssistantCandidate turn candidateItemId
  let modelRequestSha256 ← candidateModelRequestSha256 turn candidateItemId
  runtime.completionGenerationForModelRequest turn modelRequestSha256

end HarnessRuntime

/-! ## Provider continuations -/

structure ProviderContinuationTarget where
  modelId : String
  modelOrigin : CapabilityOrigin

def isToolCall (item : Item) : Bool :=
  match item.kind with
  | .toolCall _ _ _ _ _ _ => true
  | _ => false

def isMessage (item : Item) : Bool :=
  match item.kind with
  | .userMessage _ | .assistantMessage _ _ _ _ => true
  | _ => false

def continuationSource (item : Item) : Option (String × CapabilityOrigin) :=
  match item.kind with
  | .providerContinuation modelId modelOrigin _ => some (modelId, modelOrigin)
  | _ => none

/-- `pending_provider_continuation_target`: the Model whose continuation the last
Tool call belongs to, once that call has its result and nothing newer was said. -/
def pendingProviderContinuationTarget (items : List Item) :
    Except HarnessError (Option ProviderContinuationTarget) :=
  match lastPosition isToolCall items with
  | none => .ok none
  | some toolIndex =>
    match (items[toolIndex]?).map Item.kind with
    | some (.toolCall toolModelId toolModelOrigin callId _ _ _) =>
      let after := items.drop (toolIndex + 1)
      if !after.any (isToolResultOf callId) || after.any isMessage then .ok none
      else
        let before := items.take toolIndex
        let chainStart := ((lastPosition isMessage before).map (· + 1)).getD 0
        match (before.drop chainStart).reverse.findSome? continuationSource with
        | none => .ok none
        | some (modelId, modelOrigin) =>
          match toolModelId, toolModelOrigin with
          | some toolModelId, some toolModelOrigin => do
            rejectIf (toolModelId != modelId || toolModelOrigin != modelOrigin)
              (.state "provider continuation and Tool call Model provenance differ")
            .ok (some ⟨modelId, modelOrigin⟩)
          | _, _ => .error (.state
              "provider continuation Tool call has no recorded Model provenance")
    | _ => .ok none

/-- `retain_model_continuations`. -/
def retainModelContinuations (request : ModelRequest) (modelId : String)
    (modelOrigin : CapabilityOrigin) : ModelRequest :=
  { request with items := request.items.filter fun item =>
      (continuationSource item).all fun source => source == (modelId, modelOrigin) }

/-! ## Approval continuations -/

structure ApprovalResumeEvidence where
  approvalId : ApprovalId
  callId : String
  tool : String
  input : Json
  reason : String
  risk : RiskLevel
  requestedBy : ApprovalActor
  toolOrigin : CapabilityOrigin
  modelId : String
  modelOrigin : CapabilityOrigin
  modelRequestSha256 : String
  modelRequestItemIndex : Nat
  batchCalls : List ModelToolCall
  currentBatchIndex : Nat
  consumedSteps : Nat
  toolCallIds : List String

def isSteeringQueued (item : Item) : Bool :=
  match item.kind with
  | .steeringQueued _ _ _ => true
  | _ => false

def isCallOf (callId : String) (item : Item) : Bool :=
  match item.kind with
  | .toolCall _ _ id _ _ _ => id == callId
  | _ => false

/-- `model_request_boundary`: the decision's own continuation belongs to it. -/
def modelRequestBoundary (items : List Item) (decisionStart : Nat) (modelId : String)
    (modelOrigin : CapabilityOrigin) : Nat :=
  match decisionStart with
  | 0 => 0
  | index + 1 =>
    if (items[index]?).bind continuationSource = some (modelId, modelOrigin) then index
    else index + 1

/-- The recorded calls of a batch, in order. -/
def batchCallsFrom (batch : ToolCallBatch) (modelId : String) (modelOrigin : CapabilityOrigin) :
    Nat → List Item → Except HarnessError (List ModelToolCall)
  | _, [] => .ok []
  | index, item :: items =>
    match item.kind with
    | .toolCall (some candidateModelId) (some candidateModelOrigin) callId name input
        (some candidateBatch) => do
        rejectIf (candidateBatch != { batch with index } || candidateModelId != modelId ||
            candidateModelOrigin != modelOrigin)
          (.state "approval continuation Tool-call batch evidence is inconsistent")
        let calls ← batchCallsFrom batch modelId modelOrigin (index + 1) items
        .ok (⟨callId, name, input⟩ :: calls)
    | _ => .error (.state "approval continuation Tool-call batch is incomplete")

/-- The Model steps the recorded decisions consumed and the calls they made. -/
def consumedDecisions : List Item → Except HarnessError (Nat × List String)
  | [] => .ok (0, [])
  | item :: items => do
    let (steps, callIds) ← consumedDecisions items
    match item.kind with
    | .assistantMessage _ _ _ _ => .ok (steps + 1, callIds)
    | .toolCall _ _ callId _ _ batch => do
      rejectIf (decide (callId ∈ callIds))
        (.state "approval continuation contains duplicate Tool call identities")
      .ok (if batch.all fun batch => batch.index == 0 then steps + 1 else steps,
        callId :: callIds)
    | _ => .ok (steps, callIds)

def notPaused {α : Type} : Except HarnessError α :=
  .error (.state "running Turn has no complete pre-Tool approval continuation boundary")

/-- The Item boundary, the calls and the place of the pending call among them. -/
def decisionOf (items : List Item) (policyItemIndex toolItemIndex : Nat) (call : ModelToolCall)
    (batch : Option ToolCallBatch) (modelId : String) (modelOrigin : CapabilityOrigin) :
    Except HarnessError (Nat × List ModelToolCall × Nat) :=
  match batch with
  | some batch => do
    rejectIf (decide (toolItemIndex < batch.index))
      (.state "approval continuation Tool-call batch starts before the Turn")
    let start := toolItemIndex - batch.index
    rejectIf (decide (policyItemIndex < start + batch.size))
      (.state "approval continuation Tool-call batch overlaps Policy evidence")
    let calls ← batchCallsFrom batch modelId modelOrigin 0 ((items.drop start).take batch.size)
    .ok (modelRequestBoundary items start modelId modelOrigin, calls, batch.index)
  | none => do
    rejectIf (policyItemIndex != toolItemIndex + 1)
      (.state "single approval continuation is not adjacent to its Tool call")
    .ok (modelRequestBoundary items toolItemIndex modelId modelOrigin, [call], 0)

/-- `approval_resume_evidence`. -/
def approvalResumeEvidence (turn : Turn) (expectedRequester : ApprovalActor) :
    Except HarnessError ApprovalResumeEvidence :=
  match lastPosition (fun item => !isSteeringQueued item) turn.items with
  | none | some 0 => notPaused
  | some (policyItemIndex + 1) =>
    match (turn.items[policyItemIndex + 1]?).map Item.kind with
    | some (.approvalRequested approvalId approvalCallId tool approvalReason approvalRisk
        requestedBy toolOrigin modelRequestSha256) =>
        match (turn.items[policyItemIndex]?).map Item.kind with
        | some (.policyDecision policyCallId policyToolOrigin (.ask reason risk)) => do
          rejectIf (policyCallId != approvalCallId || approvalReason != reason ||
              approvalRisk != risk)
            (.state ("approval continuation Policy and request evidence is " ++
              "inconsistent"))
          let toolItemIndex ← orError
            (.state "approval continuation has no correlated Tool call")
            (lastPosition (isCallOf approvalCallId) (turn.items.take policyItemIndex))
          match (turn.items[toolItemIndex]?).map Item.kind with
          | some (.toolCall recordedModelId recordedModelOrigin callId name input batch) => do
            let modelId ← orError
              (.state "legacy approval continuation has no recorded Model identity")
              recordedModelId
            (validateModelId modelId).mapError fun _ =>
              .state "approval continuation contains an invalid Model identity"
            let modelOrigin ← orError
              (.state "legacy approval continuation has no recorded Model origin")
              recordedModelOrigin
            rejectIf (policyCallId != callId || tool != name)
              (.state "approval continuation correlation evidence is inconsistent")
            let requestedBy ← orError
              (.state "legacy approval request has no resumable requester evidence")
              requestedBy
            let toolOrigin ← orError
              (.state "legacy approval request has no resumable Tool origin") toolOrigin
            rejectIf (policyToolOrigin.any (· != toolOrigin))
              (.state "approval continuation Policy and request Tool origins differ")
            let modelRequestSha256 ← orError
              (.state ("legacy approval request has no resumable Model request " ++
                "fingerprint")) modelRequestSha256
            rejectIf (requestedBy != expectedRequester)
              (.approval ("approval continuation requester differs from the original " ++
                "Turn actor"))
            let (modelRequestItemIndex, batchCalls, currentBatchIndex) ←
              decisionOf turn.items policyItemIndex toolItemIndex ⟨callId, name, input⟩
                batch modelId modelOrigin
            let (consumedSteps, toolCallIds) ← consumedDecisions turn.items
            .ok { approvalId, callId, tool, input, reason, risk, requestedBy, toolOrigin,
                  modelId, modelOrigin, modelRequestSha256, modelRequestItemIndex,
                  batchCalls, currentBatchIndex, consumedSteps, toolCallIds }
          | _ => .error (.state "approval continuation has no correlated Tool call")
        | _ => .error (.state
            "approval continuation has no immediately preceding Ask decision")
    | _ => .error (.state "running Turn is not paused at an approval request")

def policyOf (callId : String) (item : Item) :
    Option (Option CapabilityOrigin × PolicyDecision) :=
  match item.kind with
  | .policyDecision id toolOrigin decision =>
    if id = callId then some (toolOrigin, decision) else none
  | _ => none

def approvalOf (callId : String) (item : Item) : Option ApprovalDecision :=
  match item.kind with
  | .approvalDecision _ id decision => if id = callId then some decision else none
  | _ => none

def isAsk : PolicyDecision → Bool
  | .ask _ _ => true
  | _ => false

def isPolicyDeny : PolicyDecision → Bool
  | .deny _ => true
  | _ => false

/-- `validate_resumed_batch_authority`. -/
def validateResumedBatchAuthority (turn : Turn) (calls : List ModelToolCall)
    (tools : ToolRegistry) : Except HarnessError Unit :=
  checkAll (fun call : ModelToolCall => do
    let registered ← orError
      (.state s!"approval continuation Tool {call.name} is not registered") (tools.get call.name)
    match turn.items.filterMap (policyOf call.callId) with
    | [] => .error (.state
        s!"approval continuation Tool call {call.callId} has no Policy decision")
    | (origin, decision) :: later => do
      rejectIf (!later.isEmpty || origin != some registered.origin || isPolicyDeny decision)
        (.state (s!"approval continuation Tool call {call.callId} has inconsistent Policy " ++
          "authority"))
      rejectIf (isAsk decision &&
          turn.items.filterMap (approvalOf call.callId) != [.approve])
        (.state s!"approval continuation Tool call {call.callId} is not approved")) calls

/-- `turn_prompt`. -/
def turnPrompt (turn : Turn) : Except HarnessError String :=
  match turn.items.filterMap (fun item => match item.kind with
    | .userMessage content => some content
    | _ => none) with
  | [] => .error (.state "approval continuation Turn has no user prompt")
  | [prompt] => .ok prompt
  | _ => .error (.state "approval continuation Turn has multiple user prompts")

/-- `require_execution_binding`. -/
def requireExecutionBinding (turn : Turn) (expected : Option ExecutionBinding) :
    Except HarnessError Unit := do
  let recorded := turn.items.filterMap fun item => match item.kind with
    | .executionBinding _ binding => some binding
    | _ => none
  rejectIf (decide (1 < recorded.length)) (.state "Turn contains multiple execution bindings")
  rejectIf (recorded.head? != expected)
    (.state "approval continuation execution binding does not match the recorded Turn")

/-! ## Durable waits -/

/-- `turn_at_wait_boundary`. -/
def turnAtWaitBoundary (turn : Turn) (expectedEnvelope : TurnWaitEnvelope) :
    Except HarnessError Turn := do
  let waitIndex ← orError
    (.state "running Turn has no transition for the current durable wait")
    (lastPosition (fun item => item.kind == .agentLoopWaitStarted expectedEnvelope) turn.items)
  let adjacent := match waitIndex with
    | 0 => false
    | index + 1 => (turn.items[index]?).any fun item => match item.kind with
        | .approvalRequested .. => true
        | _ => false
  rejectIf (!adjacent)
    (.state "durable wait transition is not adjacent to its Approval request")
  .ok { turn with items := turn.items.take waitIndex }

def validateDurableApprovalEvidence (evidence : ApprovalResumeEvidence)
    (request : ApprovalRequest) (envelopeModelRequestSha256 : String) :
    Except HarnessError Unit :=
  rejectIf (evidence.approvalId != request.id || evidence.requestedBy != request.requestedBy ||
      evidence.callId != request.authorization.callId ||
      evidence.tool != request.authorization.descriptor.name ||
      evidence.input != request.authorization.input ||
      evidence.toolOrigin != request.authorization.origin || evidence.reason != request.reason ||
      evidence.risk != request.risk ||
      evidence.modelRequestSha256 != envelopeModelRequestSha256)
    (.state "durable Approval envelope differs from original Turn evidence")

/-- `validate_exact_wait_resume`. -/
def validateExactWaitResume (execution : AgentLoopExecution) (exact : DurableWaitResumeFence) :
    Except HarnessError Unit := do
  rejectIf (execution.waitId != exact.waitId)
    (.state s!"durable wait {execution.waitId} differs from requested wait {exact.waitId}")
  let revisionMatches := match execution with
    | .waiting envelope => exact.expectedRevision == envelope.revision
    | .ready _ resume => exact.expectedRevision == resume.revision ||
        exact.expectedRevision == resume.previousRevision
    | .executing _ _ _ => false
  rejectIf (!revisionMatches)
    (.state (s!"durable wait {exact.waitId} is not resumable from requested revision " ++
      s!"{exact.expectedRevision.toNat} (current {execution.revision.toNat})"))

/-- `wait_ttl_from_envelope`. -/
def waitTtlFromEnvelope (envelope : TurnWaitEnvelope) : Except HarnessError Nat := do
  let expiresAtMs ← orError (.state "durable Approval wait has no wall-clock expiry")
    envelope.expiresAtMs
  rejectIf (!expiryInRange envelope.serverStartedAtMs expiresAtMs)
    (.state "durable Approval wait lifetime is invalid")
  .ok (expiresAtMs.toNat - envelope.serverStartedAtMs.toNat)

/-- `remaining_active_timeout_ms` at the instant `now`. -/
def remainingActiveTimeoutMs (activeDeadline : Option Nat) (phase : ExecutionPhase) (now : Nat) :
    Except HarnessError (Option UInt64) :=
  match activeDeadline with
  | none => .ok none
  | some deadline => do
    rejectIf (decide (deadline ≤ now)) (.timedOut phase)
    rejectIf (decide (maxAgentLoopWaitMs < deadline - now))
      (.invalidConfiguration
        s!"durable Turn timeout must be 1-{maxAgentLoopWaitMs} milliseconds")
    .ok (some (UInt64.ofNat (deadline - now)))

/-- `deadline_from_remaining` at the instant `now`. -/
def deadlineFromRemaining (remainingActiveTimeoutMs : Option UInt64) (now : Nat) :
    Except HarnessError (Option Nat) :=
  match remainingActiveTimeoutMs with
  | none => .ok none
  | some milliseconds => do
    rejectIf (!waitMsInRange milliseconds)
      (.state "stored active timeout remainder is outside the supported range")
    .ok (some (now + milliseconds.toNat))

/-- `wait_authority`. -/
def waitAuthority (envelope : TurnWaitEnvelope) : Except HarnessError AuthorityContext :=
  AuthorityContext.new envelope.requestedBy envelope.tenantId

/-- `wait_envelope_matches_start`. -/
def waitEnvelopeMatchesStart (envelope : TurnWaitEnvelope) (waitId : AgentLoopWaitId)
    (request : ApprovalRequest) (generation : CompletionGeneration) (waitTtlMs : Nat)
    (remainingActiveTimeoutMs : Option UInt64) (authority : AuthorityContext) : Bool :=
  let actualTtlMs := envelope.expiresAtMs.bind fun expiresAtMs =>
    if envelope.serverStartedAtMs ≤ expiresAtMs then
      some (expiresAtMs.toNat - envelope.serverStartedAtMs.toNat)
    else none
  envelope.waitId == waitId && envelope.threadId == request.authorization.threadId &&
    envelope.turnId == request.authorization.turnId &&
    envelope.tenantId == authority.tenantId && envelope.requestedBy == authority.actor &&
    envelope.remainingActiveTimeoutMs == remainingActiveTimeoutMs &&
    envelope.completionGeneration == generation && actualTtlMs == some waitTtlMs &&
    envelope.waitKind == ⟨request, generation.modelRequestSha256⟩

def deliveryRetry (operation : ApprovalDeliveryOperation) (error : HarnessError) :
    ApprovalWaitStatus :=
  .deliveryRetry operation (boundedRuntimeError error.display)

/-- `approval_wait_status`. -/
def approvalWaitStatus (record : ApprovalRecord) (request : ApprovalRequest)
    (authority : AuthorityContext) : Except HarnessError ApprovalWaitStatus := do
  rejectIf (record.request != request || record.tenantId != authority.tenantId)
    (.approval "Approval Inbox record differs from the durable wait request or tenant")
  rejectIf (record.revision == 0)
    (.approval "Approval Inbox record has an invalid zero revision")
  match record.status, record.settledAtMs with
  | .pending, none => .ok .pending
  | .settled decision _, some _ => do
    validateApprovalDecision decision
    .ok .settled
  | .orphaned reason, some _ => .ok (.orphaned reason)
  | _, _ => .error (.approval "Approval Inbox record lifecycle fields are inconsistent")

/-- `settled_approval_decision`. -/
def settledApprovalDecision (record : ApprovalRecord) : Except HarnessError ApprovalDecision :=
  match record.status with
  | .settled decision _ => do
    validateApprovalDecision decision
    .ok decision
  | _ => .error (.approval "Approval record is not settled")

/-- `approval_record_from_resume`. -/
def approvalRecordFromResume (resume : ResumeEvidence) : Except HarnessError ApprovalRecord := do
  let settlement := resume.settlement
  let record : ApprovalRecord :=
    { schemaVersion := settlement.inboxSchemaVersion
      request := settlement.request
      tenantId := settlement.tenantId
      status := .settled settlement.decision settlement.decidedBy
      revision := settlement.inboxRevision
      requestedAtMs := settlement.requestedAtMs
      settledAtMs := some settlement.settledAtMs }
  let authority ← AuthorityContext.new record.request.requestedBy record.tenantId
  let _ ← approvalWaitStatus record record.request authority
  .ok record

def ApprovalRecordStatus.fields : ApprovalRecordStatus → List (String × Json)
  | pending => [("status", .str "pending")]
  | settled decision decidedBy =>
    [("status", .str "settled"), ("decision", decision.toJson), ("decided_by", decidedBy.toJson)]
  | orphaned reason => [("status", .str "orphaned"), ("reason", .str reason)]

def ApprovalRecord.toJson (record : ApprovalRecord) : Json :=
  .obj ([("schema_version", jsonU32 record.schemaVersion), ("request", record.request.toJson)] ++
    skipNone "tenant_id" .str record.tenantId ++
    [("status", .obj record.status.fields), ("revision", jsonU64 record.revision),
      ("requested_at_ms", jsonU64 record.requestedAtMs),
      ("settled_at_ms", nullable jsonU64 record.settledAtMs)])

/-- `approval_settlement_evidence`: the settlement a settled record holds. -/
def approvalSettlementEvidence (record : ApprovalRecord) :
    Except HarnessError ApprovalSettlementEvidence := do
  let _ ← (boundedSerializedSize record.toJson maxApprovalRecordBytes).mapError
    (stateJsonError "Approval Inbox settlement" maxApprovalRecordBytes)
  rejectIf (record.schemaVersion != approvalInboxSchemaVersion || decide (record.revision < 2))
    (.state "resume requires a current, terminal Approval Inbox revision")
  match record.status with
  | .settled decision decidedBy => do
    let settledAtMs ← orError (.state "settled Approval Inbox record has no settlement time")
      record.settledAtMs
    let settlement : ApprovalSettlementEvidence :=
      { inboxSchemaVersion := record.schemaVersion
        request := record.request
        tenantId := record.tenantId
        decision
        decidedBy
        inboxRevision := record.revision
        requestedAtMs := record.requestedAtMs
        settledAtMs }
    validateApprovalSettlementShape settlement
    .ok settlement
  | _ => .error (.state "resume requires a settled Approval Inbox record")

/-- `validate_ready_settlement`. -/
def validateReadySettlement (resume : ResumeEvidence) (record : ApprovalRecord) :
    Except HarnessError Unit :=
  match record.status with
  | .settled decision decidedBy =>
    rejectIf (resume.settlement.inboxSchemaVersion != record.schemaVersion ||
        resume.settlement.request != record.request ||
        resume.settlement.tenantId != record.tenantId ||
        resume.settlement.decision != decision || resume.settlement.decidedBy != decidedBy ||
        resume.settlement.inboxRevision != record.revision ||
        resume.settlement.requestedAtMs != record.requestedAtMs ||
        some resume.settlement.settledAtMs != record.settledAtMs)
      (.state ("Ready execution settlement differs from the authoritative Approval " ++
        "Inbox"))
  | _ => .error (.state "Ready execution has no settled Approval Inbox record")

/-- `deterministic_resume_command_id` and `deterministic_denial_command_id`: a
command identity bound to the wait and the exact record. -/
def deterministicCommandId [Sha256] (stem domain purpose : String) (envelope : TurnWaitEnvelope)
    (record : ApprovalRecord) : Except HarnessError String := do
  let digest ← (boundedSerializedSha256
    (.arr [.str domain, .str envelope.waitId, record.toJson]) maxModelRequestBytes).mapError
      fun _ => .state s!"cannot digest deterministic Approval {purpose} command: LimitExceeded"
  .ok (stem ++ digest)

def deterministicResumeCommandId [Sha256] (envelope : TurnWaitEnvelope) (record : ApprovalRecord) :
    Except HarnessError AgentLoopResumeCommandId :=
  deterministicCommandId "agent-loop-resume-" "runtime-agent-loop-resume-v1" "resume" envelope
    record

def deterministicDenialCommandId [Sha256] (envelope : TurnWaitEnvelope) (record : ApprovalRecord) :
    Except HarnessError AgentLoopDenyCommandId :=
  deterministicCommandId "agent-loop-deny-" "runtime-agent-loop-denial-v1" "denial" envelope
    record

/-! ## Context records -/

/-- `conversation_summary_record`. -/
def conversationSummaryRecord (block : ContextBlock) : Except HarnessError ItemKind :=
  match block.source with
  | .conversationSummary compactor coveredTurns olderOmittedTurns sourceSha256 contentSha256 =>
    .ok (.conversationSummary compactor coveredTurns olderOmittedTurns sourceSha256
      contentSha256 block.estimatedTokens block.text.utf8ByteSize)
  | _ => .error (.invalidConfiguration
      "Context Engine returned an invalid conversation summary source")

/-- `invocation_context_record`. -/
def invocationContextRecord (blocks : List ContextBlock) (submittedBy : ActorIdentity) :
    Option ItemKind :=
  let evidence := blocks.filterMap fun block => match block.source with
    | .invocation source reference sourceSha256 contentSha256 =>
      some (⟨source, reference, sourceSha256, contentSha256, block.estimatedTokens,
        block.text.utf8ByteSize⟩ : InvocationContextEvidence)
    | _ => none
  if evidence.isEmpty then none else some (.invocationContext submittedBy evidence)

end YHarness.Runtime

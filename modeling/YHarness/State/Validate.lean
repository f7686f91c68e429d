/-
# YHarness.State.Validate -- what one State event must satisfy on its own

The validators of `src/state/mod.rs` that look at one Item or one event without
its history: field shapes, schema rules, the encoded size, and the checks an
Event Store makes of a pending event and a reader makes of a stored one.
-/
import YHarness.State.Wait

namespace YHarness.State

open YHarness.Lib YHarness.Kernel

set_option autoImplicit false

def stateEventSchemaVersion : Nat := 16
def maxStateRecoveryEvents : Nat := 1000000
def stateThreadEventLimit : Nat := 1000000
def stateTerminalEventReserve : Nat := 1
def stateThreadRecoveryByteLimit : Nat := 67108864
def stateTerminalRecoveryByteReserve : Nat := 1048576
def stateEventRecoveryOverheadBytes : Nat := 512
def maxToolCallsPerBatch : Nat := 64
def maxConnectorEvidencePerResult : Nat := 64
def maxInvocationContextBlocks : Nat := 64
def maxInvocationContextReferenceBytes : Nat := 4096
def maxInvocationContextBlockBytes : Nat := 1048576
def maxInvocationContextTotalBytes : Nat := 1061184
def maxSteeringContentBytes : Nat := 1048576

/-! ## Items -/

def validateSteeringContent (content : String) : Except HarnessError Unit :=
  rejectIf (isBlank content || decide (maxSteeringContentBytes < content.utf8ByteSize))
    (.state "steering content must be 1-1048576 bytes")

/-- Reject the first key that occurred before. -/
def rejectRepeated {α β : Type} [DecidableEq β] (key : α → β) (check : α → Except HarnessError Unit)
    (repeated : HarnessError) : List β → List α → Except HarnessError Unit
  | _, [] => .ok ()
  | seen, x :: xs => do
    check x
    rejectIf (decide (key x ∈ seen)) repeated
    rejectRepeated key check repeated (key x :: seen) xs

def validateConnectorEvidenceRecords [Sha256] (output : Json) (isError : Bool)
    (evidence : List ConnectorEvidence) : Except HarnessError Unit := do
  if evidence.isEmpty then .ok ()
  else do
    rejectIf isError (.state "failed Tool result cannot retain Connector evidence")
    rejectIf (decide (maxConnectorEvidencePerResult < evidence.length))
      (.state "Tool result exceeds 64 Connector evidence records")
    let outputSha256 ← (boundedSerializedSha256 output maxStateEventBytes).mapError
      (stateJsonError "Connector evidence output" maxStateEventBytes)
    rejectRepeated (fun record : ConnectorEvidence =>
        (record.claim.source, record.claim.resource, record.claim.version))
      (fun record => do
        record.validate.mapError HarnessError.asState
        rejectIf (record.outputSha256 != outputSha256)
          (.state "Connector evidence digest differs from its Tool output"))
      (.state "Tool result contains duplicate Connector evidence") [] evidence

/-- Whether `n` is in `1..=maximum`. -/
def countInRange (n maximum : Nat) : Bool :=
  decide (1 ≤ n) && decide (n ≤ maximum)

def validateContextBlock (block : InvocationContextEvidence) : Except HarnessError Unit := do
  (validateCapabilityName "Turn context source" block.source).mapError HarnessError.asState
  rejectIf (isBlank block.reference ||
      decide (maxInvocationContextReferenceBytes < block.reference.utf8ByteSize) ||
      hasControl block.reference)
    (.state "Turn context evidence contains an invalid or duplicate source reference")

def validateContextProvenance (block : InvocationContextEvidence) : Except HarnessError Unit :=
  rejectIf (!isLowerSha256 block.sourceSha256 || !isLowerSha256 block.contentSha256 ||
      !countInRange block.estimatedTokens maxInvocationContextBlockBytes ||
      !countInRange block.serializedBytes maxInvocationContextBlockBytes)
    (.state "Turn context evidence violates bounded provenance")

/-- The loop over the blocks of an `InvocationContext`, with the references
seen so far. -/
def validateContextBlocks :
    List (String × String) → List InvocationContextEvidence → Except HarnessError Unit
  | _, [] => .ok ()
  | seen, block :: blocks => do
    validateContextBlock block
    rejectIf (decide ((block.source, block.reference) ∈ seen))
      (.state "Turn context evidence contains an invalid or duplicate source reference")
    validateContextProvenance block
    validateContextBlocks ((block.source, block.reference) :: seen) blocks

/-- `validate_state_item`. -/
def validateStateItem [Sha256] (item : Item) : Except HarnessError Unit :=
  match item.kind with
  | .assistantMessage (some modelId) (some modelOrigin) modelRequestSha256 _ => do
    (validateModelId modelId).mapError HarnessError.asState
    (validateCapabilityOrigin modelOrigin).mapError HarnessError.asState
    rejectIf (modelRequestSha256.any fun digest => !isLowerSha256 digest)
      (.state "assistant candidate requires a lowercase Model request SHA-256")
  | .assistantMessage none none none _ => .ok ()
  | .assistantMessage _ _ _ _ => .error (.state
      "assistant candidate attribution must be wholly present or legacy-compatible")
  | .verificationResult verifier candidateItemId verifierOrigin verifierBindingSha256 outcome => do
    (validateCapabilityName "verification result" verifier).mapError HarnessError.asState
    (validateOutcome verifier outcome).mapError HarnessError.asState
    match candidateItemId, verifierOrigin, verifierBindingSha256 with
    | some candidate, some origin, some binding => do
      validateStateId "verification candidate item" candidate
      (validateCapabilityOrigin origin).mapError HarnessError.asState
      rejectIf (!isLowerSha256 binding)
        (.state "verification result requires a lowercase binding SHA-256")
    | none, none, none => .ok ()
    | _, _, _ => .error (.state
        "verification result binding evidence must be wholly present or absent")
  | .executionBinding boundBy binding => do
    boundBy.validateCurrentState "State execution binding actor"
    binding.validate.mapError HarnessError.asState
  | .steeringQueued steeringId submittedBy content => do
    validateStateId "steering" steeringId
    submittedBy.validateCurrentState "State steering actor"
    validateSteeringContent content
  | .steeringApplied steeringId content => do
    validateStateId "steering" steeringId
    validateSteeringContent content
  | .providerContinuation modelId modelOrigin continuation => do
    (validateModelId modelId).mapError HarnessError.asState
    (validateCapabilityOrigin modelOrigin).mapError HarnessError.asState
    continuation.validate.mapError HarnessError.asState
  | .toolResult _ output isError connectorEvidence =>
    validateConnectorEvidenceRecords output isError connectorEvidence
  | .conversationSummary compactor coveredTurns olderOmittedTurns sourceSha256 contentSha256
      estimatedTokens serializedBytes => do
      (validateCapabilityName "conversation compactor" compactor).mapError HarnessError.asState
      rejectIf (coveredTurns.isEmpty || decide (256 < coveredTurns.length))
        (.state "conversation summary evidence must cover 1-256 Turns")
      rejectRepeated (fun turnId : TurnId => turnId) (validateStateId "conversation summary Turn")
        (.state "conversation summary evidence contains duplicate Turns") [] coveredTurns
      rejectIf (decide (maxStateRecoveryEvents < olderOmittedTurns) ||
          !isLowerSha256 sourceSha256 || !isLowerSha256 contentSha256 ||
          !countInRange estimatedTokens 1048576 || !countInRange serializedBytes 1048576)
        (.state "conversation summary evidence violates bounded provenance")
  | .invocationContext submittedBy blocks => do
    submittedBy.validateCurrentState "State Turn context submitter"
    rejectIf (blocks.isEmpty || decide (maxInvocationContextBlocks < blocks.length))
      (.state "Turn context evidence must contain 1-64 blocks")
    validateContextBlocks [] blocks
    rejectIf (decide (maxInvocationContextTotalBytes < (blocks.map (·.serializedBytes)).sum) ||
        decide (maxInvocationContextBlockBytes < (blocks.map (·.estimatedTokens)).sum))
      (.state "Turn context evidence exceeds its aggregate byte or token bound")
  | .policyDecision _ (some toolOrigin) _ =>
    (validateCapabilityOrigin toolOrigin).mapError HarnessError.asState
  | .approvalRequested _ _ _ _ _ requestedBy toolOrigin modelRequestSha256 =>
    match requestedBy, toolOrigin, modelRequestSha256 with
    | some requestedBy, some toolOrigin, some modelRequestSha256 => do
      (requestedBy.validateCurrent "State approval requester").mapError HarnessError.asState
      (validateCapabilityOrigin toolOrigin).mapError HarnessError.asState
      rejectIf (!isLowerSha256 modelRequestSha256)
        (.state "approval continuation requires a lowercase Model request SHA-256")
    | none, none, none => .ok ()
    | _, _, _ => .error (.state
        "approval continuation evidence must be wholly present or absent")
  | .agentLoopWaitStarted envelope => validateWaitEnvelope envelope
  | .agentLoopResumeAccepted evidence => do
    validateStateId "Agent Loop wait" evidence.waitId
    validateStateId "Agent Loop resume command" evidence.commandId
    validateApprovalSettlementShape evidence.settlement
    rejectIf (evidence.previousRevision == 0 ||
        evidence.revision != saturatingSucc evidence.previousRevision ||
        evidence.acceptedAtMs == 0 || !isLowerSha256 evidence.commandSha256)
      (.state "Agent Loop resume transition has invalid revision, time, or digest")
  | .agentLoopReadyClaimed evidence => do
    validateStateId "Agent Loop wait" evidence.waitId
    validateStateId "Agent Loop resume command" evidence.resumeCommandId
    validateStateId "Agent Loop claim" evidence.claimId
    validateStateId "Agent Loop worker" evidence.workerId
    rejectIf (evidence.previousRevision == 0 ||
        evidence.revision != saturatingSucc evidence.previousRevision ||
        evidence.claimedAtMs == 0 || !isLowerSha256 evidence.claimSha256)
      (.state "Agent Loop claim transition has invalid revision, time, or digest")
  | .agentLoopWaitClosed evidence => do
    validateStateId "Agent Loop wait" evidence.waitId
    validateStateId "Agent Loop close command" evidence.commandId
    validateWaitCloseStatus evidence.status evidence.reason
    let nextRevision ← orError (.state "Agent Loop closure revision overflow")
      (checkedSucc evidence.previousRevision)
    rejectIf (evidence.previousRevision == 0 || evidence.revision != nextRevision ||
        evidence.closedAtMs == 0 || !isLowerSha256 evidence.commandSha256)
      (.state "Agent Loop closure transition has invalid revision, time, or digest")
  | .agentLoopWaitDenied evidence => do
    validateStateId "Agent Loop wait" evidence.waitId
    validateStateId "Agent Loop denial command" evidence.commandId
    validateApprovalSettlementShape evidence.settlement
    let nextRevision ← orError (.state "Agent Loop denial revision overflow")
      (checkedSucc evidence.previousRevision)
    rejectIf (evidence.previousRevision == 0 || evidence.revision != nextRevision ||
        evidence.deniedAtMs == 0 || !evidence.settlement.decision.isDeny ||
        !isLowerSha256 evidence.commandSha256)
      (.state ("Agent Loop denial transition has invalid settlement, revision, time, or " ++
        "digest"))
  | _ => .ok ()

/-! ## Events -/

def validateThreadLineage (lineage : ThreadLineage) : Except HarnessError Unit := do
  validateStateId "parent thread" lineage.parentThreadId
  rejectIf (lineage.parentThroughSequence == 0 || lineage.parentStreamVersion == 0 ||
      decide (lineage.parentThroughSequence < lineage.parentStreamVersion) ||
      !isLowerSha256 lineage.parentEventsSha256)
    (.state "Thread lineage contains an invalid boundary or SHA-256")

def validateThreadImportOrigin (origin : ThreadImportOrigin) : Except HarnessError Unit := do
  validateStateId "source thread" origin.sourceThreadId
  rejectIf (origin.sourceStreamVersion == 0 || origin.sourceLastSequence == 0 ||
      decide (origin.sourceLastSequence < origin.sourceStreamVersion) ||
      !isLowerSha256 origin.sourceEventsSha256)
    (.state "Thread import origin contains an invalid boundary or SHA-256")
  checkSome validateThreadLineage origin.sourceLineage

/-- The loop of `validate_tool_call_batch_items`: the position, the size, the
batch identity of the first call and the call identities seen. -/
def validateBatchFrom [Sha256] (size : Nat) :
    Nat → Option ToolCallBatchId → List String → List Item → Except HarnessError Unit
  | _, _, _, [] => .ok ()
  | index, batchId, callIds, item :: rest => do
    validateStateId "item" item.id
    validateStateItem item
    match item.kind with
    | .toolCall _ _ callId _ _ (some batch) => do
      validateStateId "Tool-call batch" batch.id
      rejectIf (batch.index != index || batch.size != size ||
          batchId.getD batch.id != batch.id || decide (callId ∈ callIds))
        (.state "Tool-call batch order, size, identity, or correlation is inconsistent")
      validateBatchFrom size (index + 1) (some (batchId.getD batch.id)) (callId :: callIds)
        rest
    | _ => .error (.state "Tool-call batch contains a non-batched Item")

def validateToolCallBatchItems [Sha256] (calls : List Item) : Except HarnessError Unit := do
  rejectIf (decide (calls.length < 2) || decide (maxToolCallsPerBatch < calls.length))
    (.state "Tool-call batch must contain 2-64 calls")
  validateBatchFrom calls.length 0 none [] calls

def validateCheckpointLabel (label : Option String) : Except HarnessError Unit :=
  rejectIf (label.any fun text => isBlank text || decide (4096 < text.utf8ByteSize))
    (.state "checkpoint label must be 1-4096 bytes")

def validateThreadName (name : Option String) : Except HarnessError Unit :=
  rejectIf (name.any fun text => text.isEmpty || decide (256 < text.utf8ByteSize) ||
      trim text != text || hasControl text)
    (.state "Thread name must be 1-256 trimmed non-control bytes")

/-- The two Items of an atomic wait event. -/
def validateItemPair [Sha256] (turnId : TurnId) (first transition : Item) :
    Except HarnessError Unit := do
  validateStateId "turn" turnId
  validateStateId "item" first.id
  validateStateId "item" transition.id
  validateStateItem first
  validateStateItem transition

/-- `validate_state_event`. -/
def validateStateEvent [Sha256] : StateEvent → Except HarnessError Unit
  | .threadCreated _ tenantId => (validateTenant tenantId).mapError HarnessError.asState
  | .threadNamed name => validateThreadName name
  | .threadForked lineage => validateThreadLineage lineage
  | .threadImported origin => validateThreadImportOrigin origin
  | .turnStarted turnId | .turnFinished turnId _ => validateStateId "turn" turnId
  | .turnCompleted turnId receipt => do
    validateStateId "turn" turnId
    validateStateId "completion receipt source thread" receipt.sourceThreadId
    validateStateId "completion receipt turn" receipt.turnId
    rejectIf (receipt.turnId != turnId)
      (.state "completion event Turn differs from its receipt")
    let _ ← (completionReceiptSha256 receipt).mapError stateCompletionError
    .ok ()
  | .itemAppended turnId item => do
    validateStateId "turn" turnId
    validateStateId "item" item.id
    validateStateItem item
  | .toolCallsAppended turnId calls => do
    validateStateId "turn" turnId
    validateToolCallBatchItems calls
  | .waitStarted turnId approvalRequested transition => do
    validateItemPair turnId approvalRequested transition
    match transition.kind with
    | .agentLoopWaitStarted envelope =>
      rejectIf (approvalRequested.id == transition.id ||
          approvalRequested.createdAtMs != transition.createdAtMs ||
          envelope.turnId != turnId ||
          !approvalRequestedMatchesEnvelope approvalRequested envelope)
        (.state "WaitStarted items or envelope correlation differ")
    | _ => .error (.state "WaitStarted transition has the wrong Item kind")
  | .acceptResume turnId approvalDecision transition => do
    validateItemPair turnId approvalDecision transition
    match transition.kind with
    | .agentLoopResumeAccepted evidence =>
      rejectIf (approvalDecision.id == transition.id ||
          approvalDecision.createdAtMs != transition.createdAtMs ||
          !approvalDecisionMatchesResume approvalDecision evidence)
        (.state "ResumeAccepted items or settlement correlation differ")
    | _ => .error (.state "ResumeAccepted transition has the wrong Item kind")
  | .claimReady turnId transition => do
    validateStateId "turn" turnId
    validateStateId "item" transition.id
    validateStateItem transition
    match transition.kind with
    | .agentLoopReadyClaimed _ => .ok ()
    | _ => .error (.state "ReadyClaimed transition has the wrong Item kind")
  | .waitClosed turnId stopped transition status => do
    validateItemPair turnId stopped transition
    match transition.kind with
    | .agentLoopWaitClosed evidence => do
      validateWaitCloseStatus status evidence.reason
      rejectIf (stopped.id == transition.id || stopped.createdAtMs != transition.createdAtMs ||
          status != evidence.status || !turnStoppedMatchesClosure stopped evidence)
        (.state "WaitClosed items, reason, status, or time correlation differ")
    | _ => .error (.state "WaitClosed transition has the wrong Item kind")
  | .denyWait turnId approvalDecision transition => do
    validateItemPair turnId approvalDecision transition
    match transition.kind with
    | .agentLoopWaitDenied evidence =>
      rejectIf (approvalDecision.id == transition.id ||
          approvalDecision.createdAtMs != transition.createdAtMs ||
          approvalDecision.createdAtMs != evidence.deniedAtMs ||
          !approvalDecisionMatchesDenial approvalDecision evidence)
        (.state "WaitDenied items, decision, or time correlation differ")
    | _ => .error (.state "WaitDenied transition has the wrong Item kind")
  | .checkpointCreated checkpoint => do
    validateStateId "checkpoint" checkpoint.id
    validateStateId "checkpoint thread" checkpoint.threadId
    checkSome (validateStateId "checkpoint turn") checkpoint.turnId
    validateCheckpointLabel checkpoint.label

/-! ## Schema rules -/

def schemaError (version : Nat) (rule : String) : HarnessError :=
  .state s!"schema-{version} {rule}"

/-- `validate_state_item_schema`. -/
def validateStateItemSchema (kind : ItemKind) (version : Nat) : Except HarnessError Unit :=
  match kind with
  | .assistantMessage modelId modelOrigin modelRequestSha256 _ => do
    rejectIf (decide (15 ≤ version) &&
        !(modelId.isSome && modelOrigin.isSome && modelRequestSha256.isSome))
      (schemaError version
        "assistant candidate requires Model identity, origin, and request digest")
    rejectIf (decide (version < 15) && modelRequestSha256.isSome)
      (schemaError version "assistant candidate cannot contain a Model request digest")
    rejectIf (modelId.isSome != modelOrigin.isSome)
      (schemaError version "assistant candidate has partial Model attribution")
  | .verificationResult _ candidateItemId verifierOrigin verifierBindingSha256 _ => do
    rejectIf (decide (15 ≤ version) && !(candidateItemId.isSome && verifierOrigin.isSome &&
        verifierBindingSha256.isSome))
      (schemaError version
        "verification result requires candidate, origin, and binding digest")
    rejectIf (decide (version < 15) && (candidateItemId.isSome || verifierOrigin.isSome ||
        verifierBindingSha256.isSome))
      (schemaError version
        "verification result cannot contain completion binding evidence")
  | .executionBinding _ _ =>
    rejectIf (decide (version < 13))
      (schemaError version "cannot contain execution binding evidence")
  | .toolResult _ _ _ connectorEvidence =>
    rejectIf (!connectorEvidence.isEmpty && decide (version < 14))
      (schemaError version "cannot contain Connector evidence")
  | .steeringQueued _ _ _ | .steeringApplied _ _ =>
    rejectIf (decide (version < 6)) (schemaError version "cannot contain Turn steering evidence")
  | .providerContinuation _ _ _ =>
    rejectIf (decide (version < 5))
      (schemaError version "cannot contain Provider continuation evidence")
  | .invocationContext _ _ =>
    rejectIf (decide (version < 11)) (schemaError version "cannot contain Turn context evidence")
  | .policyDecision _ toolOrigin _ => do
    rejectIf (decide (4 ≤ version) && toolOrigin.isNone)
      (schemaError version "Policy decision requires Tool origin evidence")
    rejectIf (decide (version < 4) && toolOrigin.isSome)
      (schemaError version "Policy decision cannot contain Tool origin evidence")
  | .approvalRequested _ _ _ _ _ requestedBy toolOrigin modelRequestSha256 => do
    let hasContinuation :=
      requestedBy.isSome && toolOrigin.isSome && modelRequestSha256.isSome
    rejectIf (decide (3 ≤ version) && !hasContinuation)
      (schemaError version "approval request requires continuation evidence")
    rejectIf (decide (version < 3) && hasContinuation)
      (schemaError version "approval request cannot contain continuation evidence")
  | .agentLoopWaitStarted _ | .agentLoopResumeAccepted _ | .agentLoopReadyClaimed _
  | .agentLoopWaitClosed _ | .agentLoopWaitDenied _ =>
    rejectIf (decide (version < 16))
      (schemaError version "cannot contain Agent Loop transition evidence")
  | _ => .ok ()

/-- The kinds that exist only inside their atomic event. -/
def isTransitionKind : ItemKind → Bool
  | .agentLoopWaitStarted _ | .agentLoopResumeAccepted _ | .agentLoopReadyClaimed _
  | .agentLoopWaitClosed _ | .agentLoopWaitDenied _ => true
  | _ => false

def isBatchedCall : ItemKind → Bool
  | .toolCall _ _ _ _ _ (some _) => true
  | _ => false

def validatePairSchema (first transition : Item) (version : Nat) : Except HarnessError Unit := do
  rejectIf (decide (version < 16))
    (schemaError version "cannot contain Agent Loop wait transitions")
  validateStateItemSchema first.kind version
  validateStateItemSchema transition.kind version

/-- `validate_state_event_schema`. -/
def validateStateEventSchema (event : StateEvent) (version : Nat) : Except HarnessError Unit :=
  match event with
  | .threadCreated _ tenantId =>
    rejectIf (tenantId.isSome && decide (version < 12))
      (schemaError version "cannot contain a Thread tenant")
  | .threadNamed _ =>
    rejectIf (decide (version < 8)) (schemaError version "cannot contain a Thread name")
  | .threadForked _ =>
    rejectIf (decide (version < 9)) (schemaError version "cannot contain Thread fork lineage")
  | .threadImported _ =>
    rejectIf (decide (version < 10))
      (schemaError version "cannot contain Thread import provenance")
  | .turnCompleted _ _ =>
    rejectIf (decide (version < 15))
      (schemaError version "cannot contain an atomic CompletionReceipt")
  | .turnFinished _ status =>
    rejectIf (status == .completed && decide (15 ≤ version))
      (schemaError version "completion requires an atomic CompletionReceipt")
  | .toolCallsAppended _ calls => do
    rejectIf (decide (version < 7))
      (schemaError version "cannot contain an atomic Tool-call batch")
    checkAll (fun call : Item => validateStateItemSchema call.kind version) calls
  | .itemAppended _ item => do
    rejectIf (isBatchedCall item.kind)
      (.state "batched Tool calls require one atomic ToolCallsAppended event")
    rejectIf (isTransitionKind item.kind)
      (.state "Agent Loop transitions require their atomic State event")
    validateStateItemSchema item.kind version
  | .waitStarted _ first transition => validatePairSchema first transition version
  | .acceptResume _ first transition => validatePairSchema first transition version
  | .waitClosed _ first transition _ => validatePairSchema first transition version
  | .denyWait _ first transition => validatePairSchema first transition version
  | .claimReady _ transition => do
    rejectIf (decide (version < 16))
      (schemaError version "cannot contain Agent Loop wait transitions")
    validateStateItemSchema transition.kind version
  | _ => .ok ()

/-! ## Encoded events -/

/-- The Tool input or output an Item carries. -/
def itemPayload (item : Item) : Option Json :=
  match item.kind with
  | .toolCall _ _ _ _ input _ => some input
  | .toolResult _ output _ _ => some output
  | _ => none

def shapedItems : StateEvent → List Item
  | .itemAppended _ item => [item]
  | .toolCallsAppended _ calls => calls
  | _ => []

def validateStateEventJsonShape (event : StateEvent) : Except HarnessError Unit :=
  checkAll (fun item => rejectIf ((itemPayload item).any shapeFails)
    (.state "state event JSON exceeds the supported depth or node count")) (shapedItems event)

/-- The recovery charge `encode_state_event` computes: the encoded bytes and a
fixed overhead. -/
def recoveryCharge (event : StateEvent) : Nat :=
  event.toJson.encodedLen + stateEventRecoveryOverheadBytes

/-- `encode_state_event`, as the recovery charge of the encoding. -/
def encodeStateEvent (event : StateEvent) : Except HarnessError Nat := do
  validateStateEventJsonShape event
  let _ ← (boundedSerializedSize event.toJson maxStateEventBytes).mapError
    (stateJsonError "state event" maxStateEventBytes)
  .ok (recoveryCharge event)

theorem encodeStateEvent_eq_ok {event : StateEvent} {charge : Nat}
    (encoded : encodeStateEvent event = .ok charge) :
    charge = recoveryCharge event ∧ event.toJson.encodedLen ≤ maxStateEventBytes := by
  simp only [encodeStateEvent, bind_eq_ok, mapError_eq_ok, boundedSerializedSize_eq_ok,
    Except.ok.injEq] at encoded
  obtain ⟨_, _, _, ⟨bounded, _⟩, rfl⟩ := encoded
  exact ⟨rfl, bounded⟩

/-! ## Pending and stored events -/

/-- `validate_pending_event`: the checks the engine and the store make before
an append, with the charge of the event. -/
def validatePendingEvent [Sha256] (pending : PendingEvent) : Except HarnessError Nat := do
  validateStateId "event" pending.eventId
  validateStateId "thread" pending.threadId
  rejectIf (decide (maxStateRecoveryEvents ≤ pending.expectedStreamVersion))
    (.state "Thread reached its 1000000-event retention boundary")
  rejectIf (decide (stateThreadEventLimit - stateTerminalEventReserve ≤
      pending.expectedStreamVersion) && !pending.event.isTerminal)
    (.state "Thread has only its terminal-settlement event reserve remaining")
  validateStateEvent pending.event
  validateStateEventSchema pending.event stateEventSchemaVersion
  let charge ← encodeStateEvent pending.event
  rejectIf (decide (UInt64.size ≤ pending.expectedStreamRecoveryBytes + charge))
    (.state "stream recovery charge overflow")
  let limit := if pending.event.isTerminal then stateThreadRecoveryByteLimit
    else stateThreadRecoveryByteLimit - stateTerminalRecoveryByteReserve
  rejectIf (decide (limit < pending.expectedStreamRecoveryBytes + charge))
    (.state "Thread reached its 67108864-byte recovery boundary")
  .ok charge

def isSummaryAppend : StateEvent → Bool
  | .itemAppended _ ⟨_, _, .conversationSummary ..⟩ => true
  | _ => false

/-- `validate_stored_schema`. -/
def validateStoredSchema (stored : StoredEvent) : Except HarnessError Unit := do
  rejectIf (decide (stored.schemaVersion < 1) ||
      decide (stateEventSchemaVersion < stored.schemaVersion))
    (.state s!"unsupported state schema version {stored.schemaVersion}")
  rejectIf (stored.schemaVersion == 1 && isSummaryAppend stored.event)
    (.state "schema-1 State event cannot contain conversation summary evidence")
  validateStateEventSchema stored.event stored.schemaVersion

/-- `validate_stored_event`, with the recovery charge. -/
def validateStoredEvent [Sha256] (stored : StoredEvent) : Except HarnessError Nat := do
  validateStoredSchema stored
  validateStateId "event" stored.eventId
  validateStateId "thread" stored.threadId
  validateStateEvent stored.event
  encodeStateEvent stored.event

/-! ## What an accepted wait event is -/

section WaitEvents

variable [Sha256]

structure PairValid (turnId : TurnId) (first transition : Item) : Prop where
  turn : validateStateId "turn" turnId = .ok ()
  firstId : validateStateId "item" first.id = .ok ()
  transitionId : validateStateId "item" transition.id = .ok ()
  firstItem : validateStateItem first = .ok ()
  transitionItem : validateStateItem transition = .ok ()
  distinct : first.id ≠ transition.id
  sameTime : first.createdAtMs = transition.createdAtMs

variable {turnId : TurnId} {first transition : Item} {u : Unit}

theorem pairValid_iff :
    PairValid turnId first transition ↔ validateItemPair turnId first transition = .ok () ∧
      first.id ≠ transition.id ∧ first.createdAtMs = transition.createdAtMs := by
  simp only [validateItemPair, seq_eq_ok]
  constructor
  · rintro ⟨turn, firstId, transitionId, firstItem, transitionItem, distinct, sameTime⟩
    exact ⟨⟨turn, firstId, transitionId, firstItem, transitionItem⟩, distinct, sameTime⟩
  · rintro ⟨⟨turn, firstId, transitionId, firstItem, transitionItem⟩, distinct, sameTime⟩
    exact ⟨turn, firstId, transitionId, firstItem, transitionItem, distinct, sameTime⟩

theorem waitStarted_eq_ok :
    validateStateEvent (.waitStarted turnId first transition) = .ok u ↔
      PairValid turnId first transition ∧ ∃ envelope,
        transition.kind = .agentLoopWaitStarted envelope ∧ envelope.turnId = turnId ∧
          approvalRequestedMatchesEnvelope first envelope = true := by
  simp only [validateStateEvent, seq_eq_ok]
  constructor
  · rintro ⟨pair, correlated⟩
    split at correlated
    · rename_i envelope kind
      simp only [rejectIf_eq_ok, Bool.or_eq_false_iff, beq_eq_false_iff_ne, bne_eq_false_iff_eq,
        Bool.not_eq_false'] at correlated
      obtain ⟨⟨⟨distinct, sameTime⟩, sameTurn⟩, correlated⟩ := correlated
      exact ⟨pairValid_iff.2 ⟨pair, distinct, sameTime⟩, envelope, kind, sameTurn, correlated⟩
    · cases correlated
  · rintro ⟨pair, envelope, kind, sameTurn, correlated⟩
    obtain ⟨pair, distinct, sameTime⟩ := pairValid_iff.1 pair
    refine ⟨pair, ?_⟩
    simp [kind, distinct, sameTime, sameTurn, correlated]

theorem acceptResume_eq_ok :
    validateStateEvent (.acceptResume turnId first transition) = .ok u ↔
      PairValid turnId first transition ∧ ∃ evidence,
        transition.kind = .agentLoopResumeAccepted evidence ∧
          approvalDecisionMatchesResume first evidence = true := by
  simp only [validateStateEvent, seq_eq_ok]
  constructor
  · rintro ⟨pair, correlated⟩
    split at correlated
    · rename_i evidence kind
      simp only [rejectIf_eq_ok, Bool.or_eq_false_iff, beq_eq_false_iff_ne, bne_eq_false_iff_eq,
        Bool.not_eq_false'] at correlated
      obtain ⟨⟨distinct, sameTime⟩, correlated⟩ := correlated
      exact ⟨pairValid_iff.2 ⟨pair, distinct, sameTime⟩, evidence, kind, correlated⟩
    · cases correlated
  · rintro ⟨pair, evidence, kind, correlated⟩
    obtain ⟨pair, distinct, sameTime⟩ := pairValid_iff.1 pair
    refine ⟨pair, ?_⟩
    simp [kind, distinct, sameTime, correlated]

theorem claimReady_eq_ok {transition : Item} :
    validateStateEvent (.claimReady turnId transition) = .ok u ↔
      validateStateId "turn" turnId = .ok () ∧ validateStateId "item" transition.id = .ok () ∧
        validateStateItem transition = .ok () ∧
        ∃ evidence, transition.kind = .agentLoopReadyClaimed evidence := by
  simp only [validateStateEvent, seq_eq_ok]
  constructor
  · rintro ⟨turn, itemId, valid, claim⟩
    split at claim
    · rename_i evidence kind
      exact ⟨turn, itemId, valid, evidence, kind⟩
    · cases claim
  · rintro ⟨turn, itemId, valid, evidence, kind⟩
    exact ⟨turn, itemId, valid, by rw [kind]⟩

theorem waitClosed_eq_ok {stopped transition : Item} {status : TurnStatus} :
    validateStateEvent (.waitClosed turnId stopped transition status) = .ok u ↔
      PairValid turnId stopped transition ∧ ∃ evidence,
        transition.kind = .agentLoopWaitClosed evidence ∧ status = evidence.status ∧
          validateWaitCloseStatus status evidence.reason = .ok () ∧
          turnStoppedMatchesClosure stopped evidence = true := by
  simp only [validateStateEvent, seq_eq_ok]
  constructor
  · rintro ⟨pair, correlated⟩
    split at correlated
    · rename_i evidence kind
      simp only [seq_eq_ok, rejectIf_eq_ok, Bool.or_eq_false_iff, beq_eq_false_iff_ne,
        bne_eq_false_iff_eq, Bool.not_eq_false'] at correlated
      obtain ⟨closes, ⟨⟨distinct, sameTime⟩, sameStatus⟩, correlated⟩ := correlated
      exact ⟨pairValid_iff.2 ⟨pair, distinct, sameTime⟩, evidence, kind, sameStatus, closes,
        correlated⟩
    · cases correlated
  · rintro ⟨pair, evidence, kind, rfl, closes, correlated⟩
    obtain ⟨pair, distinct, sameTime⟩ := pairValid_iff.1 pair
    refine ⟨pair, ?_⟩
    simp [kind, distinct, sameTime, closes, correlated]

theorem denyWait_eq_ok :
    validateStateEvent (.denyWait turnId first transition) = .ok u ↔
      PairValid turnId first transition ∧ ∃ evidence,
        transition.kind = .agentLoopWaitDenied evidence ∧
          first.createdAtMs = evidence.deniedAtMs ∧
          approvalDecisionMatchesDenial first evidence = true := by
  simp only [validateStateEvent, seq_eq_ok]
  constructor
  · rintro ⟨pair, correlated⟩
    split at correlated
    · rename_i evidence kind
      simp only [rejectIf_eq_ok, Bool.or_eq_false_iff, beq_eq_false_iff_ne, bne_eq_false_iff_eq,
        Bool.not_eq_false'] at correlated
      obtain ⟨⟨⟨distinct, sameTime⟩, deniedAt⟩, correlated⟩ := correlated
      exact ⟨pairValid_iff.2 ⟨pair, distinct, sameTime⟩, evidence, kind, deniedAt, correlated⟩
    · cases correlated
  · rintro ⟨pair, evidence, kind, deniedAt, correlated⟩
    obtain ⟨pair, distinct, sameTime⟩ := pairValid_iff.1 pair
    refine ⟨pair, ?_⟩
    simp [kind, distinct, sameTime, ← deniedAt, correlated]

/-- Every Item of an accepted batch is a batched Tool call. -/
theorem validateBatchFrom_calls {size index : Nat} {batchId : Option ToolCallBatchId}
    {callIds : List String} {calls : List Item}
    (valid : validateBatchFrom size index batchId callIds calls = .ok u) :
    ∀ call ∈ calls, isBatchedCall call.kind = true ∧ validateStateItem call = .ok () ∧
      validateStateId "item" call.id = .ok () := by
  induction calls generalizing index batchId callIds with
  | nil => simp
  | cons call rest ih =>
    simp only [validateBatchFrom, seq_eq_ok] at valid
    obtain ⟨callId, item, batched⟩ := valid
    split at batched
    · rename_i kind
      simp only [seq_eq_ok] at batched
      intro x member
      rcases List.mem_cons.1 member with rfl | member
      · exact ⟨by simp [isBatchedCall, kind], item, callId⟩
      · exact ih batched.2.2 x member
    · cases batched

theorem toolCalls_eq_ok {calls : List Item}
    (valid : validateStateEvent (.toolCallsAppended turnId calls) = .ok u) :
    ∀ call ∈ calls, isBatchedCall call.kind = true ∧ validateStateItem call = .ok () ∧
      validateStateId "item" call.id = .ok () := by
  simp only [validateStateEvent, validateToolCallBatchItems, seq_eq_ok] at valid
  exact validateBatchFrom_calls valid.2.2

end WaitEvents

theorem plain_of_batched {kind : ItemKind} (batched : isBatchedCall kind = true) :
    isTransitionKind kind = false := by
  cases kind <;> first | rfl | cases batched

end YHarness.State

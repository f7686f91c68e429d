/-
# YHarness.Kernel.Encode -- the serialized form of the kernel records

`toJson` is the value each record's derived `Serialize` writes: fields in
declaration order, enumerations in snake case, internally tagged variants with
their tag first, a flattened `ItemKind` or `StateEvent` after the fields of its
envelope, and absent optional fields left out where the source skips them.
-/
import YHarness.Kernel.Types

namespace YHarness.Kernel

open YHarness.Lib

set_option autoImplicit false

/-- A field written as `null` when absent. -/
def nullable {α : Type} (encode : α → Json) : Option α → Json
  | none => .null
  | some value => encode value

/-- A field left out when absent (`skip_serializing_if = "Option::is_none"`). -/
def skipNone {α : Type} (name : String) (encode : α → Json) : Option α → List (String × Json)
  | none => []
  | some value => [(name, encode value)]

def jsonU64 (n : UInt64) : Json := .nat n.toNat
def jsonU32 (n : UInt32) : Json := .nat n.toNat

namespace ActorIdentity

def toJson : ActorIdentity → Json
  | localProcess => .obj [("kind", .str "local_process")]
  | authenticated authority subject =>
    .obj [("kind", .str "authenticated"), ("authority", .str authority),
      ("subject", .str subject)]
  | unattributedLegacy => .obj [("kind", .str "unattributed_legacy")]

end ActorIdentity

def AuthorityContext.toJson (a : AuthorityContext) : Json :=
  .obj (("actor", a.actor.toJson) :: skipNone "tenant_id" .str a.tenantId)

def CapabilityOrigin.toJson : CapabilityOrigin → Json
  | builtIn => .obj [("kind", .str "built_in")]
  | trustedExtension id => .obj [("kind", .str "trusted_extension"), ("id", .str id)]
  | external id => .obj [("kind", .str "external"), ("id", .str id)]

def RiskLevel.toJson : RiskLevel → Json
  | low => .str "low"
  | medium => .str "medium"
  | high => .str "high"
  | critical => .str "critical"

def PolicyDecision.toJson : PolicyDecision → Json
  | allow => .obj [("action", .str "allow")]
  | deny reason => .obj [("action", .str "deny"), ("reason", .str reason)]
  | ask reason risk =>
    .obj [("action", .str "ask"), ("reason", .str reason), ("risk", risk.toJson)]

def ApprovalDecision.toJson : ApprovalDecision → Json
  | approve => .obj [("action", .str "approve")]
  | deny reason => .obj [("action", .str "deny"), ("reason", .str reason)]

def VerificationOutcome.toJson : VerificationOutcome → Json
  | passed summary => .obj [("status", .str "passed"), ("summary", nullable .str summary)]
  | failed reason retryable =>
    .obj [("status", .str "failed"), ("reason", .str reason), ("retryable", .bool retryable)]

def ToolDescriptor.toJson (d : ToolDescriptor) : Json :=
  .obj [("name", .str d.name), ("description", .str d.description),
    ("input_schema", d.inputSchema)]

def ToolCallBatch.toJson (b : ToolCallBatch) : Json :=
  .obj [("id", .str b.id), ("index", .nat b.index), ("size", .nat b.size)]

def ToolAuthorization.toJson (a : ToolAuthorization) : Json :=
  .obj [("thread_id", .str a.threadId), ("turn_id", .str a.turnId), ("call_id", .str a.callId),
    ("descriptor", a.descriptor.toJson), ("origin", a.origin.toJson), ("input", a.input)]

def ApprovalRequest.toJson (r : ApprovalRequest) : Json :=
  .obj [("id", .str r.id), ("requested_by", r.requestedBy.toJson),
    ("authorization", r.authorization.toJson), ("reason", .str r.reason),
    ("risk", r.risk.toJson)]

def CompletionRequirementStatus.toJson : CompletionRequirementStatus → Json
  | notRequired => .str "not_required"
  | satisfied => .str "satisfied"

def CompletionAssurance.toJson : CompletionAssurance → Json
  | runtimeMeasured => .str "runtime_measured"
  | deploymentBound => .str "deployment_bound"

def CompletionContract.toJson (c : CompletionContract) : Json :=
  .obj [("artifact", c.artifact.toJson), ("effect", c.effect.toJson),
    ("business_delivery", c.businessDelivery.toJson)]

def CompletionGeneration.toJson (g : CompletionGeneration) : Json :=
  .obj ([("format_version", jsonU32 g.formatVersion),
    ("model_request_sha256", .str g.modelRequestSha256),
    ("model_route_sha256", .str g.modelRouteSha256),
    ("tool_view_sha256", .str g.toolViewSha256),
    ("verifier_manifest_sha256", .str g.verifierManifestSha256),
    ("runtime_governance_sha256", .str g.runtimeGovernanceSha256)] ++
    skipNone "execution_binding_sha256" .str g.executionBindingSha256 ++
    [("assurance", g.assurance.toJson), ("generation_sha256", .str g.generationSha256)])

def CompletionReceipt.toJson (r : CompletionReceipt) : Json :=
  .obj [("format_version", jsonU32 r.formatVersion), ("authority", r.authority.toJson),
    ("source_thread_id", .str r.sourceThreadId), ("turn_id", .str r.turnId),
    ("candidate_item_id", .str r.candidateItemId),
    ("candidate_sha256", .str r.candidateSha256),
    ("turn_evidence_sha256", .str r.turnEvidenceSha256),
    ("verifier_results_sha256", .str r.verifierResultsSha256),
    ("verifier_count", jsonU32 r.verifierCount), ("generation", r.generation.toJson),
    ("contract", r.contract.toJson)]

def InvocationContextEvidence.toJson (e : InvocationContextEvidence) : Json :=
  .obj [("source", .str e.source), ("reference", .str e.reference),
    ("source_sha256", .str e.sourceSha256), ("content_sha256", .str e.contentSha256),
    ("estimated_tokens", .nat e.estimatedTokens), ("serialized_bytes", .nat e.serializedBytes)]

def ExecutionBinding.toJson (b : ExecutionBinding) : Json :=
  .obj ([("issuer", .str b.issuer), ("name", .str b.name), ("version", .str b.version),
    ("configuration_sha256", .str b.configurationSha256),
    ("environment_sha256", .str b.environmentSha256), ("revision", jsonU64 b.revision)] ++
    skipNone "tenant_id" .str b.tenantId)

def ConnectorEvidenceClaim.toJson (c : ConnectorEvidenceClaim) : Json :=
  .obj ([("source", .str c.source), ("resource", .str c.resource), ("version", .str c.version),
    ("observed_at_ms", jsonU64 c.observedAtMs)] ++
    skipNone "valid_until_ms" jsonU64 c.validUntilMs ++
    skipNone "idempotency_key" .str c.idempotencyKey)

def ConnectorEvidence.toJson (e : ConnectorEvidence) : Json :=
  .obj [("connector", .str e.connector), ("connector_origin", e.connectorOrigin.toJson),
    ("authority", e.authority.toJson), ("output_sha256", .str e.outputSha256),
    ("claim", e.claim.toJson)]

def ModelContinuation.toJson (c : ModelContinuation) : Json :=
  .obj [("format", .str c.format), ("items", .arr c.items)]

def TurnStatus.toJson : TurnStatus → Json
  | running => .str "running"
  | completed => .str "completed"
  | failed => .str "failed"
  | cancelled => .str "cancelled"
  | timedOut => .str "timed_out"
  | interrupted => .str "interrupted"

def TurnStopReason.toJson : TurnStopReason → Json
  | cancelled => .str "cancelled"
  | timedOut => .str "timed_out"

def ExecutionPhase.toJson : ExecutionPhase → Json
  | context => .str "context"
  | model => .str "model"
  | policy => .str "policy"
  | approval => .str "approval"
  | tool => .str "tool"
  | effect => .str "effect"
  | verification => .str "verification"
  | evaluation => .str "evaluation"

def MemoryContextRecordStatus.toJson : MemoryContextRecordStatus → Json
  | loaded => .str "loaded"
  | degraded => .str "degraded"

def WaitKind.toJson (k : WaitKind) : Json :=
  .obj [("kind", .str "approval"), ("request", k.request.toJson),
    ("model_request_sha256", .str k.modelRequestSha256)]

def TurnWaitEnvelope.toJson (e : TurnWaitEnvelope) : Json :=
  .obj ([("wait_id", .str e.waitId), ("revision", jsonU64 e.revision),
    ("thread_id", .str e.threadId), ("turn_id", .str e.turnId)] ++
    skipNone "tenant_id" .str e.tenantId ++
    [("requested_by", e.requestedBy.toJson),
      ("server_started_at_ms", jsonU64 e.serverStartedAtMs)] ++
    skipNone "expires_at_ms" jsonU64 e.expiresAtMs ++
    skipNone "remaining_active_timeout_ms" jsonU64 e.remainingActiveTimeoutMs ++
    [("completion_generation", e.completionGeneration.toJson), ("wait_kind", e.waitKind.toJson),
      ("envelope_sha256", .str e.envelopeSha256)])

def ApprovalSettlementEvidence.toJson (s : ApprovalSettlementEvidence) : Json :=
  .obj ([("inbox_schema_version", jsonU32 s.inboxSchemaVersion),
    ("request", s.request.toJson)] ++ skipNone "tenant_id" .str s.tenantId ++
    [("decision", s.decision.toJson), ("decided_by", s.decidedBy.toJson),
      ("inbox_revision", jsonU64 s.inboxRevision), ("requested_at_ms", jsonU64 s.requestedAtMs),
      ("settled_at_ms", jsonU64 s.settledAtMs)])

def ResumeEvidence.toJson (e : ResumeEvidence) : Json :=
  .obj [("wait_id", .str e.waitId), ("previous_revision", jsonU64 e.previousRevision),
    ("revision", jsonU64 e.revision), ("command_id", .str e.commandId),
    ("command_sha256", .str e.commandSha256), ("settlement", e.settlement.toJson),
    ("accepted_at_ms", jsonU64 e.acceptedAtMs)]

def ExecutionClaimEvidence.toJson (e : ExecutionClaimEvidence) : Json :=
  .obj [("wait_id", .str e.waitId), ("previous_revision", jsonU64 e.previousRevision),
    ("revision", jsonU64 e.revision), ("resume_command_id", .str e.resumeCommandId),
    ("claim_id", .str e.claimId), ("worker_id", .str e.workerId),
    ("claim_sha256", .str e.claimSha256), ("claimed_at_ms", jsonU64 e.claimedAtMs)]

def WaitClosureEvidence.toJson (e : WaitClosureEvidence) : Json :=
  .obj [("wait_id", .str e.waitId), ("previous_revision", jsonU64 e.previousRevision),
    ("revision", jsonU64 e.revision), ("command_id", .str e.commandId),
    ("status", e.status.toJson), ("reason", e.reason.toJson),
    ("command_sha256", .str e.commandSha256), ("closed_at_ms", jsonU64 e.closedAtMs)]

def WaitDenialEvidence.toJson (e : WaitDenialEvidence) : Json :=
  .obj [("wait_id", .str e.waitId), ("previous_revision", jsonU64 e.previousRevision),
    ("revision", jsonU64 e.revision), ("command_id", .str e.commandId),
    ("command_sha256", .str e.commandSha256), ("settlement", e.settlement.toJson),
    ("denied_at_ms", jsonU64 e.deniedAtMs)]

/-! ## Items and events -/

/-- The fields an `ItemKind` contributes to its flattened Item, the tag first. -/
def ItemKind.fields : ItemKind → List (String × Json)
  | userMessage content => [("type", .str "user_message"), ("content", .str content)]
  | executionBinding boundBy binding =>
    [("type", .str "execution_binding"), ("bound_by", boundBy.toJson),
      ("binding", binding.toJson)]
  | steeringQueued steeringId submittedBy content =>
    [("type", .str "steering_queued"), ("steering_id", .str steeringId),
      ("submitted_by", submittedBy.toJson), ("content", .str content)]
  | steeringApplied steeringId content =>
    [("type", .str "steering_applied"), ("steering_id", .str steeringId),
      ("content", .str content)]
  | assistantMessage modelId modelOrigin modelRequestSha256 content =>
    [("type", .str "assistant_message")] ++ skipNone "model_id" .str modelId ++
      skipNone "model_origin" CapabilityOrigin.toJson modelOrigin ++
      skipNone "model_request_sha256" .str modelRequestSha256 ++ [("content", .str content)]
  | providerContinuation modelId modelOrigin continuation =>
    [("type", .str "provider_continuation"), ("model_id", .str modelId),
      ("model_origin", modelOrigin.toJson), ("continuation", continuation.toJson)]
  | toolCall modelId modelOrigin callId name input batch =>
    [("type", .str "tool_call")] ++ skipNone "model_id" .str modelId ++
      skipNone "model_origin" CapabilityOrigin.toJson modelOrigin ++
      [("call_id", .str callId), ("name", .str name), ("input", input)] ++
      skipNone "batch" ToolCallBatch.toJson batch
  | policyDecision callId toolOrigin decision =>
    [("type", .str "policy_decision"), ("call_id", .str callId)] ++
      skipNone "tool_origin" CapabilityOrigin.toJson toolOrigin ++
      [("decision", decision.toJson)]
  | approvalRequested approvalId callId tool reason risk requestedBy toolOrigin
      modelRequestSha256 =>
      [("type", .str "approval_requested"), ("approval_id", .str approvalId),
        ("call_id", .str callId), ("tool", .str tool), ("reason", .str reason),
        ("risk", risk.toJson)] ++
        skipNone "requested_by" ActorIdentity.toJson requestedBy ++
        skipNone "tool_origin" CapabilityOrigin.toJson toolOrigin ++
        skipNone "model_request_sha256" .str modelRequestSha256
  | approvalDecision approvalId callId decision =>
    [("type", .str "approval_decision"), ("approval_id", .str approvalId),
      ("call_id", .str callId), ("decision", decision.toJson)]
  | agentLoopWaitStarted envelope =>
    [("type", .str "agent_loop_wait_started"), ("envelope", envelope.toJson)]
  | agentLoopResumeAccepted evidence =>
    [("type", .str "agent_loop_resume_accepted"), ("evidence", evidence.toJson)]
  | agentLoopReadyClaimed evidence =>
    [("type", .str "agent_loop_ready_claimed"), ("evidence", evidence.toJson)]
  | agentLoopWaitClosed evidence =>
    [("type", .str "agent_loop_wait_closed"), ("evidence", evidence.toJson)]
  | agentLoopWaitDenied evidence =>
    [("type", .str "agent_loop_wait_denied"), ("evidence", evidence.toJson)]
  | toolResult callId output isError connectorEvidence =>
    [("type", .str "tool_result"), ("call_id", .str callId), ("output", output),
      ("is_error", .bool isError)] ++
      (if connectorEvidence.isEmpty then []
        else [("connector_evidence", .arr (connectorEvidence.map ConnectorEvidence.toJson))])
  | memoryContext provider status references packedTokens warnings =>
    [("type", .str "memory_context"), ("provider", .str provider), ("status", status.toJson),
      ("references", .arr (references.map .str)), ("packed_tokens", .nat packedTokens),
      ("warnings", .arr (warnings.map .str))]
  | conversationContext includedTurns droppedTurns estimatedTokens =>
    [("type", .str "conversation_context"),
      ("included_turns", .arr (includedTurns.map .str)),
      ("dropped_turns", .nat droppedTurns), ("estimated_tokens", .nat estimatedTokens)]
  | conversationSummary compactor coveredTurns olderOmittedTurns sourceSha256 contentSha256
      estimatedTokens serializedBytes =>
      [("type", .str "conversation_summary"), ("compactor", .str compactor),
        ("covered_turns", .arr (coveredTurns.map .str)),
        ("older_omitted_turns", .nat olderOmittedTurns), ("source_sha256", .str sourceSha256),
        ("content_sha256", .str contentSha256), ("estimated_tokens", .nat estimatedTokens),
        ("serialized_bytes", .nat serializedBytes)]
  | invocationContext submittedBy blocks =>
    [("type", .str "invocation_context"), ("submitted_by", submittedBy.toJson),
      ("blocks", .arr (blocks.map InvocationContextEvidence.toJson))]
  | runtimeError message => [("type", .str "runtime_error"), ("message", .str message)]
  | turnStopped reason phase =>
    [("type", .str "turn_stopped"), ("reason", reason.toJson), ("phase", phase.toJson)]
  | verificationResult verifier candidateItemId verifierOrigin verifierBindingSha256 outcome =>
    [("type", .str "verification_result"), ("verifier", .str verifier)] ++
      skipNone "candidate_item_id" .str candidateItemId ++
      skipNone "verifier_origin" CapabilityOrigin.toJson verifierOrigin ++
      skipNone "verifier_binding_sha256" .str verifierBindingSha256 ++
      [("outcome", outcome.toJson)]

def Item.toJson (item : Item) : Json :=
  .obj ([("id", .str item.id), ("created_at_ms", jsonU64 item.createdAtMs)] ++ item.kind.fields)

def Checkpoint.toJson (c : Checkpoint) : Json :=
  .obj [("id", .str c.id), ("thread_id", .str c.threadId), ("turn_id", nullable .str c.turnId),
    ("target_sequence", .nat c.targetSequence), ("created_at_ms", jsonU64 c.createdAtMs),
    ("label", nullable .str c.label)]

def ThreadLineage.toJson (l : ThreadLineage) : Json :=
  .obj [("parent_thread_id", .str l.parentThreadId),
    ("parent_through_sequence", .nat l.parentThroughSequence),
    ("parent_stream_version", .nat l.parentStreamVersion),
    ("parent_events_sha256", .str l.parentEventsSha256)]

def ThreadImportOrigin.toJson (o : ThreadImportOrigin) : Json :=
  .obj ([("source_thread_id", .str o.sourceThreadId),
    ("source_stream_version", .nat o.sourceStreamVersion),
    ("source_last_sequence", .nat o.sourceLastSequence),
    ("source_events_sha256", .str o.sourceEventsSha256)] ++
    skipNone "source_lineage" ThreadLineage.toJson o.sourceLineage)

def StateEvent.fields : StateEvent → List (String × Json)
  | threadCreated createdAtMs tenantId =>
    [("type", .str "thread_created"), ("created_at_ms", jsonU64 createdAtMs)] ++
      skipNone "tenant_id" .str tenantId
  | threadNamed name => [("type", .str "thread_named"), ("name", nullable .str name)]
  | threadForked lineage => [("type", .str "thread_forked"), ("lineage", lineage.toJson)]
  | threadImported origin => [("type", .str "thread_imported"), ("origin", origin.toJson)]
  | turnStarted turnId => [("type", .str "turn_started"), ("turn_id", .str turnId)]
  | itemAppended turnId item =>
    [("type", .str "item_appended"), ("turn_id", .str turnId), ("item", item.toJson)]
  | toolCallsAppended turnId calls =>
    [("type", .str "tool_calls_appended"), ("turn_id", .str turnId),
      ("calls", .arr (calls.map Item.toJson))]
  | waitStarted turnId approvalRequested transition =>
    [("type", .str "wait_started"), ("turn_id", .str turnId),
      ("approval_requested", approvalRequested.toJson), ("transition", transition.toJson)]
  | acceptResume turnId approvalDecision transition =>
    [("type", .str "accept_resume"), ("turn_id", .str turnId),
      ("approval_decision", approvalDecision.toJson), ("transition", transition.toJson)]
  | claimReady turnId transition =>
    [("type", .str "claim_ready"), ("turn_id", .str turnId),
      ("transition", transition.toJson)]
  | waitClosed turnId stopped transition status =>
    [("type", .str "wait_closed"), ("turn_id", .str turnId), ("stopped", stopped.toJson),
      ("transition", transition.toJson), ("status", status.toJson)]
  | denyWait turnId approvalDecision transition =>
    [("type", .str "deny_wait"), ("turn_id", .str turnId),
      ("approval_decision", approvalDecision.toJson), ("transition", transition.toJson)]
  | turnCompleted turnId receipt =>
    [("type", .str "turn_completed"), ("turn_id", .str turnId), ("receipt", receipt.toJson)]
  | turnFinished turnId status =>
    [("type", .str "turn_finished"), ("turn_id", .str turnId), ("status", status.toJson)]
  | checkpointCreated checkpoint =>
    [("type", .str "checkpoint_created"), ("checkpoint", checkpoint.toJson)]

def StateEvent.toJson (event : StateEvent) : Json :=
  .obj event.fields

def Turn.toJson (t : Turn) : Json :=
  .obj ([("id", .str t.id), ("thread_id", .str t.threadId), ("status", t.status.toJson),
    ("items", .arr (t.items.map Item.toJson))] ++
    skipNone "completion_receipt" CompletionReceipt.toJson t.completionReceipt)

def Thread.toJson (t : Thread) : Json :=
  .obj ([("id", .str t.id)] ++ skipNone "tenant_id" .str t.tenantId ++
    skipNone "name" .str t.name ++ skipNone "lineage" ThreadLineage.toJson t.lineage ++
    skipNone "import_origin" ThreadImportOrigin.toJson t.importOrigin ++
    [("created_at_ms", jsonU64 t.createdAtMs), ("turns", .arr (t.turns.map Turn.toJson)),
      ("checkpoints", .arr (t.checkpoints.map Checkpoint.toJson))])

end YHarness.Kernel

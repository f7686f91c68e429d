/-
# YHarness.Kernel.Fields -- a record is determined by its serialized form

Every record of the kernel is given back by the fields it is written with.  The argument
uses two things of the written value only: leaves are what they are, and a field of an
object can be looked up by its name.  So it is made for any rewriting of JSON values that
keeps both (`Piecewise`); what comes back is the record with its free JSON payloads
rewritten (`Item.eq_of_json`).  With the identity that is the record itself
(`Item.toJson_injective`); with the sorting of keys it is the record up to key order.
-/
import YHarness.Kernel.Encode
import YHarness.Lib.ReadBack

namespace YHarness.Kernel

open YHarness.Lib

set_option autoImplicit false

/-! ## Lookups -/

/-- The value of the first field with this name. -/
def field (key : String) (fields : List (String × Json)) : Option Json :=
  (fields.find? fun entry => entry.1 == key).map (·.2)

@[simp] theorem field_nil (key : String) : field key [] = none := rfl

@[simp] theorem field_cons (key name : String) (value : Json) (fields : List (String × Json)) :
    field key ((name, value) :: fields) = if name = key then some value else field key fields := by
  by_cases here : name = key <;> simp [field, here]

@[simp] theorem lastOf_skipNone {α : Type} (key name : String) (encode : α → Json)
    (value : Option α) :
    lastOf key (skipNone name encode value) = if name = key then value.map encode else none := by
  cases value <;> simp [skipNone]

@[simp] theorem lastOf_skipIf (skip : Prop) [Decidable skip] (key name : String) (value : Json) :
    lastOf key (if skip then [] else [(name, value)]) =
      if name = key then if skip then none else some value else none := by
  split <;> simp

/-- A rewriting of values that keeps leaves and rewrites containers piece by piece. -/
structure Piecewise (canon : Json → Json) : Prop where
  null : canon .null = .null
  bool : ∀ value, canon (.bool value) = .bool value
  nat : ∀ value, canon (.nat value) = .nat value
  str : ∀ text, canon (.str text) = .str text
  arr : ∀ values, canon (.arr values) = .arr (values.map canon)
  obj : ∀ fields, ∃ rewritten, canon (.obj fields) = .obj rewritten ∧
    ∀ key, lastOf key rewritten = (lastOf key fields).map canon

theorem Piecewise.identity : Piecewise fun value => value :=
  ⟨rfl, fun _ => rfl, fun _ => rfl, fun _ => rfl, fun _ => by simp,
    fun fields => ⟨fields, rfl, fun _ => by simp⟩⟩

/-- Two lists of fields with the same rewritten lookups. -/
def Agree (canon : Json → Json) (fs gs : List (String × Json)) : Prop :=
  ∀ key, (lastOf key fs).map canon = (lastOf key gs).map canon

/-! ## Rewriting the free payloads of a record -/

section Rewrite

variable (canon : Json → Json)

def ToolDescriptor.rewrite (d : ToolDescriptor) : ToolDescriptor :=
  { d with inputSchema := canon d.inputSchema }

def ToolAuthorization.rewrite (a : ToolAuthorization) : ToolAuthorization :=
  { a with descriptor := a.descriptor.rewrite canon, input := canon a.input }

def ApprovalRequest.rewrite (r : ApprovalRequest) : ApprovalRequest :=
  { r with authorization := r.authorization.rewrite canon }

def WaitKind.rewrite (k : WaitKind) : WaitKind :=
  { k with request := k.request.rewrite canon }

def TurnWaitEnvelope.rewrite (e : TurnWaitEnvelope) : TurnWaitEnvelope :=
  { e with waitKind := e.waitKind.rewrite canon }

def ApprovalSettlementEvidence.rewrite (s : ApprovalSettlementEvidence) :
    ApprovalSettlementEvidence :=
  { s with request := s.request.rewrite canon }

def ResumeEvidence.rewrite (e : ResumeEvidence) : ResumeEvidence :=
  { e with settlement := e.settlement.rewrite canon }

def WaitDenialEvidence.rewrite (e : WaitDenialEvidence) : WaitDenialEvidence :=
  { e with settlement := e.settlement.rewrite canon }

def ModelContinuation.rewrite (c : ModelContinuation) : ModelContinuation :=
  { c with items := c.items.map canon }

def ItemKind.rewrite : ItemKind → ItemKind
  | .providerContinuation modelId modelOrigin continuation =>
    .providerContinuation modelId modelOrigin (continuation.rewrite canon)
  | .toolCall modelId modelOrigin callId name input batch =>
    .toolCall modelId modelOrigin callId name (canon input) batch
  | .agentLoopWaitStarted envelope => .agentLoopWaitStarted (envelope.rewrite canon)
  | .agentLoopResumeAccepted evidence => .agentLoopResumeAccepted (evidence.rewrite canon)
  | .agentLoopWaitDenied evidence => .agentLoopWaitDenied (evidence.rewrite canon)
  | .toolResult callId output isError connectorEvidence =>
    .toolResult callId (canon output) isError connectorEvidence
  | kind => kind

/-- The Item with every JSON value of a Tool or Provider rewritten. -/
def Item.rewrite (item : Item) : Item :=
  { item with kind := item.kind.rewrite canon }

end Rewrite

section Records

variable {canon : Json → Json} (p : Piecewise canon)

include p

theorem Piecewise.fields {fs gs : List (String × Json)}
    (same : canon (.obj fs) = canon (.obj gs)) : Agree canon fs gs := by
  intro key
  obtain ⟨fs', left, leftFields⟩ := p.obj fs
  obtain ⟨gs', right, rightFields⟩ := p.obj gs
  rw [left, right, Json.obj.injEq] at same
  rw [← leftFields, ← rightFields, same]

omit p in
theorem option_eq {α : Type} {encode : α → Json}
    (read : ∀ x y, canon (encode x) = canon (encode y) → x = y) {a b : Option α}
    (same : (a.map encode).map canon = (b.map encode).map canon) : a = b := by
  cases a <;> cases b <;> simp at same ⊢
  exact read _ _ same

theorem list_eq {α : Type} {encode : α → Json}
    (read : ∀ x y, canon (encode x) = canon (encode y) → x = y) {xs ys : List α}
    (same : canon (.arr (xs.map encode)) = canon (.arr (ys.map encode))) : xs = ys := by
  rw [p.arr, p.arr, Json.arr.injEq, List.map_map, List.map_map] at same
  exact List.map_injective_iff.2 (fun x y => read x y) same

theorem string_eq (x y : String) (same : canon (.str x) = canon (.str y)) : x = y := by
  simpa [p.str] using same

theorem nat_eq (x y : Nat) (same : canon (.nat x) = canon (.nat y)) : x = y := by
  simpa [p.nat] using same

theorem bool_eq (x y : Bool) (same : canon (.bool x) = canon (.bool y)) : x = y := by
  simpa [p.bool] using same

theorem u64_eq (x y : UInt64) (same : canon (jsonU64 x) = canon (jsonU64 y)) : x = y :=
  UInt64.toNat_inj.1 (nat_eq p _ _ same)

theorem u32_eq (x y : UInt32) (same : canon (jsonU32 x) = canon (jsonU32 y)) : x = y :=
  UInt32.toNat_inj.1 (nat_eq p _ _ same)

/-! ## Enumerations and small records -/

theorem ActorIdentity.eq_of_json (a b : ActorIdentity)
    (same : canon a.toJson = canon b.toJson) : a = b := by
  cases a <;> cases b
  all_goals
    have kind := p.fields same "kind"
    have authority := p.fields same "authority"
    have subject := p.fields same "subject"
    simp [p.str] at kind authority subject ⊢
  exact ⟨authority, subject⟩

theorem AuthorityContext.eq_of_json (a b : AuthorityContext)
    (same : canon a.toJson = canon b.toJson) : a = b := by
  have read := p.fields same
  have actor : a.actor = b.actor := ActorIdentity.eq_of_json p _ _ (by simpa using read "actor")
  have tenant : a.tenantId = b.tenantId := option_eq (string_eq p) (by simpa using read "tenant_id")
  exact match a, b, actor, tenant with | ⟨_, _⟩, ⟨_, _⟩, rfl, rfl => rfl

theorem CapabilityOrigin.eq_of_json (a b : CapabilityOrigin)
    (same : canon a.toJson = canon b.toJson) : a = b := by
  cases a <;> cases b
  all_goals
    have kind := p.fields same "kind"
    have id := p.fields same "id"
    simp [p.str] at kind id ⊢
  all_goals exact id

theorem RiskLevel.eq_of_json (a b : RiskLevel) (same : canon a.toJson = canon b.toJson) :
    a = b := by
  cases a <;> cases b <;> simp [RiskLevel.toJson, p.str] at same ⊢

theorem PolicyDecision.eq_of_json (a b : PolicyDecision)
    (same : canon a.toJson = canon b.toJson) : a = b := by
  cases a <;> cases b
  all_goals
    have action := p.fields same "action"
    have reason := p.fields same "reason"
    have risk := p.fields same "risk"
    simp [p.str] at action reason risk ⊢
  · exact reason
  · exact ⟨reason, RiskLevel.eq_of_json p _ _ risk⟩

theorem ApprovalDecision.eq_of_json (a b : ApprovalDecision)
    (same : canon a.toJson = canon b.toJson) : a = b := by
  cases a <;> cases b
  all_goals
    have action := p.fields same "action"
    have reason := p.fields same "reason"
    simp [p.str] at action reason ⊢
  exact reason

/-- A field written as `null` when absent. -/
theorem nullable_string_eq {a b : Option String}
    (same : canon (nullable .str a) = canon (nullable .str b)) : a = b := by
  cases a <;> cases b <;> simp [nullable, p.null, p.str] at same ⊢
  exact same

theorem VerificationOutcome.eq_of_json (a b : VerificationOutcome)
    (same : canon a.toJson = canon b.toJson) : a = b := by
  cases a <;> cases b
  all_goals
    have status := p.fields same "status"
    have summary := p.fields same "summary"
    have reason := p.fields same "reason"
    have retryable := p.fields same "retryable"
    simp [p.str, p.bool] at status summary reason retryable ⊢
  · exact nullable_string_eq p summary
  · exact ⟨reason, retryable⟩

theorem ToolCallBatch.eq_of_json (a b : ToolCallBatch)
    (same : canon a.toJson = canon b.toJson) : a = b := by
  have read := p.fields same
  have id : a.id = b.id := string_eq p _ _ (by simpa using read "id")
  have index : a.index = b.index := nat_eq p _ _ (by simpa using read "index")
  have size : a.size = b.size := nat_eq p _ _ (by simpa using read "size")
  exact match a, b, id, index, size with | ⟨_, _, _⟩, ⟨_, _, _⟩, rfl, rfl, rfl => rfl

theorem CompletionAssurance.eq_of_json (a b : CompletionAssurance)
    (same : canon a.toJson = canon b.toJson) : a = b := by
  cases a <;> cases b <;> simp [CompletionAssurance.toJson, p.str] at same ⊢

theorem TurnStatus.eq_of_json (a b : TurnStatus) (same : canon a.toJson = canon b.toJson) :
    a = b := by
  cases a <;> cases b <;> simp [TurnStatus.toJson, p.str] at same ⊢

theorem TurnStopReason.eq_of_json (a b : TurnStopReason)
    (same : canon a.toJson = canon b.toJson) : a = b := by
  cases a <;> cases b <;> simp [TurnStopReason.toJson, p.str] at same ⊢

theorem ExecutionPhase.eq_of_json (a b : ExecutionPhase)
    (same : canon a.toJson = canon b.toJson) : a = b := by
  cases a <;> cases b <;> simp [ExecutionPhase.toJson, p.str] at same ⊢

theorem MemoryContextRecordStatus.eq_of_json (a b : MemoryContextRecordStatus)
    (same : canon a.toJson = canon b.toJson) : a = b := by
  cases a <;> cases b <;> simp [MemoryContextRecordStatus.toJson, p.str] at same ⊢

/-! ## Evidence -/

theorem InvocationContextEvidence.eq_of_json (a b : InvocationContextEvidence)
    (same : canon a.toJson = canon b.toJson) : a = b := by
  have read := p.fields same
  have source : a.source = b.source := string_eq p _ _ (by simpa using read "source")
  have reference : a.reference = b.reference := string_eq p _ _ (by simpa using read "reference")
  have sourceSha256 : a.sourceSha256 = b.sourceSha256 :=
    string_eq p _ _ (by simpa using read "source_sha256")
  have contentSha256 : a.contentSha256 = b.contentSha256 :=
    string_eq p _ _ (by simpa using read "content_sha256")
  have estimatedTokens : a.estimatedTokens = b.estimatedTokens :=
    nat_eq p _ _ (by simpa using read "estimated_tokens")
  have serializedBytes : a.serializedBytes = b.serializedBytes :=
    nat_eq p _ _ (by simpa using read "serialized_bytes")
  clear read same
  cases a; cases b; simp_all

theorem ExecutionBinding.eq_of_json (a b : ExecutionBinding)
    (same : canon a.toJson = canon b.toJson) : a = b := by
  have read := p.fields same
  have issuer : a.issuer = b.issuer := string_eq p _ _ (by simpa using read "issuer")
  have name : a.name = b.name := string_eq p _ _ (by simpa using read "name")
  have version : a.version = b.version := string_eq p _ _ (by simpa using read "version")
  have configurationSha256 : a.configurationSha256 = b.configurationSha256 :=
    string_eq p _ _ (by simpa using read "configuration_sha256")
  have environmentSha256 : a.environmentSha256 = b.environmentSha256 :=
    string_eq p _ _ (by simpa using read "environment_sha256")
  have revision : a.revision = b.revision := u64_eq p _ _ (by simpa using read "revision")
  have tenantId : a.tenantId = b.tenantId :=
    option_eq (string_eq p) (by simpa using read "tenant_id")
  clear read same
  cases a; cases b; simp_all

theorem ConnectorEvidenceClaim.eq_of_json (a b : ConnectorEvidenceClaim)
    (same : canon a.toJson = canon b.toJson) : a = b := by
  have read := p.fields same
  have source : a.source = b.source := string_eq p _ _ (by simpa using read "source")
  have resource : a.resource = b.resource := string_eq p _ _ (by simpa using read "resource")
  have version : a.version = b.version := string_eq p _ _ (by simpa using read "version")
  have observedAtMs : a.observedAtMs = b.observedAtMs :=
    u64_eq p _ _ (by simpa using read "observed_at_ms")
  have validUntilMs : a.validUntilMs = b.validUntilMs :=
    option_eq (u64_eq p) (by simpa using read "valid_until_ms")
  have idempotencyKey : a.idempotencyKey = b.idempotencyKey :=
    option_eq (string_eq p) (by simpa using read "idempotency_key")
  clear read same
  cases a; cases b; simp_all

theorem ConnectorEvidence.eq_of_json (a b : ConnectorEvidence)
    (same : canon a.toJson = canon b.toJson) : a = b := by
  have read := p.fields same
  have connector : a.connector = b.connector := string_eq p _ _ (by simpa using read "connector")
  have connectorOrigin : a.connectorOrigin = b.connectorOrigin :=
    CapabilityOrigin.eq_of_json p _ _ (by simpa using read "connector_origin")
  have authority : a.authority = b.authority :=
    AuthorityContext.eq_of_json p _ _ (by simpa using read "authority")
  have outputSha256 : a.outputSha256 = b.outputSha256 :=
    string_eq p _ _ (by simpa using read "output_sha256")
  have claim : a.claim = b.claim :=
    ConnectorEvidenceClaim.eq_of_json p _ _ (by simpa using read "claim")
  clear read same
  cases a; cases b; simp_all

theorem CompletionGeneration.eq_of_json (a b : CompletionGeneration)
    (same : canon a.toJson = canon b.toJson) : a = b := by
  have read := p.fields same
  have formatVersion : a.formatVersion = b.formatVersion :=
    u32_eq p _ _ (by simpa using read "format_version")
  have modelRequestSha256 : a.modelRequestSha256 = b.modelRequestSha256 :=
    string_eq p _ _ (by simpa using read "model_request_sha256")
  have modelRouteSha256 : a.modelRouteSha256 = b.modelRouteSha256 :=
    string_eq p _ _ (by simpa using read "model_route_sha256")
  have toolViewSha256 : a.toolViewSha256 = b.toolViewSha256 :=
    string_eq p _ _ (by simpa using read "tool_view_sha256")
  have verifierManifestSha256 : a.verifierManifestSha256 = b.verifierManifestSha256 :=
    string_eq p _ _ (by simpa using read "verifier_manifest_sha256")
  have runtimeGovernanceSha256 : a.runtimeGovernanceSha256 = b.runtimeGovernanceSha256 :=
    string_eq p _ _ (by simpa using read "runtime_governance_sha256")
  have executionBindingSha256 : a.executionBindingSha256 = b.executionBindingSha256 :=
    option_eq (string_eq p) (by simpa using read "execution_binding_sha256")
  have assurance : a.assurance = b.assurance :=
    CompletionAssurance.eq_of_json p _ _ (by simpa using read "assurance")
  have generationSha256 : a.generationSha256 = b.generationSha256 :=
    string_eq p _ _ (by simpa using read "generation_sha256")
  clear read same
  cases a; cases b; simp_all

theorem ExecutionClaimEvidence.eq_of_json (a b : ExecutionClaimEvidence)
    (same : canon a.toJson = canon b.toJson) : a = b := by
  have read := p.fields same
  have waitId : a.waitId = b.waitId := string_eq p _ _ (by simpa using read "wait_id")
  have previousRevision : a.previousRevision = b.previousRevision :=
    u64_eq p _ _ (by simpa using read "previous_revision")
  have revision : a.revision = b.revision := u64_eq p _ _ (by simpa using read "revision")
  have resumeCommandId : a.resumeCommandId = b.resumeCommandId :=
    string_eq p _ _ (by simpa using read "resume_command_id")
  have claimId : a.claimId = b.claimId := string_eq p _ _ (by simpa using read "claim_id")
  have workerId : a.workerId = b.workerId := string_eq p _ _ (by simpa using read "worker_id")
  have claimSha256 : a.claimSha256 = b.claimSha256 :=
    string_eq p _ _ (by simpa using read "claim_sha256")
  have claimedAtMs : a.claimedAtMs = b.claimedAtMs :=
    u64_eq p _ _ (by simpa using read "claimed_at_ms")
  clear read same
  cases a; cases b; simp_all

theorem WaitClosureEvidence.eq_of_json (a b : WaitClosureEvidence)
    (same : canon a.toJson = canon b.toJson) : a = b := by
  have read := p.fields same
  have waitId : a.waitId = b.waitId := string_eq p _ _ (by simpa using read "wait_id")
  have previousRevision : a.previousRevision = b.previousRevision :=
    u64_eq p _ _ (by simpa using read "previous_revision")
  have revision : a.revision = b.revision := u64_eq p _ _ (by simpa using read "revision")
  have commandId : a.commandId = b.commandId := string_eq p _ _ (by simpa using read "command_id")
  have status : a.status = b.status := TurnStatus.eq_of_json p _ _ (by simpa using read "status")
  have reason : a.reason = b.reason :=
    TurnStopReason.eq_of_json p _ _ (by simpa using read "reason")
  have commandSha256 : a.commandSha256 = b.commandSha256 :=
    string_eq p _ _ (by simpa using read "command_sha256")
  have closedAtMs : a.closedAtMs = b.closedAtMs := u64_eq p _ _ (by simpa using read "closed_at_ms")
  clear read same
  cases a; cases b; simp_all

/-! ## Records with free payloads -/

theorem ToolDescriptor.eq_of_json (a b : ToolDescriptor)
    (same : canon a.toJson = canon b.toJson) : a.rewrite canon = b.rewrite canon := by
  have read := p.fields same
  have name : a.name = b.name := string_eq p _ _ (by simpa using read "name")
  have description : a.description = b.description :=
    string_eq p _ _ (by simpa using read "description")
  have inputSchema : canon a.inputSchema = canon b.inputSchema := by simpa using read "input_schema"
  clear read same
  cases a; cases b; simp_all [ToolDescriptor.rewrite]

theorem ToolAuthorization.eq_of_json (a b : ToolAuthorization)
    (same : canon a.toJson = canon b.toJson) : a.rewrite canon = b.rewrite canon := by
  have read := p.fields same
  have threadId : a.threadId = b.threadId := string_eq p _ _ (by simpa using read "thread_id")
  have turnId : a.turnId = b.turnId := string_eq p _ _ (by simpa using read "turn_id")
  have callId : a.callId = b.callId := string_eq p _ _ (by simpa using read "call_id")
  have descriptor : a.descriptor.rewrite canon = b.descriptor.rewrite canon :=
    ToolDescriptor.eq_of_json p _ _ (by simpa using read "descriptor")
  have origin : a.origin = b.origin :=
    CapabilityOrigin.eq_of_json p _ _ (by simpa using read "origin")
  have input : canon a.input = canon b.input := by simpa using read "input"
  clear read same
  cases a; cases b; simp_all [ToolAuthorization.rewrite]

theorem ApprovalRequest.eq_of_json (a b : ApprovalRequest)
    (same : canon a.toJson = canon b.toJson) : a.rewrite canon = b.rewrite canon := by
  have read := p.fields same
  have id : a.id = b.id := string_eq p _ _ (by simpa using read "id")
  have requestedBy : a.requestedBy = b.requestedBy :=
    ActorIdentity.eq_of_json p _ _ (by simpa using read "requested_by")
  have authorization : a.authorization.rewrite canon = b.authorization.rewrite canon :=
    ToolAuthorization.eq_of_json p _ _ (by simpa using read "authorization")
  have reason : a.reason = b.reason := string_eq p _ _ (by simpa using read "reason")
  have risk : a.risk = b.risk := RiskLevel.eq_of_json p _ _ (by simpa using read "risk")
  clear read same
  cases a; cases b; simp_all [ApprovalRequest.rewrite]

theorem WaitKind.eq_of_json (a b : WaitKind)
    (same : canon a.toJson = canon b.toJson) : a.rewrite canon = b.rewrite canon := by
  have read := p.fields same
  have request : a.request.rewrite canon = b.request.rewrite canon :=
    ApprovalRequest.eq_of_json p _ _ (by simpa using read "request")
  have modelRequestSha256 : a.modelRequestSha256 = b.modelRequestSha256 :=
    string_eq p _ _ (by simpa using read "model_request_sha256")
  clear read same
  cases a; cases b; simp_all [WaitKind.rewrite]

theorem TurnWaitEnvelope.eq_of_json (a b : TurnWaitEnvelope)
    (same : canon a.toJson = canon b.toJson) : a.rewrite canon = b.rewrite canon := by
  have read := p.fields same
  have waitId : a.waitId = b.waitId := string_eq p _ _ (by simpa using read "wait_id")
  have revision : a.revision = b.revision := u64_eq p _ _ (by simpa using read "revision")
  have threadId : a.threadId = b.threadId := string_eq p _ _ (by simpa using read "thread_id")
  have turnId : a.turnId = b.turnId := string_eq p _ _ (by simpa using read "turn_id")
  have tenantId : a.tenantId = b.tenantId :=
    option_eq (string_eq p) (by simpa using read "tenant_id")
  have requestedBy : a.requestedBy = b.requestedBy :=
    ActorIdentity.eq_of_json p _ _ (by simpa using read "requested_by")
  have serverStartedAtMs : a.serverStartedAtMs = b.serverStartedAtMs :=
    u64_eq p _ _ (by simpa using read "server_started_at_ms")
  have expiresAtMs : a.expiresAtMs = b.expiresAtMs :=
    option_eq (u64_eq p) (by simpa using read "expires_at_ms")
  have remainingActiveTimeoutMs : a.remainingActiveTimeoutMs = b.remainingActiveTimeoutMs :=
    option_eq (u64_eq p) (by simpa using read "remaining_active_timeout_ms")
  have completionGeneration : a.completionGeneration = b.completionGeneration :=
    CompletionGeneration.eq_of_json p _ _ (by simpa using read "completion_generation")
  have waitKind : a.waitKind.rewrite canon = b.waitKind.rewrite canon :=
    WaitKind.eq_of_json p _ _ (by simpa using read "wait_kind")
  have envelopeSha256 : a.envelopeSha256 = b.envelopeSha256 :=
    string_eq p _ _ (by simpa using read "envelope_sha256")
  clear read same
  cases a; cases b; simp_all [TurnWaitEnvelope.rewrite]

theorem ApprovalSettlementEvidence.eq_of_json (a b : ApprovalSettlementEvidence)
    (same : canon a.toJson = canon b.toJson) : a.rewrite canon = b.rewrite canon := by
  have read := p.fields same
  have inboxSchemaVersion : a.inboxSchemaVersion = b.inboxSchemaVersion :=
    u32_eq p _ _ (by simpa using read "inbox_schema_version")
  have request : a.request.rewrite canon = b.request.rewrite canon :=
    ApprovalRequest.eq_of_json p _ _ (by simpa using read "request")
  have tenantId : a.tenantId = b.tenantId :=
    option_eq (string_eq p) (by simpa using read "tenant_id")
  have decision : a.decision = b.decision :=
    ApprovalDecision.eq_of_json p _ _ (by simpa using read "decision")
  have decidedBy : a.decidedBy = b.decidedBy :=
    ActorIdentity.eq_of_json p _ _ (by simpa using read "decided_by")
  have inboxRevision : a.inboxRevision = b.inboxRevision :=
    u64_eq p _ _ (by simpa using read "inbox_revision")
  have requestedAtMs : a.requestedAtMs = b.requestedAtMs :=
    u64_eq p _ _ (by simpa using read "requested_at_ms")
  have settledAtMs : a.settledAtMs = b.settledAtMs :=
    u64_eq p _ _ (by simpa using read "settled_at_ms")
  clear read same
  cases a; cases b; simp_all [ApprovalSettlementEvidence.rewrite]

theorem ResumeEvidence.eq_of_json (a b : ResumeEvidence)
    (same : canon a.toJson = canon b.toJson) : a.rewrite canon = b.rewrite canon := by
  have read := p.fields same
  have waitId : a.waitId = b.waitId := string_eq p _ _ (by simpa using read "wait_id")
  have previousRevision : a.previousRevision = b.previousRevision :=
    u64_eq p _ _ (by simpa using read "previous_revision")
  have revision : a.revision = b.revision := u64_eq p _ _ (by simpa using read "revision")
  have commandId : a.commandId = b.commandId := string_eq p _ _ (by simpa using read "command_id")
  have commandSha256 : a.commandSha256 = b.commandSha256 :=
    string_eq p _ _ (by simpa using read "command_sha256")
  have settlement : a.settlement.rewrite canon = b.settlement.rewrite canon :=
    ApprovalSettlementEvidence.eq_of_json p _ _ (by simpa using read "settlement")
  have acceptedAtMs : a.acceptedAtMs = b.acceptedAtMs :=
    u64_eq p _ _ (by simpa using read "accepted_at_ms")
  clear read same
  cases a; cases b; simp_all [ResumeEvidence.rewrite]

theorem WaitDenialEvidence.eq_of_json (a b : WaitDenialEvidence)
    (same : canon a.toJson = canon b.toJson) : a.rewrite canon = b.rewrite canon := by
  have read := p.fields same
  have waitId : a.waitId = b.waitId := string_eq p _ _ (by simpa using read "wait_id")
  have previousRevision : a.previousRevision = b.previousRevision :=
    u64_eq p _ _ (by simpa using read "previous_revision")
  have revision : a.revision = b.revision := u64_eq p _ _ (by simpa using read "revision")
  have commandId : a.commandId = b.commandId := string_eq p _ _ (by simpa using read "command_id")
  have commandSha256 : a.commandSha256 = b.commandSha256 :=
    string_eq p _ _ (by simpa using read "command_sha256")
  have settlement : a.settlement.rewrite canon = b.settlement.rewrite canon :=
    ApprovalSettlementEvidence.eq_of_json p _ _ (by simpa using read "settlement")
  have deniedAtMs : a.deniedAtMs = b.deniedAtMs := u64_eq p _ _ (by simpa using read "denied_at_ms")
  clear read same
  cases a; cases b; simp_all [WaitDenialEvidence.rewrite]

theorem ModelContinuation.eq_of_json (a b : ModelContinuation)
    (same : canon a.toJson = canon b.toJson) : a.rewrite canon = b.rewrite canon := by
  have read := p.fields same
  have format : a.format = b.format := string_eq p _ _ (by simpa using read "format")
  have items : a.items.map canon = b.items.map canon := by
    have values := read "items"
    simp only [lastOf_cons, lastOf_nil, String.reduceEq, Option.or_none, Option.none_or, if_false,
      if_true, Option.map_some, p.arr, Option.some.injEq, Json.arr.injEq] at values
    exact values
  rw [ModelContinuation.rewrite, ModelContinuation.rewrite, format, items]

/-! ## Items -/

/-- Kinds that write the same fields are one kind after the rewriting. -/
def ItemKind.Determined (canon : Json → Json) (a b : ItemKind) : Prop :=
  Agree canon a.fields b.fields → a.rewrite canon = b.rewrite canon

/-- The text of the tag of an Item. -/
def ItemKind.tag (kind : ItemKind) : Option Json :=
  lastOf "type" kind.fields

theorem ItemKind.tag_str (kind : ItemKind) : kind.tag.map canon = kind.tag := by
  cases kind <;> simp [ItemKind.tag, ItemKind.fields, p.str]

theorem ItemKind.assistantMessage_determined {modelId modelOrigin modelRequest content modelId'
    modelOrigin' modelRequest' content'} :
    Determined canon (.assistantMessage modelId modelOrigin modelRequest content)
      (.assistantMessage modelId' modelOrigin' modelRequest' content') := by
  intro read
  dsimp only [ItemKind.fields] at read
  have modelId : modelId = modelId' := option_eq (string_eq p) (by simpa using read "model_id")
  have modelOrigin : modelOrigin = modelOrigin' :=
    option_eq (CapabilityOrigin.eq_of_json p) (by simpa using read "model_origin")
  have modelRequest : modelRequest = modelRequest' :=
    option_eq (string_eq p) (by simpa using read "model_request_sha256")
  have content : content = content' := string_eq p _ _ (by simpa using read "content")
  simp only [ItemKind.rewrite, modelId, modelOrigin, modelRequest, content]

theorem ItemKind.providerContinuation_determined {modelId modelOrigin continuation modelId'
    modelOrigin' continuation'} :
    Determined canon (.providerContinuation modelId modelOrigin continuation)
      (.providerContinuation modelId' modelOrigin' continuation') := by
  intro read
  dsimp only [ItemKind.fields] at read
  have modelId : modelId = modelId' := string_eq p _ _ (by simpa using read "model_id")
  have modelOrigin : modelOrigin = modelOrigin' :=
    CapabilityOrigin.eq_of_json p _ _ (by simpa using read "model_origin")
  have continuation : continuation.rewrite canon = continuation'.rewrite canon :=
    ModelContinuation.eq_of_json p _ _ (by simpa using read "continuation")
  simp only [ItemKind.rewrite, modelId, modelOrigin, continuation]

theorem ItemKind.toolCall_determined {modelId modelOrigin callId name input batch modelId'
    modelOrigin' callId' name' input' batch'} :
    Determined canon (.toolCall modelId modelOrigin callId name input batch)
      (.toolCall modelId' modelOrigin' callId' name' input' batch') := by
  intro read
  dsimp only [ItemKind.fields] at read
  have modelId : modelId = modelId' := option_eq (string_eq p) (by simpa using read "model_id")
  have modelOrigin : modelOrigin = modelOrigin' :=
    option_eq (CapabilityOrigin.eq_of_json p) (by simpa using read "model_origin")
  have callId : callId = callId' := string_eq p _ _ (by simpa using read "call_id")
  have name : name = name' := string_eq p _ _ (by simpa using read "name")
  have input : canon input = canon input' := by simpa using read "input"
  have batch : batch = batch' :=
    option_eq (ToolCallBatch.eq_of_json p) (by simpa using read "batch")
  simp only [ItemKind.rewrite, modelId, modelOrigin, callId, name, input, batch]

theorem ItemKind.approvalRequested_determined {approvalId callId tool reason risk requestedBy
    toolOrigin modelRequest approvalId' callId' tool' reason' risk' requestedBy' toolOrigin'
    modelRequest'} :
    Determined canon (.approvalRequested approvalId callId tool reason risk requestedBy toolOrigin
      modelRequest)
      (.approvalRequested approvalId' callId' tool' reason' risk' requestedBy' toolOrigin'
        modelRequest') := by
  intro read
  dsimp only [ItemKind.fields] at read
  have approvalId : approvalId = approvalId' := string_eq p _ _ (by simpa using read "approval_id")
  have callId : callId = callId' := string_eq p _ _ (by simpa using read "call_id")
  have tool : tool = tool' := string_eq p _ _ (by simpa using read "tool")
  have reason : reason = reason' := string_eq p _ _ (by simpa using read "reason")
  have risk : risk = risk' := RiskLevel.eq_of_json p _ _ (by simpa using read "risk")
  have requestedBy : requestedBy = requestedBy' :=
    option_eq (ActorIdentity.eq_of_json p) (by simpa using read "requested_by")
  have toolOrigin : toolOrigin = toolOrigin' :=
    option_eq (CapabilityOrigin.eq_of_json p) (by simpa using read "tool_origin")
  have modelRequest : modelRequest = modelRequest' :=
    option_eq (string_eq p) (by simpa using read "model_request_sha256")
  simp only [ItemKind.rewrite, approvalId, callId, tool, reason, risk, requestedBy, toolOrigin,
    modelRequest]

theorem ItemKind.toolResult_determined {callId output isError evidence callId' output' isError'
    evidence'} :
    Determined canon (.toolResult callId output isError evidence)
      (.toolResult callId' output' isError' evidence') := by
  intro read
  dsimp only [ItemKind.fields] at read
  have callId : callId = callId' := string_eq p _ _ (by simpa using read "call_id")
  have output : canon output = canon output' := by simpa using read "output"
  have isError : isError = isError' := bool_eq p _ _ (by simpa using read "is_error")
  have evidence : evidence = evidence' := by
    have listed := read "connector_evidence"
    cases evidence <;> cases evidence' <;> simp at listed ⊢
    simp only [← List.map_cons] at listed
    exact List.cons.inj (list_eq p (ConnectorEvidence.eq_of_json p) listed)
  simp only [ItemKind.rewrite, callId, output, isError, evidence]

theorem ItemKind.memoryContext_determined {provider status references packedTokens warnings
    provider' status' references' packedTokens' warnings'} :
    Determined canon (.memoryContext provider status references packedTokens warnings)
      (.memoryContext provider' status' references' packedTokens' warnings') := by
  intro read
  dsimp only [ItemKind.fields] at read
  have provider : provider = provider' := string_eq p _ _ (by simpa using read "provider")
  have status : status = status' :=
    MemoryContextRecordStatus.eq_of_json p _ _ (by simpa using read "status")
  have references : references = references' :=
    list_eq p (string_eq p) (by simpa using read "references")
  have packedTokens : packedTokens = packedTokens' :=
    nat_eq p _ _ (by simpa using read "packed_tokens")
  have warnings : warnings = warnings' := list_eq p (string_eq p) (by simpa using read "warnings")
  simp only [ItemKind.rewrite, provider, status, references, packedTokens, warnings]

theorem ItemKind.conversationSummary_determined {compactor coveredTurns olderOmittedTurns
    sourceSha256 contentSha256 estimatedTokens serializedBytes compactor' coveredTurns'
    olderOmittedTurns' sourceSha256' contentSha256' estimatedTokens' serializedBytes'} :
    Determined canon (.conversationSummary compactor coveredTurns olderOmittedTurns sourceSha256
      contentSha256 estimatedTokens serializedBytes)
      (.conversationSummary compactor' coveredTurns' olderOmittedTurns' sourceSha256' contentSha256'
        estimatedTokens' serializedBytes') := by
  intro read
  dsimp only [ItemKind.fields] at read
  have compactor : compactor = compactor' := string_eq p _ _ (by simpa using read "compactor")
  have coveredTurns : coveredTurns = coveredTurns' :=
    list_eq p (string_eq p) (by simpa using read "covered_turns")
  have olderOmittedTurns : olderOmittedTurns = olderOmittedTurns' :=
    nat_eq p _ _ (by simpa using read "older_omitted_turns")
  have sourceSha256 : sourceSha256 = sourceSha256' :=
    string_eq p _ _ (by simpa using read "source_sha256")
  have contentSha256 : contentSha256 = contentSha256' :=
    string_eq p _ _ (by simpa using read "content_sha256")
  have estimatedTokens : estimatedTokens = estimatedTokens' :=
    nat_eq p _ _ (by simpa using read "estimated_tokens")
  have serializedBytes : serializedBytes = serializedBytes' :=
    nat_eq p _ _ (by simpa using read "serialized_bytes")
  simp only [ItemKind.rewrite, compactor, coveredTurns, olderOmittedTurns, sourceSha256,
    contentSha256, estimatedTokens, serializedBytes]

theorem ItemKind.verificationResult_determined {verifier candidateItemId verifierOrigin
    verifierBinding outcome verifier' candidateItemId' verifierOrigin' verifierBinding' outcome'} :
    Determined canon (.verificationResult verifier candidateItemId verifierOrigin verifierBinding
      outcome)
      (.verificationResult verifier' candidateItemId' verifierOrigin' verifierBinding'
        outcome') := by
  intro read
  dsimp only [ItemKind.fields] at read
  have verifier : verifier = verifier' := string_eq p _ _ (by simpa using read "verifier")
  have candidateItemId : candidateItemId = candidateItemId' :=
    option_eq (string_eq p) (by simpa using read "candidate_item_id")
  have verifierOrigin : verifierOrigin = verifierOrigin' :=
    option_eq (CapabilityOrigin.eq_of_json p) (by simpa using read "verifier_origin")
  have verifierBinding : verifierBinding = verifierBinding' :=
    option_eq (string_eq p) (by simpa using read "verifier_binding_sha256")
  have outcome : outcome = outcome' :=
    VerificationOutcome.eq_of_json p _ _ (by simpa using read "outcome")
  simp only [ItemKind.rewrite, verifier, candidateItemId, verifierOrigin, verifierBinding,
    outcome]

theorem ItemKind.eq_of_fields (a b : ItemKind) (read : Agree canon a.fields b.fields) :
    a.rewrite canon = b.rewrite canon := by
  have tags : a.tag = b.tag := by
    rw [← ItemKind.tag_str p a, ← ItemKind.tag_str p b]
    exact read "type"
  cases a <;> cases b <;> first
    | (exfalso; simp [ItemKind.tag, ItemKind.fields] at tags; done)
    | clear tags
  all_goals dsimp only [ItemKind.fields] at read
  case userMessage content content' =>
    have content : content = content' := string_eq p _ _ (by simpa using read "content")
    simp only [ItemKind.rewrite, content]
  case executionBinding boundBy binding boundBy' binding' =>
    have boundBy : boundBy = boundBy' :=
      ActorIdentity.eq_of_json p _ _ (by simpa using read "bound_by")
    have binding : binding = binding' :=
      ExecutionBinding.eq_of_json p _ _ (by simpa using read "binding")
    simp only [ItemKind.rewrite, boundBy, binding]
  case steeringQueued steeringId submittedBy content steeringId' submittedBy' content' =>
    have steeringId : steeringId = steeringId' := string_eq p _ _ (by simpa using read "steering_id")
    have submittedBy : submittedBy = submittedBy' :=
      ActorIdentity.eq_of_json p _ _ (by simpa using read "submitted_by")
    have content : content = content' := string_eq p _ _ (by simpa using read "content")
    simp only [ItemKind.rewrite, steeringId, submittedBy, content]
  case steeringApplied steeringId content steeringId' content' =>
    have steeringId : steeringId = steeringId' := string_eq p _ _ (by simpa using read "steering_id")
    have content : content = content' := string_eq p _ _ (by simpa using read "content")
    simp only [ItemKind.rewrite, steeringId, content]
  case assistantMessage => exact assistantMessage_determined p read
  case providerContinuation => exact providerContinuation_determined p read
  case toolCall => exact toolCall_determined p read
  case policyDecision callId toolOrigin decision callId' toolOrigin' decision' =>
    have callId : callId = callId' := string_eq p _ _ (by simpa using read "call_id")
    have toolOrigin : toolOrigin = toolOrigin' :=
      option_eq (CapabilityOrigin.eq_of_json p) (by simpa using read "tool_origin")
    have decision : decision = decision' :=
      PolicyDecision.eq_of_json p _ _ (by simpa using read "decision")
    simp only [ItemKind.rewrite, callId, toolOrigin, decision]
  case approvalRequested => exact approvalRequested_determined p read
  case approvalDecision approvalId callId decision approvalId' callId' decision' =>
    have approvalId : approvalId = approvalId' := string_eq p _ _ (by simpa using read "approval_id")
    have callId : callId = callId' := string_eq p _ _ (by simpa using read "call_id")
    have decision : decision = decision' :=
      ApprovalDecision.eq_of_json p _ _ (by simpa using read "decision")
    simp only [ItemKind.rewrite, approvalId, callId, decision]
  case agentLoopWaitStarted envelope envelope' =>
    have envelope : envelope.rewrite canon = envelope'.rewrite canon :=
      TurnWaitEnvelope.eq_of_json p _ _ (by simpa using read "envelope")
    simp only [ItemKind.rewrite, envelope]
  case agentLoopResumeAccepted evidence evidence' =>
    have evidence : evidence.rewrite canon = evidence'.rewrite canon :=
      ResumeEvidence.eq_of_json p _ _ (by simpa using read "evidence")
    simp only [ItemKind.rewrite, evidence]
  case agentLoopReadyClaimed evidence evidence' =>
    have evidence : evidence = evidence' :=
      ExecutionClaimEvidence.eq_of_json p _ _ (by simpa using read "evidence")
    simp only [ItemKind.rewrite, evidence]
  case agentLoopWaitClosed evidence evidence' =>
    have evidence : evidence = evidence' :=
      WaitClosureEvidence.eq_of_json p _ _ (by simpa using read "evidence")
    simp only [ItemKind.rewrite, evidence]
  case agentLoopWaitDenied evidence evidence' =>
    have evidence : evidence.rewrite canon = evidence'.rewrite canon :=
      WaitDenialEvidence.eq_of_json p _ _ (by simpa using read "evidence")
    simp only [ItemKind.rewrite, evidence]
  case toolResult => exact toolResult_determined p read
  case memoryContext => exact memoryContext_determined p read
  case conversationContext includedTurns droppedTurns estimatedTokens includedTurns'
      droppedTurns' estimatedTokens' =>
    have includedTurns : includedTurns = includedTurns' :=
      list_eq p (string_eq p) (by simpa using read "included_turns")
    have droppedTurns : droppedTurns = droppedTurns' :=
      nat_eq p _ _ (by simpa using read "dropped_turns")
    have estimatedTokens : estimatedTokens = estimatedTokens' :=
      nat_eq p _ _ (by simpa using read "estimated_tokens")
    simp only [ItemKind.rewrite, includedTurns, droppedTurns, estimatedTokens]
  case conversationSummary => exact conversationSummary_determined p read
  case invocationContext submittedBy blocks submittedBy' blocks' =>
    have submittedBy : submittedBy = submittedBy' :=
      ActorIdentity.eq_of_json p _ _ (by simpa using read "submitted_by")
    have blocks : blocks = blocks' :=
      list_eq p (InvocationContextEvidence.eq_of_json p) (by simpa using read "blocks")
    simp only [ItemKind.rewrite, submittedBy, blocks]
  case runtimeError message message' =>
    have message : message = message' := string_eq p _ _ (by simpa using read "message")
    simp only [ItemKind.rewrite, message]
  case turnStopped reason phase reason' phase' =>
    have reason : reason = reason' := TurnStopReason.eq_of_json p _ _ (by simpa using read "reason")
    have phase : phase = phase' := ExecutionPhase.eq_of_json p _ _ (by simpa using read "phase")
    simp only [ItemKind.rewrite, reason, phase]
  case verificationResult => exact verificationResult_determined p read

omit p in
/-- A kind writes no field of the envelope of its Item. -/
theorem ItemKind.fields_apart (kind : ItemKind) :
    lastOf "id" kind.fields = none ∧ lastOf "created_at_ms" kind.fields = none := by
  cases kind
  case toolResult callId output isError evidence =>
    cases evidence <;> simp [ItemKind.fields]
  all_goals simp [ItemKind.fields]

/-- **Items.**  An Item is determined by its serialized form, its payloads as far as the
rewriting keeps them. -/
theorem Item.eq_of_json (a b : Item) (same : canon a.toJson = canon b.toJson) :
    a.rewrite canon = b.rewrite canon := by
  have read := p.fields same
  have id : a.id = b.id := string_eq p _ _ (by simpa [ItemKind.fields_apart] using read "id")
  have createdAtMs : a.createdAtMs = b.createdAtMs :=
    u64_eq p _ _ (by simpa [ItemKind.fields_apart] using read "created_at_ms")
  have kind : a.kind.rewrite canon = b.kind.rewrite canon := by
    refine ItemKind.eq_of_fields p _ _ fun key => ?_
    by_cases here : key = "id" ∨ key = "created_at_ms"
    · rcases here with rfl | rfl
      · rw [a.kind.fields_apart.1, b.kind.fields_apart.1]
      · rw [a.kind.fields_apart.2, b.kind.fields_apart.2]
    · rw [not_or] at here
      simpa [Ne.symm here.1, Ne.symm here.2] using read key
  rw [Item.rewrite, Item.rewrite, id, createdAtMs, kind]

theorem items_eq_of_json {as bs : List Item}
    (same : canon (.arr (as.map Item.toJson)) = canon (.arr (bs.map Item.toJson))) :
    as.map (Item.rewrite canon) = bs.map (Item.rewrite canon) := by
  rw [p.arr, p.arr, Json.arr.injEq, List.map_map, List.map_map] at same
  induction as generalizing bs with
  | nil => cases bs <;> simp at same ⊢
  | cons a as ih =>
    cases bs with
    | nil => simp at same
    | cons b bs =>
      obtain ⟨first, later⟩ := List.cons.inj same
      rw [List.map_cons, List.map_cons, ih later, Item.eq_of_json p a b first]

end Records

theorem Item.rewrite_self (item : Item) : item.rewrite (fun value => value) = item := by
  obtain ⟨_, _, kind⟩ := item
  cases kind <;> simp [Item.rewrite, ItemKind.rewrite, ModelContinuation.rewrite,
    TurnWaitEnvelope.rewrite, WaitKind.rewrite, ApprovalRequest.rewrite,
    ToolAuthorization.rewrite, ToolDescriptor.rewrite, ResumeEvidence.rewrite,
    ApprovalSettlementEvidence.rewrite, WaitDenialEvidence.rewrite]

/-- An Item is determined by its serialized form. -/
theorem Item.toJson_injective : Function.Injective Item.toJson := by
  intro a b same
  rw [← a.rewrite_self, ← b.rewrite_self]
  exact Item.eq_of_json .identity a b same

end YHarness.Kernel

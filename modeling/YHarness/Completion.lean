/-
# YHarness.Completion -- evidence-bound contracts for successful Turn settlement

The completion receipt of `src/completion.rs`: the canonical-JSON digests it is
made of, the generation it binds, the settlement rules for Tool calls and
approvals, and the two ways a receipt is checked against a Turn (before the
transition, and on the projected Turn, direct or inherited).
-/
import YHarness.Kernel.Bounds
import Mathlib.Data.List.Sort

namespace YHarness

open YHarness.Lib YHarness.Kernel

set_option autoImplicit false

def completionFormatVersion : UInt32 := 1
def maxCompletionReceiptBytes : Nat := 4096
def maxCompletionHashInputBytes : Nat := 67108864

def completionConfigurationError (message : String) : HarnessError := .invalidConfiguration message
def completionValidationError (message : String) : HarnessError := .state message

def boundedError (kind : String) (maximum : Nat) : BoundedJsonError → HarnessError
  | .limitExceeded =>
    completionConfigurationError s!"{kind} exceeds {maximum} bytes or JSON bounds"
  | .cannotEncode => completionConfigurationError s!"cannot encode {kind}"

/-! ## Canonical digests -/

mutual
/-- `canonicalize_json`: the fields of every object in key order. -/
def canonicalizeJson : Json → Json
  | .arr values => .arr (canonicalizeValues values)
  | .obj fields => .obj ((canonicalizeFields fields).insertionSort fun a b => a.1 ≤ b.1)
  | value => value

def canonicalizeValues : List Json → List Json
  | [] => []
  | v :: vs => canonicalizeJson v :: canonicalizeValues vs

def canonicalizeFields : List (String × Json) → List (String × Json)
  | [] => []
  | (k, v) :: fs => (k, canonicalizeJson v) :: canonicalizeFields fs
end

mutual
/-- Containers nested in each other, as the JSON reader counts them. -/
def nesting : Json → Nat
  | .arr values => 1 + valuesNesting values
  | .obj fields => 1 + fieldsNesting fields
  | _ => 0

def valuesNesting : List Json → Nat
  | [] => 0
  | v :: vs => max (nesting v) (valuesNesting vs)

def fieldsNesting : List (String × Json) → Nat
  | [] => 0
  | (_, v) :: fs => max (nesting v) (fieldsNesting fs)
end

/-- The reader's recursion limit: 127 nested containers. -/
def maxReaderNesting : Nat := 127

/-- The value `canonical_json_sha256` hashes the text of: encode within the bound, read the
text back, check the shape of what was read, sort every object and encode again. -/
def canonicalJson [NumberReader] (value : Json) (maximum : Nat) : Except HarnessError Json := do
  let _ ← (boundedSerializedSize value maximum).mapError
    (boundedError "completion hash input" maximum)
  rejectIf (decide (maxReaderNesting < nesting value))
    (completionConfigurationError "completion hash input cannot be represented as JSON")
  let read := readBack value
  (validateValueShape read).mapError (boundedError "completion hash input" maximum)
  let canonical := canonicalizeJson read
  let _ ← (boundedSerializedSize canonical maximum).mapError
    (boundedError "completion hash input" maximum)
  .ok canonical

/-- `canonical_json_sha256`. -/
def canonicalJsonSha256 [Sha256] (domain : String) (value : Json) (maximum : Nat) :
    Except HarnessError String := do
  let canonical ← canonicalJson value maximum
  .ok (Sha256.digest (.completion domain canonical))

def requireSha256 (kind value : String) : Except HarnessError Unit :=
  rejectIf (!isLowerSha256 value)
    (completionConfigurationError (kind ++ " must be lowercase SHA-256"))

def requirePortableId (kind value : String) : Except HarnessError Unit :=
  rejectIf (!isPortable value)
    (completionConfigurationError (kind ++ " must be 1-128 portable ASCII bytes"))

/-! ## The contract and the generation -/

def CompletionContract.v1NoExternalRequirements : CompletionContract :=
  ⟨.notRequired, .notRequired, .notRequired⟩

def CompletionContract.validateV1 (c : CompletionContract) : Except HarnessError Unit :=
  rejectIf (c != CompletionContract.v1NoExternalRequirements)
    (completionConfigurationError
      "completion format 1 cannot claim artifact, Effect, or business delivery")

/-- `CompletionGeneration::validate_components`. -/
def validateComponents (g : CompletionGeneration) : Except HarnessError Unit := do
  rejectIf (g.formatVersion != completionFormatVersion)
    (completionConfigurationError "unsupported completion generation format")
  requireSha256 "completion model request" g.modelRequestSha256
  requireSha256 "completion model route" g.modelRouteSha256
  requireSha256 "completion Tool view" g.toolViewSha256
  requireSha256 "completion verifier manifest" g.verifierManifestSha256
  requireSha256 "completion Runtime governance" g.runtimeGovernanceSha256
  checkSome (requireSha256 "completion ExecutionBinding") g.executionBindingSha256
  match g.assurance, g.executionBindingSha256.isSome with
  | .runtimeMeasured, false | .deploymentBound, true => .ok ()
  | .runtimeMeasured, true =>
    .error (completionConfigurationError
      "runtime-measured completion cannot carry an ExecutionBinding digest")
  | .deploymentBound, false =>
    .error (completionConfigurationError
      "deployment-bound completion requires an ExecutionBinding digest")

/-- The payload `CompletionGeneration::compute_sha256` hashes. -/
def generationPayload (g : CompletionGeneration) : Json :=
  .obj [("format_version", jsonU32 g.formatVersion),
    ("model_request_sha256", .str g.modelRequestSha256),
    ("model_route_sha256", .str g.modelRouteSha256),
    ("tool_view_sha256", .str g.toolViewSha256),
    ("verifier_manifest_sha256", .str g.verifierManifestSha256),
    ("runtime_governance_sha256", .str g.runtimeGovernanceSha256),
    ("execution_binding_sha256", nullable .str g.executionBindingSha256),
    ("assurance", g.assurance.toJson)]

def computeGenerationSha256 [Sha256] (g : CompletionGeneration) : Except HarnessError String :=
  canonicalJsonSha256 "generation" (generationPayload g) maxCompletionReceiptBytes

/-- `CompletionGeneration::validate`. -/
def validateGeneration [Sha256] (g : CompletionGeneration) : Except HarnessError Unit := do
  validateComponents g
  requireSha256 "completion generation" g.generationSha256
  let digest ← computeGenerationSha256 g
  rejectIf (digest != g.generationSha256)
    (completionConfigurationError "completion generation digest does not match its components")

/-! ## Verifier bindings -/

structure CompletionVerifierBinding where
  name : String
  origin : CapabilityOrigin
  bindingSha256 : String

def CompletionVerifierBinding.toJson (b : CompletionVerifierBinding) : Json :=
  .obj [("name", .str b.name), ("origin", b.origin.toJson),
    ("binding_sha256", .str b.bindingSha256)]

/-- The checks `CompletionVerifierBinding::from_result` and the manifest
validator make of one binding. -/
def CompletionVerifierBinding.validate (b : CompletionVerifierBinding) :
    Except HarnessError Unit := do
  validateCapabilityName "completion verifier" b.name
  validateCapabilityOrigin b.origin
  requireSha256 "completion verifier binding" b.bindingSha256

/-- `validate_verifier_manifest` from the name before. -/
def validateVerifierManifestFrom :
    Option String → List CompletionVerifierBinding → Except HarnessError Unit
  | _, [] => .ok ()
  | previous, b :: bs => do
    b.validate
    rejectIf (previous.any fun name => !decide (name < b.name))
      (completionConfigurationError
        "completion verifier manifest must be strictly ordered by name")
    validateVerifierManifestFrom (some b.name) bs

def completionVerifierManifestSha256 [Sha256] (bindings : List CompletionVerifierBinding) :
    Except HarnessError String := do
  validateVerifierManifestFrom none bindings
  canonicalJsonSha256 "verifier-manifest" (.arr (bindings.map CompletionVerifierBinding.toJson))
    maxCompletionHashInputBytes

def isExecutionBinding (item : Item) : Bool :=
  match item.kind with
  | .executionBinding _ _ => true
  | _ => false

def completionExecutionBindingSha256 [Sha256] (item : Item) : Except HarnessError String := do
  rejectIf (!isExecutionBinding item) (completionConfigurationError
    "ExecutionBinding digest requires an ExecutionBinding Item")
  canonicalJsonSha256 "execution-binding-item" item.toJson maxCompletionHashInputBytes

/-! ## Turn evidence -/

structure DerivedTurnEvidence where
  candidateSha256 : String
  turnEvidenceSha256 : String
  verifierResultsSha256 : String
  verifierManifestSha256 : String
  verifierCount : Nat
  modelRequestSha256 : String

/-- The loop over the verifier suffix of `derive_turn_evidence`: each Item is an
attributed passing result for the candidate, in strict name order. -/
def suffixBindings (candidate : ItemId) :
    Option String → List Item → Except HarnessError (List CompletionVerifierBinding)
  | _, [] => .ok []
  | previous, item :: rest => do
    match item.kind with
    | .verificationResult verifier (some resultCandidate) (some origin) (some binding)
        (.passed _) =>
        rejectIf (resultCandidate != candidate)
          (completionValidationError
            "completion verifier result references a different candidate")
        rejectIf (previous.any fun name => !decide (name < verifier))
          (completionValidationError
            "completion verifier results must be strictly ordered by name")
        let bound : CompletionVerifierBinding := ⟨verifier, origin, binding⟩
        bound.validate
        let bindings ← suffixBindings candidate (some verifier) rest
        .ok (bound :: bindings)
    | _ => .error (completionValidationError
        "completion suffix requires attributed, candidate-bound passing verifier results")

def isVerificationResult (item : Item) : Bool :=
  match item.kind with
  | .verificationResult .. => true
  | _ => false

def itemsJson (items : List Item) : Json := .arr (items.map Item.toJson)

/-- The attribution of a completion candidate. -/
def candidateAttribution (candidate : Item) :
    Except HarnessError (String × CapabilityOrigin × String) :=
  match candidate.kind with
  | .assistantMessage (some modelId) (some modelOrigin) (some modelRequestSha256) _ =>
    .ok (modelId, modelOrigin, modelRequestSha256)
  | _ => .error (completionValidationError
      ("completion candidate must be an attributed AssistantMessage with a Model request " ++
        "digest"))

/-- `derive_turn_evidence` for a candidate found after `before` and followed by
`suffix`. -/
def deriveFromParts [Sha256] (before : List Item) (candidate : Item) (suffix : List Item)
    (candidateItemId : ItemId) : Except HarnessError DerivedTurnEvidence := do
  rejectIf (suffix.any fun item => !isVerificationResult item)
    (completionValidationError
      "only candidate-bound VerificationResult Items may follow the completion candidate")
  let (modelId, modelOrigin, modelRequestSha256) ← candidateAttribution candidate
  (validateModelId modelId).mapError fun _ =>
    completionValidationError "completion candidate contains an invalid Model identity"
  (validateCapabilityOrigin modelOrigin).mapError fun _ =>
    completionValidationError "completion candidate contains an invalid Model origin"
  requireSha256 "completion candidate Model request" modelRequestSha256
  let bindings ← suffixBindings candidateItemId none suffix
  let candidateSha256 ←
    canonicalJsonSha256 "candidate-item" candidate.toJson maxCompletionHashInputBytes
  let turnEvidenceSha256 ← canonicalJsonSha256 "turn-evidence" (itemsJson (before ++ [candidate]))
    maxCompletionHashInputBytes
  let verifierResultsSha256 ←
    canonicalJsonSha256 "verifier-results" (itemsJson suffix) maxCompletionHashInputBytes
  let verifierManifestSha256 ← completionVerifierManifestSha256 bindings
  .ok { candidateSha256, turnEvidenceSha256, verifierResultsSha256, verifierManifestSha256,
        verifierCount := suffix.length, modelRequestSha256 }

/-- The Items before the first one with this id, that Item and the rest. -/
def splitAtItem (id : ItemId) : List Item → Option (List Item × Item × List Item)
  | [] => none
  | item :: rest =>
    if item.id = id then some ([], item, rest)
    else (splitAtItem id rest).map fun (before, candidate, suffix) =>
      (item :: before, candidate, suffix)

def deriveTurnEvidence [Sha256] (turn : Turn) (candidateItemId : ItemId) :
    Except HarnessError DerivedTurnEvidence := do
  let (before, candidate, suffix) ← orError
    (completionValidationError "completion candidate Item does not exist")
    (splitAtItem candidateItemId turn.items)
  deriveFromParts before candidate suffix candidateItemId

/-! ## Settled Tool calls and approvals -/

inductive RecordedPolicy where
  | allow
  | deny
  | ask (reason : String) (risk : RiskLevel)
deriving DecidableEq

structure CallSettlement where
  tool : String
  policy : Option RecordedPolicy
  approvalId : Option ApprovalId
  approvalApproved : Bool
  resultIsError : Option Bool

/-- The two maps `validate_settled_tools_and_approvals` accumulates. -/
structure SettlementState where
  calls : OrdMap String CallSettlement
  approvals : OrdMap ApprovalId String

def SettlementState.setCall (state : SettlementState) (callId : String) (call : CallSettlement) :
    SettlementState :=
  { state with calls := state.calls.insert callId call }

/-- Whether a call's policy and approval admit its result: the rule both the
`ToolResult` arm and the final pass over the calls apply. -/
def settledBy (call : CallSettlement) (isError : Bool) : Bool :=
  match call.policy with
  | some .allow => call.approvalId.isNone
  | some (.ask _ _) => call.approvalId.isSome && call.approvalApproved
  | some .deny => false
  | none => isError && call.approvalId.isNone

/-- One Item of `validate_settled_tools_and_approvals`. -/
def settleItem (state : SettlementState) (item : Item) : Except HarnessError SettlementState :=
  match item.kind with
  | .toolCall _ _ callId name _ _ => do
    rejectIf state.calls[callId]?.isSome
      (completionValidationError "completion Turn contains duplicate ToolCall identities")
    .ok (state.setCall callId ⟨name, none, none, false, none⟩)
  | .policyDecision callId _ decision => do
    let call ← orError
      (completionValidationError "completion Turn contains an orphan PolicyDecision")
      state.calls[callId]?
    rejectIf (call.policy.isSome || call.resultIsError.isSome)
      (completionValidationError
        "completion PolicyDecision is duplicate or follows its ToolResult")
    let policy : RecordedPolicy := match decision with
      | .allow => .allow
      | .deny _ => .deny
      | .ask reason risk => .ask reason risk
    .ok (state.setCall callId { call with policy := some policy })
  | .approvalRequested approvalId callId tool reason risk _ _ _ => do
    let call ← orError
      (completionValidationError "completion Turn contains an orphan ApprovalRequested")
      state.calls[callId]?
    rejectIf (call.policy != some (.ask reason risk) || call.tool != tool ||
        call.approvalId.isSome || call.resultIsError.isSome)
      (completionValidationError
        "completion ApprovalRequested does not uniquely match its Ask decision")
    rejectIf state.approvals[approvalId]?.isSome
      (completionValidationError "completion Turn contains a duplicate approval identity")
    .ok { calls := state.calls.insert callId { call with approvalId := some approvalId }
          approvals := state.approvals.insert approvalId callId }
  | .approvalDecision approvalId callId decision => do
    rejectIf (state.approvals[approvalId]? != some callId)
      (completionValidationError
        "completion Turn contains an orphan or mismatched ApprovalDecision")
    let call ← orError
      (completionValidationError "completion ApprovalDecision references an unknown ToolCall")
      state.calls[callId]?
    rejectIf (call.approvalId != some approvalId || call.approvalApproved ||
        call.resultIsError.isSome)
      (completionValidationError
        "completion Turn contains duplicate ApprovalDecision evidence")
    match decision with
    | .approve =>
      .ok (state.setCall callId { call with approvalApproved := true })
    | .deny _ => .error (completionValidationError
        "a denied approval cannot produce successful Turn completion")
  | .toolResult callId _ isError _ => do
    let call ← orError
      (completionValidationError "completion Turn contains an orphan ToolResult")
      state.calls[callId]?
    rejectIf call.resultIsError.isSome
      (completionValidationError "completion Turn contains duplicate ToolResult evidence")
    rejectIf (call.policy == some .deny)
      (completionValidationError
        "a denied Policy decision cannot precede a completing ToolResult")
    rejectIf (!settledBy call isError)
      (completionValidationError
        "ToolResult was recorded before its required Policy or approval settlement")
    .ok (state.setCall callId { call with resultIsError := some isError })
  | _ => .ok state

/-- The final pass over one call. -/
def settledCall (call : CallSettlement) : Except HarnessError Unit := do
  let isError ← orError
    (completionValidationError "every completion ToolCall requires exactly one ToolResult")
    call.resultIsError
  rejectIf (!settledBy call isError)
    (completionValidationError (match call.policy with
      | some .allow => "an Allow decision cannot carry approval evidence"
      | some (.ask _ _) => "an Ask decision requires one matching approved settlement"
      | some .deny => "a denied Policy decision cannot produce successful Turn completion"
      | none => "a successful ToolResult requires one unique PolicyDecision"))

def validateSettledToolsAndApprovals (items : List Item) : Except HarnessError Unit := do
  let state ← items.foldlM settleItem ⟨∅, ∅⟩
  checkAll settledCall (OrdMap.values state.calls)

/-! ## Execution assurance -/

def validateExecutionBindingAuthority (boundBy : ActorIdentity) (binding : ExecutionBinding)
    (threadTenant : Option String) (authority : AuthorityContext) : Except HarnessError Unit := do
  rejectIf (boundBy != authority.actor || binding.tenantId != threadTenant)
    (completionValidationError
      "completion ExecutionBinding authority or tenant does not match the receipt")
  binding.validate.mapError fun _ =>
    completionValidationError "completion contains an invalid ExecutionBinding"

def validateExecutionAssurance [Sha256] (items : List Item) (threadTenant : Option String)
    (authority : AuthorityContext) (generation : CompletionGeneration) :
    Except HarnessError Unit :=
  match generation.assurance, items.filter isExecutionBinding with
  | .runtimeMeasured, [] => .ok ()
  | .runtimeMeasured, _ :: _ => .error (completionValidationError
      "runtime-measured completion cannot contain an ExecutionBinding Item")
  | .deploymentBound, [item] =>
    match item.kind with
    | .executionBinding boundBy binding => do
      validateExecutionBindingAuthority boundBy binding threadTenant authority
      let actual ← completionExecutionBindingSha256 item
      rejectIf (generation.executionBindingSha256 != some actual)
        (completionValidationError
          "completion generation does not match the exact ExecutionBinding Item")
    | _ => .error (completionValidationError
        "completion ExecutionBinding selection became inconsistent")
  | .deploymentBound, _ => .error (completionValidationError
      "deployment-bound completion requires exactly one ExecutionBinding Item")

/-! ## Receipts -/

inductive SourcePlacement where
  | direct
  | inherited
deriving DecidableEq

def validateReceiptShape [Sha256] (r : CompletionReceipt) : Except HarnessError Unit := do
  rejectIf (r.formatVersion != completionFormatVersion)
    (completionValidationError "unsupported completion receipt format")
  r.authority.validateCurrent "completion receipt authority"
  requirePortableId "completion source Thread identity" r.sourceThreadId
  requirePortableId "completion Turn identity" r.turnId
  requirePortableId "completion candidate Item identity" r.candidateItemId
  requireSha256 "completion candidate" r.candidateSha256
  requireSha256 "completion Turn evidence" r.turnEvidenceSha256
  requireSha256 "completion verifier results" r.verifierResultsSha256
  validateGeneration r.generation
  CompletionContract.validateV1 r.contract
  let _ ← (boundedSerializedSize r.toJson maxCompletionReceiptBytes).mapError
    (boundedError "completion receipt" maxCompletionReceiptBytes)
  .ok ()

/-- `completion_receipt_sha256`. -/
def completionReceiptSha256 [Sha256] (r : CompletionReceipt) : Except HarnessError String := do
  validateReceiptShape r
  canonicalJsonSha256 "receipt" r.toJson maxCompletionReceiptBytes

def validateReceiptAgainstItems [Sha256] (turn : Turn) (threadTenant : Option String)
    (receipt : CompletionReceipt) (placement : SourcePlacement) : Except HarnessError Unit := do
  validateReceiptShape receipt
  receipt.authority.validateCurrent "completion receipt authority"
  rejectIf (receipt.authority.tenantId != threadTenant)
    (completionValidationError "completion receipt tenant differs from its Thread")
  rejectIf (receipt.turnId != turn.id)
    (completionValidationError
      "completion receipt Turn identity differs from its projected Turn")
  rejectIf (placement == .direct && receipt.sourceThreadId != turn.threadId)
    (completionValidationError "direct completion receipt source Thread differs from its Turn")
  validateSettledToolsAndApprovals turn.items
  validateExecutionAssurance turn.items threadTenant receipt.authority receipt.generation
  let evidence ← deriveTurnEvidence turn receipt.candidateItemId
  rejectIf (evidence.candidateSha256 != receipt.candidateSha256 ||
      evidence.turnEvidenceSha256 != receipt.turnEvidenceSha256 ||
      evidence.verifierResultsSha256 != receipt.verifierResultsSha256 ||
      evidence.verifierCount != receipt.verifierCount.toNat)
    (completionValidationError "completion receipt does not match current Turn evidence")
  rejectIf (evidence.modelRequestSha256 != receipt.generation.modelRequestSha256)
    (completionValidationError
      "completion candidate Model request differs from its generation")
  rejectIf (evidence.verifierManifestSha256 != receipt.generation.verifierManifestSha256)
    (completionValidationError "completion verifier suffix differs from its frozen manifest")

def validateTurnCompletionReceipt [Sha256] (turn : Turn) (threadTenant : Option String)
    (receipt : CompletionReceipt) : Except HarnessError Unit := do
  rejectIf (turn.status != .running || turn.completionReceipt.isSome)
    (completionValidationError "completion receipt requires an unsettled running Turn")
  validateReceiptAgainstItems turn threadTenant receipt .direct

def validateProjectedTurnCompletionReceipt [Sha256] (turn : Turn) (threadTenant : Option String)
    (receipt : CompletionReceipt) : Except HarnessError Unit := do
  rejectIf (turn.status != .completed || turn.completionReceipt != some receipt)
    (completionValidationError
      "projected completed Turn must retain the exact completion receipt")
  validateReceiptAgainstItems turn threadTenant receipt .direct

def validateInheritedProjectedTurnCompletionReceipt [Sha256] (turn : Turn)
    (threadTenant : Option String) (receipt : CompletionReceipt) : Except HarnessError Unit := do
  rejectIf (turn.status != .completed || turn.completionReceipt != some receipt)
    (completionValidationError
      "inherited completed Turn must retain the exact source completion receipt")
  validateReceiptAgainstItems turn threadTenant receipt .inherited

/-- `build_completion_receipt`. -/
def buildCompletionReceipt [Sha256] (turn : Turn) (authority : AuthorityContext)
    (candidateItemId : ItemId) (generation : CompletionGeneration)
    (contract : CompletionContract) : Except HarnessError CompletionReceipt := do
  let evidence ← deriveTurnEvidence turn candidateItemId
  rejectIf (decide (2 ^ 32 ≤ evidence.verifierCount))
    (completionValidationError "completion verifier count exceeds u32")
  let receipt : CompletionReceipt :=
    { formatVersion := completionFormatVersion
      authority
      sourceThreadId := turn.threadId
      turnId := turn.id
      candidateItemId
      candidateSha256 := evidence.candidateSha256
      turnEvidenceSha256 := evidence.turnEvidenceSha256
      verifierResultsSha256 := evidence.verifierResultsSha256
      verifierCount := UInt32.ofNat evidence.verifierCount
      generation
      contract }
  validateTurnCompletionReceipt turn authority.tenantId receipt
  .ok receipt

end YHarness

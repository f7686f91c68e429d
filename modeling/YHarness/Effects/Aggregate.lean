/-
# YHarness.Effects.Aggregate -- the Effect aggregate

`Effect.new` and `Effect.apply` are the command path: they check a command
against the current status and append one transition.  `Effect.validate` is the
replay path: it folds the transitions, with a transition function of its own
(`applyProjectedKind`), and compares the projection with the record.
-/
import YHarness.Effects.Types

namespace YHarness.Effects

open YHarness.Lib YHarness.Kernel

set_option autoImplicit false

section Paths

variable [Sha256]

/-! ## Digests -/

/-- The JSON of a command attributed to an actor and a tenant. -/
def attributedCommand (actor : ActorIdentity) (tenantId : Option String) (command : Json) : Json :=
  .obj (("actor", actor.toJson) :: skipNone "tenant_id" .str tenantId ++ [("command", command)])

def attributedDigest (actor : ActorIdentity) (tenantId : Option String) (command : Json) :
    Except HarnessError String := do
  validateActor actor
  validateTenant tenantId
  let attributed := attributedCommand actor tenantId command
  let size ← (boundedSerializedSize attributed maxEffectCommandJsonBytes).mapError
    (boundedError "command" maxEffectCommandJsonBytes)
  rejectIf (size == 0) (.effect "Effect command encoding is empty")
  .ok (Sha256.digest (.json attributed))

def valueSha256 (value : Json) : Except HarnessError String := do
  validateInput value
  .ok (Sha256.digest (.json value))

def validateCreateRequest (request : EffectCreateRequest) : Except HarnessError Unit := do
  validateIdentity "Effect creation command" request.commandId
  validateOperation request.operation
  validateIdentity "Effect idempotency key" request.idempotencyKey
  validateInput request.input
  validateApplicationTime request.notBeforeMs

def validateCommand (command : EffectCommand) : Except HarnessError Unit := do
  validateIdentity "Effect command" command.id
  let _ ← (boundedSerializedSize command.toJson maxEffectCommandJsonBytes).mapError
    (boundedError "command" maxEffectCommandJsonBytes)
  .ok ()

/-- The command a transition records. -/
def transitionCommandKind : EffectTransitionKind → Except HarnessError EffectCommandKind
  | .claimed leaseId _ leaseDurationMs => .ok (.claim leaseId leaseDurationMs)
  | .leaseRenewed leaseId leaseDurationMs _ => .ok (.renewLease leaseId leaseDurationMs)
  | .applied leaseId attempt receipt reconciled =>
    if reconciled then .ok (.reconcileApplied leaseId attempt receipt)
    else .ok (.recordApplied leaseId receipt)
  | .notApplied leaseId attempt reasonCode retryAtMs reconciled =>
    if reconciled then .ok (.reconcileNotApplied leaseId attempt reasonCode retryAtMs)
    else .ok (.recordNotApplied leaseId reasonCode retryAtMs)
  | .becameUnknown leaseId _ reasonCode expired =>
    if expired then .ok (.expireLease leaseId) else .ok (.recordUnknown leaseId reasonCode)
  | .cancelled reasonCode => .ok (.cancel reasonCode)
  | .created .. => .error (.effect "cannot reconstruct creation as an Effect command")

def transitionDigest (transition : EffectTransition) (tenantId : Option String) :
    Except HarnessError String :=
  match transition.kind with
  | .created createdTenantId operation idempotencyKey input _ notBeforeMs => do
    rejectIf (createdTenantId != tenantId)
      (.effect "Effect creation tenant differs from aggregate tenant")
    attributedDigest transition.actor tenantId
      (EffectCreateRequest.toJson ⟨transition.commandId, operation, idempotencyKey, input,
        notBeforeMs⟩)
  | kind => do
    let command ← transitionCommandKind kind
    attributedDigest transition.actor tenantId (EffectCommand.toJson ⟨transition.commandId, command⟩)

/-! ## The replay path -/

structure EffectProjection where
  tenantId : Option String
  operation : EffectOperation
  idempotencyKey : String
  input : Json
  inputSha256 : String
  createdAtMs : UInt64
  status : EffectStatus
deriving DecidableEq

def invalidHistory {α : Type} (message : String) : Except HarnessError α :=
  .error (.effect ("Effect transition history is invalid: " ++ message))

/-- The status and the used leases after one transition that is not a creation. -/
def applyProjectedKind (status : EffectStatus) (leaseIds : List EffectLeaseId)
    (transition : EffectTransition) : Except HarnessError (EffectStatus × List EffectLeaseId) :=
  match transition.kind with
  | .claimed leaseId attempt leaseDurationMs =>
    match status with
    | .pending nextAttempt notBeforeMs => do
      rejectIf (decide (transition.appliedAtMs < notBeforeMs) || attempt != nextAttempt)
        (.effect ("Effect transition history is invalid: " ++
          "claim differs from pending attempt or eligibility"))
      validateIdentity "Effect lease" leaseId
      validateLeaseDuration leaseDurationMs
      rejectIf (leaseIds.contains leaseId)
        (.effect "Effect transition history is invalid: lease identity was reused")
      let expiresAtMs ← leaseExpiration transition.appliedAtMs leaseDurationMs
      .ok (.claimed ⟨leaseId, transition.actor, attempt, transition.appliedAtMs, expiresAtMs⟩,
        leaseId :: leaseIds)
    | _ => invalidHistory "claim does not follow pending state"
  | .leaseRenewed leaseId leaseDurationMs previousExpiresAtMs => do
    validateLeaseDuration leaseDurationMs
    let lease ← activeProjectedLease status leaseId transition.actor transition.appliedAtMs
      "renewal"
    rejectIf (lease.expiresAtMs != previousExpiresAtMs)
      (.effect ("Effect transition history is invalid: " ++
        "renewal prior expiration differs from current lease"))
    let next ← leaseExpiration transition.appliedAtMs leaseDurationMs
    rejectIf (decide (next ≤ lease.expiresAtMs))
      (.effect ("Effect transition history is invalid: " ++
        "renewal does not extend the current lease"))
    .ok (.claimed { lease with expiresAtMs := next }, leaseIds)
  | .applied leaseId attempt receipt reconciled => do
    validateReceipt receipt transition.appliedAtMs
    if reconciled then
      validateUnknown status leaseId attempt
    else do
      let lease ← activeProjectedLease status leaseId transition.actor transition.appliedAtMs
        "settlement"
      rejectIf (lease.attempt != attempt)
        (.effect ("Effect transition history is invalid: " ++
          "applied attempt differs from active lease"))
    .ok (.applied attempt receipt, leaseIds)
  | .notApplied leaseId attempt reasonCode retryAtMs reconciled => do
    validateCapabilityName "Effect not-applied reason" reasonCode
    validateRetryTime retryAtMs transition.appliedAtMs
    if reconciled then
      validateUnknown status leaseId attempt
    else do
      let lease ← activeProjectedLease status leaseId transition.actor transition.appliedAtMs
        "settlement"
      rejectIf (lease.attempt != attempt)
        (.effect ("Effect transition history is invalid: " ++
          "not-applied attempt differs from active lease"))
    let next ← settledNotApplied attempt reasonCode retryAtMs
    .ok (next, leaseIds)
  | .becameUnknown leaseId attempt reasonCode expired => do
    validateCapabilityName "Effect uncertainty reason" reasonCode
    match status with
    | .claimed lease => do
      rejectIf (lease.id != leaseId || lease.attempt != attempt)
        (.effect ("Effect transition history is invalid: " ++
          "unknown transition differs from active lease"))
      if expired then
        rejectIf (reasonCode != "lease.expired" ||
            decide (transition.appliedAtMs < lease.expiresAtMs))
          (.effect ("Effect transition history is invalid: " ++
            "lease-expiration evidence is inconsistent"))
      else
        rejectIf (lease.owner != transition.actor ||
            decide (lease.expiresAtMs ≤ transition.appliedAtMs))
          (.effect ("Effect transition history is invalid: " ++
            "worker uncertainty report is not actively leased"))
      .ok (.unknown attempt leaseId reasonCode, leaseIds)
    | _ => invalidHistory "unknown transition does not follow claimed state"
  | .cancelled reasonCode => do
    validateCapabilityName "Effect cancellation reason" reasonCode
    match status with
    | .pending 1 _ => .ok (.cancelled reasonCode, leaseIds)
    | _ => invalidHistory "cancellation follows a claimed attempt"
  | .created .. => invalidHistory "unreachable"

/-- The loop state of `validate`. -/
structure Replay where
  projection : Option EffectProjection
  commandIds : List EffectCommandId
  leaseIds : List EffectLeaseId
  previousTime : UInt64

def Replay.start : Replay :=
  ⟨none, [], [], 0⟩

/-- The projection and the used leases after one transition. -/
def applyProjectionTransition (projection : Option EffectProjection)
    (leaseIds : List EffectLeaseId) (transition : EffectTransition) :
    Except HarnessError (EffectProjection × List EffectLeaseId) :=
  match transition.kind with
  | .created tenantId operation idempotencyKey input inputSha256 notBeforeMs => do
    rejectIf (projection.isSome || transition.sequence != 1)
      (.effect "Effect creation must be the first transition")
    validateOperation operation
    validateTenant tenantId
    validateIdentity "Effect idempotency key" idempotencyKey
    validateInput input
    validateDigest inputSha256 "input"
    let digest ← valueSha256 input
    rejectIf (digest != inputSha256) (.effect "Effect creation input digest differs from input")
    validateApplicationTime notBeforeMs
    .ok (⟨tenantId, operation, idempotencyKey, input, inputSha256, transition.appliedAtMs,
      .pending 1 notBeforeMs⟩, leaseIds)
  | _ => do
    let current ← orError (.effect "Effect transition precedes creation") projection
    let (status, leaseIds) ← applyProjectedKind current.status leaseIds transition
    .ok ({ current with status }, leaseIds)

/-- The sequence the next transition must carry. -/
def nextSequence (count : Nat) : Except HarnessError UInt64 :=
  numberAfter (.effect "Effect sequence overflow") count

/-- One round of the loop of `validate`. -/
def Replay.step (tenantId : Option String) (r : Replay) (transition : EffectTransition) :
    Except HarnessError Replay := do
  let expectedSequence ← nextSequence r.commandIds.length
  rejectIf (transition.sequence != expectedSequence)
    (.effect "Effect transition sequence is not contiguous")
  validateIdentity "Effect command" transition.commandId
  validateDigest transition.commandSha256 "command"
  validateApplicationTime transition.appliedAtMs
  rejectIf (decide (transition.appliedAtMs < r.previousTime))
    (.effect "Effect transition time is not monotonic")
  validateActor transition.actor
  let digest ← transitionDigest transition tenantId
  rejectIf (transition.commandSha256 != digest)
    (.effect "Effect command digest differs from transition content")
  rejectIf (r.commandIds.contains transition.commandId)
    (.effect "Effect contains duplicate command identities")
  let (projection, leaseIds) ← applyProjectionTransition r.projection r.leaseIds transition
  .ok ⟨some projection, transition.commandId :: r.commandIds, leaseIds, transition.appliedAtMs⟩

/-- Replay transitions for a tenant. -/
def Replay.run (tenantId : Option String) (transitions : List EffectTransition) :
    Except HarnessError Replay :=
  transitions.foldlM (Replay.step tenantId) Replay.start

namespace Effect

/-- What an Effect keeps beside its history. -/
def projection (e : Effect) : EffectProjection :=
  ⟨e.tenantId, e.operation, e.idempotencyKey, e.input, e.inputSha256, e.createdAtMs, e.status⟩

def validate (e : Effect) : Except HarnessError Unit := do
  validateTenant e.tenantId
  validateOperation e.operation
  validateIdentity "Effect idempotency key" e.idempotencyKey
  validateInput e.input
  validateDigest e.inputSha256 "input"
  let digest ← valueSha256 e.input
  rejectIf (digest != e.inputSha256) (.effect "Effect input digest differs from durable input")
  validateApplicationTime e.createdAtMs
  rejectIf (e.transitions.isEmpty || decide (maxEffectTransitions < e.transitions.length))
    (.effect s!"Effect must retain 1-{maxEffectTransitions} transitions")
  let replayed ← Replay.run e.tenantId e.transitions
  let projected ← orError (.effect "Effect has no creation transition") replayed.projection
  rejectIf (projected != e.projection)
    (.effect "Effect projection differs from immutable transition history")

/-! ## The command path -/

def encodedSize (e : Effect) : Except HarnessError Nat :=
  (boundedSerializedSize e.toJson maxEffectJsonBytes).mapError
    (boundedError "aggregate" maxEffectJsonBytes)

def new (request : EffectCreateRequest) (appliedAtMs : UInt64) (authority : AuthorityContext) :
    Except HarnessError Effect := do
  validateCreateRequest request
  validateApplicationTime appliedAtMs
  validateAuthority authority "Effect creation authority"
  let inputSha256 ← valueSha256 request.input
  let commandSha256 ← attributedDigest authority.actor authority.tenantId request.toJson
  let effect : Effect :=
    { tenantId := authority.tenantId
      operation := request.operation
      idempotencyKey := request.idempotencyKey
      input := request.input
      inputSha256
      createdAtMs := appliedAtMs
      status := .pending 1 request.notBeforeMs
      transitions := [⟨1, request.commandId, commandSha256, appliedAtMs, authority.actor,
        .created authority.tenantId request.operation request.idempotencyKey request.input
          inputSha256 request.notBeforeMs⟩]
      materializationChargeBytes := 0 }
  effect.validate
  let materializationChargeBytes ← effect.encodedSize
  .ok { effect with materializationChargeBytes }

/-- Whether a command with this identity was applied; an error when it was
another command. -/
def recognizesCommand (e : Effect) (command : EffectCommand) (authority : AuthorityContext) :
    Except HarnessError Bool := do
  validateCommand command
  validateAuthority authority "Effect command replay authority"
  if e.tenantId != authority.tenantId then .ok false
  else do
    let digest ← attributedDigest authority.actor authority.tenantId command.toJson
    match e.transitions.find? fun t => t.commandId == command.id with
    | none => .ok false
    | some existing =>
      if existing.commandSha256 == digest then .ok true
      else .error (.effect (s!"Effect command {command.id} was reused by a different actor or " ++
        "with different content"))

/-- The status after a command and the transition that records it. -/
def applyKind (e : Effect) (kind : EffectCommandKind) (appliedAtMs : UInt64)
    (actor : ActorIdentity) : Except HarnessError (EffectStatus × EffectTransitionKind) :=
  match kind with
  | .claim leaseId leaseDurationMs =>
    match e.status with
    | .pending nextAttempt notBeforeMs => do
      rejectIf (decide (appliedAtMs < notBeforeMs)) (.effect "Effect is not eligible for claim")
      validateNewLeaseId e.transitions leaseId
      validateLeaseDuration leaseDurationMs
      validateAttempt nextAttempt
      let expiresAtMs ← leaseExpiration appliedAtMs leaseDurationMs
      .ok (.claimed ⟨leaseId, actor, nextAttempt, appliedAtMs, expiresAtMs⟩,
        .claimed leaseId nextAttempt leaseDurationMs)
    | _ => .error (.effect "Effect must be pending before claim")
  | .renewLease leaseId leaseDurationMs => do
    validateLeaseDuration leaseDurationMs
    let lease ← activeOwnedLease e.status leaseId actor appliedAtMs "renew"
    let expiresAtMs ← leaseExpiration appliedAtMs leaseDurationMs
    rejectIf (decide (expiresAtMs ≤ lease.expiresAtMs))
      (.effect "Effect renewal must extend the current lease")
    .ok (.claimed { lease with expiresAtMs },
      .leaseRenewed leaseId leaseDurationMs lease.expiresAtMs)
  | .recordApplied leaseId receipt => do
    validateReceipt receipt appliedAtMs
    let lease ← activeOwnedLease e.status leaseId actor appliedAtMs "settle"
    .ok (.applied lease.attempt receipt, .applied leaseId lease.attempt receipt false)
  | .recordNotApplied leaseId reasonCode retryAtMs => do
    validateCapabilityName "Effect not-applied reason" reasonCode
    validateRetryTime retryAtMs appliedAtMs
    let lease ← activeOwnedLease e.status leaseId actor appliedAtMs "settle"
    let next ← settledNotApplied lease.attempt reasonCode retryAtMs
    .ok (next, .notApplied leaseId lease.attempt reasonCode retryAtMs false)
  | .recordUnknown leaseId reasonCode => do
    validateCapabilityName "Effect uncertainty reason" reasonCode
    let lease ← activeOwnedLease e.status leaseId actor appliedAtMs "report"
    .ok (.unknown lease.attempt leaseId reasonCode,
      .becameUnknown leaseId lease.attempt reasonCode false)
  | .expireLease leaseId =>
    match e.status with
    | .claimed lease => do
      rejectIf (lease.id != leaseId)
        (.effect "Effect expiration does not match the current lease")
      rejectIf (decide (appliedAtMs < lease.expiresAtMs)) (.effect "Effect lease is not expired")
      .ok (.unknown lease.attempt leaseId "lease.expired",
        .becameUnknown leaseId lease.attempt "lease.expired" true)
    | _ => .error (.effect "Effect has no current lease to expire")
  | .reconcileApplied leaseId attempt receipt => do
    validateReceipt receipt appliedAtMs
    validateUnknown e.status leaseId attempt
    .ok (.applied attempt receipt, .applied leaseId attempt receipt true)
  | .reconcileNotApplied leaseId attempt reasonCode retryAtMs => do
    validateCapabilityName "Effect reconciliation reason" reasonCode
    validateRetryTime retryAtMs appliedAtMs
    validateUnknown e.status leaseId attempt
    let next ← settledNotApplied attempt reasonCode retryAtMs
    .ok (next, .notApplied leaseId attempt reasonCode retryAtMs true)
  | .cancel reasonCode => do
    validateCapabilityName "Effect cancellation reason" reasonCode
    match e.status with
    | .pending 1 _ => .ok (.cancelled reasonCode, .cancelled reasonCode)
    | _ => .error (.effect "only a never-claimed pending Effect may be cancelled")

/-- The Effect after a command, and whether the command changed it. -/
def apply (e : Effect) (command : EffectCommand) (appliedAtMs : UInt64)
    (authority : AuthorityContext) : Except HarnessError (Effect × EffectApplyOutcome) := do
  let recognized ← e.recognizesCommand command authority
  if recognized then .ok (e, .duplicate)
  else do
    validateApplicationTime appliedAtMs
    validateAuthority authority "Effect command authority"
    rejectIf (decide (maxEffectTransitions ≤ e.transitions.length))
      (.effect s!"Effect exceeds {maxEffectTransitions} transitions")
    rejectIf (e.transitions.getLast?.any fun t => decide (appliedAtMs < t.appliedAtMs))
      (.effect "Effect application time cannot move backwards")
    let digest ← attributedDigest authority.actor authority.tenantId command.toJson
    let (status, kind) ← e.applyKind command.kind appliedAtMs authority.actor
    let sequence ← nextSequence e.transitions.length
    let next : Effect := { e with
      status
      transitions := e.transitions ++
        [⟨sequence, command.id, digest, appliedAtMs, authority.actor, kind⟩] }
    next.validate
    let materializationChargeBytes ← next.encodedSize
    .ok ({ next with materializationChargeBytes }, .applied)

/-- The Effects that a creation and successful commands lead to. -/
inductive Reachable : Effect → Prop
  | new {request : EffectCreateRequest} {appliedAtMs : UInt64} {authority : AuthorityContext}
      {e : Effect} (created : Effect.new request appliedAtMs authority = .ok e) : Reachable e
  | apply {e next : Effect} (reached : Reachable e) {command : EffectCommand}
      {appliedAtMs : UInt64} {authority : AuthorityContext} {outcome : EffectApplyOutcome}
      (accepted : e.apply command appliedAtMs authority = .ok (next, outcome)) : Reachable next

/-- Commands one after the other. -/
def applyAll (e : Effect) (commands : List (EffectCommand × UInt64 × AuthorityContext)) :
    Except HarnessError Effect :=
  commands.foldlM (fun e (command, appliedAtMs, authority) => do
    let (next, _) ← e.apply command appliedAtMs authority
    .ok next) e

theorem Reachable.applyAll {e last : Effect} (reached : Reachable e)
    {commands : List (EffectCommand × UInt64 × AuthorityContext)}
    (ran : e.applyAll commands = .ok last) : Reachable last := by
  refine foldlM_history (fun _ e => Reachable e) reached (fun _ _ _ _ _ reached moved => ?_) ran
  obtain ⟨_, accepted, moved⟩ := bind_eq_ok.1 moved
  cases moved
  exact .apply reached accepted

end Effect

end Paths

/-! ## A sample -/

namespace Effect

section Sample

attribute [local instance] constantSha256

def sampleAuthority (subject : String) : AuthorityContext :=
  ⟨.authenticated "test" subject, some "tenant"⟩

def sampleRequest : EffectCreateRequest where
  commandId := "create"
  operation := ⟨"channel.email", "send"⟩
  idempotencyKey := "mail-42"
  input := .obj [("message_ref", .str "artifact-42")]
  notBeforeMs := 10

def sampleEffect : Effect :=
  (Effect.new sampleRequest 10 (sampleAuthority "creator")).toOption.getD
    ⟨none, ⟨"", ""⟩, "", .null, "", 0, .cancelled "", [], 0⟩

theorem sampleEffect_created :
    Effect.new sampleRequest 10 (sampleAuthority "creator") = .ok sampleEffect := by
  have accepted : (Effect.new sampleRequest 10 (sampleAuthority "creator")).toOption.isSome =
      true := by decide +kernel
  unfold sampleEffect
  cases created : Effect.new sampleRequest 10 (sampleAuthority "creator") with
  | error e =>
    rw [created] at accepted
    cases accepted
  | ok e => rfl

end Sample

end Effect

end YHarness.Effects

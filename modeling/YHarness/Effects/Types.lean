/-
# YHarness.Effects.Types -- the records of the Effect ledger

The data types of `src/effect/mod.rs`, the JSON that their derived `Serialize`
writes, and the checks of single values.  An Effect keeps its status and the
transitions that led to it; a command asks for one more transition.
-/
import YHarness.Lib.Ledger
import YHarness.Kernel.Sizes

namespace YHarness.Effects

open YHarness.Lib YHarness.Kernel

set_option autoImplicit false

abbrev EffectCommandId := String
abbrev EffectLeaseId := String

def maxEffectTransitions : Nat := 4096
def maxEffectJsonBytes : Nat := 16777216
def maxEffectCommandJsonBytes : Nat := 131072
def maxEffectInputBytes : Nat := 131072
def maxEffectIdentityBytes : Nat := 256
def minEffectLeaseMs : UInt64 := 1000
def maxEffectLeaseMs : UInt64 := 604800000
def maxEffectAttempts : UInt32 := 1000000

/-! ## Records -/

structure EffectOperation where
  capability : String
  operation : String
deriving DecidableEq

structure EffectCreateRequest where
  commandId : EffectCommandId
  operation : EffectOperation
  idempotencyKey : String
  input : Json
  notBeforeMs : UInt64

structure EffectReceipt where
  source : String
  externalId : String
  observedAtMs : UInt64
  responseSha256 : String
deriving DecidableEq

structure EffectLease where
  id : EffectLeaseId
  owner : ActorIdentity
  attempt : UInt32
  claimedAtMs : UInt64
  expiresAtMs : UInt64
deriving DecidableEq

inductive EffectStatus where
  | pending (nextAttempt : UInt32) (notBeforeMs : UInt64)
  | claimed (lease : EffectLease)
  | unknown (attempt : UInt32) (leaseId : EffectLeaseId) (reasonCode : String)
  | applied (attempt : UInt32) (receipt : EffectReceipt)
  | rejected (attempt : UInt32) (reasonCode : String)
  | cancelled (reasonCode : String)
deriving DecidableEq

inductive EffectCommandKind where
  | claim (leaseId : EffectLeaseId) (leaseDurationMs : UInt64)
  | renewLease (leaseId : EffectLeaseId) (leaseDurationMs : UInt64)
  | recordApplied (leaseId : EffectLeaseId) (receipt : EffectReceipt)
  | recordNotApplied (leaseId : EffectLeaseId) (reasonCode : String) (retryAtMs : Option UInt64)
  | recordUnknown (leaseId : EffectLeaseId) (reasonCode : String)
  | expireLease (leaseId : EffectLeaseId)
  | reconcileApplied (leaseId : EffectLeaseId) (attempt : UInt32) (receipt : EffectReceipt)
  | reconcileNotApplied (leaseId : EffectLeaseId) (attempt : UInt32) (reasonCode : String)
      (retryAtMs : Option UInt64)
  | cancel (reasonCode : String)

structure EffectCommand where
  id : EffectCommandId
  kind : EffectCommandKind

inductive EffectApplyOutcome where
  | applied | duplicate
deriving DecidableEq

inductive EffectTransitionKind where
  | created (tenantId : Option String) (operation : EffectOperation) (idempotencyKey : String)
      (input : Json) (inputSha256 : String) (notBeforeMs : UInt64)
  | claimed (leaseId : EffectLeaseId) (attempt : UInt32) (leaseDurationMs : UInt64)
  | leaseRenewed (leaseId : EffectLeaseId) (leaseDurationMs previousExpiresAtMs : UInt64)
  | applied (leaseId : EffectLeaseId) (attempt : UInt32) (receipt : EffectReceipt)
      (reconciled : Bool)
  | notApplied (leaseId : EffectLeaseId) (attempt : UInt32) (reasonCode : String)
      (retryAtMs : Option UInt64) (reconciled : Bool)
  | becameUnknown (leaseId : EffectLeaseId) (attempt : UInt32) (reasonCode : String)
      (expired : Bool)
  | cancelled (reasonCode : String)

structure EffectTransition where
  sequence : UInt64
  commandId : EffectCommandId
  commandSha256 : String
  appliedAtMs : UInt64
  actor : ActorIdentity
  kind : EffectTransitionKind

structure Effect where
  tenantId : Option String
  operation : EffectOperation
  idempotencyKey : String
  input : Json
  inputSha256 : String
  createdAtMs : UInt64
  status : EffectStatus
  transitions : List EffectTransition
  materializationChargeBytes : Nat

/-! ## Encodings -/

def EffectOperation.toJson (o : EffectOperation) : Json :=
  .obj [("capability", .str o.capability), ("operation", .str o.operation)]

def EffectCreateRequest.toJson (r : EffectCreateRequest) : Json :=
  .obj [("command_id", .str r.commandId), ("operation", r.operation.toJson),
    ("idempotency_key", .str r.idempotencyKey), ("input", r.input),
    ("not_before_ms", jsonU64 r.notBeforeMs)]

def EffectReceipt.toJson (r : EffectReceipt) : Json :=
  .obj [("source", .str r.source), ("external_id", .str r.externalId),
    ("observed_at_ms", jsonU64 r.observedAtMs), ("response_sha256", .str r.responseSha256)]

def EffectLease.toJson (l : EffectLease) : Json :=
  .obj [("id", .str l.id), ("owner", l.owner.toJson), ("attempt", jsonU32 l.attempt),
    ("claimed_at_ms", jsonU64 l.claimedAtMs), ("expires_at_ms", jsonU64 l.expiresAtMs)]

def EffectStatus.toJson : EffectStatus → Json
  | pending nextAttempt notBeforeMs =>
    .obj [("status", .str "pending"), ("next_attempt", jsonU32 nextAttempt),
      ("not_before_ms", jsonU64 notBeforeMs)]
  | claimed lease => .obj [("status", .str "claimed"), ("lease", lease.toJson)]
  | unknown attempt leaseId reasonCode =>
    .obj [("status", .str "unknown"), ("attempt", jsonU32 attempt), ("lease_id", .str leaseId),
      ("reason_code", .str reasonCode)]
  | applied attempt receipt =>
    .obj [("status", .str "applied"), ("attempt", jsonU32 attempt), ("receipt", receipt.toJson)]
  | rejected attempt reasonCode =>
    .obj [("status", .str "rejected"), ("attempt", jsonU32 attempt),
      ("reason_code", .str reasonCode)]
  | cancelled reasonCode => .obj [("status", .str "cancelled"), ("reason_code", .str reasonCode)]

def EffectCommandKind.toJson : EffectCommandKind → Json
  | claim leaseId leaseDurationMs =>
    .obj [("action", .str "claim"), ("lease_id", .str leaseId),
      ("lease_duration_ms", jsonU64 leaseDurationMs)]
  | renewLease leaseId leaseDurationMs =>
    .obj [("action", .str "renew_lease"), ("lease_id", .str leaseId),
      ("lease_duration_ms", jsonU64 leaseDurationMs)]
  | recordApplied leaseId receipt =>
    .obj [("action", .str "record_applied"), ("lease_id", .str leaseId),
      ("receipt", receipt.toJson)]
  | recordNotApplied leaseId reasonCode retryAtMs =>
    .obj [("action", .str "record_not_applied"), ("lease_id", .str leaseId),
      ("reason_code", .str reasonCode), ("retry_at_ms", nullable jsonU64 retryAtMs)]
  | recordUnknown leaseId reasonCode =>
    .obj [("action", .str "record_unknown"), ("lease_id", .str leaseId),
      ("reason_code", .str reasonCode)]
  | expireLease leaseId => .obj [("action", .str "expire_lease"), ("lease_id", .str leaseId)]
  | reconcileApplied leaseId attempt receipt =>
    .obj [("action", .str "reconcile_applied"), ("lease_id", .str leaseId),
      ("attempt", jsonU32 attempt), ("receipt", receipt.toJson)]
  | reconcileNotApplied leaseId attempt reasonCode retryAtMs =>
    .obj [("action", .str "reconcile_not_applied"), ("lease_id", .str leaseId),
      ("attempt", jsonU32 attempt), ("reason_code", .str reasonCode),
      ("retry_at_ms", nullable jsonU64 retryAtMs)]
  | cancel reasonCode => .obj [("action", .str "cancel"), ("reason_code", .str reasonCode)]

def EffectCommand.toJson (c : EffectCommand) : Json :=
  .obj [("id", .str c.id), ("kind", c.kind.toJson)]

def EffectTransitionKind.toJson : EffectTransitionKind → Json
  | created tenantId operation idempotencyKey input inputSha256 notBeforeMs =>
    .obj (("event", .str "created") :: skipNone "tenant_id" .str tenantId ++
      [("operation", operation.toJson), ("idempotency_key", .str idempotencyKey),
        ("input", input), ("input_sha256", .str inputSha256),
        ("not_before_ms", jsonU64 notBeforeMs)])
  | claimed leaseId attempt leaseDurationMs =>
    .obj [("event", .str "claimed"), ("lease_id", .str leaseId), ("attempt", jsonU32 attempt),
      ("lease_duration_ms", jsonU64 leaseDurationMs)]
  | leaseRenewed leaseId leaseDurationMs previousExpiresAtMs =>
    .obj [("event", .str "lease_renewed"), ("lease_id", .str leaseId),
      ("lease_duration_ms", jsonU64 leaseDurationMs),
      ("previous_expires_at_ms", jsonU64 previousExpiresAtMs)]
  | applied leaseId attempt receipt reconciled =>
    .obj [("event", .str "applied"), ("lease_id", .str leaseId), ("attempt", jsonU32 attempt),
      ("receipt", receipt.toJson), ("reconciled", .bool reconciled)]
  | notApplied leaseId attempt reasonCode retryAtMs reconciled =>
    .obj [("event", .str "not_applied"), ("lease_id", .str leaseId),
      ("attempt", jsonU32 attempt), ("reason_code", .str reasonCode),
      ("retry_at_ms", nullable jsonU64 retryAtMs), ("reconciled", .bool reconciled)]
  | becameUnknown leaseId attempt reasonCode expired =>
    .obj [("event", .str "became_unknown"), ("lease_id", .str leaseId),
      ("attempt", jsonU32 attempt), ("reason_code", .str reasonCode), ("expired", .bool expired)]
  | cancelled reasonCode => .obj [("event", .str "cancelled"), ("reason_code", .str reasonCode)]

def EffectTransition.toJson (t : EffectTransition) : Json :=
  .obj [("sequence", jsonU64 t.sequence), ("command_id", .str t.commandId),
    ("command_sha256", .str t.commandSha256), ("applied_at_ms", jsonU64 t.appliedAtMs),
    ("actor", t.actor.toJson), ("kind", t.kind.toJson)]

/-- The charge of an Effect is not written. -/
def Effect.toJson (e : Effect) : Json :=
  .obj (skipNone "tenant_id" .str e.tenantId ++
    [("operation", e.operation.toJson), ("idempotency_key", .str e.idempotencyKey),
      ("input", e.input), ("input_sha256", .str e.inputSha256),
      ("created_at_ms", jsonU64 e.createdAtMs), ("status", e.status.toJson),
      ("transitions", .arr (e.transitions.map EffectTransition.toJson))])

/-! ## Checks of single values -/

def boundedError (kind : String) (maximum : Nat) : BoundedJsonError → HarnessError
  | .limitExceeded =>
    .effect s!"Effect {kind} exceeds its encoded-byte limit; limit is {maximum} bytes"
  | .cannotEncode => .effect s!"Effect {kind} cannot be encoded; limit is {maximum} bytes"

def validateIdentity (kind value : String) : Except HarnessError Unit :=
  rejectIf (isBlank value || decide (maxEffectIdentityBytes < value.utf8ByteSize) ||
      hasControl value)
    (.effect s!"{kind} must be 1-{maxEffectIdentityBytes} non-control bytes")

def validateApplicationTime (value : UInt64) : Except HarnessError Unit :=
  rejectIf (value == 0) (.effect "Effect application time must be positive")

def validateDigest (value kind : String) : Except HarnessError Unit :=
  rejectIf (!isLowerSha256 value) (.effect s!"Effect {kind} digest must be lowercase SHA-256")

def validateActor (actor : ActorIdentity) : Except HarnessError Unit :=
  (actor.validateCurrent "Effect actor").mapError HarnessError.asEffect

def validateTenant (tenantId : Option String) : Except HarnessError Unit :=
  (Kernel.validateTenant tenantId).mapError HarnessError.asEffect

def validateAuthority (authority : AuthorityContext) (kind : String) : Except HarnessError Unit :=
  (authority.validateCurrent kind).mapError HarnessError.asEffect

def validateOperation (operation : EffectOperation) : Except HarnessError Unit := do
  (validateCapabilityName "Effect capability" operation.capability).mapError HarnessError.asEffect
  (validateCapabilityName "Effect operation" operation.operation).mapError HarnessError.asEffect

def validateInput (input : Json) : Except HarnessError Unit := do
  (validateValueShape input).mapError fun _ => .effect "invalid Effect input shape"
  let size ← (boundedSerializedSize input maxEffectInputBytes).mapError
    (boundedError "input" maxEffectInputBytes)
  rejectIf (size == 0) (.effect "Effect input is empty")

def validateReceipt (receipt : EffectReceipt) (appliedAtMs : UInt64) :
    Except HarnessError Unit := do
  (validateCapabilityName "Effect receipt source" receipt.source).mapError HarnessError.asEffect
  validateIdentity "Effect receipt external identity" receipt.externalId
  validateApplicationTime receipt.observedAtMs
  rejectIf (decide (appliedAtMs < receipt.observedAtMs))
    (.effect "Effect receipt observation time exceeds settlement time")
  validateDigest receipt.responseSha256 "receipt response"

def validateRetryTime (value : Option UInt64) (appliedAtMs : UInt64) :
    Except HarnessError Unit := do
  rejectIf (value.any fun retryAtMs => decide (retryAtMs < appliedAtMs))
    (.effect "Effect retry time cannot precede settlement")
  checkSome validateApplicationTime value

def validateLeaseDuration (durationMs : UInt64) : Except HarnessError Unit :=
  rejectIf (decide (durationMs < minEffectLeaseMs) || decide (maxEffectLeaseMs < durationMs))
    (.effect s!"Effect lease must be {minEffectLeaseMs}-{maxEffectLeaseMs} milliseconds")

def leaseExpiration (appliedAtMs durationMs : UInt64) : Except HarnessError UInt64 :=
  if appliedAtMs.toNat + durationMs.toNat < UInt64.size then .ok (appliedAtMs + durationMs)
  else .error (.effect "Effect lease expiration overflow")

def validateAttempt (attempt : UInt32) : Except HarnessError Unit :=
  rejectIf (attempt == 0 || decide (maxEffectAttempts < attempt))
    (.effect s!"Effect attempt must be 1-{maxEffectAttempts}")

def settledNotApplied (attempt : UInt32) (reasonCode : String) (retryAtMs : Option UInt64) :
    Except HarnessError EffectStatus :=
  match retryAtMs with
  | some notBeforeMs =>
    if attempt.toNat + 1 < UInt32.size ∧ attempt + 1 ≤ maxEffectAttempts then
      .ok (.pending (attempt + 1) notBeforeMs)
    else .error (.effect "Effect attempt overflow")
  | none => .ok (.rejected attempt reasonCode)

/-- `active_owned_lease` and `active_owned_lease_mut`. -/
def activeOwnedLease (status : EffectStatus) (leaseId : EffectLeaseId) (actor : ActorIdentity)
    (appliedAtMs : UInt64) (action : String) : Except HarnessError EffectLease :=
  match status with
  | .claimed lease => do
    rejectIf (lease.id != leaseId || lease.owner != actor)
      (.effect s!"Effect {action} does not match the current owner and lease")
    rejectIf (decide (lease.expiresAtMs ≤ appliedAtMs))
      (.effect s!"Effect lease expired before {action}")
    .ok lease
  | _ => .error (.effect s!"Effect must be claimed to {action}")

def activeProjectedLease (status : EffectStatus) (leaseId : EffectLeaseId) (actor : ActorIdentity)
    (appliedAtMs : UInt64) (action : String) : Except HarnessError EffectLease :=
  (activeOwnedLease status leaseId actor appliedAtMs action).mapError fun _ =>
    .effect s!"Effect history has invalid {action} evidence"

def validateUnknown (status : EffectStatus) (leaseId : EffectLeaseId) (attempt : UInt32) :
    Except HarnessError Unit :=
  match status with
  | .unknown currentAttempt currentLease _ =>
    rejectIf (currentAttempt != attempt || currentLease != leaseId)
      (.effect "Effect reconciliation does not match the uncertain attempt and lease")
  | _ => .error (.effect "Effect must be unknown before reconciliation")

/-- The lease a transition claims. -/
def EffectTransition.claimedLease (t : EffectTransition) : Option EffectLeaseId :=
  match t.kind with
  | .claimed leaseId _ _ => some leaseId
  | _ => none

def validateNewLeaseId (transitions : List EffectTransition) (leaseId : EffectLeaseId) :
    Except HarnessError Unit := do
  validateIdentity "Effect lease" leaseId
  rejectIf (transitions.any fun t => t.claimedLease == some leaseId)
    (.effect s!"Effect lease {leaseId} is already committed")

end YHarness.Effects

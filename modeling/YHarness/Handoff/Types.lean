/-
# YHarness.Handoff.Types -- the records of a Human Handoff

The data types of `src/human_handoff/mod.rs`, the JSON that their derived
`Serialize` writes, and the checks of single values.  A Handoff is queued, claimed
by one actor until the claim expires, and at the end resolved or cancelled; every
change is one immutable transition.
-/
import YHarness.Lib.Ledger
import YHarness.Kernel.Sizes

namespace YHarness.Handoff

open YHarness.Lib YHarness.Kernel

set_option autoImplicit false

abbrev HumanHandoffClaimId := String
abbrev HumanHandoffCommandId := String

def maxHandoffWorkTransitions : Nat := 4096
def handoffSettlementTransitionReserve : Nat := 2
def maxHandoffTransitions : Nat := maxHandoffWorkTransitions + handoffSettlementTransitionReserve
def maxHandoffWorkJsonBytes : Nat := 16777216
def maxHandoffCommandJsonBytes : Nat := 131072
def maxHandoffTextBytes : Nat := 65536
def maxHandoffIdentityBytes : Nat := 256
def minHandoffLeaseMs : UInt64 := 1000
def maxHandoffLeaseMs : UInt64 := 604800000
def handoffSettlementJsonByteReserve : Nat := maxHandoffCommandJsonBytes * 2 + 16384
def maxHandoffJsonBytes : Nat := maxHandoffWorkJsonBytes + handoffSettlementJsonByteReserve

/-! ## Records -/

inductive HumanHandoffCapacityClass where
  | work | settlement
deriving DecidableEq

inductive HumanHandoffSubject where
  | thread (threadId : ThreadId)
  | workflowRun (runId : WorkflowRunId)
deriving DecidableEq

structure HumanHandoffCreateRequest where
  commandId : HumanHandoffCommandId
  subject : HumanHandoffSubject
  queue : String
  reasonCode : String
  priority : UInt8

structure HumanHandoffClaim where
  id : HumanHandoffClaimId
  owner : ActorIdentity
  claimedAtMs : UInt64
  expiresAtMs : UInt64
deriving DecidableEq

inductive HumanHandoffStatus where
  | queued
  | claimed (claim : HumanHandoffClaim)
  | resolved (outcomeCode summary : String)
  | cancelled (reasonCode : String)
deriving DecidableEq

def HumanHandoffStatus.isTerminal : HumanHandoffStatus → Bool
  | resolved .. | cancelled _ => true
  | queued | claimed _ => false

inductive HumanHandoffCommandKind where
  | claim (claimId : HumanHandoffClaimId) (leaseDurationMs : UInt64)
  | renewClaim (claimId : HumanHandoffClaimId) (leaseDurationMs : UInt64)
  | releaseClaim (claimId : HumanHandoffClaimId) (reasonCode : String)
  | expireClaim (claimId : HumanHandoffClaimId)
  | resolve (claimId : HumanHandoffClaimId) (outcomeCode summary : String)
  | cancel (reasonCode : String)

def HumanHandoffCommandKind.capacityClass : HumanHandoffCommandKind → HumanHandoffCapacityClass
  | releaseClaim .. | expireClaim _ | resolve .. | cancel _ => .settlement
  | claim .. | renewClaim .. => .work

structure HumanHandoffCommand where
  id : HumanHandoffCommandId
  kind : HumanHandoffCommandKind

inductive HumanHandoffApplyOutcome where
  | applied | duplicate
deriving DecidableEq

inductive HumanHandoffTransitionKind where
  | created (subject : HumanHandoffSubject) (queue reasonCode : String) (priority : UInt8)
  | claimed (claimId : HumanHandoffClaimId) (leaseDurationMs : UInt64)
  | claimRenewed (claimId : HumanHandoffClaimId) (leaseDurationMs previousExpiresAtMs : UInt64)
  | claimReleased (claimId : HumanHandoffClaimId) (reasonCode : String)
  | claimExpired (claimId : HumanHandoffClaimId)
  | resolved (claimId : HumanHandoffClaimId) (outcomeCode summary : String)
  | cancelled (reasonCode : String)
deriving DecidableEq

def HumanHandoffTransitionKind.capacityClass :
    HumanHandoffTransitionKind → HumanHandoffCapacityClass
  | claimReleased .. | claimExpired _ | resolved .. | cancelled _ => .settlement
  | created .. | claimed .. | claimRenewed .. => .work

structure HumanHandoffTransition where
  sequence : UInt64
  commandId : HumanHandoffCommandId
  commandSha256 : String
  appliedAtMs : UInt64
  actor : ActorIdentity
  kind : HumanHandoffTransitionKind
deriving DecidableEq

structure HumanHandoff where
  subject : HumanHandoffSubject
  queue : String
  reasonCode : String
  priority : UInt8
  requestedAtMs : UInt64
  status : HumanHandoffStatus
  transitions : List HumanHandoffTransition
  materializationChargeBytes : Nat
deriving DecidableEq

/-! ## Encodings -/

def jsonU8 (n : UInt8) : Json := .nat n.toNat

def HumanHandoffSubject.toJson : HumanHandoffSubject → Json
  | thread threadId => .obj [("kind", .str "thread"), ("thread_id", .str threadId)]
  | workflowRun runId => .obj [("kind", .str "workflow_run"), ("run_id", .str runId)]

def HumanHandoffCreateRequest.toJson (r : HumanHandoffCreateRequest) : Json :=
  .obj [("command_id", .str r.commandId), ("subject", r.subject.toJson), ("queue", .str r.queue),
    ("reason_code", .str r.reasonCode), ("priority", jsonU8 r.priority)]

def HumanHandoffClaim.toJson (c : HumanHandoffClaim) : Json :=
  .obj [("id", .str c.id), ("owner", c.owner.toJson), ("claimed_at_ms", jsonU64 c.claimedAtMs),
    ("expires_at_ms", jsonU64 c.expiresAtMs)]

def HumanHandoffStatus.toJson : HumanHandoffStatus → Json
  | queued => .obj [("status", .str "queued")]
  | claimed claim => .obj [("status", .str "claimed"), ("claim", claim.toJson)]
  | resolved outcomeCode summary =>
    .obj [("status", .str "resolved"), ("outcome_code", .str outcomeCode),
      ("summary", .str summary)]
  | cancelled reasonCode =>
    .obj [("status", .str "cancelled"), ("reason_code", .str reasonCode)]

def HumanHandoffCommandKind.toJson : HumanHandoffCommandKind → Json
  | claim claimId leaseDurationMs =>
    .obj [("action", .str "claim"), ("claim_id", .str claimId),
      ("lease_duration_ms", jsonU64 leaseDurationMs)]
  | renewClaim claimId leaseDurationMs =>
    .obj [("action", .str "renew_claim"), ("claim_id", .str claimId),
      ("lease_duration_ms", jsonU64 leaseDurationMs)]
  | releaseClaim claimId reasonCode =>
    .obj [("action", .str "release_claim"), ("claim_id", .str claimId),
      ("reason_code", .str reasonCode)]
  | expireClaim claimId => .obj [("action", .str "expire_claim"), ("claim_id", .str claimId)]
  | resolve claimId outcomeCode summary =>
    .obj [("action", .str "resolve"), ("claim_id", .str claimId),
      ("outcome_code", .str outcomeCode), ("summary", .str summary)]
  | cancel reasonCode => .obj [("action", .str "cancel"), ("reason_code", .str reasonCode)]

def HumanHandoffCommand.toJson (c : HumanHandoffCommand) : Json :=
  .obj [("id", .str c.id), ("kind", c.kind.toJson)]

def HumanHandoffTransitionKind.toJson : HumanHandoffTransitionKind → Json
  | created subject queue reasonCode priority =>
    .obj [("event", .str "created"), ("subject", subject.toJson), ("queue", .str queue),
      ("reason_code", .str reasonCode), ("priority", jsonU8 priority)]
  | claimed claimId leaseDurationMs =>
    .obj [("event", .str "claimed"), ("claim_id", .str claimId),
      ("lease_duration_ms", jsonU64 leaseDurationMs)]
  | claimRenewed claimId leaseDurationMs previousExpiresAtMs =>
    .obj [("event", .str "claim_renewed"), ("claim_id", .str claimId),
      ("lease_duration_ms", jsonU64 leaseDurationMs),
      ("previous_expires_at_ms", jsonU64 previousExpiresAtMs)]
  | claimReleased claimId reasonCode =>
    .obj [("event", .str "claim_released"), ("claim_id", .str claimId),
      ("reason_code", .str reasonCode)]
  | claimExpired claimId => .obj [("event", .str "claim_expired"), ("claim_id", .str claimId)]
  | resolved claimId outcomeCode summary =>
    .obj [("event", .str "resolved"), ("claim_id", .str claimId),
      ("outcome_code", .str outcomeCode), ("summary", .str summary)]
  | cancelled reasonCode => .obj [("event", .str "cancelled"), ("reason_code", .str reasonCode)]

def HumanHandoffTransition.toJson (t : HumanHandoffTransition) : Json :=
  .obj [("sequence", jsonU64 t.sequence), ("command_id", .str t.commandId),
    ("command_sha256", .str t.commandSha256), ("applied_at_ms", jsonU64 t.appliedAtMs),
    ("actor", t.actor.toJson), ("kind", t.kind.toJson)]

/-- The charge of a Handoff is not written. -/
def HumanHandoff.toJson (h : HumanHandoff) : Json :=
  .obj [("subject", h.subject.toJson), ("queue", .str h.queue), ("reason_code", .str h.reasonCode),
    ("priority", jsonU8 h.priority), ("requested_at_ms", jsonU64 h.requestedAtMs),
    ("status", h.status.toJson),
    ("transitions", .arr (h.transitions.map HumanHandoffTransition.toJson))]

/-! ## Checks of single values -/

def boundedError (kind : String) (maximum : Nat) : BoundedJsonError → HarnessError
  | .limitExceeded => .humanHandoff
      s!"Human Handoff {kind} exceeds its encoded-byte limit; limit is {maximum} bytes"
  | .cannotEncode =>
    .humanHandoff s!"Human Handoff {kind} cannot be encoded; limit is {maximum} bytes"

def validateIdentity (kind value : String) : Except HarnessError Unit :=
  rejectIf (isBlank value || decide (maxHandoffIdentityBytes < value.utf8ByteSize) ||
      hasControl value)
    (.humanHandoff s!"{kind} must be 1-{maxHandoffIdentityBytes} non-control bytes")

def validateText (kind value : String) : Except HarnessError Unit := do
  rejectIf (isBlank value || decide (maxHandoffTextBytes < value.utf8ByteSize))
    (.humanHandoff s!"{kind} must be 1-{maxHandoffTextBytes} bytes")
  rejectIf (hasControl value) (.humanHandoff s!"{kind} must not contain control characters")

def validateSubject : HumanHandoffSubject → Except HarnessError Unit
  | .thread threadId => validateIdentity "Human Handoff Thread" threadId
  | .workflowRun runId => validateIdentity "Human Handoff Workflow Run" runId

def validateActor (actor : ActorIdentity) : Except HarnessError Unit := do
  ((actor.validateShapeMessage "Human Handoff actor").mapError HarnessError.approval).mapError
    HarnessError.asHumanHandoff
  rejectIf (actor == .unattributedLegacy)
    (.humanHandoff "Human Handoff cannot use a legacy unattributed actor")

def validateDigest (value : String) : Except HarnessError Unit :=
  rejectIf (!isLowerSha256 value)
    (.humanHandoff "Human Handoff command digest must be lowercase SHA-256")

def validateApplicationTime (value : UInt64) : Except HarnessError Unit :=
  rejectIf (value == 0) (.humanHandoff "Human Handoff application time must be positive")

def validateLeaseDuration (durationMs : UInt64) : Except HarnessError Unit :=
  rejectIf (!(decide (minHandoffLeaseMs ≤ durationMs) && decide (durationMs ≤ maxHandoffLeaseMs)))
    (.humanHandoff (s!"Human Handoff lease must be {minHandoffLeaseMs.toNat}-" ++
      s!"{maxHandoffLeaseMs.toNat} milliseconds"))

def leaseExpiration (appliedAtMs durationMs : UInt64) : Except HarnessError UInt64 :=
  if appliedAtMs.toNat + durationMs.toNat < UInt64.size then .ok (appliedAtMs + durationMs)
  else .error (.humanHandoff "Human Handoff lease expiration overflow")

/-! ## Capacities -/

def validateTransitionCapacity (currentTransitions : Nat)
    (capacityClass : HumanHandoffCapacityClass) : Except HarnessError Unit := do
  rejectIf (decide (maxHandoffTransitions ≤ currentTransitions))
    (.humanHandoff s!"Human Handoff exceeds {maxHandoffTransitions} transitions")
  rejectIf (capacityClass == .work && decide (maxHandoffWorkTransitions ≤ currentTransitions))
    (.humanHandoff "Human Handoff has only its settlement transition reserve remaining")

def validateMaterializationCapacity (encodedBytes : Nat)
    (capacityClass : HumanHandoffCapacityClass) : Except HarnessError Unit := do
  rejectIf (decide (maxHandoffJsonBytes < encodedBytes))
    (.humanHandoff s!"Human Handoff exceeds {maxHandoffJsonBytes} encoded bytes")
  rejectIf (capacityClass == .work && decide (maxHandoffWorkJsonBytes < encodedBytes))
    (.humanHandoff "Human Handoff has only its settlement encoded-byte reserve remaining")

/-- The sequence the next transition must carry. -/
def checkedSequence (count : Nat) : Except HarnessError UInt64 :=
  numberAfter (.humanHandoff "Human Handoff sequence overflow") count

end YHarness.Handoff

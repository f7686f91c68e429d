/-
# YHarness.Effects.Governor -- admission control for Effect dispatch

The policies, lanes and admission records of `src/effect/governor.rs`, and the
functions that decide an admission and apply a settlement.  The source hands
both a mutable lane: they return the lane beside the result, because the
process-local governor keeps what was written before an error.
-/
import YHarness.Effects.Types
import YHarness.Lib.OrdMap

namespace YHarness.Effects

open YHarness.Lib YHarness.Kernel

set_option autoImplicit false

def maxPolicyIdBytes : Nat := 128
def maxPolicyJsonBytes : Nat := 4096
def maxLaneStateJsonBytes : Nat := 4096
def maxAdmissionJsonBytes : Nat := 8192
def maxAdmissions : Nat := 1000000
def maxLanes : Nat := 1000000
def maxRateLimit : Nat := 1000000
def maxWindowMs : Nat := 86400000
def maxFailureThreshold : Nat := 1000000
def maxOpenDurationMs : Nat := 604800000
def maxProbeLeaseMs : Nat := 86400000
def minAdmissionRetentionMs : Nat := 604800000
def maxAdmissionRetentionMs : Nat := 31536000000

def governorError (message : String) : HarnessError :=
  .effect ("Effect dispatch governor: " ++ message)

/-- `effect_error` of the governor. -/
def asGovernor (error : HarnessError) : HarnessError :=
  governorError error.display

/-! ## Records -/

structure EffectDispatchGovernorPolicy where
  policyId : String
  maxDispatchesPerWindow : UInt32
  windowMs : UInt64
  failureThreshold : UInt32
  openDurationMs : UInt64
  probeLeaseMs : UInt64
  admissionRetentionMs : UInt64
deriving DecidableEq

structure EffectDispatchAdmissionRequest where
  admissionId : EffectLeaseId
  operation : EffectOperation
  policy : EffectDispatchGovernorPolicy
  admittedAtMs : UInt64
deriving DecidableEq

inductive EffectDispatchAdmissionDecision where
  | allow
  | allowProbe
  | rateLimited (retryAtMs : UInt64)
  | circuitOpen (retryAtMs : UInt64)
deriving DecidableEq

inductive EffectDispatchSettlement where
  | healthy | availabilityFailure | abandoned
deriving DecidableEq

structure LaneState where
  policySha256 : String
  lastObservedAtMs : UInt64
  windowStartedAtMs : UInt64
  windowCount : UInt32
  consecutiveFailures : UInt32
  circuitEpoch : UInt64
  openUntilMs : Option UInt64
  probeAdmissionId : Option EffectLeaseId
  probeExpiresAtMs : Option UInt64
deriving DecidableEq

structure AdmissionRecord where
  operation : EffectOperation
  policy : EffectDispatchGovernorPolicy
  policySha256 : String
  admittedAtMs : UInt64
  expiresAtMs : UInt64
  circuitEpoch : UInt64
  decision : EffectDispatchAdmissionDecision
  settlement : Option EffectDispatchSettlement

structure LaneKey where
  tenantId : String
  capability : String
  operation : String
  policyId : String
deriving DecidableEq

/-- The key of an admission. -/
structure AdmissionKey where
  tenantId : String
  admissionId : EffectLeaseId
deriving DecidableEq

section Order

attribute [local instance] lexOrd

/-- The fields of a key, the most significant first. -/
abbrev LaneKey.fields (key : LaneKey) : String × String × String × String :=
  (key.tenantId, key.capability, key.operation, key.policyId)

instance : Ord LaneKey where
  compare := compareOn LaneKey.fields

instance : Std.TransOrd LaneKey :=
  inferInstanceAs (Std.TransCmp (compareOn LaneKey.fields))

instance : Std.LawfulEqOrd LaneKey where
  eq_of_compare {left right} same := by
    have fields : left.fields = right.fields :=
      Std.compare_eq_iff_eq.1 (show compare left.fields right.fields = .eq from same)
    cases left
    cases right
    simp_all [LaneKey.fields]

abbrev AdmissionKey.fields (key : AdmissionKey) : String × String :=
  (key.tenantId, key.admissionId)

instance : Ord AdmissionKey where
  compare := compareOn AdmissionKey.fields

instance : Std.TransOrd AdmissionKey :=
  inferInstanceAs (Std.TransCmp (compareOn AdmissionKey.fields))

instance : Std.LawfulEqOrd AdmissionKey where
  eq_of_compare {left right} same := by
    have fields : left.fields = right.fields :=
      Std.compare_eq_iff_eq.1 (show compare left.fields right.fields = .eq from same)
    cases left
    cases right
    simp_all [AdmissionKey.fields]

end Order

/-! ## Encodings -/

def EffectDispatchGovernorPolicy.toJson (p : EffectDispatchGovernorPolicy) : Json :=
  .obj [("policy_id", .str p.policyId),
    ("max_dispatches_per_window", jsonU32 p.maxDispatchesPerWindow),
    ("window_ms", jsonU64 p.windowMs), ("failure_threshold", jsonU32 p.failureThreshold),
    ("open_duration_ms", jsonU64 p.openDurationMs), ("probe_lease_ms", jsonU64 p.probeLeaseMs),
    ("admission_retention_ms", jsonU64 p.admissionRetentionMs)]

def EffectDispatchAdmissionDecision.toJson : EffectDispatchAdmissionDecision → Json
  | allow => .obj [("decision", .str "allow")]
  | allowProbe => .obj [("decision", .str "allow_probe")]
  | rateLimited retryAtMs =>
    .obj [("decision", .str "rate_limited"), ("retry_at_ms", jsonU64 retryAtMs)]
  | circuitOpen retryAtMs =>
    .obj [("decision", .str "circuit_open"), ("retry_at_ms", jsonU64 retryAtMs)]

/-- The serialized name of a settlement, `settlement_name` of the SQLite column. -/
def EffectDispatchSettlement.name : EffectDispatchSettlement → String
  | healthy => "healthy"
  | availabilityFailure => "availability_failure"
  | abandoned => "abandoned"

def LaneState.toJson (l : LaneState) : Json :=
  .obj [("policy_sha256", .str l.policySha256),
    ("last_observed_at_ms", jsonU64 l.lastObservedAtMs),
    ("window_started_at_ms", jsonU64 l.windowStartedAtMs),
    ("window_count", jsonU32 l.windowCount),
    ("consecutive_failures", jsonU32 l.consecutiveFailures),
    ("circuit_epoch", jsonU64 l.circuitEpoch), ("open_until_ms", nullable jsonU64 l.openUntilMs),
    ("probe_admission_id", nullable .str l.probeAdmissionId),
    ("probe_expires_at_ms", nullable jsonU64 l.probeExpiresAtMs)]

def AdmissionRecord.toJson (r : AdmissionRecord) : Json :=
  .obj [("operation", r.operation.toJson), ("policy", r.policy.toJson),
    ("policy_sha256", .str r.policySha256), ("admitted_at_ms", jsonU64 r.admittedAtMs),
    ("expires_at_ms", jsonU64 r.expiresAtMs), ("circuit_epoch", jsonU64 r.circuitEpoch),
    ("decision", r.decision.toJson),
    ("settlement", nullable (fun s => .str (EffectDispatchSettlement.name s)) r.settlement)]

/-- A policy is what its encoding says. -/
theorem EffectDispatchGovernorPolicy.toJson_injective :
    Function.Injective EffectDispatchGovernorPolicy.toJson := by
  intro p q same
  simp only [toJson, jsonU32, jsonU64, Json.obj.injEq, List.cons.injEq, Prod.mk.injEq,
    Json.str.injEq, Json.nat.injEq, true_and, and_true, UInt32.toNat_inj, UInt64.toNat_inj] at same
  obtain ⟨policyId, dispatches, window, threshold, openDuration, probe, retention⟩ := same
  cases p
  cases q
  simp_all

/-! ## Checks -/

/-- `a.checked_add(b).ok_or_else(|| governor_error(message))`. -/
def checkedAdd (a b : UInt64) (message : String) : Except HarnessError UInt64 :=
  if a.toNat + b.toNat < UInt64.size then .ok (a + b) else .error (governorError message)

/-- One of the range checks of a policy. -/
def validateRange (field : String) (low high value : Nat) : Except HarnessError Unit :=
  rejectIf (decide (value < low) || decide (high < value))
    (governorError s!"{field} must be {low}-{high}")

def validateOperationNames (operation : EffectOperation) : Except HarnessError Unit := do
  (validateCapabilityName "Effect dispatch-governor capability" operation.capability).mapError
    asGovernor
  (validateCapabilityName "Effect dispatch-governor operation" operation.operation).mapError
    asGovernor

def validatePolicyDigest (value : String) : Except HarnessError Unit :=
  rejectIf (!isLowerSha256 value) (governorError "policy digest is not lowercase SHA-256")

def validateLaneState (lane : LaneState) : Except HarnessError Unit := do
  validatePolicyDigest lane.policySha256
  rejectIf (lane.lastObservedAtMs == 0 || lane.circuitEpoch == 0 ||
      decide (maxFailureThreshold < lane.consecutiveFailures.toNat))
    (governorError "lane counters are invalid")
  rejectIf (lane.probeAdmissionId.isSome != lane.probeExpiresAtMs.isSome)
    (governorError "lane probe evidence is partial")
  rejectIf (lane.openUntilMs == some 0 || lane.probeExpiresAtMs == some 0)
    (governorError "lane deadline is invalid")

section Digests

variable [Sha256]

def policyDigest (policy : EffectDispatchGovernorPolicy) : Except HarnessError String := do
  rejectIf (decide (maxPolicyJsonBytes < policy.toJson.encodedLen))
    (governorError "dispatch-governor policy is too large")
  .ok (Sha256.digest (.json policy.toJson))

def EffectDispatchGovernorPolicy.validate (policy : EffectDispatchGovernorPolicy) :
    Except HarnessError Unit := do
  (validateCapabilityName "Effect dispatch-governor policy" policy.policyId).mapError asGovernor
  rejectIf (decide (maxPolicyIdBytes < policy.policyId.utf8ByteSize))
    (governorError s!"policy_id exceeds {maxPolicyIdBytes} bytes")
  validateRange "max_dispatches_per_window" 1 maxRateLimit policy.maxDispatchesPerWindow.toNat
  validateRange "window_ms" 1 maxWindowMs policy.windowMs.toNat
  validateRange "failure_threshold" 1 maxFailureThreshold policy.failureThreshold.toNat
  validateRange "open_duration_ms" 1 maxOpenDurationMs policy.openDurationMs.toNat
  validateRange "probe_lease_ms" 1 maxProbeLeaseMs policy.probeLeaseMs.toNat
  validateRange "admission_retention_ms" minAdmissionRetentionMs maxAdmissionRetentionMs
    policy.admissionRetentionMs.toNat
  rejectIf (decide (policy.admissionRetentionMs <
      max (max policy.windowMs policy.openDurationMs) policy.probeLeaseMs))
    (governorError "admission_retention_ms must cover every governor duration")
  let _ ← policyDigest policy

def validateAdmissionRecord (record : AdmissionRecord) : Except HarnessError Unit := do
  validateOperationNames record.operation
  record.policy.validate
  validatePolicyDigest record.policySha256
  let digest ← policyDigest record.policy
  rejectIf (digest != record.policySha256) (governorError "admission policy digest is invalid")
  validateApplicationTime record.admittedAtMs
  rejectIf (decide (record.expiresAtMs ≤ record.admittedAtMs) || record.circuitEpoch == 0)
    (governorError "admission timing or epoch is invalid")
  match record.decision with
  | .rateLimited retryAtMs | .circuitOpen retryAtMs =>
    rejectIf (decide (retryAtMs < record.admittedAtMs))
      (governorError "admission retry time precedes admission")
  | _ => .ok ()

end Digests

/-! ## Requests -/

def tenantKey (authority : AuthorityContext) : String :=
  authority.tenantId.getD ""

def laneKey (operation : EffectOperation) (policy : EffectDispatchGovernorPolicy)
    (tenantId : String) : LaneKey :=
  ⟨tenantId, operation.capability, operation.operation, policy.policyId⟩

structure ValidatedAdmission where
  admissionId : EffectLeaseId
  operation : EffectOperation
  policy : EffectDispatchGovernorPolicy
  policySha256 : String
  admittedAtMs : UInt64
  lane : LaneKey

/-- The key that an admission is stored under. -/
def ValidatedAdmission.key (request : ValidatedAdmission) : AdmissionKey :=
  ⟨request.lane.tenantId, request.admissionId⟩

/-- `ValidatedAdmission::new`. -/
def ValidatedAdmission.new [Sha256] (request : EffectDispatchAdmissionRequest)
    (authority : AuthorityContext) : Except HarnessError ValidatedAdmission := do
  (authority.validateCurrent "Effect dispatch-governor authority").mapError asGovernor
  validateIdentity "Effect dispatch admission" request.admissionId
  validateOperationNames request.operation
  request.policy.validate
  validateApplicationTime request.admittedAtMs
  let policySha256 ← policyDigest request.policy
  .ok ⟨request.admissionId, request.operation, request.policy, policySha256,
    request.admittedAtMs, laneKey request.operation request.policy (tenantKey authority)⟩

def validateSettlement (admissionId : EffectLeaseId) (settledAtMs : UInt64)
    (authority : AuthorityContext) : Except HarnessError Unit := do
  (authority.validateCurrent "Effect dispatch-governor authority").mapError asGovernor
  validateIdentity "Effect dispatch admission" admissionId
  validateApplicationTime settledAtMs

/-- Whether a decision lets the dispatch go on. -/
def EffectDispatchAdmissionDecision.granted : EffectDispatchAdmissionDecision → Bool
  | allow | allowProbe => true
  | rateLimited _ | circuitOpen _ => false

def validateSettlementRecord (record : AdmissionRecord) (settlement : EffectDispatchSettlement)
    (settledAtMs : UInt64) : Except HarnessError Unit := do
  rejectIf (!record.decision.granted) (governorError "denied admission cannot be settled")
  rejectIf (decide (settledAtMs < record.admittedAtMs))
    (governorError "settlement time precedes admission")
  rejectIf (record.settlement.any fun existing => existing != settlement)
    (governorError "admission is already settled with different evidence")

def validateDuplicate (existing : AdmissionRecord) (request : ValidatedAdmission) :
    Except HarnessError Unit :=
  rejectIf (existing.operation != request.operation ||
      existing.policy.policyId != request.policy.policyId ||
      existing.policySha256 != request.policySha256)
    (governorError "admission identity is already bound to different content")

def validateLanePolicy (lane : LaneState) (digest : String) : Except HarnessError Unit :=
  rejectIf (lane.policySha256 != digest)
    (governorError "policy_id is already bound to different parameters")

def admissionRecord (request : ValidatedAdmission) (circuitEpoch : UInt64)
    (decision : EffectDispatchAdmissionDecision) : Except HarnessError AdmissionRecord := do
  let expiresAtMs ← checkedAdd request.admittedAtMs request.policy.admissionRetentionMs
    "admission retention time overflow"
  .ok ⟨request.operation, request.policy, request.policySha256, request.admittedAtMs,
    expiresAtMs, circuitEpoch, decision, none⟩

/-! ## Lanes -/

def fixedWindowStart (nowMs windowMs : UInt64) : UInt64 :=
  nowMs - nowMs % windowMs

def initialLane (request : ValidatedAdmission) : LaneState where
  policySha256 := request.policySha256
  lastObservedAtMs := request.admittedAtMs
  windowStartedAtMs := fixedWindowStart request.admittedAtMs request.policy.windowMs
  windowCount := 0
  consecutiveFailures := 0
  circuitEpoch := 1
  openUntilMs := none
  probeAdmissionId := none
  probeExpiresAtMs := none

namespace LaneState

/-- The lane once a time is observed: a probe lease that is over is dropped. -/
def observe (lane : LaneState) (now : UInt64) : LaneState :=
  if lane.probeExpiresAtMs.any fun deadline => decide (deadline ≤ now) then
    { lane with lastObservedAtMs := now, probeAdmissionId := none, probeExpiresAtMs := none }
  else { lane with lastObservedAtMs := now }

/-- The lane in the window that starts at the given time. -/
def enterWindow (lane : LaneState) (windowStarted : UInt64) : LaneState :=
  if lane.windowStartedAtMs = windowStarted then lane
  else { lane with windowStartedAtMs := windowStarted, windowCount := 0 }

/-- `decide` while the circuit is open. -/
def decideOpen (lane : LaneState) (openUntil : UInt64) (request : ValidatedAdmission) :
    Except HarnessError (EffectDispatchAdmissionDecision × UInt64) × LaneState :=
  if request.admittedAtMs < openUntil then
    (.ok (.circuitOpen openUntil, lane.circuitEpoch), lane)
  else
    match lane.probeExpiresAtMs with
    | some probeUntil => (.ok (.circuitOpen probeUntil, lane.circuitEpoch), lane)
    | none =>
      match checkedAdd request.admittedAtMs request.policy.probeLeaseMs
          "probe lease time overflow" with
      | .error error => (.error error, lane)
      | .ok probeUntil =>
        (.ok (.allowProbe, lane.circuitEpoch),
          { lane with
            probeAdmissionId := some request.admissionId
            probeExpiresAtMs := some probeUntil })

/-- `decide` while the circuit is closed, in the window of the request. -/
def decideClosed (lane : LaneState) (request : ValidatedAdmission) :
    Except HarnessError (EffectDispatchAdmissionDecision × UInt64) × LaneState :=
  if request.policy.maxDispatchesPerWindow ≤ lane.windowCount then
    ((checkedAdd lane.windowStartedAtMs request.policy.windowMs
        "rate-limit retry time overflow").map fun retryAtMs =>
      (.rateLimited retryAtMs, lane.circuitEpoch), lane)
  else if lane.windowCount.toNat + 1 < UInt32.size then
    (.ok (.allow, lane.circuitEpoch), { lane with windowCount := lane.windowCount + 1 })
  else (.error (governorError "rate-limit counter overflow"), lane)

/-- The decision of an admission under the epoch of the lane, and the lane after
it. -/
def decide (lane : LaneState) (request : ValidatedAdmission) :
    Except HarnessError (EffectDispatchAdmissionDecision × UInt64) × LaneState :=
  if request.admittedAtMs < lane.lastObservedAtMs then
    (.error (governorError "trusted admission clock moved backwards"), lane)
  else
    let lane := lane.observe request.admittedAtMs
    match lane.openUntilMs with
    | some openUntil => lane.decideOpen openUntil request
    | none =>
      (lane.enterWindow (fixedWindowStart request.admittedAtMs
        request.policy.windowMs)).decideClosed request

/-- Open the circuit under a new epoch. -/
def openCircuit (lane : LaneState) (effectiveAtMs : UInt64) (policy : EffectDispatchGovernorPolicy) :
    Except HarnessError Unit × LaneState :=
  if lane.circuitEpoch.toNat + 1 < UInt64.size then
    let lane := { lane with circuitEpoch := lane.circuitEpoch + 1 }
    match checkedAdd effectiveAtMs policy.openDurationMs "circuit retry time overflow" with
    | .error error => (.error error, lane)
    | .ok openUntil =>
      (.ok (), { lane with
        openUntilMs := some openUntil
        probeAdmissionId := none
        probeExpiresAtMs := none })
  else (.error (governorError "circuit epoch overflow"), lane)

/-- The settlement of the probe that holds the slot of the lane. -/
def settleProbe (lane : LaneState) (record : AdmissionRecord)
    (settlement : EffectDispatchSettlement) : Except HarnessError Unit × LaneState :=
  match settlement with
  | .healthy =>
    (.ok (), { lane with
      openUntilMs := none
      probeAdmissionId := none
      probeExpiresAtMs := none
      consecutiveFailures := 0 })
  | .availabilityFailure =>
    match lane.openCircuit lane.lastObservedAtMs record.policy with
    | (.error error, lane) => (.error error, lane)
    | (.ok (), lane) =>
      (.ok (), { lane with consecutiveFailures := record.policy.failureThreshold })
  | .abandoned => (.ok (), { lane with probeAdmissionId := none, probeExpiresAtMs := none })

/-- The settlement of a normal admission of the current epoch. -/
def settleAllowed (lane : LaneState) (record : AdmissionRecord)
    (settlement : EffectDispatchSettlement) : Except HarnessError Unit × LaneState :=
  match settlement with
  | .healthy => (.ok (), { lane with consecutiveFailures := 0 })
  | .availabilityFailure =>
    if lane.consecutiveFailures.toNat + 1 < UInt32.size then
      let lane := { lane with consecutiveFailures := lane.consecutiveFailures + 1 }
      if record.policy.failureThreshold ≤ lane.consecutiveFailures then
        lane.openCircuit lane.lastObservedAtMs record.policy
      else (.ok (), lane)
    else (.error (governorError "failure counter overflow"), lane)
  | .abandoned => (.ok (), lane)

/-- Whether a settlement says nothing about the lane any more: its admission
belongs to an older epoch, or is a probe that lost the slot. -/
def ignores (lane : LaneState) (admissionId : EffectLeaseId) (record : AdmissionRecord) : Bool :=
  record.circuitEpoch != lane.circuitEpoch ||
    (record.decision == .allowProbe && lane.probeAdmissionId != some admissionId)

/-- `apply_settlement`. -/
def applySettlement (lane : LaneState) (admissionId : EffectLeaseId) (record : AdmissionRecord)
    (settlement : EffectDispatchSettlement) (settledAtMs : UInt64) :
    Except HarnessError Unit × LaneState :=
  if lane.ignores admissionId record then (.ok (), lane)
  else
    let lane := { lane with lastObservedAtMs := max settledAtMs lane.lastObservedAtMs }
    if record.decision = .allowProbe then lane.settleProbe record settlement
    else lane.settleAllowed record settlement

end LaneState

end YHarness.Effects

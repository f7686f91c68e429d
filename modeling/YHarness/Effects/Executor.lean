/-
# YHarness.Effects.Executor -- execution of pending Effects

`EffectExecutor` of `src/effect/executor.rs`.  What one worker does with an eligible Effect is a
task over its calls: the clock, the Policy, the engine, the dispatch governor and the Connector
are outside it.  A timeout, an error and a panic of one of them are one reply where the source
treats them alike.  A reading of the clock says what it is for.
-/
import YHarness.Effects.Coordinator
import YHarness.Effects.Governor
import YHarness.Lib.Rely

namespace YHarness.Effects

open YHarness.Lib YHarness.Kernel

set_option autoImplicit false

def maxExecutorScanLimit : Nat := 256
def maxExecutorConcurrency : Nat := 64
def minPolicyTimeoutMs : UInt64 := 1
def maxPolicyTimeoutMs : UInt64 := 60000
def minExecutionTimeoutMs : UInt64 := 1
def maxExecutionTimeoutMs : UInt64 := 604800000
def minLeaseDurationMs : UInt64 := 1000
def maxLeaseDurationMs : UInt64 := 604800000
def maxRetryAfterMs : UInt64 := 604800000

/-! ## Configuration -/

structure EffectExecutorConfig where
  scanLimit : Nat
  maxConcurrency : Nat
  policyTimeoutMs : UInt64
  governorTimeoutMs : UInt64
  governorRetryAfterMs : UInt64
  executionTimeoutMs : UInt64
  settlementReserveMs : UInt64
  leaseDurationMs : UInt64

def EffectExecutorConfig.default : EffectExecutorConfig :=
  ⟨64, 8, 5000, 5000, 5000, 240000, 30000, 300000⟩

/-- One of the range checks. -/
def validateConfigRange {α : Type} [LE α] [DecidableLE α] [ToString α] (field : String)
    (low high value : α) : Except HarnessError Unit :=
  rejectIf (!(decide (low ≤ value) && decide (value ≤ high)))
    (.effect s!"Effect Executor {field} must be {low}-{high}")

def EffectExecutorConfig.validate (c : EffectExecutorConfig) : Except HarnessError Unit := do
  validateConfigRange "scan_limit" 1 maxExecutorScanLimit c.scanLimit
  validateConfigRange "max_concurrency" 1 maxExecutorConcurrency c.maxConcurrency
  validateConfigRange "policy_timeout_ms" minPolicyTimeoutMs maxPolicyTimeoutMs c.policyTimeoutMs
  validateConfigRange "governor_timeout_ms" minPolicyTimeoutMs maxPolicyTimeoutMs
    c.governorTimeoutMs
  validateConfigRange "governor_retry_after_ms" 0 maxRetryAfterMs c.governorRetryAfterMs
  validateConfigRange "execution_timeout_ms" minExecutionTimeoutMs maxExecutionTimeoutMs
    c.executionTimeoutMs
  validateConfigRange "lease_duration_ms" minLeaseDurationMs maxLeaseDurationMs c.leaseDurationMs
  rejectIf (decide (UInt64.size ≤ c.executionTimeoutMs.toNat + c.settlementReserveMs.toNat))
    (.effect "Effect Executor lease budget overflow")
  rejectIf (decide (c.leaseDurationMs ≤ c.executionTimeoutMs + c.settlementReserveMs))
    (.effect "Effect Executor lease must outlive execution timeout plus settlement reserve")

/-! ## Requests and outcomes -/

inductive EffectIdempotencyContract where
  | targetEnforced | connectorEnforced

structure RegisteredEffectConnector where
  origin : CapabilityOrigin
  operations : List String
  idempotency : EffectIdempotencyContract

structure EffectExecutionPolicyRequest where
  effectId : EffectId
  authority : AuthorityContext
  operation : EffectOperation
  input : Json
  inputSha256 : String
  connectorOrigin : CapabilityOrigin
  idempotency : EffectIdempotencyContract

inductive EffectExecutionDecision where
  | allow
  | deny (reasonCode : String)

structure EffectExecutionRequest where
  effectId : EffectId
  authority : AuthorityContext
  operation : EffectOperation
  idempotencyKey : String
  input : Json
  inputSha256 : String
  attempt : UInt32
  leaseId : EffectLeaseId
  leaseExpiresAtMs : UInt64

inductive EffectExecutionOutcome where
  | applied (receipt : EffectReceipt)
  | notApplied (reasonCode : String) (retryAfterMs : Option UInt64)
  | unknown (reasonCode : String)
deriving DecidableEq

inductive EffectExecutorAttemptOutcome where
  | connectorUnavailable
  | policyDenied (reasonCode : String)
  | policyUnavailable
  | cancelledBeforeClaim
  | claimFenced (actualRevision : UInt64)
  | claimFailed
  | claimAlreadyCommitted
  | clockUnavailableAfterClaim
  | governorUnavailable (retryAtMs : UInt64)
  | rateLimited (retryAtMs : UInt64)
  | circuitOpen (retryAtMs : UInt64)
  | applied
  | rejected (reasonCode : String)
  | retryScheduled (reasonCode : String) (retryAtMs : UInt64)
  | unknown (reasonCode : String)
  | settlementFenced (actualRevision : UInt64)
  | settlementFailed
  | attemptFailed

structure EffectExecutorAttempt where
  effectId : EffectId
  observedRevision : UInt64
  attempt : UInt32
  leaseId : Option EffectLeaseId
  governorSettlementFailed : Bool
  outcome : EffectExecutorAttemptOutcome

structure EffectExecutor where
  connectors : OrdMap String RegisteredEffectConnector
  governor : Option EffectDispatchGovernorPolicy
  config : EffectExecutorConfig

/-- `EffectConnectorRegistry::resolve`. -/
def EffectExecutor.resolve (e : EffectExecutor) (operation : EffectOperation) :
    Option RegisteredEffectConnector :=
  e.connectors[operation.capability]?.filter fun registered =>
    registered.operations.contains operation.operation

structure PreparedEffect where
  snapshot : EffectSnapshot
  attempt : UInt32
  leaseId : EffectLeaseId
  claimCommandId : EffectCommandId

/-- An attempt without a lease. -/
def PreparedEffect.report (p : PreparedEffect) (outcome : EffectExecutorAttemptOutcome) :
    EffectExecutorAttempt :=
  ⟨p.snapshot.id, p.snapshot.revision, p.attempt, none, false, outcome⟩

/-- An attempt that tried to claim the Effect. -/
def PreparedEffect.leased (p : PreparedEffect) (outcome : EffectExecutorAttemptOutcome) :
    EffectExecutorAttempt :=
  { p.report outcome with leaseId := some p.leaseId }

/-! ## Calls -/

/-- What a reading of the clock is for; the last one settles a denial of the governor. -/
inductive ClockReading where
  | claiming | admitting | settling
  | denied (retryAtMs : UInt64)

/-- What comes of a Policy. -/
inductive PolicyEvent (Decision : Type) where
  | cancelled
  | decided (decision : Decision)
  | unavailable

/-- What comes of a Connector that is asked. -/
inductive ConnectorEvent where
  | panicked
  | cancelled
  | returned (outcome : EffectExecutionOutcome)
  | failed
  | elapsed

inductive ExecutorCall where
  | isCancelled
  | authorize (request : EffectExecutionPolicyRequest)
  | nowMs (reading : ClockReading)
  | applyAs (effectId : EffectId) (expectedRevision : UInt64) (command : EffectCommand)
      (appliedAtMs : UInt64) (authority : AuthorityContext)
  | admitAs (request : EffectDispatchAdmissionRequest) (authority : AuthorityContext)
  | execute (request : EffectExecutionRequest)
  | settleAs (admissionId : EffectLeaseId) (settlement : EffectDispatchSettlement)
      (settledAtMs : UInt64) (authority : AuthorityContext)

/-- A clock, a governor or a settlement that fails has no answer. -/
abbrev ExecutorReply : ExecutorCall → Type
  | .isCancelled => Bool
  | .authorize _ => PolicyEvent EffectExecutionDecision
  | .nowMs _ => Option UInt64
  | .applyAs .. => Except HarnessError EffectCommandResult
  | .admitAs .. => Option EffectDispatchAdmissionDecision
  | .execute _ => ConnectorEvent
  | .settleAs .. => Bool

/-- A worker ends with an attempt. -/
abbrev ExecutorTask (α : Type) : Type := Task ExecutorCall ExecutorReply α

/-- What comes before the claim may end with an attempt. -/
abbrev ExecutorM (α : Type) : Type := TryTask ExecutorCall ExecutorReply EffectExecutorAttempt α

def ExecutorTask.ask (call : ExecutorCall) : ExecutorTask (ExecutorReply call) :=
  Task.request call

def ExecutorM.ask (call : ExecutorCall) : ExecutorM (ExecutorReply call) :=
  TryTask.call call

def ExecutorM.check {α : Type} (outcome : Except EffectExecutorAttempt α) : ExecutorM α :=
  TryTask.check outcome

/-! ## Identities -/

section Execution

variable [Sha256]

/-- `ExecutionIdentity` under `execution_digest`. -/
def executionDigest (purpose cycleId : String) (authority : AuthorityContext) (effectId : EffectId)
    (revision : UInt64) (attempt : UInt32) (leaseId : Option EffectLeaseId) : String :=
  Sha256.digest (.json (.obj [("purpose", .str purpose), ("cycle_id", .str cycleId),
    ("actor", authority.actor.toJson), ("tenant_id", nullable .str authority.tenantId),
    ("effect_id", .str effectId), ("revision", jsonU64 revision), ("attempt", jsonU32 attempt),
    ("lease_id", nullable .str leaseId)]))

/-- `execution_identities`: the Effect of a snapshot, prepared for an attempt. -/
def PreparedEffect.of (cycleId : String) (snapshot : EffectSnapshot) (attempt : UInt32)
    (authority : AuthorityContext) : PreparedEffect :=
  let digest := executionDigest "claim" cycleId authority snapshot.id snapshot.revision attempt none
  ⟨snapshot, attempt, "executor-lease-" ++ digest, "executor-claim-" ++ digest⟩

def settlementCommandId (cycleId : String) (effectId : EffectId) (revision : UInt64)
    (leaseId : EffectLeaseId) (purpose : String) (authority : AuthorityContext) :
    EffectCommandId :=
  "executor-settle-" ++
    executionDigest purpose cycleId authority effectId revision 0 (some leaseId)

/-! ## Outcomes -/

def invalidOutcome : String := "connector.invalid_outcome"

def validGovernorDecision (decision : EffectDispatchAdmissionDecision) (admittedAtMs : UInt64) :
    Bool :=
  match decision with
  | .allow | .allowProbe => true
  | .rateLimited retryAtMs | .circuitOpen retryAtMs =>
    decide (admittedAtMs ≤ retryAtMs) && (validateApplicationTime retryAtMs).isOk

def EffectExecutionOutcome.isValid (settledAtMs : UInt64) : EffectExecutionOutcome → Bool
  | .applied receipt => (validateReceipt receipt settledAtMs).isOk
  | .notApplied reasonCode retryAfterMs =>
    (validateCapabilityName "Effect Connector not-applied reason" reasonCode).isOk &&
      retryAfterMs.all fun delay => decide (delay ≤ maxRetryAfterMs)
  | .unknown reasonCode =>
    (validateCapabilityName "Effect Connector uncertainty reason" reasonCode).isOk

def normalizeConnectorOutcome (outcome : EffectExecutionOutcome) (settledAtMs : UInt64) :
    EffectExecutionOutcome :=
  if outcome.isValid settledAtMs then outcome else .unknown invalidOutcome

def reportSettlement : EffectExecutionOutcome → EffectStatus → EffectExecutorAttemptOutcome
  | .applied _, .applied _ _ => .applied
  | .notApplied reasonCode none, .rejected _ durableReason =>
    if reasonCode = durableReason then .rejected reasonCode else .settlementFailed
  | .notApplied reasonCode (some _), .pending _ notBeforeMs =>
    .retryScheduled reasonCode notBeforeMs
  | .unknown reasonCode, .unknown _ _ durableReason =>
    if reasonCode = durableReason then .unknown reasonCode else .settlementFailed
  | _, _ => .settlementFailed

/-! ## Settlement -/

structure EffectSettlementContext where
  cycleId : String
  prepared : PreparedEffect
  claimed : EffectSnapshot
  lease : EffectLease
  authority : AuthorityContext

namespace EffectSettlementContext

variable (context : EffectSettlementContext)

open ExecutorTask (ask)

/-- Apply the command of a settlement and report what it came to. -/
def settleCommand (purpose : String) (kind : EffectCommandKind) (outcome : EffectExecutionOutcome)
    (settledAtMs : UInt64) : ExecutorTask EffectExecutorAttempt := do
  let commandId := settlementCommandId context.cycleId context.prepared.snapshot.id
    context.claimed.revision context.lease.id purpose context.authority
  match ← ask (.applyAs context.prepared.snapshot.id context.claimed.revision ⟨commandId, kind⟩
    settledAtMs context.authority) with
  | .ok result =>
    pure (context.prepared.leased (reportSettlement outcome result.snapshot.effect.status))
  | .error (.effectConflict _ _ actual) => pure (context.prepared.leased (.settlementFenced actual))
  | .error _ => pure (context.prepared.leased .settlementFailed)

def settleInvalidOutcome (settledAtMs : UInt64) : ExecutorTask EffectExecutorAttempt :=
  context.settleCommand "invalid-outcome" (.recordUnknown context.lease.id invalidOutcome)
    (.unknown invalidOutcome) settledAtMs

/-- `u64::checked_add`. -/
def checkedSum (a b : UInt64) : Option UInt64 :=
  if a.toNat + b.toNat < UInt64.size then some (a + b) else none

/-- The time of a retry; there is none where the outer option is `none`. -/
def retryTime (absoluteRetryAtMs retryAfterMs : Option UInt64) (settledAtMs : UInt64) :
    Option (Option UInt64) :=
  match absoluteRetryAtMs, retryAfterMs with
  | some retryAtMs, _ => some (some (max retryAtMs settledAtMs))
  | none, some delay => (checkedSum settledAtMs delay).map some
  | none, none => some none

def settleAt (outcome : EffectExecutionOutcome) (absoluteRetryAtMs : Option UInt64)
    (settledAtMs : UInt64) : ExecutorTask EffectExecutorAttempt :=
  match outcome with
  | .applied receipt =>
    context.settleCommand "applied" (.recordApplied context.lease.id receipt) outcome settledAtMs
  | .notApplied reasonCode retryAfterMs =>
    match retryTime absoluteRetryAtMs retryAfterMs settledAtMs with
    | some retryAtMs => context.settleCommand "not-applied"
        (.recordNotApplied context.lease.id reasonCode retryAtMs) outcome settledAtMs
    | none => context.settleInvalidOutcome settledAtMs
  | .unknown reasonCode =>
    context.settleCommand "unknown" (.recordUnknown context.lease.id reasonCode) outcome
      settledAtMs

def settle (outcome : EffectExecutionOutcome) : ExecutorTask EffectExecutorAttempt := do
  match ← ask (.nowMs .settling) with
  | none => pure (context.prepared.leased .clockUnavailableAfterClaim)
  | some settledAtMs =>
    context.settleAt (normalizeConnectorOutcome outcome settledAtMs) none settledAtMs

/-- A denial that is scheduled again is reported as the denial. -/
def relabel (denial : EffectExecutorAttemptOutcome) (attempt : EffectExecutorAttempt) :
    EffectExecutorAttempt :=
  match attempt.outcome with
  | .retryScheduled _ _ => { attempt with outcome := denial }
  | _ => attempt

def settleGovernorDenial (reasonCode : String) (retryAtMs : UInt64)
    (denial : EffectExecutorAttemptOutcome) : ExecutorTask EffectExecutorAttempt := do
  match ← ask (.nowMs (.denied retryAtMs)) with
  | none => pure (context.prepared.leased .clockUnavailableAfterClaim)
  | some settledAtMs => do
    let attempt ← context.settleAt (.notApplied reasonCode (some 0)) (some retryAtMs) settledAtMs
    pure (relabel denial attempt)

end EffectSettlementContext

/-! ## One worker -/

namespace EffectExecutor

variable (e : EffectExecutor) (cycleId : String) (p : PreparedEffect) (authority : AuthorityContext)

open ExecutorTask (ask)
open ExecutorM (check)

def policyRequest (registered : RegisteredEffectConnector) : EffectExecutionPolicyRequest :=
  ⟨p.snapshot.id, authority, p.snapshot.effect.operation, p.snapshot.effect.input,
    p.snapshot.effect.inputSha256, registered.origin, registered.idempotency⟩

/-- An allowed Effect goes on. -/
def decide (p : PreparedEffect) : PolicyEvent EffectExecutionDecision →
    Except EffectExecutorAttempt Unit
  | .cancelled => .error (p.report .cancelledBeforeClaim)
  | .unavailable => .error (p.report .policyUnavailable)
  | .decided (.deny reasonCode) =>
    if (validateCapabilityName "Effect Policy denial reason" reasonCode).isOk then
      .error (p.report (.policyDenied reasonCode))
    else .error (p.report .policyUnavailable)
  | .decided .allow => .ok ()

/-- `execute_prepared` until the claim. -/
def permit : ExecutorM Unit := do
  let registered ← check (orError (p.report .connectorUnavailable)
    (e.resolve p.snapshot.effect.operation))
  let cancelled ← ExecutorM.ask .isCancelled
  check (rejectIf cancelled (p.report .cancelledBeforeClaim))
  let event ← ExecutorM.ask (.authorize (policyRequest p authority registered))
  check (decide p event)
  let cancelled ← ExecutorM.ask .isCancelled
  check (rejectIf cancelled (p.report .cancelledBeforeClaim))

/-- The claimed snapshot and its lease. -/
def claimed (p : PreparedEffect) (authority : AuthorityContext) :
    Except HarnessError EffectCommandResult →
      Except EffectExecutorAttempt (EffectSnapshot × EffectLease)
  | .error (.effectConflict _ _ actual) => .error (p.leased (.claimFenced actual))
  | .error _ => .error (p.leased .claimFailed)
  | .ok result => do
    rejectIf (result.outcome == .duplicate) (p.leased .claimAlreadyCommitted)
    match result.snapshot.effect.status with
    | .claimed lease => do
      rejectIf (lease.id != p.leaseId || lease.owner != authority.actor ||
          lease.attempt != p.attempt ||
          result.snapshot.revision.toNat !=
            min (p.snapshot.revision.toNat + 1) (UInt64.size - 1))
        (p.leased .claimFailed)
      .ok (result.snapshot, lease)
    | _ => .error (p.leased .claimFailed)

/-- The claim of `execute_prepared`. -/
def claim : ExecutorM (EffectSnapshot × EffectLease) := do
  let now ← ExecutorM.ask (.nowMs .claiming)
  let claimTime ← check (orError (p.report .claimFailed) now)
  let result ← ExecutorM.ask (.applyAs p.snapshot.id p.snapshot.revision
    ⟨p.claimCommandId, .claim p.leaseId e.config.leaseDurationMs⟩ claimTime authority)
  check (claimed p authority result)

def executionRequest (lease : EffectLease) : EffectExecutionRequest :=
  ⟨p.snapshot.id, authority, p.snapshot.effect.operation, p.snapshot.effect.idempotencyKey,
    p.snapshot.effect.input, p.snapshot.effect.inputSha256, p.attempt, p.leaseId, lease.expiresAtMs⟩

/-- What a Connector's event comes to, for the Effect and for the governor. -/
def dispatched : ConnectorEvent → EffectExecutionOutcome × EffectDispatchSettlement
  | .panicked => (.unknown "connector.failed", .availabilityFailure)
  | .cancelled => (.unknown "executor.cancelled_after_dispatch", .abandoned)
  | .returned outcome => (outcome, .healthy)
  | .failed => (.unknown "connector.failed", .availabilityFailure)
  | .elapsed => (.unknown "connector.timeout", .availabilityFailure)

/-- A healthy dispatch with an invalid outcome was not healthy. -/
def governorSettlement (settlement : EffectDispatchSettlement)
    (normalized : EffectExecutionOutcome) : EffectDispatchSettlement :=
  if settlement = .healthy ∧ normalized = .unknown invalidOutcome then .availabilityFailure
  else settlement

/-- Whether `settle_governor` failed; without a governor it does not. -/
def settleGovernor (settlement : EffectDispatchSettlement) (settledAtMs : UInt64) :
    ExecutorTask Bool :=
  match e.governor with
  | none => pure false
  | some _ => do
    let settled ← ask (.settleAs p.leaseId settlement settledAtMs authority)
    pure (!settled)

/-- Enter the Connector and settle what it comes to. -/
def dispatch (context : EffectSettlementContext) : ExecutorTask EffectExecutorAttempt := do
  let event ← ask (.execute (executionRequest p authority context.lease))
  match ← ask (.nowMs .settling) with
  | none => pure { p.leased .clockUnavailableAfterClaim with
      governorSettlementFailed := e.governor.isSome }
  | some settledAtMs => do
    let normalized := normalizeConnectorOutcome (dispatched event).1 settledAtMs
    let failed ← e.settleGovernor p authority
      (governorSettlement (dispatched event).2 normalized) settledAtMs
    let attempt ← context.settleAt normalized none settledAtMs
    pure { attempt with governorSettlementFailed := failed }

def cancelledOutcome : EffectExecutionOutcome :=
  .notApplied "executor.cancelled_before_dispatch" (some 0)

/-- An admission that is not used is given back. -/
def giveBack : ExecutorTask Bool :=
  match e.governor with
  | none => pure false
  | some _ => do
    match ← ask (.nowMs .settling) with
    | none => pure true
    | some settledAtMs => e.settleGovernor p authority .abandoned settledAtMs

/-- A cancellation between the admission and the dispatch. -/
def abandon (context : EffectSettlementContext) : ExecutorTask EffectExecutorAttempt := do
  let failed ← e.giveBack p authority
  let attempt ← context.settle cancelledOutcome
  pure { attempt with governorSettlementFailed := failed }

/-- An admitted Effect is dispatched unless the host has cancelled. -/
def admitted (context : EffectSettlementContext) : ExecutorTask EffectExecutorAttempt := do
  let cancelled ← ask .isCancelled
  if cancelled then e.abandon p authority context else e.dispatch p authority context

/-- A decision of the governor that is not valid is none. -/
def validDecision (decision : Option EffectDispatchAdmissionDecision) (admittedAtMs : UInt64) :
    Option EffectDispatchAdmissionDecision :=
  decision.filter fun decision => validGovernorDecision decision admittedAtMs

/-- The time of a retry without a governor's decision. -/
def unavailableRetry (admittedAtMs : UInt64) : UInt64 :=
  (EffectSettlementContext.checkedSum admittedAtMs e.config.governorRetryAfterMs).getD admittedAtMs

/-- Admission by the governor, if there is one. -/
def govern (context : EffectSettlementContext) : ExecutorTask EffectExecutorAttempt :=
  match e.governor with
  | none => e.admitted p authority context
  | some policy => do
    match ← ask (.nowMs .admitting) with
    | none => pure (p.leased .clockUnavailableAfterClaim)
    | some admittedAtMs => do
      let decision ← ask (.admitAs ⟨p.leaseId, p.snapshot.effect.operation, policy,
        admittedAtMs⟩ authority)
      match validDecision decision admittedAtMs with
      | some .allow | some .allowProbe => e.admitted p authority context
      | some (.rateLimited retryAtMs) =>
        context.settleGovernorDenial "governor.rate_limited" retryAtMs
          (.rateLimited retryAtMs)
      | some (.circuitOpen retryAtMs) =>
        context.settleGovernorDenial "governor.circuit_open" retryAtMs
          (.circuitOpen retryAtMs)
      | none =>
        let retryAtMs := e.unavailableRetry admittedAtMs
        context.settleGovernorDenial "governor.unavailable" retryAtMs
          (.governorUnavailable retryAtMs)

/-- `execute_prepared` after the claim. -/
def afterClaim (context : EffectSettlementContext) : ExecutorTask EffectExecutorAttempt := do
  let cancelled ← ask .isCancelled
  if cancelled then context.settle cancelledOutcome else e.govern p authority context

/-- `execute_prepared`. -/
def executePrepared : ExecutorTask EffectExecutorAttempt := do
  let permitted : ExecutorM (EffectSnapshot × EffectLease) := do
    e.permit p authority
    e.claim p authority
  match ← permitted.run with
  | .error attempt => pure attempt
  | .ok (snapshot, lease) => e.afterClaim p authority ⟨cycleId, p, snapshot, lease, authority⟩

end EffectExecutor

/-! ## What the engine answers -/

/-- A command was applied now, as its kind is decided, or it was applied before. -/
inductive Taken (command : EffectCommand) (now : UInt64) (authority : AuthorityContext)
    (result : EffectCommandResult) : Prop
  | applied {current : Effect} {t : EffectTransition} (outcome : result.outcome = .applied)
      (decided : current.applyKind command.kind now authority.actor =
        .ok (result.snapshot.effect.status, t.kind))
      (recorded : result.snapshot.effect.transitions = current.transitions ++ [t])
      (named : t.commandId = command.id)
  | duplicate (outcome : result.outcome = .duplicate)
      (recognized : result.snapshot.effect.recognizesCommand command authority = .ok true)

variable {authority : AuthorityContext}

theorem taken_of_apply {current next : Effect} {command : EffectCommand} {now : UInt64}
    {outcome : EffectApplyOutcome} (snapshot : EffectSnapshot)
    (accepted : current.apply command now authority = .ok (next, outcome)) :
    Taken command now authority ⟨{ snapshot with effect := next }, outcome⟩ := by
  obtain ⟨recognized, recognizes, accepted⟩ := bind_eq_ok.1 accepted
  cases recognized with
  | true =>
    cases accepted
    exact .duplicate rfl recognizes
  | false =>
    iterate 4 replace accepted := rest_ok accepted
    obtain ⟨_, _, accepted⟩ := bind_eq_ok.1 accepted
    obtain ⟨⟨status, kind⟩, decided, accepted⟩ := bind_eq_ok.1 accepted
    obtain ⟨_, _, accepted⟩ := bind_eq_ok.1 accepted
    replace accepted := rest_ok accepted
    obtain ⟨_, _, accepted⟩ := bind_eq_ok.1 accepted
    cases accepted
    exact .applied (t := ⟨_, _, _, _, _, kind⟩) rfl decided rfl rfl

/-- **Whichever store answers**, the command was taken. -/
theorem EffectCoordinator.applyAs_taken {store store' : EffectCoordinator} {effectId : EffectId}
    {revision : UInt64} {command : EffectCommand} {now : UInt64} {result : EffectCommandResult}
    (answered : store.applyAs effectId revision command now authority = .ok (result, store')) :
    Taken command now authority result := by
  replace answered := rest_ok (rest_ok answered)
  cases store with
  | memory state =>
    obtain ⟨current, _, answered⟩ := bind_eq_ok.1 answered
    obtain ⟨recognized, recognizes, answered⟩ := bind_eq_ok.1 answered
    cases recognized with
    | true =>
      cases answered
      exact .duplicate rfl recognizes
    | false =>
      replace answered := rest_ok answered
      obtain ⟨⟨effect, outcome⟩, accepted, answered⟩ := bind_eq_ok.1 answered
      obtain ⟨revision, _, answered⟩ := bind_eq_ok.1 answered
      cases answered
      exact taken_of_apply ⟨effectId, current.tenantId, revision, effect⟩ accepted
  | sqlite effects =>
    obtain ⟨_, _, answered⟩ := bind_eq_ok.1 answered
    obtain ⟨current, _, answered⟩ := bind_eq_ok.1 answered
    obtain ⟨recognized, recognizes, answered⟩ := bind_eq_ok.1 answered
    cases recognized with
    | true =>
      cases answered
      exact .duplicate rfl recognizes
    | false =>
      replace answered := rest_ok answered
      obtain ⟨⟨effect, outcome⟩, accepted, answered⟩ := bind_eq_ok.1 answered
      obtain ⟨revision, _, answered⟩ := bind_eq_ok.1 answered
      replace answered := rest_ok answered
      obtain ⟨_, _, answered⟩ := bind_eq_ok.1 answered
      obtain ⟨_, _, answered⟩ := bind_eq_ok.1 answered
      obtain ⟨_, _, answered⟩ := bind_eq_ok.1 answered
      cases answered
      exact taken_of_apply ⟨effectId, current.tenantId, revision, effect⟩ accepted

/-- What the engine may answer, whatever other writers have left in its store: what one of the
stores does, or a failure. -/
def EngineAnswers (effectId : EffectId) (revision : UInt64) (command : EffectCommand)
    (now : UInt64) (authority : AuthorityContext) : Except HarnessError EffectCommandResult → Prop
  | .ok result => ∃ store store' : EffectCoordinator,
      store.applyAs effectId revision command now authority = .ok (result, store')
  | .error _ => True

end Execution

end YHarness.Effects

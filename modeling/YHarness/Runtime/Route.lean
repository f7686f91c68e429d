/-
# YHarness.Runtime.Route -- one Model step over the failover route

`complete_model_routed` of `src/runtime/mod.rs`: the candidates a request may go
to, the attempts on each of them with their own deadline, retries and failover.
Streaming only tells how many provisional events were delivered.
-/
import YHarness.Runtime.Control

namespace YHarness.Runtime

open YHarness.Lib YHarness.Kernel

set_option autoImplicit false

/-! ## Retry delays -/

def fnvPrime : UInt64 := 0x00000100000001b3

def hashByte (hash : UInt64) (byte : UInt8) : UInt64 :=
  (hash ^^^ UInt64.ofNat byte.toNat) * fnvPrime

/-- `stable_retry_hash`. -/
def stableRetryHash (threadId turnId modelId : String) (retry : Nat) : UInt64 :=
  let hash := [threadId, turnId, modelId].foldl (fun hash value =>
    hashByte (value.toUTF8.toList.foldl hashByte hash) 0xff) 0xcbf29ce484222325
  hashByte hash (UInt8.ofNat retry)

def isRetried : ModelProviderFailureKind → Bool
  | .rateLimited | .overloaded | .server | .transport => true
  | _ => false

/-- `retry_delay`, in milliseconds. -/
def ModelRoute.retryDelay (route : ModelRoute) (error : HarnessError) (nextRetry : Nat)
    (threadId turnId modelId : String) : Option Nat :=
  match route.retryPolicy, error with
  | some policy, .modelProvider failure =>
    if nextRetry = 0 ∨ policy.maxRetries < nextRetry ∨ isRetried failure.kind = false then none
    else match failure.retryAfterMs with
      | some delay => if delay.toNat ≤ policy.maxDelayMs then some delay.toNat else none
      | none =>
        let ceiling := min (policy.initialDelayMs * 2 ^ (nextRetry - 1)) policy.maxDelayMs
        let floor := (ceiling + 1) / 2
        let width := ceiling - floor + 1
        some (floor + (stableRetryHash threadId turnId modelId nextRetry).toNat % width)
  | _, _ => none

/-! ## Candidates -/

def isTarget (target : ProviderContinuationTarget) (registered : RuntimeModel) : Bool :=
  registered.identity == .valid target.modelId && registered.origin == target.modelOrigin

/-- The entries that may answer a request bound to a continuation. -/
def ModelRoute.candidates (route : ModelRoute) (target : Option ProviderContinuationTarget) :
    List RuntimeModel :=
  route.entries.filter fun registered => target.all fun target => isTarget target registered

/-- `partition_timeout_cooldown`, given the Models that are cooling: they come
last, in place. -/
def orderByCooldown (cooling : List String) :
    List RuntimeModel → Except HarnessError (List RuntimeModel × List RuntimeModel)
  | [] => .ok ([], [])
  | candidate :: candidates => do
    let modelId ← candidate.identity.get
    let (available, resting) ← orderByCooldown cooling candidates
    .ok (if modelId ∈ cooling then (available, candidate :: resting)
      else (candidate :: available, resting))

def routeCandidates (route : ModelRoute) (request : ModelRequest) :
    RuntimeM (List RuntimeModel) := do
  let target ← check (pendingProviderContinuationTarget request.items)
  let candidates := route.candidates target
  match target with
  | some target => do
    check (rejectIf candidates.isEmpty (.state
      (s!"provider continuation requires unavailable Model {target.modelId} from its " ++
        "recorded origin")))
    check (.ok candidates)
  | none =>
    if route.timeoutCooldownMs.isNone || decide (candidates.length < 2) then
      check (.ok candidates)
    else do
      let cooling ← ask .coolingModels
      let (available, resting) ← check (orderByCooldown cooling candidates)
      check (.ok (available ++ resting))

/-! ## Attempts -/

/-- `attempt_deadline`: the deadline of an attempt, and whether it is its own. -/
def attemptDeadline (route : ModelRoute) (deadline : Option Nat) :
    RuntimeM (Option Nat × Bool) :=
  match route.attemptTimeoutMs with
  | none => check (.ok (deadline, false))
  | some timeoutMs => do
    let instant ← ask (.instant none)
    if deadline.any fun turnDeadline => decide (turnDeadline ≤ instant + timeoutMs) then
      check (.ok (deadline, false))
    else check (.ok (some (instant + timeoutMs), true))

/-- What `complete_model_attempt_observed` makes of an attempt. -/
def settleAttempt (reply : ModelAttemptReply) :
    Except HarnessError ModelResponse × ModelAttemptControl :=
  match reply.outcome with
  | .cancelled => (.error (.cancelled .model), .cancelled)
  | .deadlineElapsed => (.error (.timedOut .model), .deadlineElapsed)
  | .panicked => (.error (.capabilityPanicked .model), .none)
  | .settled (.error error) => (.error (validateModelAttemptError error), .none)
  | .settled (.ok response) =>
    match validateModelResponse response with
    | .ok () => (.ok response, .none)
    | .error error => (.error error, .none)

/-- `wait_for_model_retry`. -/
def waitForModelRetry (deadline : Option Nat) (ownDeadline : Bool) (delayMs : Nat) :
    RuntimeM Bool := do
  let expired ← match deadline with
    | none => check (.ok false)
    | some deadline => do
      let instant ← ask (.instant (if ownDeadline then none else some deadline))
      if deadline ≤ instant then
        if ownDeadline then check (.ok true) else check (.error (.timedOut .model))
      else check (.ok (decide (deadline ≤ instant + delayMs)))
  if expired then check (.ok false)
  else do
    let slept ← ask (.invoke .loop (.sleep delayMs ownDeadline) deadline)
    match slept with
    | .ok () => check (.ok true)
    | .error (.timedOut phase) =>
      if ownDeadline then check (.ok false) else check (.error (.timedOut phase))
    | .error error => check (.error error)

section Attempts

variable [Sha256] (runtime : HarnessRuntime) (request : ModelRequest) (deadline : Option Nat)

/-- The attempts on one candidate, with the number of attempts the step has left.
Without an output the next candidate is tried. -/
def completeModelAttempts (registered : RuntimeModel) (modelId : String)
    (attemptDeadline : Option Nat) (ownDeadline last : Bool) :
    Nat → Nat → RuntimeM (Option SettledModelOutput × Nat)
  | 0, _ => check (.error (.maxModelAttempts runtime.maxModelAttemptsPerStep))
  | remaining + 1, retryIndex => do
    let attempted := retainModelContinuations request modelId registered.origin
    let _ ← check (modelRequestSha256 attempted)
    let settledRequestSha256 ← check (completionModelRequestSha256 attempted)
    let reply ← ask (.invoke .loop (.completeModel modelId attempted ownDeadline)
      attemptDeadline)
    match settleAttempt reply with
    | (.ok response, _) => check (.ok (some
        { modelId
          modelOrigin := registered.origin
          modelRequestSha256 := settledRequestSha256
          output := response.output
          continuation := response.continuation }, remaining))
    | (.error error, control) => do
      check (rejectIf (control == .cancelled || control == .deadlineElapsed && !ownDeadline)
        error)
      let error := if control = .deadlineElapsed then
          HarnessError.model
            s!"Model {modelId} exceeded the configured failover attempt timeout"
        else error
      check (rejectIf (!last && decide (0 < reply.delivered)) (.model
        (s!"Model {modelId} failed after delivering provisional output; failover was " ++
          "suppressed")))
      let delay := if reply.delivered = 0 then
          runtime.models.retryDelay error (retryIndex + 1) request.threadId request.turnId
            modelId
        else none
      let retries ← match delay with
        | none => check (.ok false)
        | some delay => waitForModelRetry attemptDeadline ownDeadline delay
      if retries then
        completeModelAttempts registered modelId attemptDeadline ownDeadline last remaining
          (retryIndex + 1)
      else if last then check (.error error)
      else check (.ok (none, remaining))

/-- The candidates in order. -/
def completeOverCandidates : Nat → List RuntimeModel → RuntimeM SettledModelOutput
  | _, [] => check (.error
      (.invalidConfiguration "Model route must contain at least one Model"))
  | remaining, registered :: candidates => do
    let modelId ← check registered.identity.get
    let (attemptDeadline, ownDeadline) ← attemptDeadline runtime.models deadline
    let (settled, remaining) ← completeModelAttempts runtime request registered modelId
      attemptDeadline ownDeadline candidates.isEmpty remaining 0
    match settled with
    | some settled => check (.ok settled)
    | none => completeOverCandidates remaining candidates

/-- `complete_model_routed`. -/
def completeModelRouted : RuntimeM SettledModelOutput := do
  check (validateModelRequest request)
  let candidates ← routeCandidates runtime.models request
  completeOverCandidates runtime request deadline runtime.maxModelAttemptsPerStep candidates

end Attempts

end YHarness.Runtime

/-
# YHarness.Runtime.Control -- recording under the Turn-control lock

The operations of `src/runtime/mod.rs` that take the lock of an active Turn: they
record Items, apply the steering that waits, settle a Turn and accept steering.
A section under the lock works on the control record it was given and puts it
back when it ends, whichever way it ends.
-/
import YHarness.Runtime.WaitOps

namespace YHarness.Runtime

open YHarness.Lib YHarness.Kernel YHarness.State

set_option autoImplicit false

/-! ## Sections under the lock -/

/-- A section holds the control record; a failure keeps what it did to it. -/
abbrev LockedM (α : Type) : Type :=
  ExceptT HarnessError (StateT ActiveTurnControl (Task RuntimeCall RuntimeReply)) α

namespace LockedM

def lift {α : Type} (task : RuntimeM α) : LockedM α :=
  ExceptT.mk fun control => task.run.bind fun outcome => .done (outcome, control)

def check {α : Type} (outcome : Except HarnessError α) : LockedM α :=
  ExceptT.mk fun control => .done (outcome, control)

def control : LockedM ActiveTurnControl :=
  ExceptT.mk fun control => .done (.ok control, control)

def modify (f : ActiveTurnControl → ActiveTurnControl) : LockedM Unit :=
  ExceptT.mk fun control => .done (.ok (), f control)

/-- The Turn accepts no more steering. -/
def close : LockedM Unit :=
  modify fun control => { control with acceptingSteering := false }

/-- A section that seals the Turn when it fails. -/
def sealOnError {α : Type} (body : LockedM α) : LockedM α :=
  ExceptT.mk fun control => (body.run control).bind fun
    | (.ok a, control) => .done (.ok a, control)
    | (.error error, control) => .done (.error error, { control with acceptingSteering := false })

/-- Look at the outcome of a section instead of failing with it. -/
def attempt {α : Type} (body : LockedM α) : LockedM (Except HarnessError α) :=
  ExceptT.mk fun control => (body.run control).bind fun
    | (outcome, control) => .done (.ok outcome, control)

end LockedM

/-- Take the lock, run a section and put the control record back. -/
def lockControl {α : Type} (operation : LockedOperation) (body : LockedM α) : RuntimeM α := do
  let control ← ask (.lock operation)
  let control ← check control
  let (outcome, control) ← TryTask.lift (body.run control)
  ask (.unlock control)
  check outcome

/-- `lockControl` for the Turn in hand. -/
def withControl {α : Type} (operation : LockedOperation) (turn : Turn) (body : LockedM α) :
    RuntimeM α :=
  lockControl operation do
    let control ← LockedM.control
    LockedM.check (requireControlTurn control turn)
    body

variable (thread : StoredThread) [Sha256]

/-! ## Recording -/

/-- An append whose rejection finishes the Turn as failed. -/
def orFinish (what : String) (turn : Turn) (authority : AuthorityContext)
    (append : RuntimeM Unit) : RuntimeM Unit := do
  let outcome ← TryTask.attempt append
  match outcome with
  | .ok () => check (.ok ())
  | .error recordError => do
    let settlement ← TryTask.attempt (finishTurnAs thread turn .failed authority)
    match settlement with
    | .ok () => check (.error recordError)
    | .error settlementError => check (.error (.state
        (s!"State {what} append failed ({recordError.display}); terminal settlement also " ++
          s!"failed ({settlementError.display})")))

/-- `record_unlocked`. -/
def recordUnlocked (turn : Turn) (kind : ItemKind) (authority : AuthorityContext) :
    RuntimeM Turn := do
  let item ← newItem kind
  orFinish thread "Item" turn authority (appendItemAs thread turn item authority)
  check (.ok { turn with items := turn.items ++ [item] })

/-- The Items of a batch, made in order. -/
def newItems : List ItemKind → RuntimeM (List Item)
  | [] => check (.ok [])
  | kind :: kinds => do
    let item ← newItem kind
    let items ← newItems kinds
    check (.ok (item :: items))

/-- `record_tool_calls_unlocked`. -/
def recordToolCallsUnlocked (turn : Turn) (calls : List Item) (authority : AuthorityContext) :
    RuntimeM Turn := do
  orFinish thread "Tool-call batch" turn authority (appendToolCallsAs thread turn calls authority)
  check (.ok { turn with items := turn.items ++ calls })

/-- Record one Item inside a section. -/
def recordLocked (turn : Turn) (kind : ItemKind) : LockedM Turn := do
  let control ← LockedM.control
  LockedM.lift (recordUnlocked thread turn kind control.authority)

/-- `record`. -/
def record (turn : Turn) (kind : ItemKind) : RuntimeM Turn :=
  withControl .record turn (LockedM.sealOnError (recordLocked thread turn kind))

/-! ## Steering -/

/-- The steering still queued, applied in order. -/
def applyQueued (turn : Turn) : List PendingSteering → LockedM Turn
  | [] => LockedM.check (.ok turn)
  | steering :: rest => do
    let control ← LockedM.control
    LockedM.check (rejectIf
      (decide (control.pendingSteeringBytes < steering.content.utf8ByteSize))
      (.state "pending steering byte count is internally inconsistent"))
    let turn ← recordLocked thread turn (.steeringApplied steering.steeringId steering.content)
    LockedM.modify fun control => { control with
      pendingSteering := rest
      pendingSteeringBytes := control.pendingSteeringBytes - steering.content.utf8ByteSize }
    applyQueued turn rest

/-- `apply_pending_steering_locked`: afterwards the Turn is read back. -/
def applyPendingSteeringLocked (turn : Turn) : LockedM Turn := do
  let control ← LockedM.control
  let turn ← applyQueued thread turn control.pendingSteering
  let loaded ← LockedM.lift (loadThreadAs thread control.authority)
  let turns ← LockedM.check (orError (.state s!"thread {turn.threadId} disappeared") loaded)
  LockedM.check (orError (.state s!"turn {turn.id} disappeared") (findTurn turns turn.id))

/-- Apply the steering that waits, or else run the rest of a section. -/
def ifCurrent {α : Type} (turn : Turn) (superseded : Turn → α) (current : LockedM α) :
    LockedM α := do
  let control ← LockedM.control
  if control.pendingSteering.isEmpty then current
  else do
    let turn ← LockedM.sealOnError (applyPendingSteeringLocked thread turn)
    LockedM.check (.ok (superseded turn))

/-- `apply_pending_steering`: whether there was any. -/
def applyPendingSteering (turn : Turn) (sealIfEmpty : Bool) : RuntimeM (Turn × Bool) :=
  withControl .applySteering turn <| ifCurrent thread turn (·, true) do
    if sealIfEmpty then LockedM.close else LockedM.check (.ok ())
    LockedM.check (.ok (turn, false))

/-- A result for each superseded call. -/
def recordSuperseded (turn : Turn) : List String → LockedM Turn
  | [] => LockedM.check (.ok turn)
  | callId :: callIds => do
    let turn ← recordLocked thread turn (supersededToolResult callId)
    recordSuperseded turn callIds

/-- `supersede_tool_calls_before_effect`. -/
def supersedeToolCallsBeforeEffect (turn : Turn) (callIds : List String) :
    RuntimeM (Turn × Bool) :=
  withControl .supersede turn do
    let control ← LockedM.control
    if control.pendingSteering.isEmpty then LockedM.check (.ok (turn, false))
    else LockedM.sealOnError do
      let turn ← recordSuperseded thread turn callIds
      let turn ← applyPendingSteeringLocked thread turn
      LockedM.check (.ok (turn, true))

/-- `supersede_tool_before_effect`. -/
def supersedeToolBeforeEffect (turn : Turn) (callId : String) : RuntimeM (Turn × Bool) :=
  supersedeToolCallsBeforeEffect thread turn [callId]

/-! ## Model decisions -/

def recordOptional (turn : Turn) : Option ItemKind → LockedM Turn
  | none => LockedM.check (.ok turn)
  | some kind => recordLocked thread turn kind

/-- `record_model_decision_if_current`. -/
def recordModelDecisionIfCurrent (turn : Turn) (continuation : Option ItemKind)
    (decision : ItemKind) : RuntimeM (Turn × Bool) :=
  withControl .decide turn <| ifCurrent thread turn (·, true) <| LockedM.sealOnError do
    let turn ← recordOptional thread turn continuation
    let turn ← recordLocked thread turn decision
    LockedM.check (.ok (turn, false))

/-- `record_model_tool_batch_if_current`. -/
def recordModelToolBatchIfCurrent (turn : Turn) (continuation : Option ItemKind)
    (decisions : List ItemKind) : RuntimeM (Turn × Bool) :=
  withControl .decide turn <| ifCurrent thread turn (·, true) <| LockedM.sealOnError do
    let turn ← recordOptional thread turn continuation
    let control ← LockedM.control
    let calls ← LockedM.lift (newItems decisions)
    let turn ← LockedM.lift (recordToolCallsUnlocked thread turn calls control.authority)
    LockedM.check (.ok (turn, false))

/-- `record_verification_result_if_current`; the evidence it records is bound to
the candidate. -/
def recordVerificationResultIfCurrent (turn : Turn) (candidateItemId : ItemId)
    (verifier : RegisteredVerifier) (outcome : VerificationOutcome) : RuntimeM (Turn × Bool) :=
  withControl .verify turn <| ifCurrent thread turn (·, true) <| LockedM.sealOnError do
    LockedM.check (requireCurrentAssistantCandidate turn candidateItemId)
    let turn ← recordLocked thread turn (.verificationResult verifier.name (some candidateItemId)
      (some verifier.origin) (some verifier.completionBinding.bindingSha256) outcome)
    LockedM.check (.ok (turn, false))

/-- `validate_model_output_if_current`. -/
def validateModelOutputIfCurrent (view : ToolCapabilityView) (turn : Turn)
    (output : ModelOutput) : RuntimeM (Turn × Bool) :=
  withControl .decide turn <| ifCurrent thread turn (·, true) <| LockedM.sealOnError do
    LockedM.check (view.validateOutput output)
    LockedM.check (.ok (turn, false))

/-! ## Settling -/

/-- The Item and the status an error settles a Turn with. -/
def settlementOf : HarnessError → ItemKind × TurnStatus
  | .cancelled phase => (.turnStopped .cancelled phase, .cancelled)
  | .timedOut phase => (.turnStopped .timedOut phase, .timedOut)
  | error => (.runtimeError (boundedRuntimeError error.display), .failed)

/-- `settle_error`. -/
def settleError (turn : Turn) (error : HarnessError) (operation : LockedOperation := .settle) :
    RuntimeM Unit :=
  withControl operation turn do
    LockedM.close
    let control ← LockedM.control
    let (kind, status) := settlementOf error
    LockedM.lift do
      let item ← newItem kind
      let outcome ← TryTask.attempt (appendItemAs thread turn item control.authority)
      match outcome with
      | .ok () => finishTurnAs thread turn status control.authority
      | .error recordError => do
        let settlement ← TryTask.attempt (finishTurnAs thread turn status control.authority)
        match settlement with
        | .ok () => check (.ok ())
        | .error settlementError => check (.error (.state
            (s!"State settlement evidence failed ({recordError.display}); terminal " ++
              s!"settlement also failed ({settlementError.display})")))

/-- Settle the Turn with an error and return it. -/
def failWith {α : Type} (turn : Turn) (error : HarnessError) : RuntimeM α := do
  settleError thread turn error
  check (.error error)

/-- A task whose failure settles the Turn. -/
def orSettle {α : Type} (turn : Turn) (task : RuntimeM α) : RuntimeM α := do
  let outcome ← TryTask.attempt task
  match outcome with
  | .ok a => check (.ok a)
  | .error error => failWith thread turn error

/-! ## Completion and progress -/

variable (runtime : HarnessRuntime)

/-- The end of `complete_candidate_if_current`: sealing and the State transition
are one section. -/
def completeLocked (turn : Turn) (candidateItemId : ItemId) : LockedM (Turn × Option String) := do
  LockedM.close
  LockedM.check (requireCurrentAssistantCandidate turn candidateItemId)
  let control ← LockedM.control
  let generation ← LockedM.check (runtime.completionGeneration turn candidateItemId)
  let receipt ← LockedM.check (buildCompletionReceipt turn control.authority candidateItemId
    generation CompletionContract.v1NoExternalRequirements)
  let finalText ← LockedM.check (durableCandidateText turn receipt.candidateItemId)
  LockedM.lift (completeTurnAs thread turn receipt control.authority)
  LockedM.check (.ok ({ turn with status := .completed, completionReceipt := some receipt },
    some finalText))

/-- `complete_candidate_if_current`. -/
def completeCandidateIfCurrent (turn : Turn) (candidateItemId : ItemId) :
    RuntimeM (Turn × Option String) :=
  withControl (.complete turn) turn <| ifCurrent thread turn (·, none) <|
    completeLocked thread runtime turn candidateItemId

/-- The section of `govern_progress_at_safe_boundary`.  The failures it gives
back are settled outside the lock. -/
def governLocked (progress : ProgressGovernor) (turn : Turn) (sealIfContinue : Bool) :
    LockedM (Turn × Except HarnessError ProgressGovernor) := do
  let control ← LockedM.control
  let applied ← LockedM.attempt <| LockedM.sealOnError <|
    if control.pendingSteering.isEmpty then LockedM.check (.ok turn)
    else applyPendingSteeringLocked thread turn
  match applied with
  | .error error => LockedM.check (.ok (turn, .error error))
  | .ok turn =>
    match progress.advance turn.items with
    | .error error => do
      LockedM.close
      LockedM.check (.ok (turn, .error error))
    | .ok (progress, .continue) => do
      if sealIfContinue then LockedM.close else LockedM.check (.ok ())
      LockedM.check (.ok (turn, .ok progress))
    | .ok (_, .stop cyclePeriod repetitions) => do
      LockedM.close
      LockedM.check (.ok (turn, .error (.noProgress cyclePeriod repetitions)))

/-- `govern_progress_at_safe_boundary`. -/
def governProgressAtSafeBoundary (progress : ProgressGovernor) (turn : Turn)
    (sealIfContinue : Bool) : RuntimeM (ProgressGovernor × Turn) := do
  let (turn, governed) ← withControl .govern turn (governLocked thread progress turn sealIfContinue)
  match governed with
  | .ok progress => check (.ok (progress, turn))
  | .error error => failWith thread turn error

inductive PreStepDecision where
  | continue
  | stop (reason : String)

/-- `decide_pre_step`. -/
def decidePreStep (step : Nat) (progress : ProgressGovernor) (turn : Turn) :
    RuntimeM (PreStepDecision × ProgressGovernor × Turn) := do
  let acceptsWork ← ask .acceptsWork
  if !acceptsWork then check (.ok (.stop "phase_disposed", progress, turn))
  else do
    let cancelled ← ask (.isCancelled .preStep)
    if cancelled then check (.ok (.stop "cancelled", progress, turn))
    else if runtime.maxSteps ≤ step then check (.ok (.stop "max_steps", progress, turn))
    else do
      let (progress, turn) ← governProgressAtSafeBoundary thread progress turn false
      check (.ok (.continue, progress, turn))

end YHarness.Runtime

/-
# YHarness.Runtime.StateOps -- the State operations an execution uses

The writes of `StateEngine` (`src/state/mod.rs`) as tasks: each reads what it
checks, reads a head and commits against it, without a retry.  An accepted event
is given back by its Items, as the Runtime uses it.
-/
import YHarness.Runtime.World
import YHarness.State.Project

namespace YHarness.Runtime

open YHarness.Lib YHarness.Kernel YHarness.State

set_option autoImplicit false

/-! ## Access and reading -/

namespace StoredThread

/-- `thread_accessible`. -/
def accessible (thread : StoredThread) (authority : AuthorityContext) :
    Except HarnessError Bool := do
  validateStateId "thread" thread.id
  authority.validateCurrent "Thread access authority"
  .ok (thread.tenantId == authority.tenantId)

def missing {α : Type} (thread : StoredThread) : Except HarnessError α :=
  .error (.state s!"thread {thread.id} does not exist")

/-- `require_thread_access`. -/
def requireAccess (thread : StoredThread) (authority : AuthorityContext) :
    Except HarnessError Unit := do
  let accessible ← thread.accessible authority
  if accessible then .ok () else thread.missing

/-- `validate_thread_authority`. -/
def validateAuthority (thread : StoredThread) (authority : AuthorityContext) :
    Except HarnessError Unit := do
  authority.validateCurrent "Thread access authority"
  rejectIf (thread.tenantId != authority.tenantId)
    (.state "Event Store tenant projection differs from authoritative Thread creation")

/-- `projected_turn`. -/
def projectedTurn (thread : StoredThread) (turns : List Turn) (turn : Turn) :
    Except HarnessError Turn := do
  rejectIf (thread.id != turn.threadId)
    (.state s!"turn {turn.id} does not belong to thread {thread.id}")
  orError (.state s!"turn {turn.id} does not exist") (findTurn turns turn.id)

end StoredThread

variable (thread : StoredThread)

/-- `load_thread_as`. -/
def loadThreadAs (authority : AuthorityContext) : RuntimeM (Option (List Turn)) := do
  let accessible ← check (thread.accessible authority)
  if accessible then do
    let turns ← ask .loadThread
    check (.ok (some turns))
  else check (.ok none)

/-- `load_thread_as`, where the Thread must be there. -/
def requireThreadAs (authority : AuthorityContext) : RuntimeM (List Turn) := do
  let loaded ← loadThreadAs thread authority
  match loaded with
  | some turns => check (.ok turns)
  | none => check thread.missing

def newItem (kind : ItemKind) : RuntimeM Item := do
  let stamp ← ask .stamp
  check (.ok ⟨stamp.id, stamp.atMs, kind⟩)

/-! ## Committing -/

def commitPending (eventId : EventId) (recordedAtMs : UInt64) (event : StateEvent) :
    RuntimeM Unit := do
  let outcome ← ask (.commit eventId recordedAtMs event)
  check outcome

def commit (event : StateEvent) : RuntimeM Unit := do
  let stamp ← ask .stamp
  commitPending stamp.id stamp.atMs event

def HeadView.requireRunning (view : HeadView) (turnId : TurnId) : Except HarnessError Unit := do
  rejectIf (decide (turnId ∉ view.turns)) (.state s!"turn {turnId} does not exist")
  rejectIf (view.running != some turnId) (.state s!"turn {turnId} is not running")

/-- `require_stream_head` and `require_running_head`, once more after a refresh. -/
def requireRunningHead (turnId : TurnId) : RuntimeM Unit := do
  let view ← ask (.streamHead false)
  match view.requireRunning turnId with
  | .ok () => check (.ok ())
  | .error _ => do
    let view ← ask (.streamHead true)
    check (view.requireRunning turnId)

/-! ## Starting and appending -/

/-- `start_turn_as`. -/
def startTurnAs (authority : AuthorityContext) : RuntimeM Turn := do
  check (thread.requireAccess authority)
  let view ← ask (.streamHead false)
  if view.running.isSome then do
    let view ← ask (.streamHead true)
    check (rejectIf view.running.isSome
      (.state s!"thread {thread.id} already has a running turn"))
  else check (.ok ())
  let stamp ← ask .stamp
  commit (.turnStarted stamp.id)
  check (.ok ⟨stamp.id, thread.id, .running, [], none⟩)

/-- `validate_connector_evidence_append`. -/
def validateConnectorEvidenceAppend (turns : List Turn) (turnId : TurnId) (callId : String)
    (evidence : List ConnectorEvidence) (authority : AuthorityContext) :
    Except HarnessError Unit := do
  let turn ← orError (.state s!"Connector evidence references unknown turn {turnId}")
    (findTurn turns turnId)
  rejectIf (evidence.any fun record => record.authority != authority)
    (.state (s!"turn {turnId} Connector evidence authority differs from trusted append " ++
      "authority"))
  validateConnectorEvidenceProvenance thread.tenantId callId evidence
    (turn.items.foldl recordConnectorExecutionProvenance ∅)[callId]?

/-- `validate_execution_binding_append`. -/
def validateExecutionBindingAppend (turns : List Turn) (turnId : TurnId)
    (boundBy : ActorIdentity) (binding : ExecutionBinding) (authority : AuthorityContext) :
    Except HarnessError Unit := do
  let turn ← orError (.state s!"execution binding references unknown turn {turnId}")
    (findTurn turns turnId)
  rejectIf (turn.items.any isExecutionBinding)
    (.state s!"turn {turnId} already has an execution binding")
  rejectIf (boundBy != authority.actor)
    (.state s!"turn {turnId} execution binding actor differs from its trusted authority")
  rejectIf (binding.tenantId != thread.tenantId)
    (.state s!"turn {turnId} execution binding tenant differs from its Thread")

def queuesSteering (steeringId : SteeringId) (item : Item) : Bool :=
  match item.kind with
  | .steeringQueued id _ _ => id == steeringId
  | _ => false

/-- `validate_steering_append`. -/
def validateSteeringAppend (turns : List Turn) (turnId : TurnId) (kind : ItemKind) :
    Except HarnessError Unit := do
  let turn ← orError (.state s!"steering references unknown turn {turnId}")
    (findTurn turns turnId)
  let queued ← pendingSteering turn
  match kind with
  | .steeringQueued steeringId _ _ =>
    rejectIf ((turns.flatMap (·.items)).any (queuesSteering steeringId))
      (.state s!"duplicate steering identity {steeringId}")
  | .steeringApplied steeringId content =>
    match queued with
    | [] => .error (.state s!"applied steering {steeringId} has no pending queue record")
    | (queuedId, queuedContent) :: _ => do
      rejectIf (queuedId != steeringId)
        (.state s!"applied steering {steeringId} violates queue order")
      rejectIf (queuedContent != content)
        (.state s!"applied steering {steeringId} changed its queued content")
  | _ => .ok ()

/-- The check an Item needs of the projected Thread, if it needs one. -/
def appendCheck (turnId : TurnId) (authority : AuthorityContext) :
    ItemKind → Option (List Turn → Except HarnessError Unit)
  | .executionBinding boundBy binding => some fun turns =>
    validateExecutionBindingAppend thread turns turnId boundBy binding authority
  | .steeringQueued steeringId submittedBy content => some fun turns =>
    validateSteeringAppend turns turnId (.steeringQueued steeringId submittedBy content)
  | .steeringApplied steeringId content => some fun turns =>
    validateSteeringAppend turns turnId (.steeringApplied steeringId content)
  | .toolResult callId _ _ (record :: evidence) => some fun turns =>
    validateConnectorEvidenceAppend thread turns turnId callId (record :: evidence) authority
  | _ => none

/-- `append_item_as`. -/
def appendItemAs (turn : Turn) (item : Item) (authority : AuthorityContext) : RuntimeM Unit := do
  check (thread.requireAccess authority)
  match appendCheck thread turn.id authority item.kind with
  | some validate => do
    let turns ← requireThreadAs thread authority
    check (validate turns)
  | none => check (.ok ())
  requireRunningHead turn.id
  commit (.itemAppended turn.id item)

/-- `append_tool_calls_as`. -/
def appendToolCallsAs (turn : Turn) (calls : List Item) (authority : AuthorityContext) :
    RuntimeM Unit := do
  check (thread.requireAccess authority)
  requireRunningHead turn.id
  commit (.toolCallsAppended turn.id calls)

variable [Sha256]

/-! ## Settling -/

/-- `finish_turn_as`. -/
def finishTurnAs (turn : Turn) (status : TurnStatus) (authority : AuthorityContext) :
    RuntimeM Unit := do
  check (thread.requireAccess authority)
  check (rejectIf (status == .running) (.state "cannot finish a turn with running status"))
  check (rejectIf (status == .completed)
    (.state "completed Turns require an atomic CompletionReceipt"))
  let turns ← requireThreadAs thread authority
  let projected ← check (thread.projectedTurn turns turn)
  let execution ← check (agentLoopExecutionProjection projected)
  check (rejectIf (execution.any AgentLoopExecution.isOpen)
    (.state "cannot finish a Turn with an open Waiting or Ready execution"))
  requireRunningHead turn.id
  commit (.turnFinished turn.id status)

def statusDebug : TurnStatus → String
  | .running => "Running"
  | .completed => "Completed"
  | .failed => "Failed"
  | .cancelled => "Cancelled"
  | .timedOut => "TimedOut"
  | .interrupted => "Interrupted"

/-- The checks of `complete_turn_as` on a running Turn. -/
def validateCompletion (projected : Turn) (receipt : CompletionReceipt) :
    Except HarnessError Unit := do
  let pending ← hasPendingSteering projected
  rejectIf pending (.state s!"cannot complete turn {projected.id} with unapplied steering")
  let execution ← agentLoopExecutionProjection projected
  rejectIf (execution.any AgentLoopExecution.isOpen)
    (.state "cannot complete a Turn with an open Waiting or Ready execution")
  validateTurnCompletionReceipt projected thread.tenantId receipt

def isCompletedWith (receipt : CompletionReceipt) (turn : Turn) : Bool :=
  turn.status == .completed && turn.completionReceipt == some receipt

/-- `complete_turn_as`.  A completion that is already stored is given back, also
after an append whose outcome is not known. -/
def completeTurnAs (turn : Turn) (receipt : CompletionReceipt) (authority : AuthorityContext) :
    RuntimeM Unit := do
  check (authority.validateCurrent "Turn completion authority")
  check (rejectIf (receipt.authority != authority)
    (.state "CompletionReceipt authority differs from the completing authority"))
  let receiptSha256 ← check (completionReceiptSha256 receipt)
  let turns ← ask .loadProjection
  check (thread.validateAuthority authority)
  let projected ← check (orError
    (.state s!"turn {turn.id} does not belong to thread {thread.id}") (findTurn turns turn.id))
  match projected.status with
  | .completed => do
    check (rejectIf (projected.completionReceipt != some receipt)
      (.state s!"turn {turn.id} is already completed with a different receipt"))
    check (validateProjectedTurnCompletionReceipt projected thread.tenantId receipt)
  | .running => do
    check (validateCompletion thread projected receipt)
    let recordedAtMs ← ask .now
    let outcome ← ask (.commit ("turn-completion-" ++ receiptSha256) recordedAtMs
      (.turnCompleted turn.id receipt))
    match outcome with
    | .ok () => check (.ok ())
    | .error error => do
      let turns ← ask .loadEvents
      match (findTurn turns turn.id).filter (isCompletedWith receipt) with
      | some completed =>
        check (validateProjectedTurnCompletionReceipt completed thread.tenantId receipt)
      | none => check (.error error)
  | status => check (.error (.state
      s!"turn {turn.id} is already terminal with status {statusDebug status}"))

end YHarness.Runtime

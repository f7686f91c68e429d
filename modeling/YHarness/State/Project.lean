/-
# YHarness.State.Project -- replaying a journal into a Thread

`apply_events` and `project_events` of `src/state/mod.rs`: the fold that builds a
Thread from its events, with the identity sets it keeps, and the whole-history
validators that run on the result.
-/
import YHarness.State.Validate
import YHarness.State.Execution

namespace YHarness.State

open YHarness.Lib YHarness.Kernel

set_option autoImplicit false

/-! ## Whole-history validators -/

def isBindingOf (item : Item) : Option ExecutionBinding :=
  match item.kind with
  | .executionBinding _ binding => some binding
  | _ => none

/-- One Turn of `validate_execution_binding_projection`. -/
def validateTurnBinding (tenantId : Option String) (turn : Turn) : Except HarnessError Unit :=
  match turn.items.filterMap isBindingOf with
  | [] => .ok ()
  | [binding] =>
    rejectIf (binding.tenantId != tenantId)
      (.state s!"turn {turn.id} execution binding tenant differs from its Thread")
  | _ :: _ :: _ => .error (.state s!"turn {turn.id} contains multiple execution bindings")

def validateExecutionBindingProjection (thread : Thread) : Except HarnessError Unit :=
  checkAll (validateTurnBinding thread.tenantId) thread.turns

inductive ConnectorAuthorization where
  | missing | allowed | denied | askPending | askApproved
deriving DecidableEq

structure ConnectorExecutionProvenance where
  connector : Option String
  origin : Option CapabilityOrigin
  authorization : ConnectorAuthorization
  pendingApproval : Option ApprovalId
  callAmbiguous : Bool
  policyAmbiguous : Bool
  approvalInvalid : Bool

def ConnectorExecutionProvenance.default : ConnectorExecutionProvenance :=
  ⟨none, none, .missing, none, false, false, false⟩

abbrev ProvenanceMap := OrdMap String ConnectorExecutionProvenance

/-- `provenance.entry(call_id).or_default()`. -/
def provenanceEntry (map : ProvenanceMap) (callId : String) : ConnectorExecutionProvenance :=
  map[callId]?.getD .default

/-- `record_connector_execution_provenance`. -/
def recordConnectorExecutionProvenance (map : ProvenanceMap) (item : Item) : ProvenanceMap :=
  match item.kind with
  | .toolCall _ _ callId name _ _ =>
    let entry := provenanceEntry map callId
    map.insert callId { entry with
      connector := some name
      callAmbiguous := entry.callAmbiguous || entry.connector.isSome }
  | .policyDecision callId (some origin) decision =>
    let entry := provenanceEntry map callId
    map.insert callId { entry with
      origin := some origin
      policyAmbiguous := entry.policyAmbiguous || entry.origin.isSome
      authorization := match decision with
        | .allow => .allowed
        | .deny _ => .denied
        | .ask _ _ => .askPending }
  | .approvalRequested approvalId callId tool _ _ _ toolOrigin _ =>
    let entry := provenanceEntry map callId
    let valid := entry.authorization == .askPending && entry.pendingApproval.isNone &&
      entry.connector == some tool && entry.origin == toolOrigin
    map.insert callId (if valid then { entry with pendingApproval := some approvalId }
      else { entry with approvalInvalid := true })
  | .approvalDecision approvalId callId decision =>
    let entry := provenanceEntry map callId
    map.insert callId
      (if entry.authorization == .askPending && entry.pendingApproval == some approvalId then
        { entry with authorization := match decision with
            | .approve => .askApproved
            | .deny _ => .denied }
      else { entry with approvalInvalid := true })
  | _ => map

/-- `validate_connector_evidence_provenance`. -/
def validateConnectorEvidenceProvenance (tenantId : Option String) (callId : String)
    (evidence : List ConnectorEvidence) (provenance : Option ConnectorExecutionProvenance) :
    Except HarnessError Unit := do
  let unknown : HarnessError := .state s!"Connector evidence references unknown Tool call {callId}"
  let entry ← orError unknown provenance
  let connector ← orError unknown entry.connector
  rejectIf entry.callAmbiguous
    (.state s!"Connector evidence Tool call {callId} is ambiguous")
  let origin ← orError
    (.state s!"Connector evidence lacks Policy origin for Tool call {callId}") entry.origin
  rejectIf entry.policyAmbiguous
    (.state s!"Connector evidence Policy origin for Tool call {callId} is ambiguous")
  rejectIf (entry.approvalInvalid ||
      !(entry.authorization == .allowed || entry.authorization == .askApproved))
    (.state s!"Connector evidence Tool call {callId} lacks an authorized execution path")
  rejectIf (evidence.any fun record => record.connector != connector ||
      record.connectorOrigin != origin || record.authority.tenantId != tenantId)
    (.state (s!"Connector evidence for Tool call {callId} differs from registered " ++
      "execution provenance"))

/-- The provenance check of one Item against the calls recorded so far. -/
def checkConnectorItem (tenantId : Option String) (map : ProvenanceMap) (item : Item) :
    Except HarnessError Unit :=
  match item.kind with
  | .toolResult callId _ _ connectorEvidence =>
    checkIf (!connectorEvidence.isEmpty)
      (validateConnectorEvidenceProvenance tenantId callId connectorEvidence map[callId]?)
  | _ => .ok ()

/-- One Item of `validate_connector_evidence_projection`. -/
def connectorItem (tenantId : Option String) (map : ProvenanceMap) (item : Item) :
    Except HarnessError ProvenanceMap := do
  let next := recordConnectorExecutionProvenance map item
  checkConnectorItem tenantId next item
  .ok next

def validateTurnConnectorEvidence (tenantId : Option String) (turn : Turn) :
    Except HarnessError Unit := do
  let _ ← turn.items.foldlM (connectorItem tenantId) ∅
  .ok ()

def validateConnectorEvidenceProjection (thread : Thread) : Except HarnessError Unit :=
  checkAll (validateTurnConnectorEvidence thread.tenantId) thread.turns

/-- The steering identities of the Thread and the queue of the Turn. -/
structure SteeringState where
  allIds : List SteeringId
  queued : List (SteeringId × String)

/-- One Item of `validate_steering_projection`. -/
def steeringItem (s : SteeringState) (item : Item) : Except HarnessError SteeringState :=
  match item.kind with
  | .steeringQueued steeringId _ content => do
    rejectIf (decide (steeringId ∈ s.allIds))
      (.state s!"duplicate steering identity {steeringId}")
    .ok { allIds := s.allIds ++ [steeringId], queued := s.queued ++ [(steeringId, content)] }
  | .steeringApplied steeringId content =>
    match s.queued with
    | [] => .error (.state s!"applied steering {steeringId} has no earlier queue record")
    | (queuedId, queuedContent) :: rest => do
      rejectIf (queuedId != steeringId)
        (.state s!"applied steering {steeringId} violates queue order")
      rejectIf (queuedContent != content)
        (.state s!"applied steering {steeringId} changed its queued content")
      .ok { s with queued := rest }
  | _ => .ok s

def validateTurnSteering (allIds : List SteeringId) (turn : Turn) :
    Except HarnessError (List SteeringId) := do
  let s ← turn.items.foldlM steeringItem ⟨allIds, []⟩
  rejectIf (turn.status == .completed && !s.queued.isEmpty)
    (.state s!"completed turn {turn.id} contains unapplied steering")
  .ok s.allIds

def validateSteeringProjection (thread : Thread) : Except HarnessError Unit := do
  let _ ← thread.turns.foldlM validateTurnSteering []
  .ok ()

/-- The loop of `validate_tool_call_batch_projection` over one Turn.  The source
jumps past a checked batch; here `skip` counts the calls still inside it. -/
def validateBatchesFrom [Sha256] :
    Nat → List ToolCallBatchId → List Item → Except HarnessError (List ToolCallBatchId)
  | _, batchIds, [] => .ok batchIds
  | skip + 1, batchIds, _ :: rest => validateBatchesFrom skip batchIds rest
  | 0, batchIds, item :: rest =>
    match item.kind with
    | .toolCall _ _ _ _ _ (some batch) => do
      rejectIf (batch.index != 0 || decide (batch.id ∈ batchIds))
        (.state ("Tool-call batch projection starts out of order or reuses an " ++
          "identity"))
      rejectIf (decide ((item :: rest).length < batch.size))
        (.state "Tool-call batch projection is truncated")
      validateToolCallBatchItems ((item :: rest).take batch.size)
      validateBatchesFrom (batch.size - 1) (batchIds ++ [batch.id]) rest
    | _ => validateBatchesFrom 0 batchIds rest

def validateToolCallBatchProjection [Sha256] (thread : Thread) : Except HarnessError Unit := do
  let _ ← thread.turns.foldlM (fun ids (turn : Turn) => validateBatchesFrom 0 ids turn.items) []
  .ok ()

def waitEnvelopes (items : List Item) : List TurnWaitEnvelope :=
  items.filterMap fun item =>
    match item.kind with
    | .agentLoopWaitStarted envelope => some envelope
    | _ => none

/-- One Turn of `validate_agent_loop_execution_projection`. -/
def validateTurnExecution [Sha256] (thread : Thread) (turn : Turn) : Except HarnessError Unit := do
  let _ ← agentLoopExecutionProjection turn
  checkAll (fun envelope : TurnWaitEnvelope => do
    rejectIf (envelope.tenantId != thread.tenantId)
      (.state s!"turn {turn.id} Agent Loop wait tenant differs from its Thread")
    let inheritedTerminal := turn.status != .running &&
      (thread.lineage.isSome || thread.importOrigin.isSome)
    rejectIf (envelope.threadId != thread.id && !inheritedTerminal)
      (.state (s!"turn {turn.id} Agent Loop wait Thread differs without terminal " ++
        "materialization provenance"))) (waitEnvelopes turn.items)

def validateAgentLoopExecutionProjection [Sha256] (thread : Thread) : Except HarnessError Unit :=
  checkAll (validateTurnExecution thread) thread.turns

/-- `validate_projected_completion_placement`. -/
def validateProjectedCompletionPlacement [Sha256] (thread : Thread) (turn : Turn)
    (receipt : CompletionReceipt) : Except HarnessError Unit := do
  if receipt.sourceThreadId = turn.threadId then
    (validateProjectedTurnCompletionReceipt turn thread.tenantId receipt).mapError
      stateCompletionError
  else do
    rejectIf (thread.lineage.isNone && thread.importOrigin.isNone)
      (.state (s!"turn {turn.id} contains a completion receipt from another Thread without " ++
        "fork or import provenance"))
    (validateInheritedProjectedTurnCompletionReceipt turn thread.tenantId receipt).mapError
      stateCompletionError

def validateTurnReceipt [Sha256] (thread : Thread) (turn : Turn) : Except HarnessError Unit :=
  checkSome (validateProjectedCompletionPlacement thread turn) turn.completionReceipt

/-- The validators `apply_events` runs on the projected Thread. -/
def validateHistory [Sha256] (thread : Thread) : Except HarnessError Unit := do
  checkAll (validateTurnReceipt thread) thread.turns
  validateExecutionBindingProjection thread
  validateConnectorEvidenceProjection thread
  validateSteeringProjection thread
  validateToolCallBatchProjection thread
  validateAgentLoopExecutionProjection thread

/-! ## Pending steering of one Turn -/

structure PendingSteering where
  queued : List (SteeringId × String)
  seen : List SteeringId

def pendingSteeringItem (s : PendingSteering) (item : Item) : Except HarnessError PendingSteering :=
  match item.kind with
  | .steeringQueued steeringId _ content => do
    rejectIf (decide (steeringId ∈ s.seen))
      (.state s!"duplicate steering identity {steeringId}")
    .ok { queued := s.queued ++ [(steeringId, content)], seen := s.seen ++ [steeringId] }
  | .steeringApplied steeringId _ =>
    match s.queued with
    | [] => .error (.state s!"applied steering {steeringId} has no earlier queue record")
    | (queuedId, _) :: rest => do
      rejectIf (queuedId != steeringId)
        (.state s!"applied steering {steeringId} violates queue order")
      .ok { s with queued := rest }
  | _ => .ok s

/-- `pending_steering`. -/
def pendingSteering (turn : Turn) : Except HarnessError (List (SteeringId × String)) := do
  let s ← turn.items.foldlM pendingSteeringItem ⟨[], []⟩
  .ok s.queued

def hasPendingSteering (turn : Turn) : Except HarnessError Bool := do
  let queued ← pendingSteering turn
  .ok (!queued.isEmpty)

/-! ## The fold over events -/

/-- The projection under construction and the identities it has seen. -/
structure Projection where
  thread : Option Thread
  turnIds : List TurnId
  itemIds : List ItemId
  checkpointIds : List CheckpointId

/-- The identity sets `apply_events` starts from: those of the Thread given. -/
def Projection.seed (thread : Option Thread) : Projection where
  thread := thread
  turnIds := thread.toList.flatMap fun t => t.turns.map (·.id)
  itemIds := thread.toList.flatMap fun t => t.turns.flatMap fun turn => turn.items.map (·.id)
  checkpointIds := thread.toList.flatMap fun t => t.checkpoints.map (·.id)

/-- `projection_thread`. -/
def projectionThread (p : Projection) : Except HarnessError Thread :=
  orError (.state "event precedes thread creation") p.thread

def findTurn (turns : List Turn) (turnId : TurnId) : Option Turn :=
  turns.find? fun turn => turn.id == turnId

/-- Replace the first Turn with this id. -/
def updateTurn (turnId : TurnId) (f : Turn → Turn) : List Turn → List Turn
  | [] => []
  | turn :: turns =>
    if turn.id = turnId then f turn :: turns else turn :: updateTurn turnId f turns

def Thread.updateTurn (thread : Thread) (turnId : TurnId) (f : Turn → Turn) : Thread :=
  { thread with turns := State.updateTurn turnId f thread.turns }

/-- Insert the Items' ids, rejecting the first repeated one. -/
def insertItemIds : List ItemId → List Item → Except HarnessError (List ItemId)
  | ids, [] => .ok ids
  | ids, item :: rest => do
    rejectIf (decide (item.id ∈ ids)) (.state s!"duplicate item {item.id}")
    insertItemIds (ids ++ [item.id]) rest

/-- `append_projected_items`. -/
def appendProjectedItems (p : Projection) (turnId : TurnId) (items : List Item) :
    Except HarnessError Projection := do
  let itemIds ← insertItemIds p.itemIds items
  let thread ← projectionThread p
  let turn ← orError (.state s!"item references unknown turn {turnId}")
    (findTurn thread.turns turnId)
  rejectIf (turn.status != .running)
    (.state s!"item appended after turn {turnId} finished")
  .ok { p with
    itemIds
    thread := some (Thread.updateTurn thread turnId
      fun turn => { turn with items := turn.items ++ items }) }

/-- The wait projection of the Turn a wait event was appended to. -/
def projectedExecution [Sha256] (p : Projection) (turnId : TurnId) (unknown : String) :
    Except HarnessError (Option AgentLoopExecution) := do
  let thread ← projectionThread p
  let turn ← orError (.state unknown) (findTurn thread.turns turnId)
  agentLoopExecutionProjection turn

/-- Give a Turn its terminal status. -/
def Projection.setStatus (p : Projection) (turnId : TurnId) (status : TurnStatus) : Projection :=
  { p with thread := p.thread.map fun thread =>
      Thread.updateTurn thread turnId fun turn => { turn with status } }

/-- The checks both provenance events make of the Thread they follow. -/
def isFreshThread (thread : Thread) : Bool :=
  thread.lineage.isNone && thread.importOrigin.isNone && thread.name.isNone &&
    thread.turns.isEmpty && thread.checkpoints.isEmpty

/-- One event of `apply_events`. -/
def applyEvent [Sha256] (p : Projection) (stored : StoredEvent) :
    Except HarnessError Projection := do
  validateStoredSchema stored
  match stored.event with
  | .threadCreated createdAtMs tenantId => do
    rejectIf p.thread.isSome (.state "thread has multiple creation events")
    (validateTenant tenantId).mapError HarnessError.asState
    .ok { p with thread := some ⟨stored.threadId, tenantId, none, none, none, createdAtMs, [], []⟩ }
  | .threadNamed name => do
    validateThreadName name
    let thread ← projectionThread p
    .ok { p with thread := some { thread with name } }
  | .threadForked lineage => do
    validateThreadLineage lineage
    rejectIf (lineage.parentThreadId == stored.threadId)
      (.state "Thread cannot be forked from itself")
    let thread ← projectionThread p
    rejectIf (!isFreshThread thread)
      (.state "Thread fork lineage must immediately follow creation")
    .ok { p with thread := some { thread with lineage := some lineage } }
  | .threadImported origin => do
    validateThreadImportOrigin origin
    let thread ← projectionThread p
    rejectIf (!isFreshThread thread)
      (.state "Thread import provenance must immediately follow creation")
    .ok { p with thread := some { thread with importOrigin := some origin } }
  | .turnStarted turnId => do
    rejectIf (decide (turnId ∈ p.turnIds)) (.state s!"duplicate turn {turnId}")
    let thread ← projectionThread p
    rejectIf (thread.turns.any fun turn => turn.status == .running)
      (.state "thread contains overlapping running turns")
    let turn : Turn := ⟨turnId, stored.threadId, .running, [], none⟩
    .ok { p with
      turnIds := p.turnIds ++ [turnId]
      thread := some { thread with turns := thread.turns ++ [turn] } }
  | .itemAppended turnId item => appendProjectedItems p turnId [item]
  | .toolCallsAppended turnId calls => appendProjectedItems p turnId calls
  | .waitStarted turnId approvalRequested transition => do
    let next ← appendProjectedItems p turnId [approvalRequested, transition]
    let _ ← projectedExecution next turnId "wait references unknown Turn"
    .ok next
  | .acceptResume turnId approvalDecision transition => do
    let next ← appendProjectedItems p turnId [approvalDecision, transition]
    let _ ← projectedExecution next turnId "resume references unknown Turn"
    .ok next
  | .claimReady turnId transition => do
    let next ← appendProjectedItems p turnId [transition]
    let _ ← projectedExecution next turnId "claim references unknown Turn"
    .ok next
  | .waitClosed turnId stopped transition status => do
    let next ← appendProjectedItems p turnId [stopped, transition]
    let execution ← projectedExecution next turnId
      s!"wait closure references unknown turn {turnId}"
    rejectIf execution.isSome
      (.state s!"wait closure did not close turn {turnId} execution")
    .ok (next.setStatus turnId status)
  | .denyWait turnId approvalDecision transition => do
    let next ← appendProjectedItems p turnId [approvalDecision, transition]
    let execution ← projectedExecution next turnId
      s!"wait denial references unknown turn {turnId}"
    rejectIf execution.isSome
      (.state s!"wait denial did not close turn {turnId} execution")
    .ok (next.setStatus turnId .failed)
  | .turnFinished turnId status => do
    rejectIf (status == .running) (.state "turn finish event contains running status")
    let thread ← projectionThread p
    let turn ← orError (.state s!"finish references unknown turn {turnId}")
      (findTurn thread.turns turnId)
    rejectIf (turn.status != .running)
      (.state s!"turn {turnId} has multiple terminal events")
    let execution ← agentLoopExecutionProjection turn
    rejectIf (execution.any AgentLoopExecution.isOpen)
      (.state s!"cannot finish turn {turnId} with an open Waiting or Ready execution")
    .ok (p.setStatus turnId status)
  | .turnCompleted turnId receipt => do
    let thread ← projectionThread p
    let turn ← orError (.state s!"completion references unknown turn {turnId}")
      (findTurn thread.turns turnId)
    rejectIf (turn.status != .running)
      (.state s!"turn {turnId} has multiple terminal events")
    let steering ← hasPendingSteering turn
    rejectIf steering
      (.state s!"cannot complete turn {turnId} with unapplied steering")
    let execution ← agentLoopExecutionProjection turn
    rejectIf (execution.any AgentLoopExecution.isOpen)
      (.state s!"cannot complete turn {turnId} with an open Waiting or Ready execution")
    let completed := { turn with completionReceipt := some receipt, status := .completed }
    validateProjectedCompletionPlacement thread completed receipt
    .ok { p with thread := some (Thread.updateTurn thread turnId fun _ => completed) }
  | .checkpointCreated checkpoint => do
    rejectIf (decide (checkpoint.id ∈ p.checkpointIds))
      (.state s!"duplicate checkpoint {checkpoint.id}")
    let thread ← projectionThread p
    rejectIf (checkpoint.threadId != stored.threadId)
      (.state "checkpoint thread does not match event thread")
    rejectIf (decide (stored.sequence ≤ checkpoint.targetSequence))
      (.state "checkpoint target must precede its event")
    .ok { p with
      checkpointIds := p.checkpointIds ++ [checkpoint.id]
      thread := some { thread with checkpoints := thread.checkpoints ++ [checkpoint] } }

/-- The loop of `apply_events`. -/
def foldEvents [Sha256] (p : Projection) (events : List StoredEvent) :
    Except HarnessError Projection :=
  events.foldlM applyEvent p

/-- `apply_events`. -/
def applyEvents [Sha256] (thread : Option Thread) (events : List StoredEvent) :
    Except HarnessError (Option Thread) := do
  let p ← foldEvents (.seed thread) events
  checkSome validateHistory p.thread
  .ok p.thread

/-- `project_events`. -/
def projectEvents [Sha256] (events : List StoredEvent) : Except HarnessError (Option Thread) :=
  applyEvents none events

end YHarness.State

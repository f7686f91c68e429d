/-
# YHarness.Runtime.World -- what an execution calls and the world that answers

An execution of a Turn is a task over atomic calls: reads and commits of State,
the Turn-control lock, the cancellation token and the capabilities (Models,
Tools, policy, approvals, verifiers, context).  `World` is one Thread as State
holds it with the Runtime's own records of it; `World.Executes` says what a call
may answer and how it changes the world.  Capabilities may answer anything.

A committed event is checked as `validate_pending_event` and the Event Store
check it.  Reading a Thread back is taken to succeed, and the store's row of the
open wait, which only repeats the Items, is left out.
-/
import YHarness.Runtime.Progress
import YHarness.Runtime.Evidence
import YHarness.State.Scan
import YHarness.State.Store
import YHarness.Lib.Rely

namespace YHarness.Runtime

open YHarness.Lib YHarness.Kernel
open YHarness.State (validatePendingEvent validateStreamVersion validateStreamRecoveryBytes
  carriedItems closingStatus stateThreadEventLimit stateTerminalEventReserve)

set_option autoImplicit false

/-! ## Capabilities -/

/-- What a Tool returns: its output and the evidence it claims. -/
structure ToolEvidence where
  output : Json
  claims : List ConnectorEvidenceClaim

structure ToolInvocation where
  call : ModelToolCall
  origin : CapabilityOrigin
  authority : AuthorityContext

structure VerificationRequest where
  threadId : ThreadId
  turnId : TurnId
  items : List Item
  candidate : String

inductive ModelAttemptOutcome where
  | settled (result : Except HarnessError ModelResponse)
  | cancelled
  | deadlineElapsed
  | panicked

structure ModelAttemptReply where
  outcome : ModelAttemptOutcome
  delivered : Nat

/-- The capabilities an execution uses.  `ownDeadline` says that the deadline of
a Model attempt is the attempt's own and not the Turn's. -/
inductive CapabilityCall where
  | compileConversationSummary (conversation : ConversationContext) (prompt : String)
  | compile (prompt : String) (memoryScope : MemoryScope)
  | completeModel (modelId : String) (request : ModelRequest) (ownDeadline : Bool)
  | sleep (delayMs : Nat) (ownDeadline : Bool)
  | authorize (authorization : ToolAuthorization) (authority : AuthorityContext)
  | decideApproval (request : ApprovalRequest) (authority : AuthorityContext)
  | executeTool (invocation : ToolInvocation)
  | executeTools (invocations : List ToolInvocation)
  | verify (verifier : String) (request : VerificationRequest)
  | submitWait (request : ApprovalRequest) (authority : AuthorityContext)
  | getWait (approvalId : ApprovalId) (authority : AuthorityContext)
  | abandonTurn (reason : String) (authority : AuthorityContext)

abbrev CapabilityReply : CapabilityCall → Type
  | .compileConversationSummary _ _ => Except HarnessError (Option ContextBlock)
  | .compile _ _ => Except HarnessError ContextCompilation
  | .completeModel _ _ _ => ModelAttemptReply
  | .sleep _ _ => Except HarnessError Unit
  | .authorize _ _ => Except HarnessError PolicyDecision
  | .decideApproval _ _ => Except HarnessError ApprovalDecision
  | .executeTool _ => Except HarnessError ToolEvidence
  | .executeTools _ => Option (List (Except HarnessError ToolEvidence))
  | .verify _ _ => Except HarnessError VerificationOutcome
  | .submitWait _ _ => Except HarnessError ApprovalRecord
  | .getWait _ _ => Except HarnessError (Option ApprovalRecord)
  | .abandonTurn _ _ => Except HarnessError Unit

def validateToolOutput (output : Json) : Except HarnessError Unit :=
  validateRuntimeJson "tool output" output maxToolOutputBytes .tool

/-- The stop an error stands for. -/
def stopOf : HarnessError → Option TurnStopReason
  | .cancelled _ => some .cancelled
  | .timedOut _ => some .timedOut
  | _ => none

def failedSettlement (callId : String) (error : HarnessError) : ToolCallSettlement where
  callId := callId
  output := .obj [("error", .str (boundedRuntimeError error.display))]
  isError := true
  connectorEvidence := []

/-- What `invoke_tool_capability` makes of a Tool's result: only a stop and
unbindable evidence end the Turn. -/
def settleTool [Sha256] (invocation : ToolInvocation) :
    Except HarnessError ToolEvidence → Except HarnessError ToolCallSettlement
  | .ok evidence =>
    match validateToolOutput evidence.output with
    | .error error => .ok (failedSettlement invocation.call.callId error)
    | .ok () => do
      let outputSha256 ← (boundedSerializedSha256 evidence.output maxToolOutputBytes).mapError
        fun _ => .tool "cannot digest validated Tool output"
      let connectorEvidence ← evidence.claims.mapM fun claim => do
        let bound : ConnectorEvidence := ⟨invocation.call.name, invocation.origin,
          invocation.authority, outputSha256, claim⟩
        bound.validate
        .ok bound
      .ok { callId := invocation.call.callId
            output := evidence.output
            isError := false
            connectorEvidence }
  | .error error =>
    if (stopOf error).isSome then .error error
    else .ok (failedSettlement invocation.call.callId error)

/-- The failure a group of Tools ends with. -/
def firstFailure {α : Type} : List (Except HarnessError α) → Option HarnessError
  | [] => none
  | .ok _ :: results => firstFailure results
  | .error error :: _ => some error

/-! ## Calls -/

/-- Where the cancellation token is read outside a capability. -/
inductive CancellationPoint where
  | preStep | waitStart | resume

/-- Whether a capability serves the loop or the preparation of a resume. -/
inductive Site where
  | loop | preparation

/-- The operations that take the Turn-control lock. -/
inductive LockedOperation where
  | steer
  | record
  | applySteering
  | supersede
  | decide
  | verify
  | complete (turn : Turn)
  | govern
  | startWait
  | settle
  | exhaust

structure InboxTombstone where
  reason : InboxTombstoneReason
  tombstonedAtMs : UInt64

/-- The atomic calls.  `limit` is the deadline of the Turn a reading of the clock
is held against. -/
inductive RuntimeCall where
  | loadThread
  | loadEvents
  | loadProjection
  | streamHead (refresh : Bool)
  | requireCapacity
  | commit (eventId : EventId) (recordedAtMs : UInt64) (event : StateEvent)
  | stamp
  | now
  | instant (limit : Option Nat)
  | claimThread
  | registerControl (control : ActiveTurnControl)
  | release
  | lock (operation : LockedOperation)
  | unlock (control : ActiveTurnControl)
  | acceptsWork
  | isCancelled (point : CancellationPoint)
  | coolingModels
  | invoke (site : Site) (capability : CapabilityCall) (deadline : Option Nat)
  | lookupTombstone (key : String)
  | recordTombstone (key : String) (reason : InboxTombstoneReason) (atMs : UInt64)
  | enqueueRepairOp (waitId : String)

/-- The Turns of a Thread as a stream head knows them. -/
structure HeadView where
  turns : List TurnId
  running : Option TurnId

/-- A generated identity and the time it was made. -/
structure Stamp where
  id : String
  atMs : UInt64

abbrev RuntimeReply : RuntimeCall → Type
  | .loadThread | .loadEvents | .loadProjection => List Turn
  | .streamHead _ => HeadView
  | .requireCapacity => Except HarnessError Unit
  | .commit _ _ _ => Except HarnessError Unit
  | .stamp => Stamp
  | .now => UInt64
  | .instant _ => Nat
  | .claimThread => Except HarnessError Unit
  | .registerControl _ => Except HarnessError Unit
  | .release => Unit
  | .lock _ => Except HarnessError ActiveTurnControl
  | .unlock _ => Unit
  | .acceptsWork => Bool
  | .isCancelled _ => Bool
  | .coolingModels => List String
  | .invoke _ capability _ => CapabilityReply capability
  | .lookupTombstone _ => Option InboxTombstone
  | .recordTombstone _ _ _ => Unit
  | .enqueueRepairOp _ => Unit

abbrev RuntimeM (α : Type) : Type := TryTask RuntimeCall RuntimeReply HarnessError α

def ask (c : RuntimeCall) : RuntimeM (RuntimeReply c) := TryTask.call c

def check {α : Type} (outcome : Except HarnessError α) : RuntimeM α := TryTask.check outcome

/-! ## The world -/

/-- The Thread an execution works on, as State created it. -/
structure StoredThread where
  id : ThreadId
  tenantId : Option String
  durableInbox : Bool

/-- Stream version and recovery bytes. -/
abbrev Coordinates := Nat × Nat

/-- What a run has shown so far. -/
structure Monitor where
  /-- The first stop a capability of the loop reported. -/
  observed : Option TurnStopReason
  /-- A step boundary found the token set or the Runtime not accepting work. -/
  boundaryStop : Bool
  /-- Abandoning an approval that ended without a settlement failed. -/
  abandonFailed : Bool
  /-- A Tool result was rejected after a stop was reported. -/
  resultLost : Bool
  /-- The loop raised `MaxSteps`. -/
  exhausted : Bool
  modelSteps : Nat
  receipts : List SteeringReceipt

def Monitor.start : Monitor := ⟨none, false, false, false, false, 0, []⟩

/-- One Thread: the settled Turns and the latest one, the coordinates of its
stream, the head the engine cached, the head the execution read last, and the
Runtime's records of it. -/
structure World where
  earlier : List Turn
  current : Option Turn
  version : Nat
  recoveryBytes : Nat
  cached : Option Coordinates
  held : Option Coordinates
  eventIds : List EventId
  usedIds : List String
  tombstones : List (String × InboxTombstone)
  claimed : Bool
  control : Option ActiveTurnControl
  locked : Bool
  cancelled : Bool
  acceptsWork : Bool
  seen : Monitor

namespace World

def turns (w : World) : List Turn :=
  w.earlier ++ w.current.toList

def coordinates (w : World) : Coordinates :=
  (w.version, w.recoveryBytes)

/-- The Thread as a head shows it. -/
def headView (w : World) : HeadView where
  turns := w.turns.map (·.id)
  running := (w.turns.find? fun turn => turn.status == .running).map (·.id)

/-- The Turn after an event that concerns it. -/
def storedTurn (turn : Turn) (event : StateEvent) : Turn :=
  match event with
  | .turnCompleted turnId receipt =>
    if turnId = turn.id then
      { turn with status := .completed, completionReceipt := some receipt }
    else turn
  | .turnFinished turnId status =>
    if turnId = turn.id then { turn with status } else turn
  | event =>
    match carriedItems event with
    | some (turnId, items) =>
      if turnId = turn.id then
        { turn with
          items := turn.items ++ items
          status := (closingStatus event).getD turn.status }
      else turn
    | none => turn

/-- The Turns after an event. -/
def store (w : World) (threadId : ThreadId) : StateEvent → World
  | .turnStarted turnId =>
    { w with
      earlier := w.earlier ++ w.current.toList
      current := some ⟨turnId, threadId, .running, [], none⟩ }
  | event => { w with current := w.current.map (storedTurn · event) }

/-- The coordinates an event moves the stream to. -/
def advance (w : World) (eventId : EventId) (charge : Nat) : World :=
  { w with
    version := w.version + 1
    recoveryBytes := w.recoveryBytes + charge
    cached := if w.cached = some w.coordinates then
        some (w.version + 1, w.recoveryBytes + charge)
      else w.cached
    eventIds := eventId :: w.eventIds }

variable [Sha256]

/-- `commit_pending` against the head that was read. -/
def commit (w : World) (thread : StoredThread) (eventId : EventId) (recordedAtMs : UInt64)
    (event : StateEvent) : Except HarnessError World := do
  let head := w.held.getD (0, 0)
  let pending : PendingEvent := ⟨eventId, thread.id, head.1, head.2, recordedAtMs, event⟩
  let charge ← validatePendingEvent pending
  rejectIf (decide (eventId ∈ w.eventIds))
    (.state s!"event id {eventId} was reused with different content")
  validateStreamVersion w.version pending
  validateStreamRecoveryBytes w.recoveryBytes pending
  .ok ((w.store thread.id event).advance eventId charge)

/-- `invalidate_head` after a conflict. -/
def invalidate (w : World) : World :=
  { w with cached := if w.cached.any fun cached => decide (cached.1 ≤ (w.held.getD (0, 0)).1) then
      none else w.cached }

def isConflict : HarnessError → Bool
  | .stateConflict _ _ _ => true
  | _ => false

/-- `cache_head`: a head is never replaced by an older one. -/
def cacheHead (w : World) : World :=
  { w with
    cached := if w.cached.all fun cached => decide (cached.1 ≤ w.version) then
        some w.coordinates
      else w.cached }

/-- `require_runtime_capacity`. -/
def capacityCheck (w : World) : Except HarnessError Unit :=
  let remaining := stateThreadEventLimit - stateTerminalEventReserve - w.version
  rejectIf (decide (remaining < minRuntimeGeneralEvents))
    (.state (s!"Thread needs at least {minRuntimeGeneralEvents} general-purpose events for " ++
      s!"Runtime execution; {remaining} remain"))

/-! ## What a run shows -/

/-- The stop a capability of the loop reports. -/
def observedIn : (c : CapabilityCall) → CapabilityReply c → Option TurnStopReason
  | .compileConversationSummary _ _, .error error => stopOf error
  | .compile _ _, .error error => stopOf error
  | .authorize _ _, .error error => stopOf error
  | .decideApproval _ _, .error error => stopOf error
  | .verify _ _, .error error => stopOf error
  | .completeModel _ _ ownDeadline, reply =>
    match reply.outcome with
    | .cancelled => some .cancelled
    | .deadlineElapsed => if ownDeadline then none else some .timedOut
    | _ => none
  | .sleep _ ownDeadline, .error error =>
    if ownDeadline && stopOf error == some .timedOut then none else stopOf error
  | .executeTool invocation, reply =>
    match settleTool invocation reply with
    | .error error => stopOf error
    | .ok _ => none
  | .executeTools invocations, some replies =>
    (firstFailure (List.zipWith settleTool invocations replies)).bind stopOf
  | _, _ => none

def isModelStep : (c : CapabilityCall) → CapabilityReply c → Bool
  | .completeModel _ _ _, reply =>
    match reply.outcome with
    | .settled (.ok response) => (validateModelResponse response).toBool
    | _ => false
  | _, _ => false

def abandonmentFails : (c : CapabilityCall) → CapabilityReply c → Bool
  | .abandonTurn _ _, .error _ => true
  | _, _ => false

def isToolResult (event : StateEvent) : Bool :=
  match event with
  | .itemAppended _ ⟨_, _, .toolResult _ _ _ _⟩ => true
  | _ => false

/-- What a call and its answer add to the monitor. -/
def note (m : Monitor) : (c : RuntimeCall) → RuntimeReply c → Monitor
  | .invoke .loop capability _, reply =>
    { m with
      observed := m.observed.or (observedIn capability reply)
      abandonFailed := m.abandonFailed || abandonmentFails capability reply
      modelSteps := if isModelStep capability reply then m.modelSteps + 1 else m.modelSteps }
  | .instant (some deadline), now =>
    if deadline ≤ now then { m with observed := m.observed.or (some .timedOut) } else m
  | .lock .exhaust, _ => { m with exhausted := true }
  | .isCancelled .waitStart, true => { m with observed := m.observed.or (some .cancelled) }
  | .isCancelled .preStep, true => { m with boundaryStop := true }
  | .acceptsWork, false => { m with boundaryStop := true }
  | .commit _ _ event, .error _ =>
    { m with resultLost := m.resultLost || (m.observed.isSome && isToolResult event) }
  | _, _ => m

/-! ## Answers -/

/-- What a call changes, with the answer it gives. -/
def Effect (thread : StoredThread) (w : World) :
    (c : RuntimeCall) → RuntimeReply c → World → Prop
  | .loadThread, turns, v => turns = w.turns ∧ v = w.cacheHead
  | .loadEvents, turns, v => turns = w.turns ∧ v = w
  | .loadProjection, turns, v => turns = w.turns ∧ v = { w with held := some w.coordinates }
  | .streamHead refresh, view, v => view = w.headView ∧
      v = if refresh then { w.cacheHead with held := some w.coordinates }
        else { w with
          cached := some (w.cached.getD w.coordinates)
          held := some (w.cached.getD w.coordinates) }
  | .requireCapacity, outcome, v => outcome = w.capacityCheck ∧ v = w.cacheHead
  | .commit eventId recordedAtMs event, .ok (), v =>
    w.commit thread eventId recordedAtMs event = .ok v
  | .commit eventId recordedAtMs event, .error error, v =>
    w.commit thread eventId recordedAtMs event = .error error ∧
      v = if isConflict error then w.invalidate else w
  | .stamp, stamp, v => stamp.id ∉ w.usedIds ∧ State.validateStateId "id" stamp.id = .ok () ∧
      v = { w with usedIds := stamp.id :: w.usedIds }
  | .now, _, v | .instant _, _, v | .coolingModels, _, v | .enqueueRepairOp _, _, v => v = w
  | .claimThread, .ok (), v => w.claimed = false ∧ v = { w with claimed := true }
  | .claimThread, .error error, v => v = w ∧
      ((w.claimed = true ∧
          error = .state s!"thread {thread.id} already has an active turn") ∨
        ∃ limit, error = .runtimeOverloaded limit)
  | .registerControl control, .ok (), v => w.control = none ∧
      v = { w with control := some control }
  | .registerControl _, .error error, v => w.control ≠ none ∧ v = w ∧
      error = .state s!"thread {thread.id} already has an active Turn control"
  | .release, _, v => v = { w with control := none, claimed := false }
  | .lock _, .ok control, v => w.locked = false ∧ w.control = some control ∧
      v = { w with locked := true }
  | .lock _, .error error, v => w.control = none ∧ v = w ∧
      error = .state s!"thread {thread.id} has no active steerable Turn"
  | .unlock control, _, v => v = { w with control := some control, locked := false }
  | .acceptsWork, accepts, v => accepts = w.acceptsWork ∧ v = w
  | .isCancelled _, cancelled, v => cancelled = w.cancelled ∧ v = w
  | .invoke _ _ _, _, v => v = w
  | .lookupTombstone key, found, v => v = w ∧
      found = if thread.durableInbox then w.tombstones.lookup key else none
  | .recordTombstone key reason atMs, _, v =>
    v = { w with tombstones := if thread.durableInbox then (key, ⟨reason, atMs⟩) :: w.tombstones
      else w.tombstones }

/-- One call: its effect, seen by the monitor. -/
def Executes (thread : StoredThread) (w : World) (c : RuntimeCall) (reply : RuntimeReply c)
    (w' : World) : Prop :=
  ∃ v, Effect thread w c reply v ∧ w' = { v with seen := note w.seen c reply }

end World

end YHarness.Runtime

/-
# YHarness.Workflow.Types -- the records of a Workflow Run

The data types of `src/workflow/mod.rs`, the JSON that their derived `Serialize`
writes, and the checks of single values.  A Run keeps the exact definition it
executes, the Task Graph it coordinates, its status, and the transitions that led
there; a command asks for one more transition.

The type of versions is a parameter: `semver::Version` comes from a crate outside
the repository.
-/
import Mathlib.Order.Defs.LinearOrder
import YHarness.Lib.Ledger
import YHarness.Kernel.Sizes

namespace YHarness.Workflow

open YHarness.Lib YHarness.Kernel

set_option autoImplicit false

/-- What the repository uses of `semver::Version`: a total order, and the text a
version is written as. -/
class SemVer (V : Type) extends LinearOrder V where
  display : V → String

abbrev WorkflowCommandId := String
abbrev WorkflowSignalId := String
abbrev WorkflowWaitId := String

def maxWorkflowWorkTransitions : Nat := 4096
def workflowSettlementTransitionReserve : Nat := 2
def maxWorkflowTransitions : Nat :=
  maxWorkflowWorkTransitions + workflowSettlementTransitionReserve
def maxWorkflowWorkJsonBytes : Nat := 16777216
def maxWorkflowCommandJsonBytes : Nat := 131072
def maxWorkflowTextBytes : Nat := 65536
def maxWorkflowIdempotencyBytes : Nat := 256
def workflowSettlementJsonByteReserve : Nat := maxWorkflowCommandJsonBytes * 2 + 16384
def maxWorkflowJsonBytes : Nat := maxWorkflowWorkJsonBytes + workflowSettlementJsonByteReserve

inductive WorkflowCapacityClass where
  | work | settlement
deriving DecidableEq

/-! ## Records -/

structure WorkflowDefinition (V : Type) where
  name : String
  version : V
  contentSha256 : String
deriving DecidableEq

structure WorkflowCreateRequest (V : Type) where
  commandId : WorkflowCommandId
  definition : WorkflowDefinition V
  taskGraphId : TaskGraphId

inductive WorkflowWait where
  | signal (id : WorkflowWaitId) (name source : String) (expiresAtMs : Option UInt64)
  | timer (id : WorkflowWaitId) (dueAtMs : UInt64)
  | retry (id : WorkflowWaitId) (activity : String) (attempt : UInt32) (dueAtMs : UInt64)
      (idempotencyKey : String)
deriving DecidableEq

/-- The fencing identity shared by all waits. -/
def WorkflowWait.id : WorkflowWait → WorkflowWaitId
  | signal id _ _ _ | timer id _ | retry id _ _ _ _ => id

inductive WorkflowStatus where
  | running
  | waiting (wait : WorkflowWait)
  | completed (summary : String)
  | failed (reason : String)
  | cancelled (reason : String)
deriving DecidableEq

namespace WorkflowStatus

/-- No later command may change this status. -/
def isTerminal : WorkflowStatus → Bool
  | completed _ | failed _ | cancelled _ => true
  | _ => false

def isWaiting : WorkflowStatus → Bool
  | waiting _ => true
  | _ => false

end WorkflowStatus

inductive WorkflowCommandKind (V : Type) where
  | waitForSignal (waitId : WorkflowWaitId) (name source : String) (expiresAtMs : Option UInt64)
  | waitUntil (waitId : WorkflowWaitId) (dueAtMs : UInt64)
  | scheduleRetry (waitId : WorkflowWaitId) (activity : String) (attempt : UInt32)
      (dueAtMs : UInt64) (idempotencyKey : String)
  | deliverSignal (waitId : WorkflowWaitId) (signalId : WorkflowSignalId) (name source : String)
      (idempotencyKey : String)
  | wakeDue (waitId : WorkflowWaitId)
  | migrateDefinition (definition : WorkflowDefinition V)
  | complete (summary : String)
  | fail (reason : String)
  | cancel (reason : String)

def WorkflowCommandKind.capacityClass {V : Type} :
    WorkflowCommandKind V → WorkflowCapacityClass
  | deliverSignal .. | wakeDue _ | complete _ | fail _ | cancel _ => .settlement
  | waitForSignal .. | waitUntil .. | scheduleRetry .. | migrateDefinition _ => .work

structure WorkflowCommand (V : Type) where
  id : WorkflowCommandId
  kind : WorkflowCommandKind V

inductive WorkflowWakeReason where
  | signalTimeout | timer | retry
deriving DecidableEq

inductive WorkflowTransitionKind (V : Type) where
  | created (definition : WorkflowDefinition V) (taskGraphId : TaskGraphId)
  | waitStarted (wait : WorkflowWait)
  | signalDelivered (waitId : WorkflowWaitId) (signalId : WorkflowSignalId) (name source : String)
      (idempotencyKey : String)
  | waitDue (waitId : WorkflowWaitId) (reason : WorkflowWakeReason)
  | definitionMigrated (old new : WorkflowDefinition V)
  | completed (summary : String)
  | failed (reason : String)
  | cancelled (reason : String)
deriving DecidableEq

def WorkflowTransitionKind.capacityClass {V : Type} :
    WorkflowTransitionKind V → WorkflowCapacityClass
  | signalDelivered .. | waitDue .. | completed _ | failed _ | cancelled _ => .settlement
  | created .. | waitStarted _ | definitionMigrated .. => .work

structure WorkflowTransition (V : Type) where
  sequence : UInt64
  commandId : WorkflowCommandId
  commandSha256 : String
  appliedAtMs : UInt64
  actor : ActorIdentity
  kind : WorkflowTransitionKind V
deriving DecidableEq

inductive WorkflowApplyOutcome where
  | applied | duplicate
deriving DecidableEq

structure WorkflowRun (V : Type) where
  definition : WorkflowDefinition V
  taskGraphId : TaskGraphId
  status : WorkflowStatus
  transitions : List (WorkflowTransition V)
  materializationChargeBytes : Nat
deriving DecidableEq

/-! ## Encodings -/

def WorkflowWait.toJson : WorkflowWait → Json
  | signal id name source expiresAtMs =>
    .obj [("kind", .str "signal"), ("id", .str id), ("name", .str name),
      ("source", .str source), ("expires_at_ms", nullable jsonU64 expiresAtMs)]
  | timer id dueAtMs =>
    .obj [("kind", .str "timer"), ("id", .str id), ("due_at_ms", jsonU64 dueAtMs)]
  | retry id activity attempt dueAtMs idempotencyKey =>
    .obj [("kind", .str "retry"), ("id", .str id), ("activity", .str activity),
      ("attempt", jsonU32 attempt), ("due_at_ms", jsonU64 dueAtMs),
      ("idempotency_key", .str idempotencyKey)]

def WorkflowStatus.toJson : WorkflowStatus → Json
  | running => .obj [("status", .str "running")]
  | waiting wait => .obj [("status", .str "waiting"), ("wait", wait.toJson)]
  | completed summary => .obj [("status", .str "completed"), ("summary", .str summary)]
  | failed reason => .obj [("status", .str "failed"), ("reason", .str reason)]
  | cancelled reason => .obj [("status", .str "cancelled"), ("reason", .str reason)]

def WorkflowWakeReason.toJson : WorkflowWakeReason → Json
  | signalTimeout => .str "signal_timeout"
  | timer => .str "timer"
  | retry => .str "retry"

section Encodings

variable {V : Type} [SemVer V]

def WorkflowDefinition.toJson (d : WorkflowDefinition V) : Json :=
  .obj [("name", .str d.name), ("version", .str (SemVer.display d.version)),
    ("content_sha256", .str d.contentSha256)]

def WorkflowCreateRequest.toJson (r : WorkflowCreateRequest V) : Json :=
  .obj [("command_id", .str r.commandId), ("definition", r.definition.toJson),
    ("task_graph_id", .str r.taskGraphId)]

def WorkflowCommandKind.toJson : WorkflowCommandKind V → Json
  | waitForSignal waitId name source expiresAtMs =>
    .obj [("action", .str "wait_for_signal"), ("wait_id", .str waitId), ("name", .str name),
      ("source", .str source), ("expires_at_ms", nullable jsonU64 expiresAtMs)]
  | waitUntil waitId dueAtMs =>
    .obj [("action", .str "wait_until"), ("wait_id", .str waitId),
      ("due_at_ms", jsonU64 dueAtMs)]
  | scheduleRetry waitId activity attempt dueAtMs idempotencyKey =>
    .obj [("action", .str "schedule_retry"), ("wait_id", .str waitId),
      ("activity", .str activity), ("attempt", jsonU32 attempt),
      ("due_at_ms", jsonU64 dueAtMs), ("idempotency_key", .str idempotencyKey)]
  | deliverSignal waitId signalId name source idempotencyKey =>
    .obj [("action", .str "deliver_signal"), ("wait_id", .str waitId),
      ("signal_id", .str signalId), ("name", .str name), ("source", .str source),
      ("idempotency_key", .str idempotencyKey)]
  | wakeDue waitId => .obj [("action", .str "wake_due"), ("wait_id", .str waitId)]
  | migrateDefinition definition =>
    .obj [("action", .str "migrate_definition"), ("definition", definition.toJson)]
  | complete summary => .obj [("action", .str "complete"), ("summary", .str summary)]
  | fail reason => .obj [("action", .str "fail"), ("reason", .str reason)]
  | cancel reason => .obj [("action", .str "cancel"), ("reason", .str reason)]

def WorkflowCommand.toJson (c : WorkflowCommand V) : Json :=
  .obj [("id", .str c.id), ("kind", c.kind.toJson)]

def WorkflowTransitionKind.toJson : WorkflowTransitionKind V → Json
  | created definition taskGraphId =>
    .obj [("event", .str "created"), ("definition", definition.toJson),
      ("task_graph_id", .str taskGraphId)]
  | waitStarted wait => .obj [("event", .str "wait_started"), ("wait", wait.toJson)]
  | signalDelivered waitId signalId name source idempotencyKey =>
    .obj [("event", .str "signal_delivered"), ("wait_id", .str waitId),
      ("signal_id", .str signalId), ("name", .str name), ("source", .str source),
      ("idempotency_key", .str idempotencyKey)]
  | waitDue waitId reason =>
    .obj [("event", .str "wait_due"), ("wait_id", .str waitId), ("reason", reason.toJson)]
  | definitionMigrated old new =>
    .obj [("event", .str "definition_migrated"), ("from", old.toJson), ("to", new.toJson)]
  | completed summary => .obj [("event", .str "completed"), ("summary", .str summary)]
  | failed reason => .obj [("event", .str "failed"), ("reason", .str reason)]
  | cancelled reason => .obj [("event", .str "cancelled"), ("reason", .str reason)]

def WorkflowTransition.toJson (t : WorkflowTransition V) : Json :=
  .obj [("sequence", jsonU64 t.sequence), ("command_id", .str t.commandId),
    ("command_sha256", .str t.commandSha256), ("applied_at_ms", jsonU64 t.appliedAtMs),
    ("actor", t.actor.toJson), ("kind", t.kind.toJson)]

/-- The charge of a Run is not written. -/
def WorkflowRun.toJson (run : WorkflowRun V) : Json :=
  .obj [("definition", run.definition.toJson), ("task_graph_id", .str run.taskGraphId),
    ("status", run.status.toJson),
    ("transitions", .arr (run.transitions.map WorkflowTransition.toJson))]

end Encodings

/-! ## Checks of single values -/

def validateIdentity (kind value : String) : Except HarnessError Unit :=
  rejectIf (isBlank value || decide (maxWorkflowIdempotencyBytes < value.utf8ByteSize) ||
      hasControl value)
    (.workflow s!"{kind} identity must be 1-{maxWorkflowIdempotencyBytes} non-control bytes")

def validateIdempotencyKey (kind value : String) : Except HarnessError Unit :=
  rejectIf (isBlank value || decide (maxWorkflowIdempotencyBytes < value.utf8ByteSize) ||
      hasControl value)
    (.workflow
      s!"{kind} idempotency key must be 1-{maxWorkflowIdempotencyBytes} non-control bytes")

def validateText (kind value : String) : Except HarnessError Unit :=
  rejectIf (isBlank value || decide (maxWorkflowTextBytes < value.utf8ByteSize) ||
      value.toList.any fun c => isControl c && !(c == '\n' || c == '\r' || c == '\t'))
    (.workflow s!"{kind} must be 1-{maxWorkflowTextBytes} bounded text bytes")

def validateDigest (kind value : String) : Except HarnessError Unit :=
  rejectIf (!isLowerSha256 value) (.workflow s!"{kind} digest must be lowercase SHA-256")

def validateApplicationTime (value : UInt64) : Except HarnessError Unit :=
  rejectIf (value == 0) (.workflow "Workflow application time must be positive")

/-- `transition.actor.validate_shape(..)`, mapped to a Workflow error. -/
def validateActorShape (actor : ActorIdentity) : Except HarnessError Unit :=
  ((actor.validateShapeMessage "Workflow transition actor").mapError
    HarnessError.approval).mapError HarnessError.asWorkflow

def validateDefinition {V : Type} (definition : WorkflowDefinition V) :
    Except HarnessError Unit := do
  validateCapabilityName "Workflow definition" definition.name
  validateDigest "Workflow definition" definition.contentSha256

def validateWait (wait : WorkflowWait) : Except HarnessError Unit := do
  validateIdentity "Workflow wait" wait.id
  match wait with
  | .signal _ name source expiresAtMs => do
    validateCapabilityName "Workflow signal" name
    validateCapabilityName "Workflow signal source" source
    rejectIf (expiresAtMs == some 0)
      (.workflow "Workflow signal expiration must be positive")
  | .timer _ dueAtMs =>
    rejectIf (dueAtMs == 0) (.workflow "Workflow timer due time must be positive")
  | .retry _ activity attempt dueAtMs idempotencyKey => do
    validateCapabilityName "Workflow retry activity" activity
    validateIdempotencyKey "Workflow retry" idempotencyKey
    rejectIf (attempt == 0 || dueAtMs == 0)
      (.workflow "Workflow retry attempt and due time must be positive")

/-- Why a wait is due at a time. -/
def dueReason (wait : WorkflowWait) (appliedAtMs : UInt64) :
    Except HarnessError WorkflowWakeReason :=
  match wait with
  | .signal _ _ _ (some expiresAtMs) =>
    if expiresAtMs ≤ appliedAtMs then .ok .signalTimeout
    else .error (.workflow "Workflow wait is not due")
  | .timer _ dueAtMs =>
    if dueAtMs ≤ appliedAtMs then .ok .timer
    else .error (.workflow "Workflow wait is not due")
  | .retry _ _ _ dueAtMs _ =>
    if dueAtMs ≤ appliedAtMs then .ok .retry
    else .error (.workflow "Workflow wait is not due")
  | .signal _ _ _ none => .error (.workflow "signal wait has no due boundary")

/-! ## Capacities -/

def validateTransitionCapacity (currentTransitions : Nat)
    (capacityClass : WorkflowCapacityClass) : Except HarnessError Unit := do
  rejectIf (decide (maxWorkflowTransitions ≤ currentTransitions))
    (.workflow s!"Workflow Run exceeds {maxWorkflowTransitions} transitions")
  rejectIf (capacityClass == .work && decide (maxWorkflowWorkTransitions ≤ currentTransitions))
    (.workflow "Workflow Run has only its settlement transition reserve remaining")

def validateMaterializationCapacity (encodedBytes : Nat)
    (capacityClass : WorkflowCapacityClass) : Except HarnessError Unit := do
  rejectIf (decide (maxWorkflowJsonBytes < encodedBytes))
    (.workflow s!"Workflow Run exceeds {maxWorkflowJsonBytes} encoded bytes")
  rejectIf (capacityClass == .work && decide (maxWorkflowWorkJsonBytes < encodedBytes))
    (.workflow "Workflow Run has only its settlement encoded-byte reserve remaining")

/-- The sequence the next transition must carry. -/
def checkedSequence (count : Nat) : Except HarnessError UInt64 :=
  numberAfter (.workflow "Workflow sequence overflow") count

end YHarness.Workflow

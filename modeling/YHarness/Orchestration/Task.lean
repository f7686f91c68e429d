/-
# YHarness.Orchestration.Task -- Task definitions, statuses and their charges

The records of `src/orchestration/mod.rs` with the validators they pass and the
bytes they are charged.  A lease, a completion, a message and an attempt binding
are charged by their compact encoding; a Task that is still Pending or Running is
charged a reserve on top, so that a terminal reason always fits.
-/
import YHarness.Kernel.Bounds
import YHarness.Lib.OrdMap

namespace YHarness.Orchestration

open YHarness.Lib YHarness.Kernel

set_option autoImplicit false

abbrev TaskId := String
abbrev TaskLeaseId := String
abbrev TaskMessageId := String
abbrev ArtifactId := String

def maxTasks : Nat := 10000
def maxClaimsPerBatch : Nat := 64
def maxTaskCapabilities : Nat := 64
def maxDependenciesPerTask : Nat := 1024
def maxArtifactsPerCompletion : Nat := 1024
def maxMessages : Nat := 100000
def maxTaskAttemptBindings : Nat := 100000
def maxTaskGraphJsonBytes : Nat := 67108864
def taskGraphBaseChargeBytes : Nat := 1024
def activeTaskTerminalReserveBytes : Nat := 1024
def maxTaskTextBytes : Nat := 65536
def maxMessageBytes : Nat := 65536
def maxUriBytes : Nat := 4096

inductive WorkspaceMode where
  | none | isolated | sharedReadOnly
deriving DecidableEq

/-- Execution capabilities of a Task or of a Worker. -/
abbrev TaskCapabilitySet := OrdSet String

structure TaskDefinition where
  id : TaskId
  description : String
  dependencies : OrdSet TaskId
  priority : Int32
  workspace : WorkspaceMode
  requiredCapabilities : TaskCapabilitySet

structure TaskLease where
  id : TaskLeaseId
  owner : String
  attempt : UInt32
  expiresAtMs : UInt64
deriving DecidableEq

structure TaskAttemptBinding where
  taskId : TaskId
  leaseId : TaskLeaseId
  attempt : UInt32
  claimedBy : String
  claimedAtMs : UInt64
  executionBinding : ExecutionBinding

structure TaskArtifact where
  id : ArtifactId
  producer : TaskId
  uri : String
  contentSha256 : String
  mediaType : String
  sizeBytes : UInt64
deriving DecidableEq

structure TaskCompletion where
  summary : String
  artifacts : List TaskArtifact
deriving DecidableEq

inductive TaskStatus where
  | pending
  | running (lease : TaskLease)
  | completed (completion : TaskCompletion)
  | failed (reason : String)
  | cancelled (reason : String)
  | blocked (reason : String)
deriving DecidableEq

namespace TaskStatus

/-- `matches!(status, TaskStatus::Completed { .. })`. -/
def isCompleted : TaskStatus → Bool
  | completed _ => true
  | _ => false

/-- `Failed`, `Cancelled` or `Blocked`: dependents can never run. -/
def isDead : TaskStatus → Bool
  | failed _ | cancelled _ | blocked _ => true
  | _ => false

def isTerminal : TaskStatus → Bool
  | completed _ | failed _ | cancelled _ | blocked _ => true
  | _ => false

/-- A lease that has run out at `nowMs`. -/
def isExpired (nowMs : UInt64) : TaskStatus → Bool
  | running lease => decide (lease.expiresAtMs ≤ nowMs)
  | _ => false

end TaskStatus

structure TaskRecord where
  definition : TaskDefinition
  status : TaskStatus
  attempts : UInt32

structure TaskClaim where
  task : TaskDefinition
  lease : TaskLease
  executionBinding : Option ExecutionBinding

/-- A message `from` one Task `to` another. -/
structure TaskMessage where
  id : TaskMessageId
  sequence : UInt64
  sender : TaskId
  receiver : TaskId
  body : String
  createdAtMs : UInt64

structure TaskMutation where
  id : TaskId
  status : TaskStatus
  attempts : UInt32
  attemptBinding : Option TaskAttemptBinding

/-! ## Encodings -/

def jsonI32 (n : Int32) : Json := .num (toString n.toInt)

def WorkspaceMode.toJson : WorkspaceMode → Json
  | none => .str "none"
  | isolated => .str "isolated"
  | sharedReadOnly => .str "shared_read_only"

def TaskDefinition.toJson (d : TaskDefinition) : Json :=
  .obj ([("id", .str d.id), ("description", .str d.description),
    ("dependencies", .arr (d.dependencies.toList.map .str)), ("priority", jsonI32 d.priority),
    ("workspace", d.workspace.toJson)] ++
    if d.requiredCapabilities.isEmpty then []
    else [("required_capabilities", .arr (d.requiredCapabilities.toList.map .str))])

def TaskLease.toJson (l : TaskLease) : Json :=
  .obj [("id", .str l.id), ("owner", .str l.owner), ("attempt", jsonU32 l.attempt),
    ("expires_at_ms", jsonU64 l.expiresAtMs)]

def TaskAttemptBinding.toJson (e : TaskAttemptBinding) : Json :=
  .obj [("task_id", .str e.taskId), ("lease_id", .str e.leaseId), ("attempt", jsonU32 e.attempt),
    ("claimed_by", .str e.claimedBy), ("claimed_at_ms", jsonU64 e.claimedAtMs),
    ("execution_binding", e.executionBinding.toJson)]

def TaskArtifact.toJson (a : TaskArtifact) : Json :=
  .obj [("id", .str a.id), ("producer", .str a.producer), ("uri", .str a.uri),
    ("content_sha256", .str a.contentSha256), ("media_type", .str a.mediaType),
    ("size_bytes", jsonU64 a.sizeBytes)]

def TaskCompletion.toJson (c : TaskCompletion) : Json :=
  .obj [("summary", .str c.summary), ("artifacts", .arr (c.artifacts.map TaskArtifact.toJson))]

def TaskStatus.toJson : TaskStatus → Json
  | pending => .obj [("status", .str "pending")]
  | running lease => .obj [("status", .str "running"), ("lease", lease.toJson)]
  | completed completion =>
    .obj [("status", .str "completed"), ("completion", completion.toJson)]
  | failed reason => .obj [("status", .str "failed"), ("reason", .str reason)]
  | cancelled reason => .obj [("status", .str "cancelled"), ("reason", .str reason)]
  | blocked reason => .obj [("status", .str "blocked"), ("reason", .str reason)]

def TaskMessage.toJson (m : TaskMessage) : Json :=
  .obj [("id", .str m.id), ("sequence", jsonU64 m.sequence), ("from", .str m.sender),
    ("to", .str m.receiver), ("body", .str m.body), ("created_at_ms", jsonU64 m.createdAtMs)]

/-! ## Charges -/

/-- The first value beyond a 64-bit `usize`. -/
def usizeLimit : Nat := 2 ^ 64

/-- `checked_add` on `usize`. -/
def checkedUsizeAdd (left right : Nat) (overflow : String) : Except HarnessError Nat := do
  rejectIf (decide (usizeLimit ≤ left + right)) (.orchestration overflow)
  .ok (left + right)

def checkedGraphChargeAdd (left right : Nat) : Except HarnessError Nat :=
  checkedUsizeAdd left right "Task Graph charge overflow"

def validateGraphCharge (charge : Nat) : Except HarnessError Unit :=
  rejectIf (decide (maxTaskGraphJsonBytes < charge))
    (.orchestration "Task Graph materialization charge exceeds 67108864 bytes")

/-- The encoding of `(task_id, TaskRecordView)`. -/
def taskRecordJson (taskId : TaskId) (definition : TaskDefinition) (status : TaskStatus)
    (attempts : UInt32) : Json :=
  .arr [.str taskId, .obj [("definition", definition.toJson), ("status", status.toJson),
    ("attempts", jsonU32 attempts)]]

/-- Pending and Running records keep room for a terminal reason. -/
def terminalReserve : TaskStatus → Nat
  | .pending | .running _ => activeTaskTerminalReserveBytes
  | _ => 0

def taskMaterializationChargeParts (taskId : TaskId) (definition : TaskDefinition)
    (status : TaskStatus) (attempts : UInt32) : Except HarnessError Nat :=
  checkedUsizeAdd (taskRecordJson taskId definition status attempts).encodedLen
    (terminalReserve status) "Task charge overflow"

def taskMaterializationCharge (taskId : TaskId) (record : TaskRecord) :
    Except HarnessError Nat :=
  taskMaterializationChargeParts taskId record.definition record.status record.attempts

def messageMaterializationCharge (message : TaskMessage) : Except HarnessError Nat :=
  checkedUsizeAdd message.toJson.encodedLen 1 "Task message charge overflow"

def attemptBindingMaterializationCharge (evidence : TaskAttemptBinding) :
    Except HarnessError Nat :=
  checkedUsizeAdd evidence.toJson.encodedLen 1 "Task binding charge overflow"

/-! ## Validators -/

def validateTaskId (taskId : TaskId) : Except HarnessError Unit :=
  rejectIf (taskId.isEmpty || decide (256 < taskId.utf8ByteSize) || hasControl taskId)
    (.orchestration "Task identity must be 1-256 non-control bytes")

def validateTaskText (field value : String) : Except HarnessError Unit :=
  rejectIf (isBlank value || decide (maxTaskTextBytes < value.utf8ByteSize))
    (.orchestration s!"{field} must be 1-65536 bytes")

namespace TaskCapabilitySet

def validate (capabilities : TaskCapabilitySet) : Except HarnessError Unit := do
  rejectIf (decide (maxTaskCapabilities < capabilities.size))
    (.invalidCapability "Task capability set exceeds 64 entries")
  checkAll (validateCapabilityName "Task execution capability") capabilities.toList

/-- Every required capability is held. -/
def satisfies (held required : TaskCapabilitySet) : Bool :=
  required.toList.all held.contains

end TaskCapabilitySet

def validateTaskDefinition (definition : TaskDefinition) : Except HarnessError Unit := do
  validateTaskId definition.id
  TaskCapabilitySet.validate definition.requiredCapabilities
  rejectIf (decide (maxDependenciesPerTask < definition.dependencies.size))
    (.orchestration s!"Task {definition.id} exceeds 1024 dependencies")
  checkAll validateTaskId definition.dependencies.toList
  validateTaskText "Task description" definition.description

/-- The loop of `validate_completion` over the artifacts. -/
def validateArtifacts (taskId : TaskId) :
    List ArtifactId → List TaskArtifact → Except HarnessError Unit
  | _, [] => .ok ()
  | artifactIds, artifact :: rest => do
    rejectIf (artifact.producer != taskId)
      (.orchestration s!"Artifact {artifact.id} producer does not match Task {taskId}")
    rejectIf (decide (artifact.id ∈ artifactIds))
      (.orchestration s!"duplicate Artifact {artifact.id}")
    rejectIf (isBlank artifact.uri || decide (maxUriBytes < artifact.uri.utf8ByteSize))
      (.orchestration s!"Artifact {artifact.id} URI must be 1-4096 bytes")
    rejectIf (isBlank artifact.mediaType || decide (255 < artifact.mediaType.utf8ByteSize))
      (.orchestration s!"Artifact {artifact.id} media type is invalid")
    rejectIf (!isLowerSha256 artifact.contentSha256)
      (.orchestration s!"Artifact {artifact.id} digest must be lowercase SHA-256")
    validateArtifacts taskId (artifact.id :: artifactIds) rest

def validateCompletion (taskId : TaskId) (completion : TaskCompletion) :
    Except HarnessError Unit := do
  validateTaskText "Task completion summary" completion.summary
  rejectIf (decide (maxArtifactsPerCompletion < completion.artifacts.length))
    (.orchestration "Task completion exceeds 1024 Artifacts")
  validateArtifacts taskId [] completion.artifacts

def validateAttemptBinding (evidence : TaskAttemptBinding) : Except HarnessError Unit := do
  validateTaskId evidence.taskId
  validateCapabilityName "worker" evidence.claimedBy
  rejectIf (evidence.attempt == 0)
    (.orchestration "Task attempt binding number must be positive")
  evidence.executionBinding.validate.mapError fun error =>
    .orchestration ("invalid Task attempt execution binding: " ++ error.display)

end YHarness.Orchestration

/-
# YHarness.Orchestration.Graph -- the Task Graph aggregate

`TaskGraph` of `src/orchestration/mod.rs`: construction from definitions, the
scheduling and settlement operations, and the integrity check a coordinator makes
before it stores or after it loads a graph.  Every operation computes a batch of
Task mutations and hands it to `applyTaskMutations`, which checks the whole batch
before it changes anything, so a failing call leaves the graph as it was.

Identities the source generates (`TaskLeaseId::generate`, `TaskMessageId::generate`)
are arguments here.
-/
import YHarness.Orchestration.Task

namespace YHarness.Orchestration

open YHarness.Lib YHarness.Kernel

set_option autoImplicit false

structure TaskGraph where
  tasks : OrdMap TaskId TaskRecord
  messages : List TaskMessage
  attemptBindings : List TaskAttemptBinding
  nextMessageSequence : UInt64
  materializationChargeBytes : Nat

/-! ## Construction -/

/-- The loop of `TaskGraph::new` over the definitions. -/
def insertDefinitions :
    OrdMap TaskId TaskRecord → List TaskDefinition → Except HarnessError (OrdMap TaskId TaskRecord)
  | tasks, [] => .ok tasks
  | tasks, definition :: rest => do
    validateTaskDefinition definition
    rejectIf (tasks.contains definition.id)
      (.orchestration s!"duplicate Task {definition.id}")
    insertDefinitions (tasks.insert definition.id ⟨definition, .pending, 0⟩) rest

/-- Dependencies name other Tasks of the graph. -/
def checkDependencies (tasks : OrdMap TaskId TaskRecord) (record : TaskRecord) :
    Except HarnessError Unit :=
  checkAll (fun dependency => do
    rejectIf (dependency == record.definition.id)
      (.orchestration s!"Task {record.definition.id} depends on itself")
    rejectIf (!tasks.contains dependency)
      (.orchestration s!"Task {record.definition.id} depends on missing Task {dependency}"))
    record.definition.dependencies.toList

/-- `visit` of `validate_acyclic`.  The source removes an identity from `visiting`
when its visit returns, so `visiting` is the path from the root of the visit;
`visited` grows in the order in which visits end.  A path never repeats a Task,
so `fuel` beyond the number of Tasks is never used up. -/
def visit (tasks : OrdMap TaskId TaskRecord) :
    Nat → TaskId → List TaskId → List TaskId → Except HarnessError (List TaskId)
  | 0, id, _, _ => .error (.orchestration s!"Task dependency cycle includes {id}")
  | fuel + 1, id, visiting, visited =>
    if id ∈ visited then .ok visited
    else do
      rejectIf (decide (id ∈ visiting))
        (.orchestration s!"Task dependency cycle includes {id}")
      let record ← orError (.orchestration s!"Task {id} disappeared during validation")
        (tasks[id]?)
      let visited ← record.definition.dependencies.toList.foldlM
        (fun visited dependency => visit tasks fuel dependency (id :: visiting) visited) visited
      .ok (id :: visited)

def validateAcyclic (tasks : OrdMap TaskId TaskRecord) : Except HarnessError Unit := do
  let _ ← (tasks.toList.map (·.1)).foldlM
    (fun visited id => visit tasks (tasks.size + 1) id [] visited) []
  .ok ()

namespace TaskGraph

def calculateMaterializationCharge (g : TaskGraph) : Except HarnessError Nat := do
  let total ← g.tasks.toList.foldlM (fun total entry => do
    checkedGraphChargeAdd total (← taskMaterializationCharge entry.1 entry.2))
    taskGraphBaseChargeBytes
  let total ← g.messages.foldlM (fun total message => do
    checkedGraphChargeAdd total (← messageMaterializationCharge message)) total
  let total ← g.attemptBindings.foldlM (fun total evidence => do
    checkedGraphChargeAdd total (← attemptBindingMaterializationCharge evidence)) total
  validateGraphCharge total
  .ok total

/-- `TaskGraph::new`. -/
def new (definitions : List TaskDefinition) : Except HarnessError TaskGraph := do
  rejectIf (decide (maxTasks < definitions.length))
    (.orchestration "Task Graph exceeds 10000 Tasks")
  let tasks ← insertDefinitions ∅ definitions
  checkAll (checkDependencies tasks) (OrdMap.values tasks)
  validateAcyclic tasks
  let graph : TaskGraph := ⟨tasks, [], [], 1, 0⟩
  let charge ← graph.calculateMaterializationCharge
  .ok { graph with materializationChargeBytes := charge }

/-- The fields of the wire form: all but the charge. -/
structure Wire where
  tasks : OrdMap TaskId TaskRecord
  messages : List TaskMessage
  attemptBindings : List TaskAttemptBinding
  nextMessageSequence : UInt64

def toWire (g : TaskGraph) : Wire :=
  ⟨g.tasks, g.messages, g.attemptBindings, g.nextMessageSequence⟩

/-- `Deserialize for TaskGraph`, from the decoded wire form. -/
def deserialize (wire : Wire) : Except HarnessError TaskGraph := do
  let graph : TaskGraph :=
    ⟨wire.tasks, wire.messages, wire.attemptBindings, wire.nextMessageSequence, 0⟩
  let charge ← graph.calculateMaterializationCharge
  .ok { graph with materializationChargeBytes := charge }

/-! ## Applying a batch of mutations -/

/-- The evidence of a mutation agrees with the lease it starts. -/
def checkMutationBinding (mutation : TaskMutation) (leaseIds : List TaskLeaseId)
    (evidence : TaskAttemptBinding) : Except HarnessError Unit := do
  validateAttemptBinding evidence
  match mutation.status with
  | .running lease => do
    rejectIf (evidence.taskId != mutation.id || evidence.leaseId != lease.id ||
        evidence.attempt != mutation.attempts || evidence.attempt != lease.attempt ||
        evidence.claimedBy != lease.owner)
      (.orchestration "Task attempt binding does not match its lease")
    rejectIf (decide (evidence.leaseId ∈ leaseIds))
      (.orchestration "duplicate Task attempt binding lease")
  | _ => .error (.orchestration "Task attempt binding requires a running mutation")

/-- The checking loop of `apply_task_mutations`: the charge after the batch. -/
def checkMutations (g : TaskGraph) :
    List TaskId → List TaskLeaseId → Nat → List TaskMutation → Except HarnessError Nat
  | _, _, charge, [] => .ok charge
  | seen, leaseIds, charge, mutation :: rest => do
    rejectIf (decide (mutation.id ∈ seen))
      (.orchestration s!"duplicate Task mutation {mutation.id}")
    let current ← orError (.orchestration s!"Task {mutation.id} does not exist")
      (g.tasks[mutation.id]?)
    let currentCharge ← taskMaterializationCharge mutation.id current
    let candidateCharge ← taskMaterializationChargeParts mutation.id current.definition
      mutation.status mutation.attempts
    rejectIf (decide (charge < currentCharge))
      (.orchestration "Task Graph materialization charge is inconsistent")
    let charge ← checkedGraphChargeAdd (charge - currentCharge) candidateCharge
    match mutation.attemptBinding with
    | none => g.checkMutations (mutation.id :: seen) leaseIds charge rest
    | some evidence => do
      checkMutationBinding mutation leaseIds evidence
      let charge ← checkedGraphChargeAdd charge (← attemptBindingMaterializationCharge evidence)
      g.checkMutations (mutation.id :: seen) (evidence.leaseId :: leaseIds) charge rest

/-- Write one checked mutation. -/
def writeMutation (g : TaskGraph) (mutation : TaskMutation) : TaskGraph :=
  { g with
    tasks := g.tasks.modify mutation.id fun record =>
      { record with status := mutation.status, attempts := mutation.attempts }
    attemptBindings := g.attemptBindings ++ mutation.attemptBinding.toList }

def applyTaskMutations (g : TaskGraph) (mutations : List TaskMutation) :
    Except HarnessError TaskGraph := do
  rejectIf (decide (maxTaskAttemptBindings < g.attemptBindings.length +
      mutations.countP fun mutation => mutation.attemptBinding.isSome))
    (.orchestration "Task Graph exceeds 100000 attempt bindings")
  let charge ← g.checkMutations [] (g.attemptBindings.map (·.leaseId))
    g.materializationChargeBytes mutations
  validateGraphCharge charge
  .ok { mutations.foldl writeMutation g with materializationChargeBytes := charge }

/-! ## Scheduling -/

/-- Every dependency of the Task is Completed. -/
def dependenciesCompleted (g : TaskGraph) (record : TaskRecord) : Bool :=
  record.definition.dependencies.toList.all fun dependency =>
    (g.tasks[dependency]?).any fun dependency => dependency.status.isCompleted

/-- The order of claims: larger priority first, then Task identity. -/
def ClaimsBefore (left right : Int32 × TaskId) : Prop :=
  right.1 < left.1 ∨ left.1 = right.1 ∧ left.2 ≤ right.2

instance : DecidableRel ClaimsBefore := fun left right =>
  inferInstanceAs (Decidable (right.1 < left.1 ∨ left.1 = right.1 ∧ left.2 ≤ right.2))

/-- Task identities in the order of claims. -/
def inClaimOrder (records : List TaskRecord) : List TaskId :=
  ((records.map fun record => (record.definition.priority, record.definition.id)).insertionSort
    ClaimsBefore).map (·.2)

def readyMatching (g : TaskGraph) (workerCapabilities : Option TaskCapabilitySet) : List TaskId :=
  inClaimOrder ((OrdMap.values g.tasks).filter fun record =>
    record.status == .pending && g.dependenciesCompleted record &&
      workerCapabilities.all fun capabilities =>
        TaskCapabilitySet.satisfies capabilities record.definition.requiredCapabilities)

def ready (g : TaskGraph) : List TaskId :=
  g.readyMatching none

/-- `is_terminal`. -/
def isTerminal (g : TaskGraph) : Bool :=
  (OrdMap.values g.tasks).all fun record => record.status.isTerminal

/-- One pass of the loop of `blocked_mutations`. -/
def newlyBlocked (g : TaskGraph) (pendingOverrides failed : List TaskId) : List TaskMutation :=
  (OrdMap.values g.tasks).filterMap fun record =>
    if record.definition.id ∈ failed then none
    else if record.status = .pending ∨ record.definition.id ∈ pendingOverrides then
      (record.definition.dependencies.toList.find? fun dependency =>
        decide (dependency ∈ failed)).map fun dependency =>
          ⟨record.definition.id, .blocked s!"dependency {dependency} did not complete",
            record.attempts, none⟩
    else none

/-- The loop of `blocked_mutations`.  Every pass but the last adds a Task to
`failed`, so one more than the number of Tasks bounds the passes. -/
def blockedLoop (g : TaskGraph) (pendingOverrides : List TaskId) :
    Nat → List TaskId → List TaskMutation → List TaskMutation
  | 0, _, mutations => mutations
  | fuel + 1, failed, mutations =>
    let newly := g.newlyBlocked pendingOverrides failed
    if newly.isEmpty then mutations
    else g.blockedLoop pendingOverrides fuel (newly.map (·.id) ++ failed) (mutations ++ newly)

/-- The Tasks that are Failed, Cancelled or Blocked. -/
def deadTasks (g : TaskGraph) : List TaskId :=
  ((OrdMap.values g.tasks).filter fun record => record.status.isDead).map (·.definition.id)

def blockedMutations (g : TaskGraph) (pendingOverrides : List TaskId)
    (additionalFailed : Option TaskId) : List TaskMutation :=
  g.blockedLoop pendingOverrides (g.tasks.size + 1) (additionalFailed.toList ++ g.deadTasks) []

/-- The Tasks whose lease has run out. -/
def expiredTasks (g : TaskGraph) (nowMs : UInt64) : List TaskId :=
  ((OrdMap.values g.tasks).filter fun record => record.status.isExpired nowMs).map
    (·.definition.id)

/-- A Task that the claim would start must have an attempt left. -/
def checkAttemptsLeft (g : TaskGraph) (nowMs : UInt64) (workerCapabilities : TaskCapabilitySet)
    (record : TaskRecord) : Except HarnessError Unit :=
  rejectIf ((record.status == .pending || record.status.isExpired nowMs) &&
      TaskCapabilitySet.satisfies workerCapabilities record.definition.requiredCapabilities &&
      g.dependenciesCompleted record && record.attempts.toNat + 1 == UInt32.size)
    (.orchestration s!"Task {record.definition.id} attempt counter is exhausted")

/-- An expired Task that is not claimed again goes back to Pending. -/
def releaseTask (g : TaskGraph) (taskId : TaskId) : Except HarnessError TaskMutation := do
  let record ← orError (.orchestration s!"expired Task {taskId} disappeared") (g.tasks[taskId]?)
  .ok ⟨taskId, .pending, record.attempts, none⟩

/-- Start the next attempt of a ready Task. -/
def claimTask (g : TaskGraph) (generate : TaskId → TaskLeaseId) (owner : String)
    (nowMs expiresAtMs : UInt64) (executionBinding : Option ExecutionBinding) (taskId : TaskId) :
    Except HarnessError (TaskMutation × TaskClaim) := do
  let record ← orError (.orchestration s!"ready Task {taskId} disappeared") (g.tasks[taskId]?)
  rejectIf (decide (UInt32.size ≤ record.attempts.toNat + 1))
    (.orchestration s!"Task {taskId} attempt overflow")
  let attempts := record.attempts + 1
  let lease : TaskLease := ⟨generate taskId, owner, attempts, expiresAtMs⟩
  .ok (⟨taskId, .running lease, attempts, executionBinding.map fun binding =>
      ⟨taskId, lease.id, attempts, owner, nowMs, binding⟩⟩,
    ⟨record.definition, lease, executionBinding⟩)

/-- `claim_ready_governed`, with the claims and whether anything changed.
`generate` is the lease identity generated for each claimed Task. -/
def claimReadyGoverned (g : TaskGraph) (generate : TaskId → TaskLeaseId) (owner : String)
    (nowMs leaseDurationMs : UInt64) (maximum : Nat) (executionBinding : Option ExecutionBinding)
    (workerCapabilities : TaskCapabilitySet) :
    Except HarnessError (TaskGraph × List TaskClaim × Bool) := do
  validateCapabilityName "worker" owner
  TaskCapabilitySet.validate workerCapabilities
  checkSome ExecutionBinding.validate executionBinding
  rejectIf (leaseDurationMs == 0 || decide (maximum < 1) || decide (maxClaimsPerBatch < maximum))
    (.orchestration "lease duration must be positive and maximum claims must be 1-64")
  rejectIf (decide (UInt64.size ≤ nowMs.toNat + leaseDurationMs.toNat))
    (.orchestration "Task lease expiration overflow")
  let expiresAtMs := nowMs + leaseDurationMs
  checkAll (g.checkAttemptsLeft nowMs workerCapabilities) (OrdMap.values g.tasks)
  let expired := g.expiredTasks nowMs
  let blocked := g.blockedMutations expired none
  let blockedIds := blocked.map (·.id)
  let ready := (inClaimOrder ((OrdMap.values g.tasks).filter fun record =>
    decide (record.definition.id ∉ blockedIds) &&
      (record.status == .pending || decide (record.definition.id ∈ expired)) &&
      TaskCapabilitySet.satisfies workerCapabilities record.definition.requiredCapabilities &&
      g.dependenciesCompleted record)).take maximum
  rejectIf (executionBinding.isNone && ready.any fun taskId =>
      g.attemptBindings.any fun evidence => evidence.taskId == taskId)
    (.orchestration "a governed Task retry requires an execution binding")
  let released ← (expired.filter fun taskId =>
    decide (taskId ∉ ready) && decide (taskId ∉ blockedIds)).mapM g.releaseTask
  let claimed ← ready.mapM (g.claimTask generate owner nowMs expiresAtMs executionBinding)
  let mutations := blocked ++ released ++ claimed.map (·.1)
  let next ← g.applyTaskMutations mutations
  .ok (next, claimed.map (·.2), !mutations.isEmpty)

/-- `claim_ready_with_binding_and_capabilities`. -/
def claimReadyWithBindingAndCapabilities (g : TaskGraph) (generate : TaskId → TaskLeaseId)
    (owner : String) (nowMs leaseDurationMs : UInt64) (maximum : Nat)
    (executionBinding : Option ExecutionBinding) (workerCapabilities : TaskCapabilitySet) :
    Except HarnessError (TaskGraph × List TaskClaim) := do
  let (next, claims, _) ← g.claimReadyGoverned generate owner nowMs leaseDurationMs maximum
    executionBinding workerCapabilities
  .ok (next, claims)

def claimReady (g : TaskGraph) (generate : TaskId → TaskLeaseId) (owner : String)
    (nowMs leaseDurationMs : UInt64) (maximum : Nat) :
    Except HarnessError (TaskGraph × List TaskClaim) :=
  g.claimReadyWithBindingAndCapabilities generate owner nowMs leaseDurationMs maximum none ∅

def claimReadyWithCapabilities (g : TaskGraph) (generate : TaskId → TaskLeaseId) (owner : String)
    (nowMs leaseDurationMs : UInt64) (maximum : Nat) (workerCapabilities : TaskCapabilitySet) :
    Except HarnessError (TaskGraph × List TaskClaim) :=
  g.claimReadyWithBindingAndCapabilities generate owner nowMs leaseDurationMs maximum none
    workerCapabilities

def claimReadyWithBinding (g : TaskGraph) (generate : TaskId → TaskLeaseId) (owner : String)
    (nowMs leaseDurationMs : UInt64) (maximum : Nat) (executionBinding : Option ExecutionBinding) :
    Except HarnessError (TaskGraph × List TaskClaim) :=
  g.claimReadyWithBindingAndCapabilities generate owner nowMs leaseDurationMs maximum
    executionBinding ∅

/-! ## Leases and settlement -/

def currentLease (g : TaskGraph) (taskId : TaskId) (leaseId : TaskLeaseId) (nowMs : UInt64) :
    Except HarnessError TaskLease := do
  let record ← orError (.orchestration s!"Task {taskId} does not exist") (g.tasks[taskId]?)
  match record.status with
  | .running lease => do
    rejectIf (lease.id != leaseId) (.orchestration s!"Task {taskId} lease token is stale")
    rejectIf (decide (lease.expiresAtMs ≤ nowMs)) (.orchestration s!"Task {taskId} lease expired")
    .ok lease
  | _ => .error (.orchestration s!"Task {taskId} is not running")

/-- The attempt counter of a Task. -/
def attemptsOf (g : TaskGraph) (taskId : TaskId) : Except HarnessError UInt32 := do
  let record ← orError (.orchestration s!"Task {taskId} does not exist") (g.tasks[taskId]?)
  .ok record.attempts

def heartbeat (g : TaskGraph) (taskId : TaskId) (leaseId : TaskLeaseId)
    (nowMs expiresAtMs : UInt64) : Except HarnessError TaskGraph := do
  let lease ← g.currentLease taskId leaseId nowMs
  rejectIf (decide (expiresAtMs ≤ nowMs) || decide (expiresAtMs ≤ lease.expiresAtMs))
    (.orchestration "heartbeat must extend the lease into the future")
  let attempts ← g.attemptsOf taskId
  g.applyTaskMutations [⟨taskId, .running { lease with expiresAtMs }, attempts, none⟩]

def complete (g : TaskGraph) (taskId : TaskId) (leaseId : TaskLeaseId) (nowMs : UInt64)
    (completion : TaskCompletion) : Except HarnessError TaskGraph := do
  validateCompletion taskId completion
  let _ ← g.currentLease taskId leaseId nowMs
  let attempts ← g.attemptsOf taskId
  g.applyTaskMutations [⟨taskId, .completed completion, attempts, none⟩]

def fail (g : TaskGraph) (taskId : TaskId) (leaseId : TaskLeaseId) (nowMs : UInt64)
    (reason : String) : Except HarnessError TaskGraph := do
  validateTaskText "Task failure" reason
  let _ ← g.currentLease taskId leaseId nowMs
  let attempts ← g.attemptsOf taskId
  g.applyTaskMutations
    (⟨taskId, .failed reason, attempts, none⟩ :: g.blockedMutations [] (some taskId))

def cancel (g : TaskGraph) (taskId : TaskId) (reason : String) : Except HarnessError TaskGraph := do
  validateTaskText "Task cancellation" reason
  let record ← orError (.orchestration s!"Task {taskId} does not exist") (g.tasks[taskId]?)
  rejectIf record.status.isTerminal (.orchestration s!"Task {taskId} is already terminal")
  g.applyTaskMutations
    (⟨taskId, .cancelled reason, record.attempts, none⟩ :: g.blockedMutations [] (some taskId))

/-- A message body has text and fits. -/
def checkMessageBody (body : String) : Except HarnessError Unit :=
  rejectIf (isBlank body || decide (maxMessageBytes < body.utf8ByteSize))
    (.orchestration "Task message must be 1-65536 bytes")

/-- `send_message`; `id` is the message identity generated for it. -/
def sendMessage (g : TaskGraph) (id : TaskMessageId) (sender receiver : TaskId) (body : String)
    (createdAtMs : UInt64) : Except HarnessError (TaskGraph × TaskMessage) := do
  rejectIf (decide (maxMessages ≤ g.messages.length))
    (.orchestration "Task Graph exceeds 100000 messages")
  rejectIf (!g.tasks.contains sender || !g.tasks.contains receiver)
    (.orchestration "Task messages require existing sender and receiver")
  checkMessageBody body
  rejectIf (decide (UInt64.size ≤ g.nextMessageSequence.toNat + 1))
    (.orchestration "Task message sequence overflow")
  let message : TaskMessage := ⟨id, g.nextMessageSequence, sender, receiver, body, createdAtMs⟩
  let charge ← checkedGraphChargeAdd g.materializationChargeBytes
    (← messageMaterializationCharge message)
  validateGraphCharge charge
  .ok ({ g with
    nextMessageSequence := g.nextMessageSequence + 1
    messages := g.messages ++ [message]
    materializationChargeBytes := charge }, message)

/-- `release_expired`, with the released identities. -/
def releaseExpired (g : TaskGraph) (nowMs : UInt64) :
    Except HarnessError (TaskGraph × List TaskId) := do
  let mutations : List TaskMutation := ((OrdMap.values g.tasks).filter fun record =>
    record.status.isExpired nowMs).map fun record =>
      ⟨record.definition.id, .pending, record.attempts, none⟩
  let next ← g.applyTaskMutations mutations
  .ok (next, mutations.map (·.id))

/-! ## Integrity -/

/-- The status clauses of `validate_integrity`. -/
def validateStatus (record : TaskRecord) : Except HarnessError Unit :=
  match record.status with
  | .pending => .ok ()
  | .running lease => do
    validateCapabilityName "worker" lease.owner
    rejectIf (record.attempts == 0 || lease.attempt != record.attempts)
      (.orchestration
        s!"Task {record.definition.id} lease attempt does not match attempt counter")
  | .completed completion => validateCompletion record.definition.id completion
  | .failed reason | .cancelled reason | .blocked reason =>
    validateTaskText "Task terminal reason" reason

/-- The loop of `validate_integrity` over the attempt bindings; `seen` holds the
evidence already met. -/
def validateBindings (g : TaskGraph) :
    List TaskAttemptBinding → List TaskAttemptBinding → Except HarnessError Unit
  | _, [] => .ok ()
  | seen, evidence :: rest => do
    validateAttemptBinding evidence
    let record ← orError (.orchestration
        s!"Task attempt binding references missing Task {evidence.taskId}")
      (g.tasks[evidence.taskId]?)
    rejectIf (evidence.attempt == 0 || decide (record.attempts < evidence.attempt))
      (.orchestration s!"Task {evidence.taskId} attempt binding exceeds its attempt counter")
    rejectIf (seen.any fun earlier => earlier.leaseId == evidence.leaseId ||
        (earlier.taskId == evidence.taskId && earlier.attempt == evidence.attempt))
      (.orchestration "duplicate Task attempt binding evidence")
    g.validateBindings (evidence :: seen) rest

/-- The attempts of a Task that carry evidence. -/
def boundAttempts (g : TaskGraph) (taskId : TaskId) : List Nat :=
  (g.attemptBindings.filter fun evidence => evidence.taskId == taskId).map (·.attempt.toNat)

/-- Once an attempt of a Task is bound, every later one is, and so is the lease
it runs under. -/
def validateGoverned (g : TaskGraph) (record : TaskRecord) : Except HarnessError Unit :=
  match (g.boundAttempts record.definition.id).min? with
  | none => .ok ()
  | some first => do
    rejectIf ((List.range' first (record.attempts.toNat + 1 - first)).any fun attempt =>
        decide (attempt ∉ g.boundAttempts record.definition.id))
      (.orchestration
        s!"Task {record.definition.id} has an unbound attempt after entering governed mode")
    match record.status with
    | .running lease => do
      let evidence ← orError (.orchestration
          s!"running governed Task {record.definition.id} has no binding for its current lease")
        (g.attemptBindings.find? fun evidence => evidence.leaseId == lease.id)
      rejectIf (evidence.taskId != record.definition.id || evidence.attempt != lease.attempt ||
          evidence.claimedBy != lease.owner)
        (.orchestration "running Task lease does not match its attempt binding")
    | _ => .ok ()

/-- The loop of `validate_integrity` over the messages. -/
def validateMessages (g : TaskGraph) :
    Nat → List TaskMessageId → List TaskMessage → Except HarnessError Unit
  | _, _, [] => .ok ()
  | index, messageIds, message :: rest => do
    rejectIf (decide (UInt64.size ≤ index + 1)) (.orchestration "Task message sequence overflow")
    rejectIf (message.sequence.toNat != index + 1)
      (.orchestration "Task message sequence is not contiguous")
    rejectIf (decide (message.id ∈ messageIds))
      (.orchestration s!"duplicate Task message {message.id}")
    rejectIf (!g.tasks.contains message.sender || !g.tasks.contains message.receiver)
      (.orchestration "Task message references a missing Task")
    checkMessageBody message.body
    g.validateMessages (index + 1) (message.id :: messageIds) rest

def validateIntegrity (g : TaskGraph) : Except HarnessError Unit := do
  rejectIf (decide (maxTasks < g.tasks.size)) (.orchestration "Task Graph exceeds 10000 Tasks")
  checkAll (fun entry : TaskId × TaskRecord => rejectIf (entry.1 != entry.2.definition.id)
    (.orchestration
      s!"Task map key {entry.1} does not match definition {entry.2.definition.id}")) g.tasks.toList
  let _ ← new ((OrdMap.values g.tasks).map (·.definition))
  checkAll validateStatus (OrdMap.values g.tasks)
  rejectIf (decide (maxTaskAttemptBindings < g.attemptBindings.length))
    (.orchestration "Task Graph exceeds 100000 attempt bindings")
  g.validateBindings [] g.attemptBindings
  checkAll g.validateGoverned (OrdMap.values g.tasks)
  rejectIf (decide (maxMessages < g.messages.length))
    (.orchestration "Task Graph exceeds 100000 messages")
  g.validateMessages 0 [] g.messages
  rejectIf (decide (UInt64.size ≤ g.messages.length + 1))
    (.orchestration "Task message sequence overflow")
  rejectIf (g.nextMessageSequence.toNat != g.messages.length + 1)
    (.orchestration "Task next message sequence is inconsistent")
  let charge ← g.calculateMaterializationCharge
  rejectIf (charge != g.materializationChargeBytes)
    (.orchestration "Task Graph materialization charge is inconsistent")

end TaskGraph

end YHarness.Orchestration

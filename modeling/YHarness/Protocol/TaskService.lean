/-
# YHarness.Protocol.TaskService -- worker calls on a Task Coordinator

`TaskProtocolService` of `src/protocol/task.rs`: the calls that create a Task Graph and
change one.  A call of the service is a task over the calls it makes: each load, each
compare-and-swap and each creation is one step of the coordinator, and reading the clock
and generating identities are steps of their own.  A claim and a worker mutation are
retried after a conflict, on the graph as it is loaded anew; a cancellation is not.
-/
import YHarness.Lib.Threads
import YHarness.Orchestration.Coordinator

namespace YHarness.Protocol

open YHarness.Lib YHarness.Kernel YHarness.Orchestration

set_option autoImplicit false

def maxTaskCasAttempts : Nat := 64
def maxTaskClaims : Nat := 16
def maxTaskRecordPageBytes : Nat := 16711680
def maxTaskLeaseDurationMs : UInt64 := 604800000

structure TaskGraphSummary where
  graphId : TaskGraphId
  tenantId : Option String
  revision : UInt64
  taskCount : UInt64
  terminal : Bool
  materializationChargeBytes : UInt64
  remainingMaterializationBytes : UInt64

structure TaskWorkerAccess where
  taskId : TaskId
  leaseId : TaskLeaseId
  worker : String

/-! ## Calls -/

/-- What a call of the service asks for.  `generateLeases` generates a lease identity for
each of the Tasks. -/
inductive TaskServiceCall where
  | createAs (graphId : TaskGraphId) (graph : TaskGraph) (authority : AuthorityContext)
  | loadAs (graphId : TaskGraphId) (authority : AuthorityContext)
  | compareAndSwapAs (snapshot : TaskGraphSnapshot) (authority : AuthorityContext)
  | nowMs
  | generateLeases (taskIds : List TaskId)
  | generateMessage

abbrev TaskServiceReply : TaskServiceCall → Type
  | .createAs .. => Except HarnessError TaskGraphSnapshot
  | .loadAs .. => Except HarnessError (Option TaskGraphSnapshot)
  | .compareAndSwapAs .. => Except HarnessError TaskGraphSnapshot
  | .nowMs => UInt64
  | .generateLeases _ => TaskId → TaskLeaseId
  | .generateMessage => TaskMessageId

abbrev TaskServiceM (α : Type) : Type :=
  TryTask TaskServiceCall TaskServiceReply HarnessError α

def ask (call : TaskServiceCall) : TaskServiceM (TaskServiceReply call) :=
  TryTask.call call

def check {α : Type} (outcome : Except HarnessError α) : TaskServiceM α :=
  TryTask.check outcome

/-! ## Checks -/

def validateLeaseDuration (durationMs : UInt64) : Except HarnessError Unit :=
  rejectIf (decide (durationMs < 1) || decide (maxTaskLeaseDurationMs < durationMs))
    (.protocol s!"Task lease duration must be 1-{maxTaskLeaseDurationMs.toNat} milliseconds")

def validateClaimMaximum (maximum : Nat) : Except HarnessError Unit :=
  rejectIf (decide (maximum < 1) || decide (maxTaskClaims < maximum))
    (.protocol s!"Task claim maximum must be 1-{maxTaskClaims}")

/-- The lease a Task runs under, when the access names it, its owner calls and it has not
expired. -/
def requireWorkerLease (graph : TaskGraph) (access : TaskWorkerAccess) (nowMs : UInt64) :
    Except HarnessError TaskLease :=
  orError (.orchestration "Task lease is not current for the authenticated worker")
    ((graph.tasks[access.taskId]?).bind fun record =>
      match record.status with
      | .running lease =>
        if lease.id = access.leaseId ∧ lease.owner = access.worker ∧ nowMs < lease.expiresAtMs
        then some lease else none
      | _ => none)

/-- `u64::try_from` of a `usize`. -/
def u64TryFrom (error : HarnessError) (n : Nat) : Except HarnessError UInt64 := do
  rejectIf (decide (UInt64.size ≤ n)) error
  .ok (UInt64.ofNat n)

def summary (snapshot : TaskGraphSnapshot) : Except HarnessError TaskGraphSummary := do
  let taskCount ← u64TryFrom (.protocol "Task count exceeds u64") snapshot.graph.tasks.size
  let materializationChargeBytes ← u64TryFrom
    (.protocol "Task Graph materialization charge exceeds u64")
    snapshot.graph.materializationChargeBytes
  let remainingMaterializationBytes ← u64TryFrom
    (.protocol "Task Graph remaining capacity exceeds u64")
    (maxTaskGraphJsonBytes - snapshot.graph.materializationChargeBytes)
  .ok {
    graphId := snapshot.id
    tenantId := snapshot.tenantId
    revision := snapshot.revision
    taskCount
    terminal := snapshot.graph.isTerminal
    materializationChargeBytes
    remainingMaterializationBytes }

def TaskClaim.toJson (claim : TaskClaim) : Json :=
  .obj ([("task", claim.task.toJson), ("lease", claim.lease.toJson)] ++
    skipNone "execution_binding" ExecutionBinding.toJson claim.executionBinding)

def claimsError : BoundedJsonError → HarnessError
  | .limitExceeded => .protocol "Task claims exceed the protocol response budget"
  | .cannotEncode => .protocol "cannot encode Task claims"

/-- The claims fit into a response. -/
def checkClaims (claims : List TaskClaim) : Except HarnessError Unit := do
  let _ ← (boundedSerializedSize (.arr (claims.map TaskClaim.toJson))
    maxTaskRecordPageBytes).mapError claimsError
  .ok ()

/-- A conflict is an outcome to try again on; other errors end the call. -/
def conflictOrFail {α : Type} : Except HarnessError α → Except HarnessError (Except HarnessError α)
  | .ok a => .ok (.ok a)
  | .error (.orchestrationConflict graphId expected actual) =>
    .ok (.error (.orchestrationConflict graphId expected actual))
  | .error error => .error error

/-! ## Loading and committing -/

def load (graphId : TaskGraphId) (authority : AuthorityContext) :
    TaskServiceM TaskGraphSnapshot := do
  let outcome ← ask (.loadAs graphId authority)
  let loaded ← check outcome
  check (orError (.protocol s!"Task Graph {graphId} does not exist") loaded)

/-- Swap a changed graph in, with the output of the change. -/
def commit {α : Type} (snapshot : TaskGraphSnapshot) (graph : TaskGraph) (output : α)
    (authority : AuthorityContext) : TaskServiceM (Except HarnessError (UInt64 × α)) := do
  let outcome ← ask (.compareAndSwapAs { snapshot with graph } authority)
  let saved ← check (conflictOrFail outcome)
  check (.ok (saved.map fun saved => (saved.revision, output)))

/-! ## The calls of the service -/

def create (graphId : TaskGraphId) (definitions : List TaskDefinition)
    (authority : AuthorityContext) : TaskServiceM TaskGraphSummary := do
  let graph ← check (TaskGraph.new definitions)
  let outcome ← ask (.createAs graphId graph authority)
  let snapshot ← check outcome
  check (summary snapshot)

/-- One attempt of `claim`. -/
def claimAttempt (graphId : TaskGraphId) (worker : String) (leaseDurationMs : UInt64)
    (maximum : Nat) (authority : AuthorityContext) :
    TaskServiceM (Except HarnessError (UInt64 × List TaskClaim)) := do
  let snapshot ← load graphId authority
  let nowMs ← ask .nowMs
  let generate ← ask (.generateLeases (snapshot.graph.tasks.toList.map Prod.fst))
  let claimed ← check (snapshot.graph.claimReadyGoverned generate worker nowMs leaseDurationMs
    maximum none ∅)
  if claimed.2.2 = false then check (.ok (.ok (snapshot.revision, claimed.2.1)))
  else do
    check (checkClaims claimed.2.1)
    commit snapshot claimed.1 claimed.2.1 authority

def claim (graphId : TaskGraphId) (worker : String) (leaseDurationMs : UInt64) (maximum : Nat)
    (authority : AuthorityContext) : TaskServiceM (UInt64 × List TaskClaim) := do
  check (validateLeaseDuration leaseDurationMs)
  check (validateClaimMaximum maximum)
  TryTask.retry (claimAttempt graphId worker leaseDurationMs maximum authority)
    (.orchestration "Task claim retry window ended without a Coordinator result")
    maxTaskCasAttempts none

/-- One attempt of `mutate_worker`. -/
def mutateAttempt {α : Type} (graphId : TaskGraphId) (access : TaskWorkerAccess)
    (authority : AuthorityContext)
    (mutation : TaskGraph → UInt64 → TaskLease → TaskServiceM (TaskGraph × α)) :
    TaskServiceM (Except HarnessError (UInt64 × α)) := do
  let snapshot ← load graphId authority
  let nowMs ← ask .nowMs
  let lease ← check (requireWorkerLease snapshot.graph access nowMs)
  let mutated ← mutation snapshot.graph nowMs lease
  commit snapshot mutated.1 mutated.2 authority

def mutateWorker {α : Type} (graphId : TaskGraphId) (access : TaskWorkerAccess)
    (authority : AuthorityContext)
    (mutation : TaskGraph → UInt64 → TaskLease → TaskServiceM (TaskGraph × α)) :
    TaskServiceM (UInt64 × α) :=
  TryTask.retry (mutateAttempt graphId access authority mutation)
    (.orchestration "Task worker retry window ended without a Coordinator result")
    maxTaskCasAttempts none

/-- The mutation of `heartbeat`. -/
def heartbeatGraph (access : TaskWorkerAccess) (leaseDurationMs : UInt64) (graph : TaskGraph)
    (nowMs : UInt64) (lease : TaskLease) : Except HarnessError (TaskGraph × UInt64) := do
  rejectIf (decide (UInt64.size ≤ nowMs.toNat + leaseDurationMs.toNat))
    (.protocol "Task heartbeat expiration overflow")
  let expiresAtMs := nowMs + leaseDurationMs
  let graph ← graph.heartbeat access.taskId lease.id nowMs expiresAtMs
  .ok (graph, expiresAtMs)

def heartbeat (graphId : TaskGraphId) (access : TaskWorkerAccess) (leaseDurationMs : UInt64)
    (authority : AuthorityContext) : TaskServiceM (UInt64 × UInt64) := do
  check (validateLeaseDuration leaseDurationMs)
  mutateWorker graphId access authority fun graph nowMs lease =>
    check (heartbeatGraph access leaseDurationMs graph nowMs lease)

/-- The mutation of `complete`. -/
def completeGraph (access : TaskWorkerAccess) (completion : TaskCompletion) (graph : TaskGraph)
    (nowMs : UInt64) (lease : TaskLease) : Except HarnessError (TaskGraph × Unit) := do
  let graph ← graph.complete access.taskId lease.id nowMs completion
  .ok (graph, ())

def complete (graphId : TaskGraphId) (access : TaskWorkerAccess) (completion : TaskCompletion)
    (authority : AuthorityContext) : TaskServiceM (UInt64 × Unit) :=
  mutateWorker graphId access authority fun graph nowMs lease =>
    check (completeGraph access completion graph nowMs lease)

/-- The mutation of `fail`. -/
def failGraph (access : TaskWorkerAccess) (reason : String) (graph : TaskGraph) (nowMs : UInt64)
    (lease : TaskLease) : Except HarnessError (TaskGraph × Unit) := do
  let graph ← graph.fail access.taskId lease.id nowMs reason
  .ok (graph, ())

def fail (graphId : TaskGraphId) (access : TaskWorkerAccess) (reason : String)
    (authority : AuthorityContext) : TaskServiceM (UInt64 × Unit) :=
  mutateWorker graphId access authority fun graph nowMs lease =>
    check (failGraph access reason graph nowMs lease)

def send (graphId : TaskGraphId) (access : TaskWorkerAccess) (receiver : TaskId) (body : String)
    (authority : AuthorityContext) : TaskServiceM (UInt64 × TaskMessage) :=
  mutateWorker graphId access authority fun graph nowMs _ => do
    let messageId ← ask .generateMessage
    check (graph.sendMessage messageId access.taskId receiver body nowMs)

def cancel (graphId : TaskGraphId) (taskId : TaskId) (expectedRevision : UInt64)
    (reason : String) (authority : AuthorityContext) : TaskServiceM UInt64 := do
  let snapshot ← load graphId authority
  check (rejectIf (snapshot.revision != expectedRevision)
    (.orchestrationConflict graphId expectedRevision snapshot.revision))
  let graph ← check (snapshot.graph.cancel taskId reason)
  let outcome ← ask (.compareAndSwapAs { snapshot with graph } authority)
  let saved ← check outcome
  check (.ok saved.revision)

/-! ## Requests -/

inductive TaskOperation where
  | create (definitions : List TaskDefinition)
  | claim (worker : String) (leaseDurationMs : UInt64) (maximum : Nat)
  | heartbeat (access : TaskWorkerAccess) (leaseDurationMs : UInt64)
  | complete (access : TaskWorkerAccess) (completion : TaskCompletion)
  | fail (access : TaskWorkerAccess) (reason : String)
  | send (access : TaskWorkerAccess) (receiver : TaskId) (body : String)
  | cancel (taskId : TaskId) (expectedRevision : UInt64) (reason : String)

structure TaskRequest where
  graphId : TaskGraphId
  authority : AuthorityContext
  operation : TaskOperation

inductive TaskAnswer where
  | created (graph : TaskGraphSummary)
  | claimed (revision : UInt64) (claims : List TaskClaim)
  | extended (revision expiresAtMs : UInt64)
  | changed (revision : UInt64)
  | sent (revision : UInt64) (message : TaskMessage)

/-- The call of the service for a request. -/
def TaskRequest.handle (request : TaskRequest) : TaskServiceM TaskAnswer :=
  let graphId := request.graphId
  let authority := request.authority
  match request.operation with
  | .create definitions => do
    let graph ← create graphId definitions authority
    check (.ok (.created graph))
  | .claim worker leaseDurationMs maximum => do
    let answer ← claim graphId worker leaseDurationMs maximum authority
    check (.ok (.claimed answer.1 answer.2))
  | .heartbeat access leaseDurationMs => do
    let answer ← heartbeat graphId access leaseDurationMs authority
    check (.ok (.extended answer.1 answer.2))
  | .complete access completion => do
    let answer ← complete graphId access completion authority
    check (.ok (.changed answer.1))
  | .fail access reason => do
    let answer ← fail graphId access reason authority
    check (.ok (.changed answer.1))
  | .send access receiver body => do
    let answer ← send graphId access receiver body authority
    check (.ok (.sent answer.1 answer.2))
  | .cancel taskId expectedRevision reason => do
    let revision ← cancel graphId taskId expectedRevision reason authority
    check (.ok (.changed revision))

end YHarness.Protocol

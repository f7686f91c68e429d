/-
# YHarness.Orchestration.Runner -- execution of Task claims

`Orchestrator::run` of `src/orchestration/runner.rs` and the workers it spawns.  A run and
each of its workers is a task over the calls it makes: a load, a compare-and-swap, a look
at the clock, a spawned or joined worker and each step of a Workspace Provider or of the
Task executor is one call.  A worker ends with an `ExecutorOutcome`; the run that joins it
settles the outcome in the graph as it is loaded then, unless the lease has moved on.

Providers, executors and the file system are the world the calls are made in.  Timeouts
are answers to the `select!` they are a branch of, so durations that only bound a sleep
are not data here.
-/
import YHarness.Lib.Threads
import YHarness.Orchestration.Clients

namespace YHarness.Orchestration

open YHarness.Lib YHarness.Kernel

set_option autoImplicit false

def maxOrchestratorConcurrency : Nat := 64
def maxCasAttempts : Nat := 64
def executorErrorBytes : Nat := 4096

/-! ## Workspaces -/

inductive WorkspaceProvisioning where
  | denied | directory | gitWorktree
deriving DecidableEq

structure WorkspaceProviderDescriptor where
  name : String
  provisioning : WorkspaceProvisioning

structure WorkspaceRequest where
  graphId : TaskGraphId
  taskId : TaskId
  leaseId : TaskLeaseId
  attempt : UInt32
  mode : WorkspaceMode
deriving DecidableEq

structure WorkspaceLease where
  request : WorkspaceRequest
  provider : String
  root : Option String
  cleanupToken : String

structure TaskWorkspace where
  provider : String
  mode : WorkspaceMode
  root : Option String

inductive WorkspaceDisposition where
  | completed | failed | cancelled | timedOut

def WorkspaceLease.executorView (lease : WorkspaceLease) : TaskWorkspace :=
  ⟨lease.provider, lease.request.mode, lease.root⟩

/-! ## Orchestrators and what they hand on -/

/-- The fields a run reads; `leaseDuration` counts nanoseconds. -/
structure Orchestrator where
  worker : String
  maxConcurrency : Nat
  leaseDuration : Nat
  workspaceDescriptor : WorkspaceProviderDescriptor
  authority : AuthorityContext
  executionBinding : Option ExecutionBinding
  workerCapabilities : TaskCapabilitySet

structure ClaimExecution where
  workspaceDescriptor : WorkspaceProviderDescriptor
  authority : AuthorityContext
  graphId : TaskGraphId
  claim : TaskClaim

structure TaskExecutionRequest where
  graphId : TaskGraphId
  claim : TaskClaim
  workspace : TaskWorkspace

inductive ExecutorOutcome where
  | completed (completion : TaskCompletion)
  | failed (reason : String)
  | timedOut
  | cancelled
deriving DecidableEq

inductive JoinError where
  | panicked | cancelled

/-- A worker: the run that spawned it, and its number among the workers of that run. -/
structure WorkerHandle where
  run : Nat
  id : Nat

/-! ## Calls -/

/-- What a reading of the clock is for. -/
inductive Reading where
  | scheduling
  | fencing (snapshot : TaskGraphSnapshot)
  | settling (claim : TaskClaim) (snapshot : TaskGraphSnapshot)

/-- What a snapshot is swapped in for. -/
inductive SwapPurpose where
  | claiming (claims : List TaskClaim)
  | settling (claim : TaskClaim)

/-- The branch that `select!` of a run takes. -/
inductive WorkerEvent where
  | cancelled
  | joined (worker : Option (Nat × Except JoinError ExecutorOutcome))
  | elapsed

/-- The branch that `select!` of `prepare_workspace` takes; an error is its text. -/
inductive PreparationEvent where
  | cancelled
  | elapsed
  | prepared (lease : WorkspaceLease)
  | failed (error : String)
  | panicked

/-- The branch that `select!` of `execute_task` takes. -/
inductive ExecutionEvent where
  | cancelled
  | elapsed
  | completed (completion : TaskCompletion)
  | failed (error : String)
  | panicked

inductive ReleaseEvent where
  | released
  | failed (error : String)
  | panicked
  | elapsed

/-- What a run, a worker and another client of the coordinator ask for. -/
inductive RunnerCall where
  | loadAs (graphId : TaskGraphId) (authority : AuthorityContext)
  | compareAndSwapAs (snapshot : TaskGraphSnapshot) (authority : AuthorityContext)
      (purpose : SwapPurpose)
  | nowMs (reading : Reading)
  | generateLeases (taskIds : List TaskId)
  | isCancelled
  | spawn (execution : ClaimExecution)
  | cancelWorker (id : Nat)
  | workersIsEmpty
  | poll
  | selectWorker
  | drainWorkers
  | begin (handle : WorkerHandle)
  | prepare (handle : WorkerHandle) (request : WorkspaceRequest)
  | drainPreparation (handle : WorkerHandle)
  | release (handle : WorkerHandle) (lease : WorkspaceLease) (disposition : WorkspaceDisposition)
  | symlinkMetadata (path : String)
  | canonicalize (path : String)
  | execute (handle : WorkerHandle) (request : TaskExecutionRequest)
  | awaitExecution (handle : WorkerHandle)
  | leave (handle : WorkerHandle) (outcome : ExecutorOutcome)
  | client (request : TaskCall) (authority : AuthorityContext)

/-- `spawn` answers with the number of the worker, `symlinkMetadata` with whether the path
is a real directory, `execute` with whether the executor returned a Future. -/
abbrev RunnerReply : RunnerCall → Type
  | .loadAs .. => Except HarnessError (Option TaskGraphSnapshot)
  | .compareAndSwapAs .. => Except HarnessError TaskGraphSnapshot
  | .nowMs _ => UInt64
  | .generateLeases _ => TaskId → TaskLeaseId
  | .isCancelled => Bool
  | .spawn _ => Nat
  | .cancelWorker _ => Unit
  | .workersIsEmpty => Bool
  | .poll => Bool
  | .selectWorker => WorkerEvent
  | .drainWorkers => Unit
  | .begin _ => ClaimExecution
  | .prepare .. => PreparationEvent
  | .drainPreparation _ => Option WorkspaceLease
  | .release .. => ReleaseEvent
  | .symlinkMetadata _ => Except String Bool
  | .canonicalize _ => Except String String
  | .execute .. => Bool
  | .awaitExecution _ => ExecutionEvent
  | .leave .. => Unit
  | .client .. => Except HarnessError (Option TaskGraphSnapshot)

/-- A run may fail. -/
abbrev RunnerM (α : Type) : Type := TryTask RunnerCall RunnerReply HarnessError α

/-- A worker ends with an outcome in any case. -/
abbrev WorkerM (α : Type) : Type := Task RunnerCall RunnerReply α

def RunnerM.ask (call : RunnerCall) : RunnerM (RunnerReply call) :=
  TryTask.call call

def RunnerM.check {α : Type} (outcome : Except HarnessError α) : RunnerM α :=
  TryTask.check outcome

/-! ## Values -/

def orchestrationCancelled : HarnessError :=
  .orchestration "Task orchestration cancelled"

/-- `duration_millis`. -/
def durationMillis (nanoseconds : Nat) : Except HarnessError UInt64 := do
  rejectIf (decide (UInt64.size ≤ nanoseconds / 1000000))
    (.invalidConfiguration "Task lease duration exceeds u64")
  .ok (UInt64.ofNat (nanoseconds / 1000000))

/-- The longest prefix of whole characters within a number of bytes. -/
def takeBytes : Nat → List Char → List Char
  | _, [] => []
  | bytes, c :: rest => if c.utf8Size ≤ bytes then c :: takeBytes (bytes - c.utf8Size) rest else []

/-- `bounded_reason`. -/
def boundedReason (message : String) : String :=
  let message := if isBlank message then "Task executor failed" else message
  if message.utf8ByteSize ≤ executorErrorBytes then message
  else String.ofList (takeBytes executorErrorBytes message.toList)

/-- `execution_binding_for_lease`. -/
def TaskGraph.executionBindingForLease (g : TaskGraph) (leaseId : TaskLeaseId) :
    Option ExecutionBinding :=
  (g.attemptBindings.find? fun evidence => evidence.leaseId == leaseId).map (·.executionBinding)

/-- The status is Running, under the lease of the claim and before its end. -/
def TaskStatus.runsClaim (status : TaskStatus) (claim : TaskClaim) (nowMs : UInt64) : Bool :=
  match status with
  | .running lease => lease.id == claim.lease.id && lease.owner == claim.lease.owner &&
      lease.attempt == claim.lease.attempt && decide (nowMs < lease.expiresAtMs)
  | _ => false

/-- `claim_is_current`. -/
def claimIsCurrent (graph : TaskGraph) (claim : TaskClaim) (nowMs : UInt64) : Bool :=
  (graph.tasks[claim.task.id]?).any (fun record => record.status.runsClaim claim nowMs) &&
    graph.executionBindingForLease claim.lease.id == claim.executionBinding

/-- The outcome of a worker that was joined. -/
def ExecutorOutcome.ofJoined : Except JoinError ExecutorOutcome → ExecutorOutcome
  | .ok outcome => outcome
  | .error .panicked => .failed "Task executor panicked"
  | .error .cancelled => .failed "Task executor stopped unexpectedly"

/-! ## Workers -/

namespace WorkerM

def ask (call : RunnerCall) : WorkerM (RunnerReply call) :=
  Task.request call

/-- `release_workspace`, with the text of its error. -/
def releaseWorkspace (handle : WorkerHandle) (lease : WorkspaceLease)
    (disposition : WorkspaceDisposition) : WorkerM (Except String Unit) := do
  match ← ask (.release handle lease disposition) with
  | .released => pure (.ok ())
  | .failed error => pure (.error error)
  | .panicked => pure (.error "execution error: Workspace Provider panicked")
  | .elapsed => pure (.error "execution error: Workspace release timed out")

/-- A workspace that is prepared within the grace after all is released again. -/
def abandonPreparation (handle : WorkerHandle) (disposition : WorkspaceDisposition)
    (outcome : ExecutorOutcome) : WorkerM (Except ExecutorOutcome WorkspaceLease) := do
  match ← ask (.drainPreparation handle) with
  | none => pure (.error outcome)
  | some lease => do
    let _ ← releaseWorkspace handle lease disposition
    pure (.error outcome)

/-- `prepare_workspace`. -/
def prepareWorkspace (handle : WorkerHandle) (request : WorkspaceRequest) :
    WorkerM (Except ExecutorOutcome WorkspaceLease) := do
  match ← ask (.prepare handle request) with
  | .cancelled => abandonPreparation handle .cancelled .cancelled
  | .elapsed => abandonPreparation handle .timedOut .timedOut
  | .prepared lease => pure (.ok lease)
  | .failed error =>
    pure (.error (.failed (boundedReason s!"Workspace preparation failed: {error}")))
  | .panicked => pure (.error (.failed "Workspace Provider panicked"))

/-- The checks of `validate_workspace_lease` on the root. -/
def validateRoot (path : String) : WorkerM (Except HarnessError Unit) := do
  match ← ask (.symlinkMetadata path) with
  | .error error => pure (.error (.invalidCapability
      s!"Workspace Provider returned an inaccessible root: {error}"))
  | .ok false => pure (.error (.invalidCapability
      "Workspace Provider root must be a real directory"))
  | .ok true => do
    match ← ask (.canonicalize path) with
    | .error error => pure (.error (.invalidCapability
        s!"Workspace Provider root cannot be canonicalized: {error}"))
    | .ok canonical => pure (rejectIf (canonical != path) (.invalidCapability
        "Workspace Provider root must already be canonical"))

/-- The checks of `validate_workspace_lease` on the lease alone. -/
def checkWorkspaceLease (lease : WorkspaceLease) (request : WorkspaceRequest)
    (descriptor : WorkspaceProviderDescriptor) : Except HarnessError Unit := do
  rejectIf (lease.request != request || lease.provider != descriptor.name)
    (.invalidCapability
      "Workspace Provider returned a lease for a different Task attempt or identity")
  rejectIf (descriptor.provisioning == .denied && request.mode != .none)
    (.invalidCapability "denied Workspace Provider returned a filesystem allocation")

/-- `validate_workspace_lease`. -/
def validateWorkspaceLease (lease : WorkspaceLease) (request : WorkspaceRequest)
    (descriptor : WorkspaceProviderDescriptor) : WorkerM (Except HarnessError TaskWorkspace) :=
  match checkWorkspaceLease lease request descriptor, lease.root with
  | .error error, _ => pure (.error error)
  | .ok (), none => pure (.ok lease.executorView)
  | .ok (), some path => do
    let valid ← validateRoot path
    pure (valid.map fun _ => lease.executorView)

/-- `execute_task`. -/
def executeTask (handle : WorkerHandle) (request : TaskExecutionRequest) :
    WorkerM ExecutorOutcome := do
  match ← ask (.execute handle request) with
  | false => pure (.failed "Task executor panicked")
  | true => do
    match ← ask (.awaitExecution handle) with
    | .cancelled => pure .cancelled
    | .elapsed => pure .timedOut
    | .completed completion => pure (.completed completion)
    | .failed error => pure (.failed (boundedReason error))
    | .panicked => pure (.failed "Task executor panicked")

end WorkerM

def ExecutorOutcome.disposition : ExecutorOutcome → WorkspaceDisposition
  | completed _ => .completed
  | failed _ => .failed
  | timedOut => .timedOut
  | cancelled => .cancelled

/-- `merge_workspace_release_failure`. -/
def ExecutorOutcome.mergeWorkspaceReleaseFailure (error : String) :
    ExecutorOutcome → ExecutorOutcome
  | completed _ => .failed (boundedReason s!"Workspace release failed: {error}")
  | failed reason =>
    .failed (boundedReason s!"{reason}; Workspace release also failed: {error}")
  | timedOut => .failed (boundedReason
      s!"Task executor timed out; Workspace release also failed: {error}")
  | cancelled => .cancelled

def ClaimExecution.workspaceRequest (execution : ClaimExecution) : WorkspaceRequest :=
  ⟨execution.graphId, execution.claim.task.id, execution.claim.lease.id,
    execution.claim.lease.attempt, execution.claim.task.workspace⟩

namespace WorkerM

/-- `execute_claim` once the workspace is prepared. -/
def executeIn (handle : WorkerHandle) (execution : ClaimExecution) (lease : WorkspaceLease) :
    WorkerM ExecutorOutcome := do
  match ← validateWorkspaceLease lease execution.workspaceRequest execution.workspaceDescriptor with
  | .error error => do
    let _ ← releaseWorkspace handle lease .failed
    pure (.failed (boundedReason
      s!"Workspace Provider returned an invalid lease: {error.display}"))
  | .ok workspace => do
    let outcome ← executeTask handle ⟨execution.graphId, execution.claim, workspace⟩
    match ← releaseWorkspace handle lease outcome.disposition with
    | .ok () => pure outcome
    | .error error => pure (outcome.mergeWorkspaceReleaseFailure error)

/-- `execute_claim`. -/
def executeClaim (handle : WorkerHandle) (execution : ClaimExecution) :
    WorkerM ExecutorOutcome := do
  match ← prepareWorkspace handle execution.workspaceRequest with
  | .error outcome => pure outcome
  | .ok lease => executeIn handle execution lease

end WorkerM

/-! ## Claiming and settling -/

/-- A conflict is tried again, until the window ends with its error. -/
def orContention {α : Type} (window : HarnessError) :
    Except HarnessError α → Except HarnessError (Except HarnessError α)
  | .ok a => .ok (.ok a)
  | .error (.orchestrationConflict ..) => .ok (.error window)
  | .error error => .error error

namespace Orchestrator

open RunnerM (ask check)

/-- What a worker of `o` executes. -/
def execution (o : Orchestrator) (graphId : TaskGraphId) (claim : TaskClaim) : ClaimExecution :=
  ⟨o.workspaceDescriptor, o.authority, graphId, claim⟩

def loadGraph (o : Orchestrator) (graphId : TaskGraphId) : RunnerM TaskGraphSnapshot := do
  let outcome ← ask (.loadAs graphId o.authority)
  let loaded ← check outcome
  check (orError (graphDoesNotExist graphId) loaded)

def claimContention : HarnessError :=
  .orchestration "Task claim contention exceeded the bounded retry window"

/-- One attempt of `claim_available`. -/
def claimAttempt (o : Orchestrator) (graphId : TaskGraphId) (maximum : Nat)
    (leaseDurationMs : UInt64) : RunnerM (Except HarnessError (List TaskClaim)) := do
  let cancelled ← ask .isCancelled
  check (rejectIf cancelled orchestrationCancelled)
  let snapshot ← loadGraph o graphId
  if snapshot.graph.isTerminal then check (.ok (.ok []))
  else do
    let nowMs ← ask (.nowMs .scheduling)
    let generate ← ask (.generateLeases (snapshot.graph.tasks.toList.map Prod.fst))
    let claimed ← check (snapshot.graph.claimReadyGoverned generate o.worker nowMs leaseDurationMs
      maximum o.executionBinding o.workerCapabilities)
    if claimed.2.2 = false then check (.ok (.ok claimed.2.1))
    else do
      let outcome ← ask (.compareAndSwapAs { snapshot with graph := claimed.1 } o.authority
        (.claiming claimed.2.1))
      check (orContention claimContention (outcome.map fun _ => claimed.2.1))

def claimAvailable (o : Orchestrator) (graphId : TaskGraphId) (maximum : Nat) :
    RunnerM (List TaskClaim) := do
  let leaseDurationMs ← check (durationMillis o.leaseDuration)
  TryTask.retry (o.claimAttempt graphId (min maximum maxOrchestratorConcurrency) leaseDurationMs)
    claimContention maxCasAttempts none

def settlementContention : HarnessError :=
  .orchestration "Task settlement contention exceeded the bounded retry window"

/-- The mutation that settles an outcome; a cancelled one has none. -/
def settlement (graph : TaskGraph) (claim : TaskClaim) (nowMs : UInt64) :
    ExecutorOutcome → Option (Except HarnessError TaskGraph)
  | .completed completion => some (graph.complete claim.task.id claim.lease.id nowMs completion)
  | .failed reason => some (graph.fail claim.task.id claim.lease.id nowMs reason)
  | .timedOut => some (graph.fail claim.task.id claim.lease.id nowMs "Task executor timed out")
  | .cancelled => none

/-- A mutation that is refused becomes a failure of the Task. -/
def orInvalid (graph : TaskGraph) (claim : TaskClaim) (nowMs : UInt64) :
    Except HarnessError TaskGraph → Except HarnessError TaskGraph
  | .ok settled => .ok settled
  | .error error => graph.fail claim.task.id claim.lease.id nowMs
      (boundedReason s!"Task executor returned an invalid completion: {error.display}")

/-- One attempt of `settle`. -/
def settleAttempt (o : Orchestrator) (graphId : TaskGraphId) (claim : TaskClaim)
    (outcome : ExecutorOutcome) : RunnerM (Except HarnessError Unit) := do
  let cancelled ← ask .isCancelled
  check (rejectIf cancelled orchestrationCancelled)
  let snapshot ← loadGraph o graphId
  let nowMs ← ask (.nowMs (.settling claim snapshot))
  if claimIsCurrent snapshot.graph claim nowMs = false then check (.ok (.ok ()))
  else
    match settlement snapshot.graph claim nowMs outcome with
    | none => check (.ok (.ok ()))
    | some mutation => do
      let graph ← check (orInvalid snapshot.graph claim nowMs mutation)
      let saved ← ask (.compareAndSwapAs { snapshot with graph } o.authority (.settling claim))
      check (orContention settlementContention (saved.map fun _ => ()))

def settle (o : Orchestrator) (graphId : TaskGraphId) (claim : TaskClaim)
    (outcome : ExecutorOutcome) : RunnerM Unit :=
  TryTask.retry (o.settleAttempt graphId claim outcome) settlementContention maxCasAttempts none

/-! ## The loop -/

/-- The local state of a run: the claims of its workers, and for each Task the worker whose
cancellation it holds. -/
structure RunState where
  claims : OrdMap Nat TaskClaim
  workerCancellations : OrdMap TaskId Nat

def RunState.empty : RunState := ⟨∅, ∅⟩

def RunState.spawned (state : RunState) (id : Nat) (claim : TaskClaim) : RunState :=
  ⟨state.claims.insert id claim, state.workerCancellations.insert claim.task.id id⟩

def RunState.removed (state : RunState) (id : Nat) (claim : TaskClaim) : RunState :=
  ⟨state.claims.erase id, state.workerCancellations.erase claim.task.id⟩

/-- `cancel` of each of the tokens. -/
def cancelAll : List Nat → RunnerM Unit
  | [] => check (.ok ())
  | id :: rest => do
    ask (.cancelWorker id)
    cancelAll rest

/-- The workers whose claim is not current. -/
def RunState.fenced (state : RunState) (graph : TaskGraph) (nowMs : UInt64) : List Nat :=
  (OrdMap.values state.claims).filterMap fun claim =>
    if claimIsCurrent graph claim nowMs then none else state.workerCancellations[claim.task.id]?

/-- `cancel_fenced_workers`. -/
def cancelFencedWorkers (snapshot : TaskGraphSnapshot) (state : RunState) : RunnerM Unit := do
  let nowMs ← ask (.nowMs (.fencing snapshot))
  cancelAll (state.fenced snapshot.graph nowMs)

/-- `cancel_workers`. -/
def cancelWorkers (state : RunState) : RunnerM Unit := do
  cancelAll (OrdMap.values state.workerCancellations)
  ask .drainWorkers

/-- `spawn_claim` for each of the claims. -/
def spawnClaims (o : Orchestrator) (graphId : TaskGraphId) :
    RunState → List TaskClaim → RunnerM RunState
  | state, [] => check (.ok state)
  | state, claim :: rest => do
    let id ← ask (.spawn (o.execution graphId claim))
    o.spawnClaims graphId (state.spawned id claim) rest

/-- Claim up to the limit and spawn what was claimed. -/
def fill (o : Orchestrator) (graphId : TaskGraphId) (state : RunState) : RunnerM RunState :=
  let available := o.maxConcurrency - state.claims.size
  if 0 < available then do
    let claimed ← o.claimAvailable graphId available
    o.spawnClaims graphId state claimed
  else check (.ok state)

/-- What a round of the loop ends with. -/
inductive Round where
  | returned (snapshot : TaskGraphSnapshot)
  | again (state : RunState)

/-- The workers are cancelled, and so the run. -/
def stop (state : RunState) : RunnerM Round := do
  cancelWorkers state
  check (.error orchestrationCancelled)

/-- A worker was joined. -/
def settleJoined (o : Orchestrator) (graphId : TaskGraphId) (state : RunState) (id : Nat)
    (result : Except JoinError ExecutorOutcome) : RunnerM Round := do
  let claim ← check (orError (.orchestration "Orchestrator lost a worker claim") state.claims[id]?)
  if ExecutorOutcome.ofJoined result = .cancelled then
    check (.ok (.again (state.removed id claim)))
  else do
    o.settle graphId claim (.ofJoined result)
    check (.ok (.again (state.removed id claim)))

/-- Wait for a worker, or to be cancelled, or for the poll interval. -/
def await (o : Orchestrator) (graphId : TaskGraphId) (state : RunState) : RunnerM Round := do
  match ← ask .selectWorker with
  | .cancelled => stop state
  | .joined none => check (.error (.orchestration "Orchestrator lost its active worker set"))
  | .joined (some (id, result)) => o.settleJoined graphId state id result
  | .elapsed => check (.ok (.again state))

/-- Wait for the poll interval when there is no worker. -/
def rest (state : RunState) : RunnerM Round := do
  let cancelled ← ask .poll
  check (rejectIf cancelled orchestrationCancelled)
  check (.ok (.again state))

/-- One round of the loop of `run`. -/
def round (o : Orchestrator) (graphId : TaskGraphId) (state : RunState) : RunnerM Round := do
  let cancelled ← ask .isCancelled
  if cancelled then stop state
  else do
    let snapshot ← o.loadGraph graphId
    cancelFencedWorkers snapshot state
    if snapshot.graph.isTerminal then do
      cancelWorkers state
      check (.ok (.returned snapshot))
    else do
      let state ← o.fill graphId state
      let isEmpty ← ask .workersIsEmpty
      if isEmpty then rest state else o.await graphId state

/-- The loop of `run`, for as many rounds as the process lives: `none` is a run that has not
returned until then. -/
def runRounds (o : Orchestrator) (graphId : TaskGraphId) :
    Nat → RunState → RunnerM (Option TaskGraphSnapshot)
  | 0, _ => check (.ok none)
  | rounds + 1, state => do
    match ← o.round graphId state with
    | .returned snapshot => check (.ok (some snapshot))
    | .again state => o.runRounds graphId rounds state

/-- `Orchestrator::run`. -/
def run (o : Orchestrator) (graphId : TaskGraphId) (rounds : Nat) :
    RunnerM (Option TaskGraphSnapshot) :=
  o.runRounds graphId rounds .empty

end Orchestrator

end YHarness.Orchestration

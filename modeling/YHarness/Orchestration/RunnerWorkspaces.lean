/-
# YHarness.Orchestration.RunnerWorkspaces -- prepared Workspaces are released

A worker that runs to its end has passed each lease it was given to `release` exactly once,
with the disposition of its outcome (`ensures_executeClaim`), and has waited for the Workspace
Provider at most `WORKSPACE_CLEANUP_BUDGET`.

`WorkerPool` is a run with the `JoinSet` of its workers: they make their calls in any order,
and a run that returns drops the workers that have not finished.  A run that returns a snapshot
has drained them.  So every lease is released in a run whose drains end and that does not fail
while a worker is at work (`workspaces_released`); one that fails through `?` drops its workers
wherever they are (`workspace_dropped`).
-/
import YHarness.Orchestration.RunnerTokens

namespace YHarness.Orchestration

open YHarness.Lib YHarness.Kernel

set_option autoImplicit false

def workspacePreparationDrainGraceMs : Nat := 1000
def workspaceReleaseTimeoutMs : Nat := 4000
def workspaceCleanupBudgetMs : Nat := 5000

/-! ## One worker -/

/-- A lease that was passed to `release`. -/
structure WorkspaceRelease where
  lease : WorkspaceLease
  disposition : WorkspaceDisposition
  failed : Bool

/-- What the Workspace Provider gave a worker and got back, and how long the worker may have
waited for it after its execution. -/
structure WorkspaceLog where
  prepared : List WorkspaceLease
  released : List WorkspaceRelease
  waitedMs : Nat

def ReleaseEvent.isFailure : ReleaseEvent → Bool
  | .released => false
  | _ => true

namespace WorkspaceLog

def empty : WorkspaceLog := ⟨[], [], 0⟩

def waited (log : WorkspaceLog) (ms : Nat) : WorkspaceLog :=
  { log with waitedMs := log.waitedMs + ms }

def given (log : WorkspaceLog) (lease : WorkspaceLease) : WorkspaceLog :=
  { log with prepared := log.prepared ++ [lease] }

def returned (log : WorkspaceLog) (release : WorkspaceRelease) : WorkspaceLog :=
  { log with released := log.released ++ [release] }

/-- The log after a call; a wait takes as long as it may. -/
def after (log : WorkspaceLog) : (c : RunnerCall) → RunnerReply c → WorkspaceLog
  | .prepare _ _, .prepared lease => log.given lease
  | .drainPreparation _, some lease => (log.given lease).waited workspacePreparationDrainGraceMs
  | .drainPreparation _, none => log.waited workspacePreparationDrainGraceMs
  | .release _ lease disposition, event =>
    (log.returned ⟨lease, disposition, event.isFailure⟩).waited workspaceReleaseTimeoutMs
  | _, _ => log

/-- A lease is released that was prepared, and once. -/
def Ok (log : WorkspaceLog) : RunnerCall → Prop
  | .release _ lease _ => log.prepared = [lease] ∧ log.released = []
  | _ => True

/-- **What is left at the end**: the one lease that was prepared, if any, was released once,
with the disposition of the outcome; a release that failed makes the outcome a failure. -/
structure Settled (log : WorkspaceLog) (outcome : ExecutorOutcome) : Prop where
  budget : log.waitedMs ≤ workspaceCleanupBudgetMs
  leases : log.prepared = log.released.map WorkspaceRelease.lease
  once : log.released.length ≤ 1
  dispositions : ∀ release ∈ log.released, release.disposition = outcome.disposition ∨
    release.failed = true ∧ outcome.disposition = .failed

end WorkspaceLog

/-- A worker alone with the Workspace Provider and the Task executor, which answer in any
way. -/
def workerSetting : Setting RunnerCall RunnerReply WorkspaceLog where
  exec log c reply log' := log' = log.after c reply
  rely log log' := log' = log

section Worker

variable {log : WorkspaceLog} {handle : WorkerHandle}

theorem ensures_worker {α : Type} {c : RunnerCall} {f : RunnerReply c → WorkerM α}
    {post : α → WorkspaceLog → Prop} (allowed : log.Ok c)
    (next : ∀ reply, Ensures workerSetting WorkspaceLog.Ok post (f reply) (log.after c reply)) :
    Ensures workerSetting WorkspaceLog.Ok post ((WorkerM.ask c).bind f) log := by
  rintro v rfl
  refine ⟨allowed, ?_⟩
  rintro reply u rfl
  exact next reply

/-- The log once a lease was released. -/
def WorkspaceLog.closed (log : WorkspaceLog) (lease : WorkspaceLease)
    (disposition : WorkspaceDisposition) (failed : Bool) : WorkspaceLog :=
  (log.returned ⟨lease, disposition, failed⟩).waited workspaceReleaseTimeoutMs

theorem ensures_releaseWorkspace {lease : WorkspaceLease} (disposition : WorkspaceDisposition)
    (held : log.prepared = [lease]) (unreleased : log.released = []) :
    Ensures workerSetting WorkspaceLog.Ok
      (fun result log' => log' = log.closed lease disposition (!result.isOk))
      (WorkerM.releaseWorkspace handle lease disposition) log := by
  refine ensures_worker ⟨held, unreleased⟩ ?_
  intro event
  cases event <;> rfl

variable {outcome : ExecutorOutcome}

/-- A lease that was released once with this disposition settles the outcome. -/
theorem settled_closed {lease : WorkspaceLease} {disposition : WorkspaceDisposition} {failed : Bool}
    (held : log.prepared = [lease]) (unreleased : log.released = [])
    (waited : log.waitedMs ≤ workspacePreparationDrainGraceMs)
    (same : disposition = outcome.disposition ∨ failed = true ∧ outcome.disposition = .failed) :
    (log.closed lease disposition failed).Settled outcome := by
  refine ⟨?_, ?_, ?_, fun release member => ?_⟩
  · show log.waitedMs + workspaceReleaseTimeoutMs ≤ workspaceCleanupBudgetMs
    unfold workspacePreparationDrainGraceMs at waited
    unfold workspaceReleaseTimeoutMs workspaceCleanupBudgetMs
    omega
  · show log.prepared = (log.released ++ [_]).map _
    rw [held, unreleased]
    rfl
  · show (log.released ++ [_]).length ≤ 1
    rw [unreleased]
    exact Nat.le_refl 1
  · change release ∈ log.released ++ [_] at member
    rw [unreleased, List.nil_append, List.mem_singleton] at member
    rw [member]
    exact same

theorem settled_empty (prepared : log.prepared = []) (released : log.released = [])
    (waited : log.waitedMs ≤ workspacePreparationDrainGraceMs) :
    log.Settled outcome := by
  refine ⟨waited.trans (by decide), ?_, ?_, fun release member => ?_⟩
  · rw [prepared, released]
    rfl
  · rw [released]
    exact Nat.zero_le 1
  · rw [released] at member
    cases member

/-- A preparation that is given up releases a lease that still comes. -/
theorem ensures_abandonPreparation (disposition : WorkspaceDisposition) (outcome : ExecutorOutcome)
    (same : disposition = outcome.disposition) :
    Ensures workerSetting WorkspaceLog.Ok
      (fun result log' => ∃ outcome, result = .error outcome ∧ log'.Settled outcome)
      (WorkerM.abandonPreparation handle disposition outcome) .empty := by
  refine ensures_worker trivial ?_
  rintro (_ | lease)
  · exact ⟨outcome, rfl, settled_empty rfl rfl (Nat.le_refl _)⟩
  · refine Ensures.bind (ensures_releaseWorkspace disposition rfl rfl) ?_
    rintro result _ rfl
    exact ⟨outcome, rfl, settled_closed rfl rfl (Nat.le_refl _) (.inl same)⟩

theorem ensures_prepareWorkspace (request : WorkspaceRequest) :
    Ensures workerSetting WorkspaceLog.Ok
      (fun result log' => match result with
        | .ok lease => log' = ⟨[lease], [], 0⟩
        | .error outcome => log'.Settled outcome)
      (WorkerM.prepareWorkspace handle request) .empty := by
  refine ensures_worker trivial ?_
  rintro (_ | _ | lease | error | _)
  · refine (ensures_abandonPreparation .cancelled .cancelled rfl).mono ?_
    rintro _ _ ⟨outcome, rfl, settled⟩
    exact settled
  · refine (ensures_abandonPreparation .timedOut .timedOut rfl).mono ?_
    rintro _ _ ⟨outcome, rfl, settled⟩
    exact settled
  · exact rfl
  · exact settled_empty rfl rfl (Nat.zero_le _)
  · exact settled_empty rfl rfl (Nat.zero_le _)

theorem ensures_validateWorkspaceLease (lease : WorkspaceLease) (request : WorkspaceRequest)
    (descriptor : WorkspaceProviderDescriptor) :
    Ensures workerSetting WorkspaceLog.Ok (fun _ log' => log' = log)
      (WorkerM.validateWorkspaceLease lease request descriptor) log := by
  unfold WorkerM.validateWorkspaceLease
  split
  · exact rfl
  · exact rfl
  · rename_i path _ _
    have rooted : Ensures workerSetting WorkspaceLog.Ok (fun _ log' => log' = log)
        (WorkerM.validateRoot path) log := by
      refine ensures_worker trivial ?_
      rintro (error | _ | _)
      · exact rfl
      · exact rfl
      · refine ensures_worker trivial ?_
        rintro (error | canonical) <;> exact rfl
    exact Ensures.bind rooted fun _ _ same => same

theorem ensures_executeTask (request : TaskExecutionRequest) :
    Ensures workerSetting WorkspaceLog.Ok (fun _ log' => log' = log)
      (WorkerM.executeTask handle request) log := by
  refine ensures_worker trivial ?_
  rintro (_ | _)
  · exact rfl
  · refine ensures_worker trivial ?_
    rintro (_ | _ | completion | error | _) <;> exact rfl

/-- A failed release makes a failure of every outcome but a cancelled one. -/
theorem disposition_merge (outcome : ExecutorOutcome) (error : String) :
    outcome.disposition = (outcome.mergeWorkspaceReleaseFailure error).disposition ∨
      (outcome.mergeWorkspaceReleaseFailure error).disposition = .failed := by
  cases outcome with
  | cancelled => exact .inl rfl
  | _ => exact .inr rfl

/-- **A worker that runs to its end settles its Workspace.** -/
theorem ensures_executeClaim (execution : ClaimExecution) :
    Ensures workerSetting WorkspaceLog.Ok (fun outcome log' => log'.Settled outcome)
      (WorkerM.executeClaim handle execution) .empty := by
  refine Ensures.bind (ensures_prepareWorkspace execution.workspaceRequest) ?_
  rintro (outcome | lease) log prepared
  · exact prepared
  · obtain rfl : log = ⟨[lease], [], 0⟩ := prepared
    refine Ensures.bind (ensures_validateWorkspaceLease lease _ _) ?_
    rintro (error | workspace) _ rfl
    · refine Ensures.bind (ensures_releaseWorkspace .failed rfl rfl) ?_
      rintro _ _ rfl
      exact settled_closed rfl rfl (Nat.zero_le _) (.inl rfl)
    · refine Ensures.bind (ensures_executeTask _) ?_
      rintro outcome _ rfl
      refine Ensures.bind (ensures_releaseWorkspace outcome.disposition rfl rfl) ?_
      rintro (error | _) _ rfl
      · refine settled_closed rfl rfl (Nat.zero_le _) ?_
        rcases disposition_merge outcome error with same | failed
        · exact .inl same
        · exact .inr ⟨rfl, failed⟩
      · exact settled_closed rfl rfl (Nat.zero_le _) (.inl rfl)

end Worker

/-! ## A run and its workers -/

/-- A spawned Future: what is left of it, what it has done, and whether it was dropped. -/
structure PoolWorker where
  task : WorkerM ExecutorOutcome
  log : WorkspaceLog
  dropped : Bool

/-- The Future was not dropped and has ended. -/
def PoolWorker.Finished (worker : PoolWorker) : Prop :=
  worker.dropped = false ∧ ∃ outcome, worker.task = .done outcome

/-- A Future that has not ended goes without another step. -/
def PoolWorker.drop (worker : PoolWorker) : PoolWorker :=
  match worker.task with
  | .done _ => worker
  | .call _ _ => { worker with dropped := true }

/-- A run, the Futures it spawned, and whether it has returned. -/
structure WorkerPool where
  run : Task RunnerCall RunnerReply (Except HarnessError (Option TaskGraphSnapshot))
  workers : List PoolWorker
  returned : Bool

/-- Calls of a run that have nothing to do with its `JoinSet`. -/
def RunnerCall.isPlain : RunnerCall → Bool
  | .spawn _ | .selectWorker | .drainWorkers => false
  | _ => true

namespace WorkerPool

def start (o : Orchestrator) (graphId : TaskGraphId) (rounds : Nat) : WorkerPool :=
  ⟨(o.run graphId rounds).run, [], false⟩

/-- A step of the run, of one of its workers, or of the `JoinSet`.  Whatever is outside
answers in any way. -/
inductive Step : WorkerPool → WorkerPool → Prop
  | call {c : RunnerCall} {next : RunnerReply c → _} {workers : List PoolWorker}
      (reply : RunnerReply c) (plain : c.isPlain = true) :
      Step ⟨.call c next, workers, false⟩ ⟨next reply, workers, false⟩
  | spawn {execution : ClaimExecution} {next : RunnerReply (.spawn execution) → _}
      {workers : List PoolWorker} :
      Step ⟨.call (.spawn execution) next, workers, false⟩
        ⟨next workers.length, workers ++ [⟨WorkerM.executeClaim ⟨0, workers.length⟩ execution,
          .empty, false⟩], false⟩
  | select {next : RunnerReply .selectWorker → _} {workers : List PoolWorker}
      (event : WorkerEvent) (unjoined : ∀ joined, event ≠ .joined (some joined)) :
      Step ⟨.call .selectWorker next, workers, false⟩ ⟨next event, workers, false⟩
  | joined {next : RunnerReply .selectWorker → _} {workers : List PoolWorker} {id : Nat}
      {outcome : ExecutorOutcome} {log : WorkspaceLog}
      (found : workers[id]? = some ⟨.done outcome, log, false⟩) :
      Step ⟨.call .selectWorker next, workers, false⟩
        ⟨next (.joined (some (id, .ok outcome))), workers, false⟩
  | drained {next : RunnerReply .drainWorkers → _} {workers : List PoolWorker}
      (all : ∀ worker ∈ workers, worker.Finished) :
      Step ⟨.call .drainWorkers next, workers, false⟩ ⟨next (), workers, false⟩
  | worker {pool : WorkerPool} {id : Nat} {c : RunnerCall} {next : RunnerReply c → _}
      {log : WorkspaceLog} (found : pool.workers[id]? = some ⟨.call c next, log, false⟩)
      (reply : RunnerReply c) :
      Step pool { pool with workers := pool.workers.set id ⟨next reply, log.after c reply, false⟩ }
  | returned {snapshot : TaskGraphSnapshot} {workers : List PoolWorker} :
      Step ⟨.done (.ok (some snapshot)), workers, false⟩
        ⟨.done (.ok (some snapshot)), workers.map PoolWorker.drop, true⟩
  | failed {error : HarnessError} {workers : List PoolWorker} :
      Step ⟨.done (.error error), workers, false⟩
        ⟨.done (.error error), workers.map PoolWorker.drop, true⟩

/-- `CANCELLATION_DRAIN_GRACE` is over before the drain is, and `abort_all` is called. -/
inductive GraceElapsed : WorkerPool → WorkerPool → Prop
  | abortAll {next : RunnerReply .drainWorkers → _} {workers : List PoolWorker} :
      GraceElapsed ⟨.call .drainWorkers next, workers, false⟩
        ⟨next (), workers.map PoolWorker.drop, false⟩

/-- Whatever a run and its workers do. -/
def AnyStep (pool pool' : WorkerPool) : Prop :=
  Step pool pool' ∨ GraceElapsed pool pool'

/-- The drains of the run end within their grace, and it does not fail while a worker is at
work. -/
structure WholeStep (pool pool' : WorkerPool) : Prop where
  step : Step pool pool'
  whole : ∀ error, pool.run = .done (.error error) → ∀ worker ∈ pool.workers, worker.Finished

/-- Once the run has returned, every lease that a worker was given was passed to `release`
once, with the disposition of the worker's outcome. -/
def AllReleased (pool : WorkerPool) : Prop :=
  pool.returned = true → ∀ worker ∈ pool.workers, ∃ outcome,
    worker.task = .done outcome ∧ worker.log.Settled outcome

end WorkerPool

/-! ## What a run drains

The state is whether every worker has ended since the last drain. -/

def drainedAfter (drained : Bool) : RunnerCall → Bool
  | .drainWorkers => true
  | .spawn _ => false
  | _ => drained

def drainSetting : Setting RunnerCall RunnerReply Bool where
  exec drained c _ drained' := drained' = drainedAfter drained c
  rely drained drained' := drained' = drained

def AnyCall (_ : Bool) (_ : RunnerCall) : Prop := True

section Drained

variable {drained : Bool}

theorem ensures_anyCall {α : Type} (task : Task RunnerCall RunnerReply α) (drained : Bool) :
    Ensures drainSetting AnyCall (fun _ _ => True) task drained := by
  induction task generalizing drained with
  | done a => trivial
  | call c next ih => exact fun v _ => ⟨trivial, fun reply u _ => ih reply u⟩

/-- A run returns a snapshot after a drain. -/
def RoundDrained (outcome : Except HarnessError Orchestrator.Round) (drained : Bool) : Prop :=
  ∀ snapshot, outcome = .ok (.returned snapshot) → drained = true

def RunDrained (outcome : Except HarnessError (Option TaskGraphSnapshot)) (drained : Bool) : Prop :=
  ∀ snapshot, outcome = .ok (some snapshot) → drained = true

theorem ensures_any {α β : Type} {post : Except HarnessError β → Bool → Prop} {task : RunnerM α}
    {f : α → RunnerM β} (fails : ∀ e drained, post (.error e) drained)
    (rest : ∀ a drained, Ensures drainSetting AnyCall post (f a).run drained) :
    Ensures drainSetting AnyCall post (task >>= f).run drained :=
  Ensures.tryBind (ensures_anyCall task.run drained) (fun e w _ => fails e w) fun a w _ => rest a w

theorem RoundDrained.error (e : HarnessError) (drained : Bool) :
    RoundDrained (.error e) drained := nofun

theorem RoundDrained.again (state : Orchestrator.RunState) (drained : Bool) :
    RoundDrained (.ok (.again state)) drained := nofun

theorem ensures_cancelWorkers_drains (state : Orchestrator.RunState) :
    Ensures drainSetting AnyCall (fun outcome drained => outcome = .ok () → drained = true)
      (Orchestrator.cancelWorkers state).run drained := by
  refine Ensures.tryBind (ensures_anyCall _ drained) (fun e _ _ => nofun) fun _ w _ => ?_
  rintro _ rfl
  refine ⟨trivial, ?_⟩
  rintro _ _ rfl _
  rfl

theorem ensures_round_drained (o : Orchestrator) (graphId : TaskGraphId)
    (state : Orchestrator.RunState) :
    Ensures drainSetting AnyCall RoundDrained (o.round graphId state).run drained := by
  have rested : ∀ state drained,
      Ensures drainSetting AnyCall RoundDrained (Orchestrator.rest state).run drained :=
    fun state _ => ensures_any RoundDrained.error fun _ _ => ensures_any RoundDrained.error
      fun _ drained => Ensures.check (RoundDrained.again state drained)
  have stopped : ∀ state drained,
      Ensures drainSetting AnyCall RoundDrained (Orchestrator.stop state).run drained :=
    fun state _ => ensures_any RoundDrained.error fun _ drained =>
      Ensures.check (RoundDrained.error _ drained)
  have joined : ∀ state id result drained,
      Ensures drainSetting AnyCall RoundDrained (o.settleJoined graphId state id result).run
        drained := by
    intro state id result drained
    refine ensures_any RoundDrained.error fun claim drained => ?_
    split
    · exact Ensures.check (RoundDrained.again _ drained)
    · exact ensures_any RoundDrained.error fun _ drained =>
        Ensures.check (RoundDrained.again _ drained)
  have awaited : ∀ state drained,
      Ensures drainSetting AnyCall RoundDrained (o.await graphId state).run drained := by
    intro state drained
    refine ensures_any RoundDrained.error ?_
    rintro (_ | (_ | ⟨id, result⟩) | _) drained
    · exact stopped state drained
    · exact Ensures.check (RoundDrained.error _ drained)
    · exact joined state id result drained
    · exact Ensures.check (RoundDrained.again state drained)
  refine ensures_any RoundDrained.error fun cancelled drained => ?_
  split
  · exact stopped state drained
  · refine ensures_any RoundDrained.error fun snapshot drained => ?_
    refine ensures_any RoundDrained.error fun _ drained => ?_
    split
    · refine Ensures.tryBind (ensures_cancelWorkers_drains state)
        (fun e w _ => RoundDrained.error e w) fun _ w drains => ?_
      exact Ensures.check fun _ _ => drains rfl
    · refine ensures_any RoundDrained.error fun state drained => ?_
      refine ensures_any RoundDrained.error fun isEmpty drained => ?_
      split
      · exact rested state drained
      · exact awaited state drained

/-- **A run that returns a snapshot has drained its workers.** -/
theorem ensures_runRounds_drained (o : Orchestrator) (graphId : TaskGraphId) (rounds : Nat)
    (state : Orchestrator.RunState) :
    Ensures drainSetting AnyCall RunDrained (o.runRounds graphId rounds state).run drained := by
  induction rounds generalizing state drained with
  | zero => exact Ensures.check fun _ ended => nomatch ended
  | succ rounds ih =>
    refine Ensures.tryBind (ensures_round_drained o graphId state) (fun e _ _ => nofun) ?_
    rintro (snapshot | next) drained ended
    · exact Ensures.check fun _ _ => ended snapshot rfl
    · exact ih next

end Drained

/-! ## Every run -/

namespace WorkerPool

/-- A worker that goes on from where it is settles its Workspace. -/
def Settles (worker : PoolWorker) : Prop :=
  Ensures workerSetting WorkspaceLog.Ok (fun outcome log => log.Settled outcome) worker.task
    worker.log

/-- What every whole step keeps.  `drained` says that no worker was spawned since a drain. -/
structure Inv (pool : WorkerPool) (drained : Bool) : Prop where
  run : pool.returned = false → Ensures drainSetting AnyCall RunDrained pool.run drained
  workers : ∀ worker ∈ pool.workers, Settles worker
  ended : drained = true ∨ pool.returned = true → ∀ worker ∈ pool.workers, worker.Finished

theorem drop_of_finished {workers : List PoolWorker}
    (finished : ∀ worker ∈ workers, worker.Finished) : workers.map PoolWorker.drop = workers := by
  refine (List.map_congr_left fun worker member => ?_).trans (List.map_id workers)
  obtain ⟨_, outcome, ended⟩ := finished worker member
  unfold PoolWorker.drop
  rw [ended]
  rfl

/-- **A whole step keeps the invariant.** -/
theorem Inv.step {pool pool' : WorkerPool} {drained : Bool} (inv : pool.Inv drained)
    (step : WholeStep pool pool') : ∃ drained', pool'.Inv drained' := by
  obtain ⟨step, whole⟩ := step
  cases step with
  | @call c next workers reply plain =>
    refine ⟨drained, fun _ => ?_, inv.workers, inv.ended⟩
    have kept : drainedAfter drained c = drained := by
      cases c <;> first | rfl | cases plain
    exact ((inv.run rfl) drained rfl).2 reply drained kept.symm
  | @spawn execution next workers =>
    refine ⟨false, fun _ => ((inv.run rfl) drained rfl).2 _ false rfl, fun worker member => ?_, ?_⟩
    · rcases List.mem_append.1 member with earlier | last
      · exact inv.workers worker earlier
      · rw [List.mem_singleton.1 last]
        exact ensures_executeClaim execution
    · rintro (drained | returned)
      · cases drained
      · cases returned
  | select event _ =>
    exact ⟨drained, fun _ => ((inv.run rfl) drained rfl).2 event drained rfl, inv.workers,
      inv.ended⟩
  | joined _ =>
    exact ⟨drained, fun _ => ((inv.run rfl) drained rfl).2 _ drained rfl, inv.workers, inv.ended⟩
  | drained all =>
    exact ⟨true, fun _ => ((inv.run rfl) drained rfl).2 () true rfl, inv.workers, fun _ => all⟩
  | @worker pool id c next log found reply =>
    have here := List.mem_of_getElem? found
    refine ⟨drained, inv.run, fun worker member => ?_, fun ended => ?_⟩
    · rcases List.mem_or_eq_of_mem_set member with earlier | rfl
      · exact inv.workers worker earlier
      · obtain ⟨_, rest⟩ := inv.workers _ here log rfl
        exact rest reply _ rfl
    · obtain ⟨_, outcome, done⟩ := inv.ended ended _ here
      cases done
  | @returned snapshot workers =>
    have finished := inv.ended (.inl (inv.run rfl snapshot rfl))
    rw [drop_of_finished finished]
    exact ⟨drained, nofun, inv.workers, fun _ => finished⟩
  | @failed error workers =>
    have finished := whole error rfl
    rw [drop_of_finished finished]
    exact ⟨drained, nofun, inv.workers, fun _ => finished⟩

theorem Inv.start (o : Orchestrator) (graphId : TaskGraphId) (rounds : Nat) :
    (start o graphId rounds).Inv false :=
  ⟨fun _ => ensures_runRounds_drained o graphId rounds .empty, nofun, fun _ => nofun⟩

theorem Inv.allReleased {pool : WorkerPool} {drained : Bool} (inv : pool.Inv drained) :
    pool.AllReleased := by
  intro returned worker member
  obtain ⟨_, outcome, ended⟩ := inv.ended (.inr returned) worker member
  have settles := inv.workers worker member
  unfold Settles at settles
  rw [ended] at settles
  exact ⟨outcome, ended, settles⟩

end WorkerPool

/-- **Prepared Workspaces are released** in every run whose drains end within their grace and
that does not fail while a worker is at work. -/
theorem workspaces_released (o : Orchestrator) (graphId : TaskGraphId) (rounds : Nat)
    {pool : WorkerPool} (reached : Relation.ReflTransGen WorkerPool.WholeStep
      (WorkerPool.start o graphId rounds) pool) : pool.AllReleased := by
  have held : ∃ drained, pool.Inv drained := by
    induction reached with
    | refl => exact ⟨false, WorkerPool.Inv.start o graphId rounds⟩
    | tail _ step ih =>
      obtain ⟨_, inv⟩ := ih
      exact inv.step step
  obtain ⟨_, inv⟩ := held
  exact inv.allReleased

/-! ## A run that fails -/

/-- What the surroundings of a run and its workers answer: that nothing has happened, a
snapshot, that there is none, a time or a lease. -/
inductive PoolAnswer where
  | quiet
  | loaded (snapshot : TaskGraphSnapshot)
  | unavailable
  | time (nowMs : UInt64)
  | lease (leaseId : TaskLeaseId)

namespace PoolAnswer

def reply : PoolAnswer → (c : RunnerCall) → Option (RunnerReply c)
  | .quiet, .isCancelled => some false
  | .loaded snapshot, .loadAs _ _ => some (.ok (some snapshot))
  | .unavailable, .loadAs _ _ => some (.error (.orchestration "coordinator unavailable"))
  | .time nowMs, .nowMs _ => some nowMs
  | .lease leaseId, .generateLeases _ => some fun _ => leaseId
  | .quiet, .compareAndSwapAs snapshot _ _ => some (.ok snapshot)
  | .quiet, .cancelWorker _ => some ()
  | .quiet, .workersIsEmpty => some false
  | .quiet, .prepare _ request => some (.prepared ⟨request, "none", none, "token"⟩)
  | .quiet, .release _ _ _ => some .released
  | _, _ => none

end PoolAnswer

/-- Who goes on: the run, with an answer, a new worker, a branch of its `select!` or a drain
that ends; a worker, with an answer; or the end of a run that fails. -/
inductive PoolMove where
  | run (answer : PoolAnswer)
  | spawn
  | select (cancelled : Bool)
  | drain
  | worker (id : Nat) (answer : PoolAnswer)
  | fail

def PoolWorker.hasFinished (worker : PoolWorker) : Bool :=
  match worker.task with
  | .done _ => !worker.dropped
  | .call _ _ => false

theorem PoolWorker.finished_of_hasFinished {worker : PoolWorker}
    (finished : worker.hasFinished = true) : worker.Finished := by
  unfold hasFinished at finished
  split at finished
  · rename_i outcome ended
    exact ⟨by simpa using finished, outcome, ended⟩
  · cases finished

namespace WorkerPool

/-- A worker goes on. -/
def turn (pool : WorkerPool) (id : Nat) (answer : PoolAnswer) : Option WorkerPool :=
  match pool.workers[id]? with
  | some ⟨.call c next, log, false⟩ => (answer.reply c).map fun reply =>
    { pool with workers := pool.workers.set id ⟨next reply, log.after c reply, false⟩ }
  | _ => none

/-- A move; a whole one does not fail while a worker is at work. -/
def act (whole : Bool) : PoolMove → WorkerPool → Option WorkerPool
  | .run answer, ⟨.call c next, workers, false⟩ =>
    if c.isPlain then (answer.reply c).map fun reply => ⟨next reply, workers, false⟩ else none
  | .spawn, ⟨.call (.spawn execution) next, workers, false⟩ =>
    some ⟨next workers.length, workers ++ [⟨WorkerM.executeClaim ⟨0, workers.length⟩ execution,
      .empty, false⟩], false⟩
  | .select cancelled, ⟨.call .selectWorker next, workers, false⟩ =>
    some ⟨next (if cancelled then .cancelled else .elapsed), workers, false⟩
  | .drain, ⟨.call .drainWorkers next, workers, false⟩ =>
    if workers.all PoolWorker.hasFinished then some ⟨next (), workers, false⟩ else none
  | .worker id answer, ⟨.call c next, workers, returned⟩ =>
    (⟨.call c next, workers, returned⟩ : WorkerPool).turn id answer
  | .fail, ⟨.done (.error error), workers, false⟩ =>
    if !whole || workers.all PoolWorker.hasFinished then
      some ⟨.done (.error error), workers.map PoolWorker.drop, true⟩
    else none
  | _, _ => none

theorem step_of_turn {pool pool' : WorkerPool} {id : Nat} {answer : PoolAnswer}
    (turned : pool.turn id answer = some pool') : Step pool pool' := by
  unfold turn at turned
  split at turned
  · rename_i c next log found
    obtain ⟨reply, _, rfl⟩ := Option.map_eq_some_iff.1 turned
    exact .worker found reply
  · cases turned

/-- A whole move is a whole step. -/
theorem step_of_act {whole : Bool} {move : PoolMove} {pool pool' : WorkerPool}
    (acted : act whole move pool = some pool') :
    Step pool pool' ∧ (whole = true → WholeStep pool pool') := by
  have running : ∀ {c : RunnerCall} {next : RunnerReply c → _} {workers : List PoolWorker}
      {returned : Bool} {pool' : WorkerPool}, Step ⟨.call c next, workers, returned⟩ pool' →
      Step ⟨.call c next, workers, returned⟩ pool' ∧
        (whole = true → WholeStep ⟨.call c next, workers, returned⟩ pool') :=
    fun step => ⟨step, fun _ => ⟨step, nofun⟩⟩
  unfold act at acted
  split at acted
  · split at acted
    · rename_i plain
      obtain ⟨reply, _, rfl⟩ := Option.map_eq_some_iff.1 acted
      exact running (.call reply plain)
    · cases acted
  · obtain rfl := Option.some.inj acted
    exact running .spawn
  · rename_i cancelled _ _
    obtain rfl := Option.some.inj acted
    exact running (.select _ (by cases cancelled <;> nofun))
  · split at acted
    · rename_i all
      obtain rfl := Option.some.inj acted
      exact running (.drained fun worker member =>
        PoolWorker.finished_of_hasFinished (List.all_eq_true.1 all worker member))
    · cases acted
  · exact running (step_of_turn acted)
  · split at acted
    · rename_i error workers allowed
      obtain rfl := Option.some.inj acted
      refine ⟨.failed, fun isWhole => ⟨.failed, fun _ _ worker member => ?_⟩⟩
      rw [isWhole, Bool.not_true, Bool.false_or] at allowed
      exact PoolWorker.finished_of_hasFinished (List.all_eq_true.1 allowed worker member)
    · cases acted
  · cases acted

/-- Whether the run has returned, and for each worker how many leases it was given and
released. -/
def leases (pool : WorkerPool) : Bool × List (Nat × Nat) :=
  (pool.returned, pool.workers.map fun worker =>
    (worker.log.prepared.length, worker.log.released.length))

/-- A Task is claimed and its worker prepares a Workspace. -/
def sampleMoves : List PoolMove :=
  [.run .quiet, .run (.loaded (sampleSnapshot 1 TaskGraph.sampleGraph)), .run (.time 1000),
    .run .quiet, .run (.loaded (sampleSnapshot 1 TaskGraph.sampleGraph)), .run (.time 1000),
    .run (.lease "lease-1"), .run .quiet, .spawn, .run .quiet, .worker 0 .quiet]

/-- The coordinator fails at the next load. -/
def failingMoves : List PoolMove :=
  sampleMoves ++ [.select false, .run .quiet, .run .unavailable, .fail]

/-- The host cancels the run, and the worker releases a lease that it finds invalid. -/
def cancelledMoves : List PoolMove :=
  sampleMoves ++ [.select true, .run .quiet, .worker 0 .quiet, .drain, .fail]

/-- The sample after the given moves. -/
def sampleAfter (whole : Bool) (moves : List PoolMove) : Option WorkerPool :=
  moves.foldlM (fun pool move => act whole move pool) (start sampleOrchestrator "plan" 2)

end WorkerPool

open WorkerPool

/-- Moves make steps, and whole moves make whole ones. -/
theorem steps_of_sampleAfter {whole : Bool} {moves : List PoolMove} {pool : WorkerPool}
    {step : WorkerPool → WorkerPool → Prop}
    (legal : ∀ pool pool', Step pool pool' ∧ (whole = true → WholeStep pool pool') →
      step pool pool')
    (acted : sampleAfter whole moves = some pool) :
    Relation.ReflTransGen step (start sampleOrchestrator "plan" 2) pool := by
  unfold sampleAfter at acted
  exact relied_of_acts (fun _ before after acted => legal before after (step_of_act acted)) acted

/-- **A prepared Workspace is dropped.**  The next load fails while the worker has a lease: the
run returns, and the lease is never passed to `release`. -/
theorem workspace_dropped : ∃ pool, Relation.ReflTransGen AnyStep
    (start sampleOrchestrator "plan" 2) pool ∧ ¬ pool.AllReleased := by
  obtain ⟨pool, acted, counted⟩ := Option.map_eq_some_iff.1
    (show (sampleAfter false failingMoves).map leases = some (true, [(1, 0)]) by decide +kernel)
  refine ⟨pool, steps_of_sampleAfter (fun _ _ steps => .inl steps.1) acted, fun released => ?_⟩
  obtain ⟨returned, counts⟩ := Prod.mk.inj counted
  obtain ⟨worker, member, given⟩ := List.mem_map.1 (counts ▸ List.mem_singleton.2 rfl)
  obtain ⟨outcome, _, settled⟩ := released returned worker member
  have same := congrArg List.length settled.leases
  rw [List.length_map, (Prod.mk.inj given).1, (Prod.mk.inj given).2] at same
  cases same

/-- A run that the host cancels releases the lease of its worker. -/
theorem workspaces_released_sample : ∃ pool, AllReleased pool ∧ pool.leases = (true, [(1, 1)]) := by
  obtain ⟨pool, acted, counted⟩ := Option.map_eq_some_iff.1
    (show (sampleAfter true cancelledMoves).map leases = some (true, [(1, 1)]) by decide +kernel)
  have reached := steps_of_sampleAfter (fun _ _ steps => steps.2 rfl) acted
  exact ⟨pool, workspaces_released sampleOrchestrator "plan" 2 reached, counted⟩

end YHarness.Orchestration

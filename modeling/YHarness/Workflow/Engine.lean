/-
# YHarness.Workflow.Engine -- a Run completes when its Tasks have

`WorkflowEngine` of `src/workflow/engine.rs`: `createAs` and `applyAs` are tasks over
two stores, so other clients act between the Task Graph that is read and the Run that
is committed.  Clients of the Task Coordinator create graphs and swap them in, each
made by domain calls from the snapshot they were handed.

A whole graph that has completed stays so under every domain call (`AllCompleted.after`)
and a Run keeps its link (`apply_link`); hence what `applyAs` has checked still holds
when it commits (`applyAs_safe`), and `completion_backed` follows for every run.
-/
import YHarness.Lib.Interleave
import YHarness.Orchestration.Clients
import YHarness.Orchestration.Fencing
import YHarness.Workflow.Stores

namespace YHarness.Workflow

open YHarness.Lib YHarness.Kernel YHarness.Orchestration

set_option autoImplicit false

/-! ## Graphs -/

/-- `graph.tasks().all(..)`: every Task is Completed. -/
def allCompleted (g : TaskGraph) : Bool :=
  g.tasks.toList.all fun entry => entry.2.status.isCompleted

variable {g : TaskGraph}

theorem allCompleted_iff :
    allCompleted g = true ↔ ∀ (id : TaskId) (record : TaskRecord), g.tasks[id]? = some record →
      record.status.isCompleted = true := by
  rw [allCompleted, List.all_eq_true]
  constructor
  · intro all id record found
    exact all (id, record) (OrdMap.mem_toList.2 found)
  · rintro all ⟨id, record⟩ member
    exact all id record (OrdMap.mem_toList.1 member)

theorem isTerminal_of_isCompleted {status : TaskStatus} (completed : status.isCompleted = true) :
    status.isTerminal = true := by
  cases status with
  | completed => rfl
  | _ => cases completed

/-- A graph that has completed stays as it is: no domain call adds a Task or moves a
settled one. -/
theorem allCompleted_after (kept : g.Kept) (call : DomainCall) (completed : allCompleted g = true) :
    allCompleted (g.after call) = true := by
  rw [allCompleted_iff] at completed ⊢
  intro id next found
  obtain ⟨record, before⟩ := kept.known_before call found
  obtain ⟨next', found', moves⟩ := kept.moves call before
  obtain rfl : next = next' := Option.some.inj (found.symm.trans found')
  have done := completed id record before
  rw [moves.settled (isTerminal_of_isCompleted done)]
  exact done

theorem allCompleted_trace {g last : TaskGraph} {steps : List TaskGraph.Step}
    (trace : TaskGraph.Trace g steps last) (kept : g.Kept) (completed : allCompleted g = true) :
    allCompleted last = true := by
  induction trace with
  | nil => exact completed
  | cons _ ih => exact ih (kept.after _) (allCompleted_after kept _ completed)

theorem kept_of_reachable (reached : TaskGraph.Reachable (fun _ _ => True) g) :
    g.Kept := by
  induction reached with
  | new built => exact (TaskGraph.new_sane built).toKept
  | call _ call _ ih => exact ih.after call

/-! ## The coordinators -/

variable {V : Type}

/-- A Workflow Coordinator: the map of the process, or the table of a database. -/
inductive WorkflowCoordinator (V : Type) where
  | memory (store : MemoryWorkflowCoordinator V)
  | sqlite (store : SqliteWorkflowCoordinator V)

section Paths

variable [SemVer V] [Sha256]

namespace WorkflowCoordinator

def createAs (store : WorkflowCoordinator V) (runId : WorkflowRunId)
    (request : WorkflowCreateRequest V) (appliedAtMs : UInt64) (authority : AuthorityContext) :
    Except HarnessError (WorkflowRunSnapshot V × WorkflowCoordinator V) :=
  match store with
  | memory runs => do
    let (snapshot, next) ← runs.createAs runId request appliedAtMs authority
    .ok (snapshot, memory next)
  | sqlite runs => do
    let (snapshot, next) ← runs.createAs runId request appliedAtMs authority
    .ok (snapshot, sqlite next)

def loadAs (store : WorkflowCoordinator V) (runId : WorkflowRunId)
    (authority : AuthorityContext) : Except HarnessError (Option (WorkflowRunSnapshot V)) :=
  match store with
  | memory runs => runs.loadAs runId authority
  | sqlite runs => runs.loadAs runId authority

def applyAs (store : WorkflowCoordinator V) (runId : WorkflowRunId) (expectedRevision : UInt64)
    (command : WorkflowCommand V) (appliedAtMs : UInt64) (authority : AuthorityContext) :
    Except HarnessError (WorkflowCommandResult V × WorkflowCoordinator V) :=
  match store with
  | memory runs => do
    let (result, next) ← runs.applyAs runId expectedRevision command appliedAtMs authority
    .ok (result, memory next)
  | sqlite runs => do
    let (result, next) ← runs.applyAs runId expectedRevision command appliedAtMs authority
    .ok (result, sqlite next)

/-- The store holds exactly these Runs. -/
def Holds (store : WorkflowCoordinator V) (held : StoreKey → Option (WorkflowRunSnapshot V)) :
    Prop :=
  (∀ key snapshot, held key = some snapshot → snapshot.Sound key) ∧
    match store with
    | memory runs => runs.Shows held
    | sqlite runs => runs.Shows held

variable {store next : WorkflowCoordinator V} {held : StoreKey → Option (WorkflowRunSnapshot V)}
  {runId : WorkflowRunId} {authority : AuthorityContext}

theorem memory_empty_holds : (memory .empty : WorkflowCoordinator V).Holds fun _ => none :=
  ⟨nofun, fun key => OrdMap.get?_empty key⟩

theorem sqlite_empty_holds : (sqlite .empty : WorkflowCoordinator V).Holds fun _ => none :=
  ⟨nofun, fun key => OrdMap.get?_empty key⟩

/-- What a successful call of the aggregates leaves is sound. -/
theorem sound_of_call (sound : ∀ key snapshot, held key = some snapshot → snapshot.Sound key)
    {c : WorkflowCall V} {answer : WorkflowAnswer V} {held' : StoreKey → Option (WorkflowRunSnapshot V)}
    (called : workflowAggregates.call Aggregates.anyTime held c = .ok (answer, held')) :
    ∀ key snapshot, held' key = some snapshot → snapshot.Sound key := by
  have kept := (workflowLaws.step Aggregates.anyTime sound c).1
  rw [attempt, called] at kept
  exact kept

theorem createAs_holds (holds : store.Holds held) {request : WorkflowCreateRequest V}
    {appliedAtMs : UInt64} {snapshot : WorkflowRunSnapshot V}
    (created : store.createAs runId request appliedAtMs authority = .ok (snapshot, next)) :
    ∃ held', workflowAggregates.call Aggregates.anyTime held
        (.create runId request appliedAtMs authority) = .ok (.created snapshot, held') ∧
      next.Holds held' := by
  obtain ⟨sound, shows⟩ := holds
  cases store with
  | memory runs =>
    obtain ⟨⟨_, last⟩, stored, created⟩ := bind_eq_ok.1 created
    cases created
    obtain ⟨⟨_, held'⟩, called, rfl, shown⟩ := (shows.createAs request).of_right stored
    exact ⟨held', called, sound_of_call sound called, shown⟩
  | sqlite runs =>
    obtain ⟨⟨_, last⟩, stored, created⟩ := bind_eq_ok.1 created
    cases created
    obtain ⟨⟨_, held'⟩, called, rfl, shown⟩ := (shows.createAs sound request).of_right stored
    exact ⟨held', called, sound_of_call sound called, shown⟩

theorem loadAs_holds (holds : store.Holds held) {reply : Option (WorkflowRunSnapshot V)}
    (loaded : store.loadAs runId authority = .ok reply) :
    reply = held (storageKey runId authority.tenantId) := by
  obtain ⟨sound, shows⟩ := holds
  have answered : ∃ left, workflowAggregates.call Aggregates.anyTime held (.load runId authority) =
      .ok left ∧ left.1 = .loaded reply ∧ left.2 = held := by
    cases store with
    | memory runs => exact shows.loadAs.of_right loaded
    | sqlite runs => exact (shows.loadAs sound).of_right loaded
  obtain ⟨_, called, same, _⟩ := answered
  replace called := rest_ok called
  cases called
  exact (LedgerAnswer.loaded.inj same).symm

theorem applyAs_holds (holds : store.Holds held) {expectedRevision : UInt64}
    {command : WorkflowCommand V} {appliedAtMs : UInt64} {result : WorkflowCommandResult V}
    (applied : store.applyAs runId expectedRevision command appliedAtMs authority =
      .ok (result, next)) :
    ∃ answer held', workflowAggregates.call Aggregates.anyTime held
        (.apply runId expectedRevision command appliedAtMs authority) = .ok (answer, held') ∧
      next.Holds held' := by
  obtain ⟨sound, shows⟩ := holds
  cases store with
  | memory runs =>
    obtain ⟨⟨_, last⟩, stored, applied⟩ := bind_eq_ok.1 applied
    cases applied
    obtain ⟨⟨answer, held'⟩, called, _, shown⟩ :=
      (shows.applyAs expectedRevision command).of_right stored
    exact ⟨answer, held', called, sound_of_call sound called, shown⟩
  | sqlite runs =>
    obtain ⟨⟨_, last⟩, stored, applied⟩ := bind_eq_ok.1 applied
    cases applied
    obtain ⟨⟨answer, held'⟩, called, _, shown⟩ :=
      (shows.applyAs sound expectedRevision command).of_right stored
    exact ⟨answer, held', called, sound_of_call sound called, shown⟩

/-- A store holds one family of Runs. -/
theorem Holds.unique {other : StoreKey → Option (WorkflowRunSnapshot V)} (holds : store.Holds held)
    (again : store.Holds other) : held = other := by
  obtain ⟨sound, shows⟩ := holds
  obtain ⟨sound', shows'⟩ := again
  funext key
  cases store with
  | memory runs => exact (shows key).symm.trans (shows' key)
  | sqlite runs =>
    have same : (held key).map WorkflowRunSnapshot.row = (other key).map WorkflowRunSnapshot.row :=
      (shows key).symm.trans (shows' key)
    cases found : held key with
    | none =>
      rw [found, Option.map_none, eq_comm, Option.map_eq_none_iff] at same
      exact same.symm
    | some run =>
      rw [found, Option.map_some, eq_comm, Option.map_eq_some_iff] at same
      obtain ⟨run', found', row⟩ := same
      -- both rows read back, from the same columns
      have first := sound key run found
      have second := sound' key run' found'
      rw [← first.key] at second
      have read := first.key ▸ first
      have reads := read.read first.tenant
      rw [← row, second.read first.tenant] at reads
      rw [found', Except.ok.inj reads]

end WorkflowCoordinator

/-! ## Runs and their links -/

omit [Sha256] in
/-- A transition to Completed records a completion. -/
theorem Moves.completed {waits : List WorkflowWaitId} {signals : List WorkflowSignalId}
    {now : UInt64} {p p' : WorkflowProjection V} {kind : WorkflowTransitionKind V}
    {summary : String} (moves : Moves waits signals now p kind p')
    (done : p'.status = .completed summary) : kind = .completed summary := by
  cases moves with
  | complete =>
    cases done
    rfl
  | _ => cases done

/-- What a later snapshot of a Run keeps. -/
structure RunLater (earlier later : WorkflowRunSnapshot V) : Prop where
  tenantId : later.tenantId = earlier.tenantId
  link : later.run.taskGraphId = earlier.run.taskGraphId
  completed : ∀ summary, earlier.run.status = .completed summary →
    later.run.status = .completed summary
  wrote : ∀ command, earlier.run.Wrote command → later.run.Wrote command

theorem RunLater.refl (snapshot : WorkflowRunSnapshot V) : RunLater snapshot snapshot :=
  ⟨rfl, rfl, fun _ done => done, fun _ wrote => wrote⟩

theorem RunLater.trans {first second third : WorkflowRunSnapshot V}
    (earlier : RunLater first second) (later : RunLater second third) : RunLater first third where
  tenantId := later.tenantId.trans earlier.tenantId
  link := later.link.trans earlier.link
  completed summary done := later.completed summary (earlier.completed summary done)
  wrote command wrote := later.wrote command (earlier.wrote command wrote)

variable {authority : AuthorityContext}

theorem status_new {request : WorkflowCreateRequest V} {appliedAtMs : UInt64} {run : WorkflowRun V}
    (created : WorkflowRun.new request appliedAtMs authority = .ok run) :
    run.status = .running := by
  iterate 3 replace created := rest_ok created
  obtain ⟨_, _, created⟩ := bind_eq_ok.1 created
  replace created := rest_ok created
  obtain ⟨_, _, created⟩ := bind_eq_ok.1 created
  cases created
  rfl

/-- A new command keeps the link of a Run, and only a completion completes it. -/
theorem advance_later {runId : WorkflowRunId} {key : StoreKey}
    {snapshot next : WorkflowRunSnapshot V} (sound : snapshot.Sound key)
    {command : WorkflowCommand V} {appliedAtMs : UInt64} {duplicate : Bool}
    (unseen : snapshot.run.recognizesCommand command = .ok false)
    (advanced : workflowAggregates.advance runId snapshot command appliedAtMs authority =
      .ok (next, duplicate)) :
    RunLater snapshot next ∧ ∀ summary, next.run.status = .completed summary →
      command.kind = .complete summary := by
  obtain ⟨⟨run, outcome⟩, accepted, advanced⟩ := bind_eq_ok.1 advanced
  obtain ⟨revision, _, advanced⟩ := bind_eq_ok.1 advanced
  cases advanced
  have replays := sound.stored.reachable.replays
  obtain ⟨rfl, _, t, longer, _⟩ := WorkflowRun.apply_extends replays unseen accepted
  obtain ⟨kind, p, size, admits, _, rfl⟩ := (WorkflowRun.apply_eq_applied replays).1 accepted
  have live : snapshot.run.status.isTerminal = false := admits.moves.live
  refine ⟨⟨rfl, admits.moves.taskGraphId, fun summary done => ?_, fun other wrote => ?_⟩,
    fun summary done => ?_⟩
  · rw [done] at live
    cases live
  · exact @(workflowLaws (V := V)).wroteLater _ _ _ t other authority sound longer wrote
  · have completes := admits.moves.completed done
    have recorded := admits.recorded
    rw [completes] at recorded
    exact (Option.some.inj recorded).symm

section Calls

variable {held held' : StoreKey → Option (WorkflowRunSnapshot V)} {runId : WorkflowRunId}
  {authority : AuthorityContext} {answer : WorkflowAnswer V}

/-- A creation leaves the Runs, or adds one that runs. -/
theorem create_call {request : WorkflowCreateRequest V} {appliedAtMs : UInt64}
    (called : workflowAggregates.call Aggregates.anyTime held
      (.create runId request appliedAtMs authority) = .ok (answer, held')) :
    held' = held ∨ held (storageKey runId authority.tenantId) = none ∧
      ∃ snapshot : WorkflowRunSnapshot V, snapshot.run.status = .running ∧
        held' = Function.update held (storageKey runId authority.tenantId) (some snapshot) := by
  replace called := rest_ok called
  rw [workflowAggregates_key] at called
  cases found : held (storageKey runId authority.tenantId) with
  | some existing =>
    rw [found] at called
    obtain ⟨same, _, called⟩ := bind_eq_ok.1 called
    cases same with
    | false => cases called
    | true =>
      cases called
      exact .inl rfl
  | none =>
    rw [found] at called
    obtain ⟨snapshot, started, called⟩ := bind_eq_ok.1 called
    replace called := rest_ok called
    cases called
    obtain ⟨run, created, started⟩ := bind_eq_ok.1 started
    cases started
    exact .inr ⟨rfl, _, status_new created, rfl⟩

/-- A command leaves the Runs, or moves one that had not seen it. -/
theorem apply_call (sound : ∀ key snapshot, held key = some snapshot → snapshot.Sound key)
    {expectedRevision : UInt64} {command : WorkflowCommand V} {appliedAtMs : UInt64}
    (called : workflowAggregates.call Aggregates.anyTime held
      (.apply runId expectedRevision command appliedAtMs authority) = .ok (answer, held')) :
    ∃ current, held (storageKey runId authority.tenantId) = some current ∧
      (held' = held ∨ ¬ current.run.Wrote command ∧ ∃ next : WorkflowRunSnapshot V,
        held' = Function.update held (storageKey runId authority.tenantId) (some next) ∧
        RunLater current next ∧ ∀ summary, next.run.status = .completed summary →
          command.kind = .complete summary) := by
  replace called := rest_ok (rest_ok called)
  obtain ⟨current, found, called⟩ := bind_eq_ok.1 called
  obtain ⟨recognized, recognizes, called⟩ := bind_eq_ok.1 called
  rw [orError_eq_ok] at found
  refine ⟨current, found, ?_⟩
  cases recognized with
  | true =>
    cases called
    exact .inl rfl
  | false =>
    replace called := rest_ok called
    obtain ⟨⟨next, duplicate⟩, advanced, called⟩ := bind_eq_ok.1 called
    cases called
    obtain ⟨later, completes⟩ := advance_later (sound _ _ found) recognizes advanced
    refine .inr ⟨fun wrote => ?_, next, rfl, later, completes⟩
    have known := WorkflowRun.recognizes_of_wrote
      (sound _ _ found).stored.reachable.replays.distinct wrote
    exact absurd (known.symm.trans recognizes) nofun

end Calls

/-! ## The engine over its two stores -/

section Engine

variable {Client : Type}

variable (V Client) in
/-- The calls on the two stores; the last is a call of a client of the Task
Coordinator. -/
inductive WorkflowEngineCall where
  | loadGraph (graphId : TaskGraphId) (authority : AuthorityContext)
  | createRun (runId : WorkflowRunId) (request : WorkflowCreateRequest V) (appliedAtMs : UInt64)
      (authority : AuthorityContext)
  | loadRun (runId : WorkflowRunId) (authority : AuthorityContext)
  | applyRun (runId : WorkflowRunId) (expectedRevision : UInt64) (command : WorkflowCommand V)
      (appliedAtMs : UInt64) (authority : AuthorityContext)
  | tasks (client : Client) (request : TaskCall) (authority : AuthorityContext) (arrives : Bool)

def WorkflowEngineCall.Reply : WorkflowEngineCall V Client → Type
  | loadGraph .. => Except HarnessError (Option TaskGraphSnapshot)
  | createRun .. => Except HarnessError (WorkflowRunSnapshot V)
  | loadRun .. => Except HarnessError (Option (WorkflowRunSnapshot V))
  | applyRun .. => Except HarnessError (WorkflowCommandResult V)
  | tasks .. => Unit

variable (V Client) in
abbrev WorkflowEngineM (α : Type) : Type :=
  TryTask (WorkflowEngineCall V Client) WorkflowEngineCall.Reply HarnessError α

def WorkflowCommandKind.isComplete : WorkflowCommandKind V → Bool
  | complete _ => true
  | _ => false

namespace WorkflowEngine

/-! A call that is answered by an error ends its task. -/

def loadGraph (graphId : TaskGraphId) (authority : AuthorityContext) :
    WorkflowEngineM V Client (Option TaskGraphSnapshot) :=
  ExceptT.mk (Task.request (WorkflowEngineCall.loadGraph graphId authority))

def createRun (runId : WorkflowRunId) (request : WorkflowCreateRequest V) (appliedAtMs : UInt64)
    (authority : AuthorityContext) : WorkflowEngineM V Client (WorkflowRunSnapshot V) :=
  ExceptT.mk (Task.request (WorkflowEngineCall.createRun runId request appliedAtMs authority))

def loadRun (runId : WorkflowRunId) (authority : AuthorityContext) :
    WorkflowEngineM V Client (Option (WorkflowRunSnapshot V)) :=
  ExceptT.mk (Task.request (WorkflowEngineCall.loadRun runId authority))

def applyRun (runId : WorkflowRunId) (expectedRevision : UInt64) (command : WorkflowCommand V)
    (appliedAtMs : UInt64) (authority : AuthorityContext) :
    WorkflowEngineM V Client (WorkflowCommandResult V) :=
  ExceptT.mk (Task.request
    (WorkflowEngineCall.applyRun runId expectedRevision command appliedAtMs authority))

/-- `WorkflowEngine::create_as`. -/
def createAs (runId : WorkflowRunId) (request : WorkflowCreateRequest V) (appliedAtMs : UInt64)
    (authority : AuthorityContext) : WorkflowEngineM V Client (WorkflowRunSnapshot V) := do
  let graph ← loadGraph request.taskGraphId authority
  TryTask.check (rejectIf graph.isNone (.workflow
    s!"Workflow Task Graph {request.taskGraphId} does not exist in the authority boundary"))
  createRun runId request appliedAtMs authority

/-- `WorkflowEngine::apply_as`. -/
def applyAs (runId : WorkflowRunId) (expectedRevision : UInt64)
    (command : WorkflowCommand V) (appliedAtMs : UInt64) (authority : AuthorityContext) :
    WorkflowEngineM V Client (WorkflowCommandResult V) :=
  if command.kind.isComplete then do
    let found ← loadRun runId authority
    let run ← TryTask.check (orError (missingRun runId) found)
    let recognized ← TryTask.check (run.run.recognizesCommand command)
    if recognized then applyRun runId expectedRevision command appliedAtMs authority
    else do
      let found ← loadGraph run.run.taskGraphId authority
      let graph ← TryTask.check (orError (.workflow
        s!"Workflow Task Graph {run.run.taskGraphId} is no longer available") found)
      TryTask.check (rejectIf (!allCompleted graph.graph)
        (.workflow "Workflow cannot complete before every linked Task completes"))
      applyRun runId expectedRevision command appliedAtMs authority
  else applyRun runId expectedRevision command appliedAtMs authority

end WorkflowEngine

variable (V Client) in
structure EngineWorld where
  runs : WorkflowCoordinator V
  tasks : TaskWorld Client

/-- What a client asks of the Task Coordinator: its graphs are made by the methods of
Task Graphs, a new one from a construction and the others from the snapshot that is
replaced. -/
def DomainMade (client : Client) (events : List (TaskEvent Client)) : TaskCall → Prop
  | .create _ graph => TaskGraph.Reachable (fun _ _ => True) graph
  | .load _ => True
  | .swap snapshot => ∃ observed steps, .handed client observed ∈ events ∧
      snapshot = { observed with graph := snapshot.graph } ∧
      TaskGraph.Trace observed.graph steps snapshot.graph

namespace EngineWorld

/-- The reply and the world after a call that writes Runs; one that fails writes none. -/
def Writes {α : Type} (w : EngineWorld V Client)
    (outcome : Except HarnessError (α × WorkflowCoordinator V)) (reply : Except HarnessError α)
    (w' : EngineWorld V Client) : Prop :=
  match outcome with
  | .ok (answer, next) => reply = .ok answer ∧ w' = { w with runs := next }
  | .error error => reply = .error error ∧ w' = w

/-- One call on one of the stores. -/
def exec (w : EngineWorld V Client) :
    (c : WorkflowEngineCall V Client) → c.Reply → EngineWorld V Client → Prop
  | .loadGraph graphId authority, reply, w' =>
    reply = w.tasks.store.loadAs graphId authority ∧ w' = w
  | .createRun runId request appliedAtMs authority, reply, w' =>
    w.Writes (w.runs.createAs runId request appliedAtMs authority) reply w'
  | .loadRun runId authority, reply, w' => reply = w.runs.loadAs runId authority ∧ w' = w
  | .applyRun runId expectedRevision command appliedAtMs authority, reply, w' =>
    w.Writes (w.runs.applyAs runId expectedRevision command appliedAtMs authority) reply w'
  | .tasks client request authority arrives, _, w' =>
    DomainMade client w.tasks.events request ∧
      w' = { w with tasks := w.tasks.after client authority request arrives }

/-- Anyone may start a call of the engine or of the Task Coordinator. -/
inductive Spawns :
    EngineWorld V Client → Task (WorkflowEngineCall V Client) WorkflowEngineCall.Reply Unit →
      EngineWorld V Client → Prop
  | create {w : EngineWorld V Client} (runId : WorkflowRunId) (request : WorkflowCreateRequest V)
      (appliedAtMs : UInt64) (authority : AuthorityContext) :
      Spawns w (WorkflowEngine.createAs runId request appliedAtMs authority).start w
  | apply {w : EngineWorld V Client} (runId : WorkflowRunId) (expectedRevision : UInt64)
      (command : WorkflowCommand V) (appliedAtMs : UInt64) (authority : AuthorityContext) :
      Spawns w (WorkflowEngine.applyAs runId expectedRevision command appliedAtMs authority).start w
  | tasks {w : EngineWorld V Client} (client : Client) (request : TaskCall)
      (authority : AuthorityContext) (arrives : Bool) :
      Spawns w (Task.request (WorkflowEngineCall.tasks client request authority arrives)) w

/-- Two empty stores, each of either kind. -/
structure Empty (w : EngineWorld V Client) : Prop where
  runs : w.runs = .memory .empty ∨ w.runs = .sqlite .empty
  tasks : w.tasks = ⟨.memory ∅, []⟩ ∨ w.tasks = ⟨.sqlite ∅, []⟩

/-! ## What every run keeps -/

/-- The linked Task Graph of a Run is held and has completed. -/
def Backed (graphs : StoreKey → Option TaskGraphSnapshot) (run : WorkflowRunSnapshot V) : Prop :=
  ∃ graph, graphs (storageKey run.run.taskGraphId run.tenantId) = some graph ∧
    allCompleted graph.graph = true

/-- Every completed Run is backed, and the held graphs are as domain calls leave them. -/
structure Consistent (w : EngineWorld V Client)
    (held : StoreKey → Option (WorkflowRunSnapshot V)) : Prop where
  runs : w.runs.Holds held
  tasks : w.tasks.Consistent
  kept : ∀ key graph, heldAfter w.tasks.events key = some graph → graph.graph.Kept
  backed : ∀ key run, held key = some run → ∀ summary, run.run.status = .completed summary →
    Backed (heldAfter w.tasks.events) run

/-- Graphs that have completed are still held, completed. -/
def Settles (graphs graphs' : StoreKey → Option TaskGraphSnapshot) : Prop :=
  ∀ key graph, graphs key = some graph → allCompleted graph.graph = true →
    ∃ graph', graphs' key = some graph' ∧ allCompleted graph'.graph = true

def RunsLater (held held' : StoreKey → Option (WorkflowRunSnapshot V)) : Prop :=
  ∀ key run, held key = some run → ∃ run', held' key = some run' ∧ RunLater run run'

/-- How the stores change between two calls of the engine. -/
structure Grows (w w' : EngineWorld V Client) : Prop where
  runs : ∀ held, w.runs.Holds held → ∃ held', w'.runs.Holds held' ∧ RunsLater held held'
  graphs : Settles (heldAfter w.tasks.events) (heldAfter w'.tasks.events)

/-- A completion is committed only to a Run that has seen it, or is backed. -/
def Permits (w : EngineWorld V Client) : WorkflowEngineCall V Client → Prop
  | .applyRun runId _ command _ authority => command.kind.isComplete = true →
      ∀ held run, w.runs.Holds held → held (storageKey runId authority.tenantId) = some run →
        run.run.Wrote command ∨ Backed (heldAfter w.tasks.events) run
  | _ => True

def rules : Rules (WorkflowEngineCall V Client) WorkflowEngineCall.Reply (EngineWorld V Client) :=
  ⟨exec, fun w => ∃ held, w.Consistent held, Grows, Permits⟩

variable {held : StoreKey → Option (WorkflowRunSnapshot V)}
  {graphs : StoreKey → Option TaskGraphSnapshot} {next : WorkflowCoordinator V}

theorem RunLater.backed {run run' : WorkflowRunSnapshot V} (later : RunLater run run')
    (backed : Backed graphs run) :
    Backed graphs run' := by
  obtain ⟨graph, found, completed⟩ := backed
  refine ⟨graph, ?_, completed⟩
  rw [later.link, later.tenantId]
  exact found

omit [SemVer V] [Sha256] in
theorem Settles.backed {graphs graphs' : StoreKey → Option TaskGraphSnapshot}
    (settles : Settles graphs graphs') {run : WorkflowRunSnapshot V} (backed : Backed graphs run) :
    Backed graphs' run := by
  obtain ⟨graph, found, completed⟩ := backed
  exact settles _ graph found completed

omit [Sha256] in
theorem Settles.refl (graphs : StoreKey → Option TaskGraphSnapshot) : Settles graphs graphs :=
  fun _ graph found completed => ⟨graph, found, completed⟩

theorem RunsLater.refl (held : StoreKey → Option (WorkflowRunSnapshot V)) : RunsLater held held :=
  fun _ run found => ⟨run, found, .refl run⟩

omit [Sha256] in
/-- A swap of a held graph for one that domain calls made of it. -/
theorem Settles.update {key : StoreKey} {saved : TaskGraphSnapshot}
    (replaces : ∀ observed, graphs key = some observed →
      allCompleted observed.graph = true → allCompleted saved.graph = true) :
    Settles graphs (Function.update graphs key (some saved)) := by
  intro k graph found completed
  by_cases here : k = key
  · subst here
    exact ⟨saved, Function.update_self .., replaces graph found completed⟩
  · exact ⟨graph, by rw [Function.update_of_ne here, found], completed⟩

/-- A call of a client of the Task Coordinator keeps what has completed. -/
theorem Consistent.tasksCall {w : EngineWorld V Client} (consistent : w.Consistent held)
    {client : Client} {request : TaskCall} {authority : AuthorityContext} {arrives : Bool}
    (made : DomainMade client w.tasks.events request) :
    (∀ key graph, heldAfter (w.tasks.after client authority request arrives).events key =
        some graph → graph.graph.Kept) ∧
      (w.tasks.after client authority request arrives).Consistent ∧
      Settles (heldAfter w.tasks.events)
        (heldAfter (w.tasks.after client authority request arrives).events) := by
  have submits : Submits client w.tasks.events request := by
    cases request with
    | swap snapshot =>
      obtain ⟨observed, _, handed, submitted, _⟩ := made
      exact ⟨observed, handed, submitted⟩
    | _ => exact trivial
  refine and_left_comm.1 ⟨consistent.tasks.after submits, ?_⟩
  have unchanged : ∀ graphs, graphs = heldAfter w.tasks.events →
      (∀ key graph, graphs key = some graph → graph.graph.Kept) ∧
        Settles (heldAfter w.tasks.events) graphs := by
    rintro _ rfl
    exact ⟨consistent.kept, .refl _⟩
  have replaced : ∀ (saved : TaskGraphSnapshot), saved.graph.Kept →
      (∀ observed, heldAfter w.tasks.events saved.key = some observed →
        allCompleted observed.graph = true → allCompleted saved.graph = true) →
      ∀ graphs, graphs = Function.update (heldAfter w.tasks.events) saved.key (some saved) →
        (∀ key graph, graphs key = some graph → graph.graph.Kept) ∧
          Settles (heldAfter w.tasks.events) graphs := by
    rintro saved isKept keeps _ rfl
    exact ⟨forall_update consistent.kept isKept, .update keeps⟩
  unfold TaskWorld.after TaskCoordinator.call
  cases request with
  | load graphId =>
    dsimp only
    cases w.tasks.store.loadAs graphId authority with
    | error error =>
      refine unchanged _ ?_
      dsimp only [callEvents]
      rw [List.append_nil]
    | ok reply =>
      cases reply with
      | none =>
        refine unchanged _ ?_
        dsimp only [callEvents]
        rw [List.append_nil]
      | some snapshot => exact unchanged _ (TaskWorld.heldAfter_hand ..)
  | create graphId graph =>
    dsimp only
    cases created : w.tasks.store.createAs graphId graph authority with
    | error error =>
      refine unchanged _ ?_
      dsimp only [callEvents]
      rw [List.append_nil]
    | ok result =>
      obtain ⟨snapshot, next⟩ := result
      obtain ⟨same, fresh, _⟩ := TaskCoordinator.createAs_holds consistent.tasks.holds created
      have isKept : snapshot.graph.Kept := by
        rw [same]
        exact kept_of_reachable made
      refine replaced snapshot isKept (fun observed found => ?_) _
        (TaskWorld.heldAfter_callEvents _ _ rfl ..)
      rw [fresh] at found
      cases found
  | swap snapshot =>
    dsimp only
    cases swapped : w.tasks.store.compareAndSwapAs snapshot authority with
    | error error =>
      refine unchanged _ ?_
      dsimp only [callEvents]
      rw [List.append_nil]
    | ok result =>
      obtain ⟨saved, next⟩ := result
      obtain ⟨observed, steps, handed, submitted, trace⟩ := made
      obtain ⟨found, same, _, _⟩ := consistent.tasks.replaces handed submitted swapped
      have isKept := consistent.kept _ _ found
      have graph : saved.graph = snapshot.graph := by rw [same]
      rw [← graph] at trace
      refine replaced saved (trace.kept isKept) (fun other found' completed => ?_) _
        (TaskWorld.heldAfter_callEvents _ _ rfl ..)
      obtain rfl : observed = other := Option.some.inj (found.symm.trans found')
      exact allCompleted_trace trace isKept completed

theorem RunsLater.update {key : StoreKey} {next : WorkflowRunSnapshot V}
    (replaces : ∀ current, held key = some current → RunLater current next) :
    RunsLater held (Function.update held key (some next)) := by
  intro k run found
  by_cases here : k = key
  · subst here
    exact ⟨next, Function.update_self .., replaces run found⟩
  · exact ⟨run, by rw [Function.update_of_ne here, found], .refl run⟩

theorem Grows.refl (w : EngineWorld V Client) : Grows w w :=
  ⟨fun held holds => ⟨held, holds, .refl held⟩, .refl _⟩

theorem Grows.trans {first second third : EngineWorld V Client} (earlier : Grows first second)
    (later : Grows second third) : Grows first third where
  runs held holds := by
    obtain ⟨middle, holds', kept⟩ := earlier.runs held holds
    obtain ⟨last, holds'', kept'⟩ := later.runs middle holds'
    refine ⟨last, holds'', fun key run found => ?_⟩
    obtain ⟨run', found', after⟩ := kept key run found
    obtain ⟨run'', found'', after'⟩ := kept' key run' found'
    exact ⟨run'', found'', after.trans after'⟩
  graphs key graph found completed := by
    obtain ⟨graph', found', completed'⟩ := earlier.graphs key graph found completed
    exact later.graphs key graph' found' completed'

variable {w : EngineWorld V Client} {held : StoreKey → Option (WorkflowRunSnapshot V)}

/-- Runs are written over: they keep what they have, and are backed. -/
theorem Consistent.writes (consistent : w.Consistent held)
    {held' : StoreKey → Option (WorkflowRunSnapshot V)} (holds : next.Holds held')
    (later : RunsLater held held')
    (backed : ∀ key run, held' key = some run → ∀ summary, run.run.status = .completed summary →
      Backed (heldAfter w.tasks.events) run) :
    (∃ held', Consistent { w with runs := next } held') ∧ Grows w { w with runs := next } := by
  refine ⟨⟨held', holds, consistent.tasks, consistent.kept, backed⟩, fun other same => ?_, .refl _⟩
  obtain rfl := same.unique consistent.runs
  exact ⟨held', holds, later⟩

/-- A call that leaves the Runs. -/
theorem Consistent.rewrites (consistent : w.Consistent held) (holds : next.Holds held) :
    (∃ held', Consistent { w with runs := next } held') ∧ Grows w { w with runs := next } :=
  consistent.writes holds (.refl held) consistent.backed

theorem Consistent.stays (consistent : w.Consistent held) :
    (∃ held', Consistent w held') ∧ Grows w w :=
  ⟨⟨held, consistent⟩, .refl w⟩

theorem Consistent.created (consistent : w.Consistent held) {runId : WorkflowRunId}
    {request : WorkflowCreateRequest V} {appliedAtMs : UInt64} {authority : AuthorityContext}
    {snapshot : WorkflowRunSnapshot V} {next : WorkflowCoordinator V}
    (created : w.runs.createAs runId request appliedAtMs authority = .ok (snapshot, next)) :
    (∃ held', Consistent { w with runs := next } held') ∧ Grows w { w with runs := next } := by
  obtain ⟨held', called, holds⟩ := WorkflowCoordinator.createAs_holds consistent.runs created
  rcases create_call called with rfl | ⟨fresh, added, running, rfl⟩
  · exact consistent.rewrites holds
  · refine consistent.writes holds (.update fun current found => ?_)
      (forall_update consistent.backed fun summary done => ?_)
    · rw [fresh] at found
      cases found
    · rw [running] at done
      cases done

theorem Consistent.applied (consistent : w.Consistent held) {runId : WorkflowRunId}
    {expectedRevision : UInt64} {command : WorkflowCommand V} {appliedAtMs : UInt64}
    {authority : AuthorityContext} {result : WorkflowCommandResult V}
    {next : WorkflowCoordinator V}
    (permits : Permits w (.applyRun runId expectedRevision command appliedAtMs authority))
    (applied : w.runs.applyAs runId expectedRevision command appliedAtMs authority =
      .ok (result, next)) :
    (∃ held', Consistent { w with runs := next } held') ∧ Grows w { w with runs := next } := by
  obtain ⟨answer, held', called, holds⟩ :=
    WorkflowCoordinator.applyAs_holds consistent.runs applied
  obtain ⟨current, found, changes⟩ := apply_call consistent.runs.1 called
  rcases changes with rfl | ⟨unseen, moved, rfl, later, completes⟩
  · exact consistent.rewrites holds
  · refine consistent.writes holds (.update fun other found' => ?_)
      (forall_update consistent.backed fun summary done => ?_)
    · obtain rfl := Option.some.inj (found.symm.trans found')
      exact later
    · have completion : command.kind.isComplete = true := by
        rw [completes summary done]
        rfl
      have checked := permits completion held current consistent.runs found
      exact RunLater.backed later (checked.resolve_left unseen)

/-- **The rules are kept** by every call they permit. -/
theorem rules_sound :
    Rules.Sound (rules : Rules (WorkflowEngineCall V Client) _ (EngineWorld V Client)) where
  refl := .refl
  trans := .trans
  step := by
    intro w c reply w' consistent permits executes
    obtain ⟨held, consistent⟩ := consistent
    cases c with
    | loadGraph graphId authority | loadRun runId authority =>
      obtain ⟨_, rfl⟩ := executes
      exact consistent.stays
    | tasks client request authority arrives =>
      obtain ⟨made, rfl⟩ := executes
      obtain ⟨isKept, tasks, settles⟩ := consistent.tasksCall made
      refine ⟨⟨held, consistent.runs, tasks, isKept, fun key run found summary done => ?_⟩,
        fun other holds => ⟨other, holds, .refl other⟩, settles⟩
      exact settles.backed (consistent.backed key run found summary done)
    | createRun runId request appliedAtMs authority =>
      unfold rules exec Writes at executes
      dsimp only at executes
      split at executes
      · rename_i created
        obtain ⟨_, rfl⟩ := executes
        exact consistent.created created
      · obtain ⟨_, rfl⟩ := executes
        exact consistent.stays
    | applyRun runId expectedRevision command appliedAtMs authority =>
      unfold rules exec Writes at executes
      dsimp only at executes
      split at executes
      · rename_i applied
        obtain ⟨_, rfl⟩ := executes
        exact consistent.applied permits applied
      · obtain ⟨_, rfl⟩ := executes
        exact consistent.stays

/-! ## The calls of the engine -/

/-- A caller has loaded this Run, which may have moved on. -/
def Loaded (w : EngineWorld V Client) (runId : WorkflowRunId) (authority : AuthorityContext)
    (run : WorkflowRunSnapshot V) : Prop :=
  run.tenantId = authority.tenantId ∧ ∃ held current, w.runs.Holds held ∧
    held (storageKey runId authority.tenantId) = some current ∧ RunLater run current

/-- The Run under a key has seen the command, or is backed. -/
def Checked (w : EngineWorld V Client) (runId : WorkflowRunId) (authority : AuthorityContext)
    (command : WorkflowCommand V) : Prop :=
  ∃ held current, w.runs.Holds held ∧
    held (storageKey runId authority.tenantId) = some current ∧
    (current.run.Wrote command ∨ Backed (heldAfter w.tasks.events) current)

variable {w' : EngineWorld V Client} {runId : WorkflowRunId} {authority : AuthorityContext}
  {command : WorkflowCommand V} {run : WorkflowRunSnapshot V}

theorem Loaded.later (loaded : Loaded w runId authority run) (grows : Grows w w') :
    Loaded w' runId authority run := by
  obtain ⟨own, held, current, holds, found, later⟩ := loaded
  obtain ⟨held', holds', kept⟩ := grows.runs held holds
  obtain ⟨current', found', after⟩ := kept _ current found
  exact ⟨own, held', current', holds', found', later.trans after⟩

theorem Checked.later (checked : Checked w runId authority command) (grows : Grows w w') :
    Checked w' runId authority command := by
  obtain ⟨held, current, holds, found, seen⟩ := checked
  obtain ⟨held', holds', kept⟩ := grows.runs held holds
  obtain ⟨current', found', after⟩ := kept _ current found
  refine ⟨held', current', holds', found', ?_⟩
  rcases seen with wrote | backed
  · exact .inl (after.wrote command wrote)
  · exact .inr (RunLater.backed after (grows.graphs.backed backed))

theorem Loaded.checked (loaded : Loaded w runId authority run)
    (seen : run.run.Wrote command ∨ Backed (heldAfter w.tasks.events) run) :
    Checked w runId authority command := by
  obtain ⟨_, held, current, holds, found, later⟩ := loaded
  refine ⟨held, current, holds, found, ?_⟩
  rcases seen with wrote | backed
  · exact .inl (later.wrote command wrote)
  · exact .inr (RunLater.backed later backed)

theorem Checked.permits (checked : Checked w runId authority command)
    (expectedRevision appliedAtMs : UInt64) :
    Permits w (.applyRun runId expectedRevision command appliedAtMs authority) := by
  obtain ⟨held, current, holds, found, seen⟩ := checked
  intro _ other run same found'
  obtain rfl := same.unique holds
  obtain rfl := Option.some.inj (found.symm.trans found')
  exact seen

/-- What a load of a Run hands out. -/
theorem loaded_of_loadAs (consistent : w.Consistent held)
    (loaded : w.runs.loadAs runId authority = .ok (some run)) : Loaded w runId authority run := by
  have found := (WorkflowCoordinator.loadAs_holds consistent.runs loaded).symm
  have tenant : validateTenant authority.tenantId = .ok () := by
    cases runs : w.runs with
    | memory store | sqlite store =>
      rw [runs] at loaded
      exact validateRunAccess_eq_ok (seq_eq_ok.1 loaded).1
  have named := (consistent.runs.1 _ _ found).named tenant
  exact ⟨named.2, held, run, consistent.runs, found, .refl run⟩

variable (w) in
theorem safe_loadRun : Safe rules
    (fun u outcome => ∀ run, outcome = .ok (some run) → Loaded u runId authority run)
    (WorkflowEngine.loadRun runId authority : WorkflowEngineM V Client _).run w := by
  rintro u _ ⟨held, consistent⟩
  refine ⟨trivial, fun reply v executes => ?_⟩
  obtain ⟨rfl, rfl⟩ := executes
  intro x grows _ run loaded
  exact (loaded_of_loadAs consistent loaded).later grows

variable (w) in
/-- The graph that is loaded for a Run is its own. -/
theorem safe_loadGraph (own : run.tenantId = authority.tenantId) : Safe rules
    (fun u outcome => ∀ graph, outcome = .ok (some graph) → allCompleted graph.graph = true →
      Backed (heldAfter u.tasks.events) run)
    (WorkflowEngine.loadGraph run.run.taskGraphId authority : WorkflowEngineM V Client _).run w := by
  rintro u _ ⟨held, consistent⟩
  refine ⟨trivial, fun reply v executes => ?_⟩
  obtain ⟨rfl, rfl⟩ := executes
  intro x grows _ graph loaded completed
  have found := (TaskCoordinator.loadAs_holds consistent.tasks.holds loaded).symm
  rw [← own] at found
  exact grows.graphs.backed ⟨graph, found, completed⟩

variable (w) in
/-- A command that is permitted whenever it is committed. -/
theorem safe_applyRun {expectedRevision appliedAtMs : UInt64}
    (permits : ∀ u, Grows w u →
      Permits u (.applyRun runId expectedRevision command appliedAtMs authority)) :
    Safe rules (fun _ _ => True) (WorkflowEngine.applyRun runId expectedRevision command
      appliedAtMs authority : WorkflowEngineM V Client _).run w :=
  fun u reaches _ => ⟨permits u reaches, fun _ _ _ _ _ _ => trivial⟩

/-- A command that has been checked. -/
theorem Checked.safe (checked : Checked w runId authority command)
    (expectedRevision appliedAtMs : UInt64) :
    Safe rules (fun _ _ => True) (WorkflowEngine.applyRun runId expectedRevision command
      appliedAtMs authority : WorkflowEngineM V Client _).run w :=
  safe_applyRun w fun _ grows => (checked.later grows).permits expectedRevision appliedAtMs

variable (w) in
theorem createAs_safe (consistent : ∃ held, w.Consistent held) (request : WorkflowCreateRequest V)
    (appliedAtMs : UInt64) :
    Safe rules (fun _ _ => True) (WorkflowEngine.createAs runId request appliedAtMs authority :
      WorkflowEngineM V Client _).run w := by
  have reads : Safe rules (fun _ _ => True) (WorkflowEngine.loadGraph request.taskGraphId authority :
      WorkflowEngineM V Client _).run w :=
    fun _ _ _ => ⟨trivial, fun _ _ _ _ _ _ => trivial⟩
  refine Safe.tryBind rules_sound consistent reads (fun _ _ _ _ _ => trivial) ?_
  intro u graph _ _ _
  refine Safe.checkBind (fun _ _ _ _ _ => trivial) fun _ _ => ?_
  exact fun _ _ _ => ⟨trivial, fun _ _ _ _ _ _ => trivial⟩

variable (w) in
/-- **Completion is checked**: when `applyAs` commits a completion, the Run has seen it
or its Task Graph has completed, whatever the others did since it was read. -/
theorem applyAs_safe (consistent : ∃ held, w.Consistent held) (expectedRevision : UInt64)
    (command : WorkflowCommand V) (appliedAtMs : UInt64) :
    Safe rules (fun _ _ => True) (WorkflowEngine.applyAs runId expectedRevision command
      appliedAtMs authority : WorkflowEngineM V Client _).run w := by
  unfold WorkflowEngine.applyAs
  by_cases completes : command.kind.isComplete = true
  · rw [if_pos completes]
    refine Safe.tryBind rules_sound consistent (safe_loadRun w) (fun _ _ _ _ _ => trivial) ?_
    intro u reply _ holds known
    refine Safe.checkBind (fun _ _ _ _ _ => trivial) fun run found => ?_
    rw [orError_eq_ok] at found
    subst found
    have loaded : Loaded u runId authority run := known u (.refl u) holds run rfl
    refine Safe.checkBind (fun _ _ _ _ _ => trivial) fun recognized recognizes => ?_
    cases recognized with
    | true =>
      have wrote := WorkflowRun.wrote_of_recognizes recognizes
      exact (loaded.checked (.inl wrote)).safe expectedRevision appliedAtMs
    | false =>
      refine Safe.tryBind rules_sound holds (safe_loadGraph u loaded.1)
        (fun _ _ _ _ _ => trivial) ?_
      intro v reply grows holds' known'
      refine Safe.checkBind (fun _ _ _ _ _ => trivial) fun graph found => ?_
      rw [orError_eq_ok] at found
      subst found
      refine Safe.checkBind (fun _ _ _ _ _ => trivial) fun _ checked => ?_
      rw [rejectIf_eq_ok, Bool.not_eq_false'] at checked
      have backed := known' v (.refl v) holds' graph rfl checked
      exact ((loaded.later grows).checked (.inr backed)).safe expectedRevision appliedAtMs
  · rw [if_neg completes]
    exact safe_applyRun w fun _ _ complete => absurd complete completes

theorem rules_admit :
    (rules : Rules (WorkflowEngineCall V Client) _ (EngineWorld V Client)).Admits Spawns := by
  intro w task w' consistent spawned
  cases spawned with
  | create runId request appliedAtMs authority =>
    refine ⟨consistent, .refl w, ?_⟩
    exact Safe.start rules_sound consistent (createAs_safe w consistent request appliedAtMs)
  | apply runId expectedRevision command appliedAtMs authority =>
    refine ⟨consistent, .refl w, ?_⟩
    exact Safe.start rules_sound consistent
      (applyAs_safe w consistent expectedRevision command appliedAtMs)
  | tasks client request authority arrives =>
    refine ⟨consistent, .refl w, ?_⟩
    exact fun _ _ _ => ⟨trivial, fun _ _ _ _ _ _ => trivial⟩

theorem Empty.consistent (empty : w.Empty) : ∃ held, w.Consistent held := by
  obtain ⟨runs, tasks⟩ := empty
  have nothing : heldAfter w.tasks.events = fun _ => none := by
    rcases tasks with same | same <;> rw [same] <;> rfl
  refine ⟨fun _ => none, ?_, ?_, ?_, nofun⟩
  · rcases runs with same | same <;> rw [same]
    · exact WorkflowCoordinator.memory_empty_holds
    · exact WorkflowCoordinator.sqlite_empty_holds
  · rcases tasks with same | same <;> rw [same]
    · exact TaskWorld.Reachable.memory.consistent
    · exact TaskWorld.Reachable.sqlite.consistent
  · intro key graph found
    rw [nothing] at found
    cases found

/-- The worlds and calls under way that a run leads to. -/
def Reaches (initial : EngineWorld V Client) :
    Pool (WorkflowEngineCall V Client) WorkflowEngineCall.Reply (EngineWorld V Client) → Prop :=
  Pool.Reachable exec Spawns initial

/-- **Completion is backed by Tasks.**  In every run of calls of the engine and of the
clients of the Task Coordinator, a Run that is Completed stays so, with the link it has,
and the linked Task Graph, of the same tenant, is there and is what loads hand out, with
every Task Completed: now and after any calls to come. -/
theorem completion_backed {initial : EngineWorld V Client} (empty : initial.Empty)
    {p : Pool (WorkflowEngineCall V Client) WorkflowEngineCall.Reply (EngineWorld V Client)}
    (reached : Reaches initial p) :
    ∃ held, p.world.runs.Holds held ∧ ∀ key run summary, held key = some run →
      run.run.status = .completed summary →
      ∀ p', Relation.ReflTransGen (Pool.Step exec Spawns) p p' →
        (∃ held', p'.world.runs.Holds held' ∧ ∃ run', held' key = some run' ∧
          run'.run.status = .completed summary ∧ run'.tenantId = run.tenantId ∧
          run'.run.taskGraphId = run.run.taskGraphId) ∧
        ∃ graph, heldAfter p'.world.tasks.events (storageKey run.run.taskGraphId run.tenantId) =
            some graph ∧ graph.id = run.run.taskGraphId ∧ graph.tenantId = run.tenantId ∧
          (∀ (authority : AuthorityContext) reply, authority.tenantId = run.tenantId →
            p'.world.tasks.store.loadAs run.run.taskGraphId authority = .ok reply →
              reply = some graph) ∧
          ∀ (id : TaskId) (record : TaskRecord), graph.graph.tasks[id]? = some record →
            record.status.isCompleted = true := by
  have begins : (rules : Rules _ _ (EngineWorld V Client)).inv initial := empty.consistent
  obtain ⟨⟨held, consistent⟩, _⟩ := Pool.Reachable.safe rules_sound rules_admit begins reached
  refine ⟨held, consistent.runs, fun key run summary found done p' later => ?_⟩
  obtain ⟨grows, reached'⟩ :=
    Pool.Reachable.grows rules_sound rules_admit begins reached later
  obtain ⟨⟨_, consistent'⟩, _⟩ := Pool.Reachable.safe rules_sound rules_admit begins reached'
  constructor
  · obtain ⟨held', holds', kept⟩ := grows.runs held consistent.runs
    obtain ⟨run', found', after⟩ := kept key run found
    exact ⟨held', holds', run', found', after.completed summary done, after.tenantId, after.link⟩
  · obtain ⟨graph, there, completed⟩ :=
      grows.graphs.backed (consistent.backed key run found summary done)
    have sound := consistent'.tasks.holds.1 _ _ there
    have named := sound.key
    rw [TaskGraphSnapshot.key, storageKey, storageKey, StoreKey.mk.injEq] at named
    have tenant := (consistent.runs.1 _ _ found).tenant
    refine ⟨graph, there, named.2, tenantStorageKey_injective sound.tenant tenant named.1,
      fun authority reply same loaded => ?_, allCompleted_iff.1 completed⟩
    rw [TaskCoordinator.loadAs_holds consistent'.tasks.holds loaded, same]
    exact there

end EngineWorld

end Engine

end Paths

namespace EngineWorld

section Sample

attribute [local instance] constantSha256

open TaskGraph WorkflowRun

/-- Both Tasks have completed. -/
def sampleDone : TaskGraph :=
  (sampleCompleted.after (.claimReady (fun _ => "lease-3") "worker-2" 300 100 2)).after
    (.complete "test" "lease-3" 310 ⟨"tested", []⟩)

theorem sampleDone_reachable : TaskGraph.Reachable (fun _ _ => True) sampleDone := by
  have claimed : TaskGraph.Reachable (fun _ _ => True) sampleReclaimed :=
    .call (.call (.new sampleGraph_built) _ trivial) _ trivial
  exact .call (.call (.call (.call claimed _ trivial) _ trivial) _ trivial) _ trivial

def sampleTasks : TaskWorld Unit :=
  (⟨.memory ∅, []⟩ : TaskWorld Unit).after () .localProcess (.create "graph" sampleDone) true

example : sampleDone.tasks.size = 2 := by decide +kernel

theorem sampleTasks_loaded :
    ∃ graph, sampleTasks.store.loadAs "graph" .localProcess = .ok (some graph) ∧
      allCompleted graph.graph = true := by
  have checked : ((sampleTasks.store.loadAs "graph" .localProcess).toOption.bind fun found =>
      found.map fun graph => allCompleted graph.graph) = some true := by decide +kernel
  obtain ⟨found, loaded, checked⟩ := Option.bind_eq_some_iff.1 checked
  obtain ⟨graph, rfl, completed⟩ := Option.map_eq_some_iff.1 checked
  exact ⟨graph, toOption_eq_some.1 loaded, completed⟩

def sampleCreated : WorkflowRunSnapshot ReleaseVersion × WorkflowCoordinator ReleaseVersion :=
  (WorkflowCoordinator.createAs (.memory .empty) "run" sampleRequest 10 .localProcess).toOption.getD
    (⟨"run", none, 0, sampleRun⟩, .memory .empty)

theorem sampleCreated_created :
    WorkflowCoordinator.createAs (.memory .empty) "run" sampleRequest 10 .localProcess =
      .ok sampleCreated :=
  eq_ok_getD _ (by decide +kernel)

def sampleCommand : WorkflowCommand ReleaseVersion :=
  ⟨"complete", .complete "all done"⟩

def sampleApplied :
    WorkflowCommandResult ReleaseVersion × WorkflowCoordinator ReleaseVersion :=
  (sampleCreated.2.applyAs "run" 1 sampleCommand 400 .localProcess).toOption.getD
    (⟨sampleCreated.1, .duplicate⟩, sampleCreated.2)

theorem sampleApplied_applied :
    sampleCreated.2.applyAs "run" 1 sampleCommand 400 .localProcess = .ok sampleApplied :=
  eq_ok_getD _ (by decide +kernel)

theorem sampleRun_loaded :
    sampleCreated.2.loadAs "run" .localProcess = .ok (some sampleCreated.1) ∧
      sampleCreated.1.run.taskGraphId = "graph" ∧
      sampleCreated.1.run.recognizesCommand sampleCommand = .ok false := by
  decide +kernel

def sampleEmpty : EngineWorld ReleaseVersion Unit :=
  ⟨.memory .empty, ⟨.memory ∅, []⟩⟩

def sampleStart : EngineWorld ReleaseVersion Unit :=
  ⟨.memory .empty, sampleTasks⟩

theorem sampleCreate_runs :
    Task.Runs exec (WorkflowEngine.createAs "run" sampleRequest 10 .localProcess).start
      sampleStart () ⟨sampleCreated.2, sampleTasks⟩ := by
  obtain ⟨graph, loaded, _⟩ := sampleTasks_loaded
  refine @Task.Runs.call _ _ _ _ exec (.loadGraph "graph" .localProcess) _ sampleStart sampleStart _
    (.ok (some graph)) _ ⟨loaded.symm, rfl⟩ ?_
  refine @Task.Runs.call _ _ _ _ exec (.createRun "run" sampleRequest 10 .localProcess) _ sampleStart
    ⟨sampleCreated.2, sampleTasks⟩ _ (.ok sampleCreated.1) _ ?_ (.done () _)
  unfold exec Writes sampleStart
  dsimp only
  rw [sampleCreated_created]
  exact ⟨rfl, rfl⟩

theorem sampleApply_runs :
    Task.Runs exec (WorkflowEngine.applyAs "run" 1 sampleCommand 400 .localProcess).start
      (⟨sampleCreated.2, sampleTasks⟩ : EngineWorld ReleaseVersion Unit) ()
      ⟨sampleApplied.2, sampleTasks⟩ := by
  obtain ⟨graph, loaded, completed⟩ := sampleTasks_loaded
  obtain ⟨found, linked, unseen⟩ := sampleRun_loaded
  rw [← linked] at loaded
  have commits : exec (⟨sampleCreated.2, sampleTasks⟩ : EngineWorld ReleaseVersion Unit)
      (.applyRun "run" 1 sampleCommand 400 .localProcess) (.ok sampleApplied.1)
      ⟨sampleApplied.2, sampleTasks⟩ := by
    unfold exec Writes
    dsimp only
    rw [sampleApplied_applied]
    exact ⟨rfl, rfl⟩
  refine Task.runs_bind.2 ⟨.ok sampleApplied.1, ⟨sampleApplied.2, sampleTasks⟩, ?_, .done () _⟩
  have completes : sampleCommand.kind.isComplete = true := rfl
  rw [WorkflowEngine.applyAs, if_pos completes]
  refine TryTask.runs_bind.2 (.inl ⟨some sampleCreated.1, ⟨sampleCreated.2, sampleTasks⟩, ?_, ?_⟩)
  · exact @Task.Runs.call _ _ _ _ exec (.loadRun "run" .localProcess) _ _ _ _
      (.ok (some sampleCreated.1)) _ ⟨found.symm, rfl⟩ (.done _ _)
  refine TryTask.runs_bind.2 (.inl ⟨sampleCreated.1, _, .done _ _, ?_⟩)
  refine TryTask.runs_bind.2 (.inl ⟨false, ⟨sampleCreated.2, sampleTasks⟩, ?_, ?_⟩)
  · rw [unseen]
    exact .done _ _
  refine TryTask.runs_bind.2 (.inl ⟨some graph, ⟨sampleCreated.2, sampleTasks⟩, ?_, ?_⟩)
  · exact @Task.Runs.call _ _ _ _ exec (.loadGraph _ .localProcess) _ _ _ _
      (.ok (some graph)) _ ⟨loaded.symm, rfl⟩ (.done _ _)
  refine TryTask.runs_bind.2 (.inl ⟨graph, _, .done _ _, ?_⟩)
  refine TryTask.runs_bind.2 (.inl ⟨(), ⟨sampleCreated.2, sampleTasks⟩, ?_, ?_⟩)
  · rw [completed]
    exact .done _ _
  exact @Task.Runs.call _ _ _ _ exec (.applyRun "run" 1 sampleCommand 400 .localProcess) _ _ _ _
    (.ok sampleApplied.1) _ commits (.done _ _)

/-- A client puts the graph in, and the engine creates a Run for it and completes it. -/
theorem sampleEngine_reaches :
    ∃ p, Reaches sampleEmpty p ∧ p.world = ⟨sampleApplied.2, sampleTasks⟩ := by
  have put : Task.Runs exec (Task.request (WorkflowEngineCall.tasks ()
      (.create "graph" sampleDone) .localProcess true)) sampleEmpty () sampleStart :=
    @Task.Runs.call _ _ _ _ exec (.tasks () (.create "graph" sampleDone) .localProcess true) _
      sampleEmpty sampleStart _ () _ ⟨sampleDone_reachable, rfl⟩ (.done () _)
  have first : Reaches sampleEmpty ⟨sampleEmpty, []⟩ := .start
  have second := first.alone (.tasks () (.create "graph" sampleDone) .localProcess true) put
  have third := second.alone (.create "run" sampleRequest 10 .localProcess) sampleCreate_runs
  have fourth := third.alone (.apply "run" 1 sampleCommand 400 .localProcess) sampleApply_runs
  exact ⟨_, fourth, rfl⟩

theorem completion_backed_sample :
    ∃ p, Reaches sampleEmpty p ∧
      (∃ run, p.world.runs.loadAs "run" .localProcess = .ok (some run) ∧
        run.run.status = .completed "all done") ∧
      ∃ graph, heldAfter p.world.tasks.events (storageKey "graph" none) = some graph ∧
        ∀ (id : TaskId) (record : TaskRecord), graph.graph.tasks[id]? = some record →
          record.status.isCompleted = true := by
  obtain ⟨p, reached, same⟩ := sampleEngine_reaches
  have stored : sampleApplied.2.loadAs "run" .localProcess = .ok (some sampleApplied.1.snapshot) ∧
      sampleApplied.1.snapshot.run.status = .completed "all done" ∧
      sampleApplied.1.snapshot.run.taskGraphId = "graph" ∧
      sampleApplied.1.snapshot.tenantId = none := by decide +kernel
  obtain ⟨loaded, done, linked, tenant⟩ := stored
  refine ⟨p, reached, ⟨_, by rw [same]; exact loaded, done⟩, ?_⟩
  obtain ⟨held, holds, backed⟩ := completion_backed ⟨.inl rfl, .inl rfl⟩ reached
  have found := WorkflowCoordinator.loadAs_holds holds (by rw [same]; exact loaded)
  obtain ⟨_, graph, there, _, _, _, completed⟩ := backed _ _ _ found.symm done p .refl
  rw [linked, tenant] at there
  exact ⟨graph, there, completed⟩

end Sample

end EngineWorld

end YHarness.Workflow
